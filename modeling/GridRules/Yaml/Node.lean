import GridRules.Yaml.Tag
import GridRules.Yaml.Token

/-!
# Nodes of YAML

The tokens of a text form a tree of scalars, sequences and mappings, all with tags. A node with an
anchor may be used again by its name, even inside itself. A text holds at most one document.
-/

namespace GridRules.Yaml

/-- A node. Where a collection is used inside itself, only its tag is kept. -/
inductive Node where
  | scalar (tag : Tag) (text : String)
  | sequence (tag : Tag) (items : List Node)
  | mapping (tag : Tag) (entries : List (Node × Node))
  | again (tag : Tag)
deriving Repr, Inhabited

namespace Node

/-- The tag of a node. -/
def tag : Node → Tag
  | .scalar tag _ | .sequence tag _ | .mapping tag _ | .again tag => tag

/-- The node where nothing is written. -/
def empty : Node :=
  .scalar .null ""

/-- The tokens to come, the nodes with anchors so far, and the meanings of the tag handles. -/
structure State where
  tokens : List Token
  anchored : List (String × Node) := []
  handles : List (String × String) := [("!", "!"), ("!!", "tag:yaml.org,2002:")]

/-- What a tag handle stands for. -/
def State.meaning? (state : State) (handle : String) : Option String :=
  (state.handles.find? fun entry => entry.1 == handle).map fun entry => entry.2

/-- The node with an anchor. -/
def State.node? (state : State) (name : String) : Option Node :=
  (state.anchored.find? fun entry => entry.1 == name).map fun entry => entry.2

/-- A reader of nodes, which fails on a malformed text. -/
def Reader (α : Type) : Type :=
  State → Option (α × State)

instance : Monad Reader where
  pure a := fun state => some (a, state)
  bind reader next := fun state => (reader state).bind fun taken => next taken.1 taken.2

/-- The reader that fails. -/
def malformed {α : Type} : Reader α :=
  fun _ => none

/-- What is at hand. -/
def state : Reader State :=
  fun state => some (state, state)

/-- Goes on with something else at hand. -/
def change (f : State → State) : Reader Unit :=
  fun state => some ((), f state)

/-- The token at the front. -/
def peek : Reader (Option Token) := do
  return (← state).tokens.head?

/-- Takes the token at the front. -/
def skip : Reader Unit :=
  change fun state => { state with tokens := state.tokens.drop 1 }

/-- Takes the token at the front if it is the given one. -/
def accept (token : Token) : Reader Bool := do
  if (← peek) == some token then
    skip
    return true
  else
    return false

/-- Whether the token at the front is one of the given ones. -/
def atAny (tokens : List Token) : Reader Bool := do
  match ← peek with
  | some token => return tokens.contains token
  | none => return false

/-- Takes the token at the front, which has to be the given one. -/
def require (token : Token) : Reader Unit := do
  if !(← accept token) then
    malformed

/-- The anchor and the tag in front of a node. -/
structure Properties where
  anchor : Option String := none
  tag : Option String := none

/-- The full form of a tag. -/
def fullTag (handle : Option String) (suffix : String) : Reader String := do
  match handle with
  | none => return suffix
  | some handle =>
    match (← state).meaning? handle with
    | some meaning => return meaning ++ suffix
    | none => malformed

/-- Reads the anchor and the tag in front of a node, at most one of each. -/
def readProperties : Nat → Properties → Reader Properties
  | 0, properties => return properties
  | fuel + 1, properties => do
    match ← peek with
    | some (.anchor name) =>
      if properties.anchor.isSome then
        return properties
      skip
      readProperties fuel { properties with anchor := some name }
    | some (.tag handle suffix) =>
      if properties.tag.isSome then
        return properties
      skip
      let tag ← fullTag handle suffix
      readProperties fuel { properties with tag := some tag }
    | _ => return properties

/-- Whether the tag is only the mark that there is none. -/
def Properties.isUntagged (properties : Properties) : Bool :=
  properties.tag == some "!"

/-- The tag of a node, for which `kind` stands in if none is written. -/
def Properties.tagOr (properties : Properties) (kind : Tag) : Tag :=
  match properties.tag with
  | none => kind
  | some name => if name = "!" then kind else Tag.ofName name

/-- The scalar with a text. If it is plain, or marked as untagged, its tag depends on its text. -/
def Properties.scalar (properties : Properties) (text : String) (plain : Bool) : Node :=
  let kind := if plain || properties.isUntagged then plainTag text else .text
  .scalar (properties.tagOr kind) text

/-- Whether anything is written in front of a node. -/
def Properties.isAny (properties : Properties) : Bool :=
  properties.anchor.isSome || properties.tag.isSome

/-- Notes a node under its anchor. -/
def Properties.note (properties : Properties) (node : Node) : Reader Unit :=
  match properties.anchor with
  | none => pure ()
  | some name => change fun state => { state with anchored := (name, node) :: state.anchored }

mutual

/-- Reads a node. Inside a block it may be a block, and in some places a sequence whose entries are
not indented. -/
def readNode (block unindented : Bool) : Nat → Reader Node
  | 0 => malformed
  | fuel + 1 => do
    match ← peek with
    | some (.alias name) =>
      skip
      match (← state).node? name with
      | some node => return node
      | none => malformed
    | _ =>
      let properties ← readProperties 2 {}
      match properties.anchor with
      | none => pure ()
      | some name =>
        if ((← state).node? name).isSome then
          malformed
      let node ← readContent block unindented properties fuel
      properties.note node
      return node

/-- Reads the content of a node behind its properties. -/
def readContent (block unindented : Bool) (properties : Properties) : Nat → Reader Node
  | 0 => malformed
  | fuel + 1 => do
    let sequenceTag := properties.tagOr .sequence
    let mappingTag := properties.tagOr .mapping
    match ← peek with
    | some (.scalar text plain) =>
      skip
      return properties.scalar text plain
    | some .flowSequence =>
      skip
      properties.note (.again sequenceTag)
      return .sequence sequenceTag (← readFlowItems true fuel)
    | some .flowMapping =>
      skip
      properties.note (.again mappingTag)
      return .mapping mappingTag (← readFlowEntries true fuel)
    | some .blockSequence =>
      if !block then
        malformed
      skip
      properties.note (.again sequenceTag)
      let items ← readItems fuel
      require .blockEnd
      return .sequence sequenceTag items
    | some .blockMapping =>
      if !block then
        malformed
      skip
      properties.note (.again mappingTag)
      return .mapping mappingTag (← readEntries fuel)
    | some .entry =>
      if unindented then
        properties.note (.again sequenceTag)
        return .sequence sequenceTag (← readItems fuel)
      else if properties.isAny then
        return properties.scalar "" true
      else
        malformed
    | _ =>
      if properties.isAny then
        return properties.scalar "" true
      else
        malformed

/-- Reads the entries of a block sequence. -/
def readItems : Nat → Reader (List Node)
  | 0 => malformed
  | fuel + 1 => do
    if ← accept .entry then
      let item ←
        if ← atAny [.entry, .key, .value, .blockEnd] then pure empty else readNode true false fuel
      return item :: (← readItems fuel)
    else
      return []

/-- Reads the entries of a block mapping and its end. -/
def readEntries : Nat → Reader (List (Node × Node))
  | 0 => malformed
  | fuel + 1 => do
    if ← accept .blockEnd then
      return []
    else
      require .key
      let key ←
        if ← atAny [.key, .value, .blockEnd] then pure empty else readNode true true fuel
      let value ←
        if ← accept .value then
          if ← atAny [.key, .value, .blockEnd] then pure empty else readNode true true fuel
        else
          pure empty
      return (key, value) :: (← readEntries fuel)

/-- Reads the items of a sequence in brackets and its end. -/
def readFlowItems (first : Bool) : Nat → Reader (List Node)
  | 0 => malformed
  | fuel + 1 => do
    if ← accept .flowSequenceEnd then
      return []
    if !first then
      require .flowEntry
    if ← accept .flowSequenceEnd then
      return []
    let item ←
      if ← accept .key then do
        let key ←
          if ← atAny [.value, .flowEntry, .flowSequenceEnd] then pure empty
          else readNode false false fuel
        let value ← readFlowValue [.flowEntry, .flowSequenceEnd] fuel
        pure (Node.mapping .mapping [(key, value)])
      else
        readNode false false fuel
    return item :: (← readFlowItems false fuel)

/-- Reads the entries of a mapping in braces and its end. -/
def readFlowEntries (first : Bool) : Nat → Reader (List (Node × Node))
  | 0 => malformed
  | fuel + 1 => do
    if ← accept .flowMappingEnd then
      return []
    if !first then
      require .flowEntry
    if ← accept .flowMappingEnd then
      return []
    let entry ←
      if ← accept .key then do
        let key ←
          if ← atAny [.value, .flowEntry, .flowMappingEnd] then pure empty
          else readNode false false fuel
        let value ← readFlowValue [.flowEntry, .flowMappingEnd] fuel
        pure (key, value)
      else do
        let key ← readNode false false fuel
        pure (key, empty)
    return entry :: (← readFlowEntries false fuel)

/-- Reads the value of an entry in brackets or braces; it may be missing before the given tokens. -/
def readFlowValue (ends : List Token) : Nat → Reader Node
  | 0 => malformed
  | fuel + 1 => do
    if ← accept .value then
      if ← atAny ends then return empty else readNode false false fuel
    else
      return empty

end

/-- Takes the directives in front of a document, at most one of them for the version and one for
each tag handle, and says whether there are any. -/
def readDirectives (found versioned : Bool) (handles : List String) : Nat → Reader Bool
  | 0 => return found
  | fuel + 1 => do
    match ← peek with
    | some .directive =>
      skip
      readDirectives true versioned handles fuel
    | some .version =>
      if versioned then
        malformed
      skip
      readDirectives true true handles fuel
    | some (.handle name meaning) =>
      if handles.contains name then
        malformed
      skip
      change fun state => { state with handles := (name, meaning) :: state.handles }
      readDirectives true versioned (name :: handles) fuel
    | _ => return found

/-- Takes the markers of a document's end. -/
def skipDocumentEnds : Nat → Reader Unit
  | 0 => return ()
  | fuel + 1 => do
    if ← accept .documentEnd then
      skipDocumentEnds fuel

/-- Reads the only document of a text, if there is one. -/
def readDocument (fuel : Nat) : Reader (Option Node) := do
  if (← state).tokens.isEmpty then
    return none
  let hasDirectives ← readDirectives false false [] fuel
  let explicit ← accept .documentStart
  if hasDirectives && !explicit then
    malformed
  let isEmpty :=
    match (← state).tokens with
    | [] => true
    | token :: _ =>
      match token with
      | .directive | .version | .handle _ _ | .documentStart | .documentEnd => true
      | _ => false
  let node ← if explicit && isEmpty then pure empty else readNode true false fuel
  skipDocumentEnds fuel
  if !(← state).tokens.isEmpty then
    malformed
  return some node

/-- The node that a sequence of tokens forms, if there is one. -/
def ofTokens (tokens : List Token) : Except Fault (Option Node) :=
  (orFault (readDocument (4 * tokens.length + 8) { tokens })).map fun taken => taken.1

end Node

end GridRules.Yaml
