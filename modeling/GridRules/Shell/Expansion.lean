import GridRules.Shell.Glob
import GridRules.Shell.State
import GridRules.Shell.Sum

/-!
# Expansion of words

The parts of a word are replaced by pieces. Pieces that were quoted are kept, the values of others
are split into fields at the separators of the state. How the output of a script comes about is left
to whoever runs scripts.
-/

namespace GridRules.Shell

/-- The output of a script without the line ends behind it, and the state after it has run. -/
abbrev Evaluator := List Char → State → List Char × State

/-- What a part of a word is replaced by. -/
inductive Piece where
  | text (quoted : Bool) (chars : List Char)
  | value (chars : List Char)
  | each (quoted : Bool) (values : List String)
deriving Repr, Inhabited, DecidableEq

namespace Piece

/-- The piece for a value. -/
def ofValue (quoted : Bool) (chars : List Char) : Piece :=
  if quoted then .text true chars else .value chars

/-- The text of some pieces. -/
def joined (pieces : List Piece) : List Char :=
  pieces.flatMap fun
    | .text _ chars => chars
    | .value chars => chars
    | .each _ values => (" ".intercalate values).toList

/-- The characters of some pieces, with whether they stand for themselves in a pattern. -/
def marked (pieces : List Piece) : List (Char × Bool) :=
  pieces.flatMap fun
    | .text quoted chars => chars.map fun c => (c, quoted)
    | .value chars => chars.map fun c => (c, false)
    | .each quoted values => (" ".intercalate values).toList.map fun c => (c, quoted)

/-- The pattern that some pieces write. -/
def glob (pieces : List Piece) : List GlobItem :=
  let marked := marked pieces
  globOf (marked.length + 1) marked

end Piece

/-! ### Fields -/

/-- The fields of a word under way: those that are finished, the latest first, and the open one. A
separator that follows one which finished a field adds nothing if only blanks lie between. -/
structure Fields where
  finished : List (List Char) := []
  current : Option (List Char) := none
  behindBlank : Bool := false

namespace Fields

/-- Adds text to the open field. -/
def add (fields : Fields) (text : List Char) : Fields :=
  { fields with current := some (fields.current.getD [] ++ text), behindBlank := false }

/-- Finishes the open field, if there is one. -/
def close (fields : Fields) : Fields :=
  match fields.current with
  | none => fields
  | some text => { finished := text :: fields.finished, behindBlank := true }

/-- Adds a value that separators split. Blanks separate however many there are, while other
separators have a field between each two of them. -/
def addSplit (separators : List Char) (fields : Fields) (value : List Char) : Fields :=
  value.foldl (fun fields c =>
    if !separators.contains c then fields.add [c]
    else if c == ' ' || c == '\t' || c == '\n' then fields.close
    else
      match fields.current with
      | none =>
        if fields.behindBlank then { fields with behindBlank := false }
        else { fields with finished := [] :: fields.finished }
      | some text => { finished := text :: fields.finished }) fields

/-- Adds values as fields of their own, the first one to the open field. -/
def addEach : Fields → List String → Fields
  | fields, [] => fields
  | fields, [value] => fields.add value.toList
  | fields, value :: next :: rest => ((fields.add value.toList).close).addEach (next :: rest)

/-- Adds a piece. -/
def addPiece (separators : List Char) (fields : Fields) : Piece → Fields
  | .text _ chars => fields.add chars
  | .value chars => fields.addSplit separators chars
  | .each true values => fields.addEach values
  | .each false values =>
    match values with
    | [] => fields
    | first :: rest =>
      rest.foldl (fun fields value => fields.close.addSplit separators value.toList)
        (fields.addSplit separators first.toList)

/-- The fields of some pieces. Where parameters should stand and there are none, empty quotes around
them give no field. -/
def ofPieces (separators : List Char) (pieces : List Piece) : List String :=
  if pieces.contains (.each true []) && (Piece.joined pieces).isEmpty then []
  else
    (pieces.foldl (addPiece separators) {}).close.finished.reverse.map String.ofList

end Fields

/-! ### Expansion -/

namespace State

/-- The pieces for a parameter without any change. -/
def parameterPieces (state : State) (quoted : Bool) (name : String) : List Piece :=
  match name with
  | "@" => [.each quoted state.parameters]
  | "*" =>
    if quoted then
      let separator := String.ofList (state.separators.take 1)
      [.text true (separator.intercalate state.parameters).toList]
    else [.each false state.parameters]
  | name => [.ofValue quoted ((state.parameter? name).getD "").toList]

/-- The value of a parameter as one text; none if it is not set. -/
def wholeValue? (state : State) (name : String) : Option String :=
  if name == "@" || name == "*" then
    if state.parameters.isEmpty then none else some (" ".intercalate state.parameters)
  else
    state.parameter? name

/-- The pieces of a word. Where `splitsText` says so, its unquoted text counts as a value. -/
def pieces (evaluate : Evaluator) (splitsText : Bool) : Nat → Word → State → List Piece × State
  | 0, _, state => ([], state)
  | fuel + 1, word, state =>
    let replace (part : Part) (state : State) : List Piece × State :=
      match part with
      | .text quoted chars =>
        ([if splitsText && !quoted then .value chars else .text quoted chars], state)
      | .meaningless => ([], state.fail "Bad substitution")
      | .output quoted script =>
        let (text, state) := evaluate script state
        ([.ofValue quoted text], state)
      | .sum quoted expression =>
        let (inner, state) := pieces evaluate false fuel (.ofQuoted expression) state
        let text := Piece.joined inner
        let find (state : State) (name : String) : String := (state.value? name).getD ""
        match (do (← Sum.ofText text).value find State.assign state) with
        | .ok (n, state) => ([.ofValue quoted (toString n).toList], state)
        | .error fault => ([], state.fail (fault.message (String.ofList text)))
      | .parameter quoted name change argument =>
        let value := state.wholeValue? name
        let isThere (whenEmpty : Bool) : Bool :=
          match value with
          | none => false
          | some value => !(whenEmpty && value.isEmpty)
        let word : Word := if quoted then .ofQuoted argument else .ofPlain argument
        let present : List Piece := state.parameterPieces quoted name
        match change with
        | .plain =>
          if value.isNone && state.switches.refusesUnset && name != "@" && name != "*" then
            ([], state.fail (name ++ ": parameter not set"))
          else (present, state)
        | .length =>
          let length :=
            if name == "@" || name == "*" then state.parameters.length
            else (value.getD "").length
          ([.ofValue quoted (toString length).toList], state)
        | .orElse whenEmpty =>
          if isThere whenEmpty then (present, state)
          else pieces evaluate (!quoted) fuel word state
        | .andThen whenEmpty =>
          if isThere whenEmpty then pieces evaluate (!quoted) fuel word state else ([], state)
        | .orAssign whenEmpty =>
          if isThere whenEmpty then (present, state)
          else
            let (inner, state) := pieces evaluate false fuel word state
            let text := Piece.joined inner
            ([.ofValue quoted text], state.assign name (String.ofList text))
        | .orFail whenEmpty =>
          if isThere whenEmpty then (present, state)
          else
            let (inner, state) := pieces evaluate false fuel word state
            let text :=
              if argument.isEmpty then
                "parameter not set" ++ (if whenEmpty then " or null" else "")
              else String.ofList (Piece.joined inner)
            ([], state.fail (name ++ ": " ++ text))
        | .cutFront longest =>
          let (inner, state) := pieces evaluate false fuel (.ofPlain argument) state
          ([.ofValue quoted (cutFront longest (Piece.glob inner) (value.getD "").toList)], state)
        | .cutBack longest =>
          let (inner, state) := pieces evaluate false fuel (.ofPlain argument) state
          ([.ofValue quoted (cutBack longest (Piece.glob inner) (value.getD "").toList)], state)
    word.foldl (fun (found, state) part =>
      if state.ending.isSome then (found, state)
      else
        let (more, state) := replace part state
        (found ++ more, state)) ([], state)

/-- How deep words may lie within words. -/
def wordDepth : Nat := 100

/-- The fields of some words. -/
def fieldsOf (evaluate : Evaluator) (words : List Word) (state : State) : List String × State :=
  words.foldl (fun (fields, state) word =>
    let (pieces, state) := pieces evaluate false wordDepth word state
    (fields ++ Fields.ofPieces state.separators pieces, state)) ([], state)

/-- The text of a word that is not split. -/
def textOfWord (evaluate : Evaluator) (word : Word) (state : State) : String × State :=
  let (pieces, state) := pieces evaluate false wordDepth word state
  (String.ofList (Piece.joined pieces), state)

/-- Whether the pattern that a word writes stands for a text. -/
def matchesWord (evaluate : Evaluator) (word : Word) (text : String) (state : State) :
    Bool × State :=
  let (pieces, state) := pieces evaluate false wordDepth word state
  (globMatches (Piece.glob pieces) text.toList, state)

end State

end GridRules.Shell
