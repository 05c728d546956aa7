import GridRules.Yaml.Scalar

/-!
# Tokens of YAML

The tokens of a YAML text mark where documents, collections, keys and values begin. Outside
brackets the structure follows from the columns. That a piece of text is a key shows only at the
colon behind it, so the marks of a key are put in front of tokens that were taken before.
-/

namespace GridRules.Yaml

/-- A token. -/
inductive Token where
  | handle (name meaning : String)
  | version
  | directive
  | documentStart
  | documentEnd
  | blockSequence
  | blockMapping
  | blockEnd
  | flowSequence
  | flowSequenceEnd
  | flowMapping
  | flowMappingEnd
  | entry
  | flowEntry
  | key
  | value
  | alias (name : String)
  | anchor (name : String)
  | tag (handle : Option String) (suffix : String)
  | scalar (text : String) (plain : Bool)
deriving DecidableEq, Repr, Inhabited

/-- A place that becomes a key if a colon follows: the number of tokens before it, and whether the
text would be malformed otherwise. -/
structure KeyPlace where
  tokens : Nat
  required : Bool
  index : Nat
  line : Nat
  column : Nat

/-- The state of taking tokens: what is left of the text, the tokens so far, the depth of brackets,
the columns of the open blocks with the innermost one first, and the places that may become
keys, at most one for each depth. -/
structure Scanner where
  cursor : Cursor
  tokens : Array Token := #[]
  depth : Nat := 0
  indent : Int := -1
  outer : List Int := []
  keyAllowed : Bool := true
  keyPlaces : List (Nat × KeyPlace) := []

namespace Scanner

/-- The scanner with a further token. -/
def push (scanner : Scanner) (token : Token) : Scanner :=
  { scanner with tokens := scanner.tokens.push token }

/-- The scanner further on in the text. -/
def forward (scanner : Scanner) (n : Nat) : Scanner :=
  { scanner with cursor := scanner.cursor.forward n }

/-- The column at which the scanner stands. -/
def column (scanner : Scanner) : Int :=
  scanner.cursor.column

/-- Closes the blocks that are indented deeper than a column. -/
def closeBlocks (scanner : Scanner) (column : Int) : Scanner :=
  if scanner.depth == 0 then go scanner.outer scanner else scanner
where
  go : List Int → Scanner → Scanner
    | [], scanner => scanner
    | indent :: outer, scanner =>
      if column < scanner.indent then
        go outer { scanner.push .blockEnd with indent, outer }
      else
        scanner

/-- Opens a block at a column that lies deeper than the innermost one. -/
def openBlock (scanner : Scanner) (column : Int) (token : Token) : Scanner :=
  if scanner.indent < column then
    { scanner.push token with indent := column, outer := scanner.indent :: scanner.outer }
  else
    scanner

/-- The place that may become a key at the present depth. -/
def keyPlace? (scanner : Scanner) : Option KeyPlace :=
  (scanner.keyPlaces.find? fun entry => entry.1 == scanner.depth).map fun entry => entry.2

/-- Gives up the place that may become a key at the present depth. -/
def dropKeyPlace (scanner : Scanner) : Option Scanner :=
  match scanner.keyPlace? with
  | some place =>
    if place.required then none
    else some { scanner with
      keyPlaces := scanner.keyPlaces.filter fun entry => entry.1 != scanner.depth }
  | none => some scanner

/-- Marks the present place as one that may become a key. -/
def markKeyPlace (scanner : Scanner) : Option Scanner :=
  if scanner.keyAllowed then do
    let required := scanner.depth == 0 && scanner.indent == scanner.column
    let scanner ← scanner.dropKeyPlace
    let place : KeyPlace :=
      ⟨scanner.tokens.size, required, scanner.cursor.index, scanner.cursor.line,
        scanner.cursor.column⟩
    return { scanner with keyPlaces := (scanner.depth, place) :: scanner.keyPlaces }
  else
    some scanner

/-- Gives up the places that lie on another line or too far back. -/
def dropStaleKeyPlaces (scanner : Scanner) : Option Scanner :=
  let stale (place : KeyPlace) : Bool :=
    place.line != scanner.cursor.line || 1024 < scanner.cursor.index - place.index
  if scanner.keyPlaces.any fun entry => stale entry.2 && entry.2.required then
    none
  else
    some { scanner with keyPlaces := scanner.keyPlaces.filter fun entry => !stale entry.2 }

/-- Skips spaces, comments and empty lines. Behind a line break a key may begin, except inside
brackets. -/
def skipLayout : Nat → Scanner → Scanner
  | 0, scanner => scanner
  | fuel + 1, scanner =>
    let cursor := scanner.cursor.skipSpaces
    let cursor := if cursor.peek == '#' then (cursor.takeWhile (!isLineEnd ·)).2 else cursor
    if isBreak cursor.peek then
      skipLayout fuel
        { scanner with
          cursor := cursor.lineBreak.2
          keyAllowed := scanner.keyAllowed || scanner.depth == 0 }
    else
      { scanner with cursor }

/-! ### Names and tags -/

/-- The characters of names of anchors and handles. -/
def isNameCharacter (c : Char) : Bool :=
  c.isAlphanum || c == '-' || c == '_'

/-- The name of an anchor or an alias behind its indicator. -/
def anchorName (cursor : Cursor) : Option Read :=
  let (name, after) := cursor.takeWhile isNameCharacter
  let c := after.peek
  if name.isEmpty || !(isGap c || "?:,]\x7d%@`".toList.contains c) then none
  else some (name, after)

/-- The characters of tags. -/
def isTagCharacter (c : Char) : Bool :=
  c.isAlphanum || "-;/?:@&=+$,_.!~*'()[]%".toList.contains c

/-- The text of a tag, with the characters that escaped bytes write put in their place. The `bytes`
are those right before the text. -/
def unescapeTag (bytes : List UInt8) : List Char → Option (List Char)
  | [] => written bytes
  | '%' :: a :: b :: rest => do
    let n ← hexNumber? [a, b]
    unescapeTag (bytes ++ [UInt8.ofNat n]) rest
  | '%' :: _ => none
  | c :: rest => do
    let text ← written bytes
    return text ++ c :: (← unescapeTag [] rest)
where
  /-- The characters that bytes write. -/
  written (bytes : List UInt8) : Option (List Char) :=
    (String.fromUTF8? ⟨bytes.toArray⟩).map String.toList

/-- The text of a tag at the front; it has at least one character. -/
def tagText (cursor : Cursor) : Option Read := do
  let (text, after) := cursor.takeWhile isTagCharacter
  if text.isEmpty then
    none
  return (← unescapeTag [] text, after)

/-- The handle at the front of a tag: an exclamation mark, or a name between two. -/
def tagHandle (cursor : Cursor) : Read :=
  let (name, after) := (cursor.forward 1).takeWhile isNameCharacter
  if after.peek == '!' then ('!' :: name ++ ['!'], after.forward 1) else (['!'], cursor.forward 1)

/-- The tag at the front. -/
def scanTag (cursor : Cursor) : Option (Token × Cursor) := do
  let (token, after) ←
    if cursor.peek 1 == '<' then do
      let (text, after) ← tagText (cursor.forward 2)
      if after.peek != '>' then
        none
      pure (Token.tag none (String.ofList text), after.forward 1)
    else if isGap (cursor.peek 1) then
      pure (Token.tag none "!", cursor.forward 1)
    else do
      let (handle, after) := tagHandle cursor
      let (suffix, after) ← tagText after
      pure (Token.tag (some (String.ofList handle)) (String.ofList suffix), after)
  if after.peek == ' ' || isLineEnd after.peek then some (token, after) else none

/-- Whether a directive may end before a character. -/
def endsDirective (c : Char) : Bool :=
  c == ' ' || isLineEnd c

/-- The version behind the name of its directive. Only the versions of the first generation are
known. -/
def scanVersion (cursor : Cursor) : Except Fault Cursor := do
  let (major, after) := cursor.skipSpaces.takeWhile Char.isDigit
  let (minor, behind) := (after.forward 1).takeWhile Char.isDigit
  if major.isEmpty || after.peek != '.' || minor.isEmpty then
    throw .malformed
  if Text.mostDigits < major.length || Text.mostDigits < minor.length then
    throw .unreadableNumber
  if Json.digitsValue major != 1 || !endsDirective behind.peek then
    throw .malformed
  orFault (restOfLine behind)

/-- The meaning of a tag handle behind the name of its directive. -/
def scanHandle (cursor : Cursor) : Option (Token × Cursor) := do
  let after := cursor.skipSpaces
  if after.peek != '!' then
    none
  let (handle, after) := tagHandle after
  if after.peek != ' ' then
    none
  let (text, after) ← tagText after.skipSpaces
  if !endsDirective after.peek then
    none
  return (.handle (String.ofList handle) (String.ofList text), ← restOfLine after)

/-- The directive at the front: a version, the meaning of a tag handle, or one without effect. -/
def scanDirective (cursor : Cursor) : Except Fault (Token × Cursor) := do
  let (name, after) := (cursor.forward 1).takeWhile isNameCharacter
  if name.isEmpty || !endsDirective after.peek then
    throw .malformed
  match String.ofList name with
  | "YAML" => return (.version, ← scanVersion after)
  | "TAG" => orFault (scanHandle after)
  | _ =>
    let after := (after.takeWhile (!isLineEnd ·)).2
    return (.directive, after.lineBreak.2)

/-! ### One token after the other -/

/-- Takes a token that begins outside every block. -/
def atTopLevel (scanner : Scanner) : Option Scanner := do
  let scanner ← (scanner.closeBlocks (-1)).dropKeyPlace
  return { scanner with keyAllowed := false }

/-- Takes a document marker. -/
def takeMarker (scanner : Scanner) (token : Token) : Option Scanner := do
  return ((← scanner.atTopLevel).forward 3).push token

/-- Takes an opening bracket. -/
def openBracket (scanner : Scanner) (token : Token) : Option Scanner := do
  let scanner ← scanner.markKeyPlace
  return { (scanner.forward 1).push token with depth := scanner.depth + 1, keyAllowed := true }

/-- Takes a closing bracket; there has to be an open one. -/
def closeBracket (scanner : Scanner) (token : Token) : Option Scanner := do
  let scanner ← scanner.dropKeyPlace
  if scanner.depth == 0 then
    none
  return { (scanner.forward 1).push token with depth := scanner.depth - 1, keyAllowed := false }

/-- Takes a comma between brackets. -/
def takeComma (scanner : Scanner) : Option Scanner := do
  let scanner ← { scanner with keyAllowed := true }.dropKeyPlace
  return (scanner.forward 1).push .flowEntry

/-- Takes the indicator of an entry of a sequence. -/
def takeEntry (scanner : Scanner) : Option Scanner := do
  let scanner ←
    if scanner.depth != 0 then some scanner
    else if scanner.keyAllowed then some (scanner.openBlock scanner.column .blockSequence)
    else none
  let scanner ← { scanner with keyAllowed := true }.dropKeyPlace
  return (scanner.forward 1).push .entry

/-- Takes the indicator of a key. -/
def takeKey (scanner : Scanner) : Option Scanner := do
  let scanner ←
    if scanner.depth != 0 then some scanner
    else if scanner.keyAllowed then some (scanner.openBlock scanner.column .blockMapping)
    else none
  let scanner ← { scanner with keyAllowed := scanner.depth == 0 }.dropKeyPlace
  return (scanner.forward 1).push .key

/-- Takes the indicator of a value. A place before it that may become a key becomes one. -/
def takeValue (scanner : Scanner) : Option Scanner := do
  match scanner.keyPlace? with
  | some place =>
    let keyPlaces := scanner.keyPlaces.filter fun entry => entry.1 != scanner.depth
    let before := scanner.tokens.extract 0 place.tokens
    let behind := scanner.tokens.extract place.tokens scanner.tokens.size
    let column : Int := place.column
    let opened :=
      if scanner.depth == 0 then
        { scanner with tokens := before }.openBlock column .blockMapping
      else
        { scanner with tokens := before }
    let scanner :=
      { opened with tokens := opened.tokens.push .key ++ behind, keyPlaces, keyAllowed := false }
    return (scanner.forward 1).push .value
  | none =>
    let scanner ←
      if scanner.depth != 0 then some scanner
      else if scanner.keyAllowed then some (scanner.openBlock scanner.column .blockMapping)
      else none
    let scanner ← { scanner with keyAllowed := scanner.depth == 0 }.dropKeyPlace
    return (scanner.forward 1).push .value

/-- Takes a token that may be a key, or may stand before one. -/
def takeContent (scanner : Scanner) (content : Cursor → Except Fault (Token × Cursor)) :
    Except Fault Scanner := do
  let scanner ← orFault scanner.markKeyPlace
  let (token, cursor) ← content scanner.cursor
  return { scanner.push token with cursor, keyAllowed := false }

/-- Takes a plain scalar. -/
def takePlain (scanner : Scanner) : Option Scanner := do
  let scanner ← scanner.markKeyPlace
  let plain := plainScalar (scanner.depth != 0) (scanner.indent + 1) scanner.cursor
  return { scanner.push (.scalar (String.ofList plain.text) true) with
    cursor := plain.after, keyAllowed := plain.endsLine }

/-- Takes a block scalar. -/
def takeBlock (scanner : Scanner) (folded : Bool) : Option Scanner := do
  let scanner ← { scanner with keyAllowed := true }.dropKeyPlace
  let (text, cursor) ← blockScalar folded scanner.indent scanner.cursor
  return { scanner.push (.scalar (String.ofList text) false) with cursor }

/-- Whether a plain scalar begins with a character, given the one behind it. -/
def startsPlain (inFlow : Bool) (c following : Char) : Bool :=
  !(isGap c || "-?:,[]\x7b\x7d#&*!|>'\"%@`".toList.contains c)
    || (!isGap following && (c == '-' || (!inFlow && (c == '?' || c == ':'))))

/-- Takes a token for which its characters say enough. -/
def takeMark (scanner : Scanner) (inFlow : Bool) (c following : Char) : Option Scanner :=
  let cursor := scanner.cursor
  if cursor.column == 0 && cursor.atMarker "---" then scanner.takeMarker .documentStart
  else if cursor.column == 0 && cursor.atMarker "..." then scanner.takeMarker .documentEnd
  else if c == '[' then scanner.openBracket .flowSequence
  else if c == '{' then scanner.openBracket .flowMapping
  else if c == ']' then scanner.closeBracket .flowSequenceEnd
  else if c == '}' then scanner.closeBracket .flowMappingEnd
  else if c == ',' then scanner.takeComma
  else if c == '-' && isGap following then scanner.takeEntry
  else if c == '?' && (inFlow || isGap following) then scanner.takeKey
  else if c == ':' && (inFlow || isGap following) then scanner.takeValue
  else if c == '|' && !inFlow then scanner.takeBlock false
  else if c == '>' && !inFlow then scanner.takeBlock true
  else if startsPlain inFlow c following then scanner.takePlain
  else none

/-- Takes the token at the front. -/
def takeToken (scanner : Scanner) : Except Fault Scanner :=
  let c := scanner.cursor.peek
  if c == '%' && scanner.cursor.column == 0 then do
    let scanner ← orFault scanner.atTopLevel
    let (token, cursor) ← scanDirective scanner.cursor
    return { scanner.push token with cursor }
  else if c == '*' then
    scanner.takeContent fun cursor =>
      (orFault (anchorName (cursor.forward 1))).map fun (name, after) =>
        (.alias (String.ofList name), after)
  else if c == '&' then
    scanner.takeContent fun cursor =>
      (orFault (anchorName (cursor.forward 1))).map fun (name, after) =>
        (.anchor (String.ofList name), after)
  else if c == '!' then
    scanner.takeContent fun cursor => orFault (scanTag cursor)
  else if c == '\'' || c == '"' then
    scanner.takeContent fun cursor =>
      (quotedScalar (c == '"') cursor).map fun (text, after) =>
        (.scalar (String.ofList text) false, after)
  else
    orFault (scanner.takeMark (scanner.depth != 0) c (scanner.cursor.peek 1))

/-- Takes all tokens of the text. -/
def takeAll : Nat → Scanner → Except Fault (Array Token)
  | 0, _ => .error .malformed
  | fuel + 1, scanner => do
    let scanner := scanner.skipLayout (scanner.cursor.rest.length + 1)
    let scanner ← orFault scanner.dropStaleKeyPlaces
    let scanner := scanner.closeBlocks scanner.column
    if scanner.cursor.rest.isEmpty then
      let scanner ← orFault (scanner.closeBlocks (-1)).dropKeyPlace
      return scanner.tokens
    else
      takeAll fuel (← scanner.takeToken)

end Scanner

/-- Whether a YAML text may hold a character. -/
def isPermitted (c : Char) : Bool :=
  let n := c.toNat
  n == 0x09 || n == 0x0a || n == 0x0d || (0x20 ≤ n && n ≤ 0x7e) || n == 0x85
    || (0xa0 ≤ n && n ≤ 0xd7ff) || (0xe000 ≤ n && n ≤ 0xfffd) || 0x10000 ≤ n

/-- The tokens of a text. A byte order mark at the front is left out. -/
def tokens (text : List Char) : Except Fault (List Token) :=
  if text.all isPermitted then
    let start : Cursor := { rest := text }
    let start := if start.peek == '\ufeff' then start.forward 1 else start
    (Scanner.takeAll (text.length + 2) { cursor := start }).map Array.toList
  else
    .error .malformed

end GridRules.Yaml
