import GridRules.Json.Reading
import GridRules.Yaml.Cursor

/-!
# Scalars of YAML

Scalars are written plainly, between quotes, or as blocks of lines. A single line break inside a
scalar that is not a literal block counts as a space, and further ones as themselves.
-/

namespace GridRules.Yaml

/-- A text that was read, and the place after it. -/
abbrev Read := List Char × Cursor

/-- The joint of two lines: the break itself if it is no common one, a space for a single common
break, and otherwise the breaks after the first. -/
def joint (first further : List Char) : List Char :=
  if first != ['\n'] then first ++ further
  else if further.isEmpty then [' ']
  else further

/-! ### Quoted scalars -/

/-- The characters behind a backslash that stand for one character. -/
def escape? : Char → Option Char
  | '0' => some '\x00'
  | 'a' => some '\x07'
  | 'b' => some '\x08'
  | 't' | '\t' => some '\t'
  | 'n' => some '\n'
  | 'v' => some '\x0b'
  | 'f' => some '\x0c'
  | 'r' => some '\r'
  | 'e' => some '\x1b'
  | ' ' => some ' '
  | '"' => some '"'
  | '\\' => some '\\'
  | '/' => some '/'
  | 'N' => some '\x85'
  | '_' => some '\xa0'
  | 'L' => some '\u2028'
  | 'P' => some '\u2029'
  | _ => none

/-- The number of hexadecimal digits behind a letter. -/
def escapeWidth? : Char → Option Nat
  | 'x' => some 2
  | 'u' => some 4
  | 'U' => some 8
  | _ => none

/-- The value of hexadecimal digits. -/
def hexNumber? (digits : List Char) : Option Nat :=
  digits.foldl (fun value c => do return (← value) * 16 + (← Json.hexValue? c)) (some 0)

/-- The character with a code point; halves of pairs give the replacement character. Code points
are numbers of at most 31 binary digits. -/
def codePoint (n : Nat) : Except Fault Char :=
  if n < 0x110000 then .ok (Json.unitCharacter n)
  else if n < Nat.pow 2 31 then .error .unreadableNumber
  else .error .tooLarge

/-- The empty lines inside a quoted scalar. No document may start or end there. -/
def quotedBreaks : Nat → Cursor → List Char → Option Read
  | 0, _, _ => none
  | fuel + 1, cursor, taken =>
    if cursor.atSeparator then
      none
    else
      let cursor := (cursor.takeWhile fun c => c == ' ' || c == '\t').2
      if isBreak cursor.peek then
        let (found, cursor) := cursor.lineBreak
        quotedBreaks fuel cursor (taken ++ found)
      else
        some (taken, cursor)

/-- The blanks and line breaks inside a quoted scalar. -/
def quotedSpaces (cursor : Cursor) : Option Read :=
  let (blanks, after) := cursor.takeWhile fun c => c == ' ' || c == '\t'
  if after.peek == '\x00' then
    none
  else if isBreak after.peek then do
    let (first, after) := after.lineBreak
    let (further, after) ← quotedBreaks (after.rest.length + 1) after []
    return (joint first further, after)
  else
    some (blanks, after)

/-- What a backslash in a double-quoted scalar stands for. -/
def doubleEscape (cursor : Cursor) : Except Fault Read :=
  let c := cursor.peek
  match escape? c with
  | some escaped => .ok ([escaped], cursor.forward 1)
  | none =>
    match escapeWidth? c with
    | some width => do
      let digits := (cursor.rest.drop 1).take width
      if digits.length < width then
        throw .malformed
      let c ← codePoint (← orFault (hexNumber? digits))
      return ([c], cursor.forward (width + 1))
    | none =>
      if isBreak c then
        let after := cursor.lineBreak.2
        orFault (quotedBreaks (after.rest.length + 1) after [])
      else
        .error .malformed

/-- The text of a quoted scalar behind its opening quote. -/
def quotedRest (double : Bool) : Nat → Cursor → List Char → Except Fault Read
  | 0, _, _ => .error .malformed
  | fuel + 1, cursor, taken =>
    let c := cursor.peek
    if !double && c == '\'' && cursor.peek 1 == '\'' then
      quotedRest double fuel (cursor.forward 2) (taken ++ ['\''])
    else if c == (if double then '"' else '\'') then
      .ok (taken, cursor.forward 1)
    else if double && c == '\\' then do
      let (escaped, cursor) ← doubleEscape (cursor.forward 1)
      quotedRest double fuel cursor (taken ++ escaped)
    else if isGap c then do
      let (blanks, after) ← orFault (quotedSpaces cursor)
      quotedRest double fuel after (taken ++ blanks)
    else
      quotedRest double fuel (cursor.forward 1) (taken ++ [c])

/-- The text of a quoted scalar at the front. -/
def quotedScalar (double : Bool) (cursor : Cursor) : Except Fault Read :=
  quotedRest double (cursor.rest.length + 1) (cursor.forward 1) []

/-! ### Plain scalars -/

/-- Whether a character ends a run of a plain scalar, given the one behind it. -/
def endsPlainRun (inFlow : Bool) (c following : Char) : Bool :=
  isGap c
    || (c == ':' && (isGap following || (inFlow && ",[]\x7b\x7d".toList.contains following)))
    || (inFlow && ",?[]\x7b\x7d".toList.contains c)

/-- The run of a plain scalar at the front. -/
def plainRun (inFlow : Bool) : List Char → List Char
  | [] => []
  | c :: rest =>
    if endsPlainRun inFlow c (rest.head?.getD '\x00') then [] else c :: plainRun inFlow rest

/-- The empty lines and the indentation behind a line break in a plain scalar. Nothing follows if a
document starts or ends there. -/
def plainBreaks : Nat → Cursor → List Char → Option Read
  | 0, _, _ => none
  | fuel + 1, cursor, taken =>
    if cursor.peek == ' ' then
      plainBreaks fuel cursor.next taken
    else if isBreak cursor.peek then
      let (found, cursor) := cursor.lineBreak
      if cursor.atSeparator then none else plainBreaks fuel cursor (taken ++ found)
    else
      some (taken, cursor)

/-- What stands between two runs of a plain scalar: the text that counts, the place behind it, and
whether a line ends in between. Without a text the scalar has ended. -/
def plainSpaces (cursor : Cursor) : List Char × Cursor × Bool :=
  let (spaces, after) := cursor.takeWhile (· == ' ')
  if isBreak after.peek then
    let (first, after) := after.lineBreak
    if after.atSeparator then
      ([], after, true)
    else
      match plainBreaks (after.rest.length + 1) after [] with
      | none => ([], after, true)
      | some (further, after) => (joint first further, after, true)
  else
    (spaces, after, false)

/-- A plain scalar. -/
structure Plain where
  text : List Char
  after : Cursor
  endsLine : Bool

/-- The rest of a plain scalar behind `taken` and the pending `spaces`; its lines are indented at
least as deep as `indent`. -/
def plainRest (inFlow : Bool) (indent : Int) : Nat → Plain → List Char → Plain
  | 0, plain, _ => plain
  | fuel + 1, plain, spaces =>
    if plain.after.peek == '#' then
      plain
    else
      let run := plainRun inFlow plain.after.rest
      if run.isEmpty then
        plain
      else
        let (following, after, endsLine) := plainSpaces (plain.after.forward run.length)
        let plain : Plain := ⟨plain.text ++ spaces ++ run, after, endsLine⟩
        if following.isEmpty || after.peek == '#' || (!inFlow && (after.column : Int) < indent) then
          plain
        else
          plainRest inFlow indent fuel plain following

/-- The plain scalar at the front. -/
def plainScalar (inFlow : Bool) (indent : Int) (cursor : Cursor) : Plain :=
  plainRest inFlow indent (cursor.rest.length + 1) ⟨[], cursor, false⟩ []

/-! ### Block scalars -/

/-- How a block scalar ends: without a line break, with one, or with all that were written. -/
inductive Chomping where
  | strip
  | clip
  | keep

/-- The indicators of a block scalar: how it ends, and how deep it is indented, if that is given. -/
structure BlockHeader where
  chomping : Chomping := .clip
  depth : Option Nat := none

/-- A sign for the end of a block scalar. -/
def chomping? : Char → Option Chomping
  | '+' => some .keep
  | '-' => some .strip
  | _ => none

/-- The depth that a digit gives; zero is none. -/
def blockDepth? (c : Char) : Option Nat :=
  if '1' ≤ c && c ≤ '9' then some (c.toNat - '0'.toNat) else none

/-- The header of a block scalar behind its first indicator, in either order. -/
def blockHeader (cursor : Cursor) : Option (BlockHeader × Cursor) :=
  match chomping? cursor.peek with
  | some chomping =>
    if cursor.peek 1 == '0' then none
    else
      match blockDepth? (cursor.peek 1) with
      | some depth => some ({ chomping, depth }, cursor.forward 2)
      | none => some ({ chomping }, cursor.forward 1)
  | none =>
    if cursor.peek == '0' then none
    else
      match blockDepth? cursor.peek with
      | some depth =>
        match chomping? (cursor.peek 1) with
        | some chomping => some ({ chomping, depth }, cursor.forward 2)
        | none => some ({ depth }, cursor.forward 1)
      | none => some ({}, cursor)

/-- The place behind the rest of a line that holds nothing but a comment. -/
def restOfLine (cursor : Cursor) : Option Cursor :=
  let cursor := cursor.skipSpaces
  let cursor := if cursor.peek == '#' then (cursor.takeWhile (!isLineEnd ·)).2 else cursor
  if isLineEnd cursor.peek then some cursor.lineBreak.2 else none

/-- The empty lines at the front, the largest column of their spaces, and the place behind them. -/
def leadingLines : Nat → Cursor → List Char → Nat → List Char × Nat × Cursor
  | 0, cursor, taken, deepest => (taken, deepest, cursor)
  | fuel + 1, cursor, taken, deepest =>
    if cursor.peek == ' ' then
      leadingLines fuel cursor.next taken (max deepest cursor.next.column)
    else if isBreak cursor.peek then
      let (found, cursor) := cursor.lineBreak
      leadingLines fuel cursor (taken ++ found) deepest
    else
      (taken, deepest, cursor)

/-- The empty lines of a block that is indented to a column, and the place behind them and the
indentation. -/
def blockBreaks (column : Nat) : Nat → Cursor → List Char → Read
  | 0, cursor, taken => (taken, cursor)
  | fuel + 1, cursor, taken =>
    let cursor := cursor.skipIndent column
    if isBreak cursor.peek then
      let (found, cursor) := cursor.lineBreak
      blockBreaks column fuel cursor (taken ++ found)
    else
      (taken, cursor)

/-- The lines of a block scalar: the text without what ends it, the last line break, the empty lines
behind it, and the place behind all. -/
def blockLines (folded : Bool) (column : Nat) :
    Nat → Cursor → List Char → List Char → List Char → List Char × List Char × List Char × Cursor
  | 0, cursor, taken, lineBreak, breaks => (taken, lineBreak, breaks, cursor)
  | fuel + 1, cursor, taken, lineBreak, breaks =>
    if cursor.column == column && cursor.peek != '\x00' then
      let leading := cursor.peek == ' ' || cursor.peek == '\t'
      let (line, after) := cursor.takeWhile (!isLineEnd ·)
      let taken := taken ++ breaks ++ line
      let (lineBreak, after) := after.lineBreak
      let (breaks, after) := blockBreaks column (after.rest.length + 1) after []
      if after.column == column && after.peek != '\x00' then
        let glue :=
          if folded && lineBreak == ['\n'] && !leading && after.peek != ' ' && after.peek != '\t'
          then (if breaks.isEmpty then [' '] else [])
          else lineBreak
        blockLines folded column fuel after (taken ++ glue) [] breaks
      else
        (taken, lineBreak, breaks, after)
    else
      (taken, lineBreak, breaks, cursor)

/-- The text of a block scalar at the front, inside a block that is indented to `indent`. -/
def blockScalar (folded : Bool) (indent : Int) (cursor : Cursor) : Option Read := do
  let (header, cursor) ← blockHeader (cursor.forward 1)
  if !(cursor.peek == ' ' || isLineEnd cursor.peek) then
    none
  let cursor ← restOfLine cursor
  let least := (max (indent + 1) 1).toNat
  let fuel := cursor.rest.length + 1
  let (breaks, column, cursor) :=
    match header.depth with
    | none =>
      let (breaks, deepest, cursor) := leadingLines fuel cursor [] 0
      (breaks, max least deepest, cursor)
    | some depth =>
      let column := least + depth - 1
      let (breaks, cursor) := blockBreaks column fuel cursor []
      (breaks, column, cursor)
  let (text, lineBreak, breaks, cursor) := blockLines folded column fuel cursor [] [] breaks
  let ending :=
    match header.chomping with
    | .strip => []
    | .clip => lineBreak
    | .keep => lineBreak ++ breaks
  return (text ++ ending, cursor)

end GridRules.Yaml
