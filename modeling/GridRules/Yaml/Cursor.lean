/-!
# Places and faults in a YAML text

A cursor is what is left of a text, with the line and the column at which it starts. The end of the
text shows as the null character, which no text holds.

A text that is malformed gives no value. Nor does a well-formed one with a part that stands for
nothing: a scalar without a value under its tag, or an escape for a character that does not exist.
Such faults are kept apart.
-/

namespace GridRules.Yaml

/-! ### Faults -/

/-- The reasons for which a text gives no value. -/
inductive Fault where
  /-- The text breaks the rules of the format, or a node is not of the kind that its tag asks
  for. -/
  | malformed
  /-- A scalar with the tag of numbers has nothing but low lines and a sign. -/
  | numberWithoutDigits
  /-- A scalar with the tag of numbers has characters that are no digits of its base, or too many
  digits; one with the tag of timestamps names no day or time that exists; the version of the format
  has too many digits; or an escape names no character. -/
  | unreadableNumber
  /-- A scalar with the tag of truth values is none of their words. -/
  | unknownTruth
  /-- A scalar with the tag of timestamps does not have their form. -/
  | noTimestamp
  /-- A mapping with the tag of timestamps gives a text as its value. -/
  | noText
  /-- A number with a fraction to the base sixty has more parts than can be weighed, or an escape
  has a number beyond the machine's. -/
  | tooLarge
deriving DecidableEq, Repr

/-- The faults of texts that are well formed but have a part that stands for nothing. -/
def Fault.ofParts : List Fault :=
  [.numberWithoutDigits, .unreadableNumber, .unknownTruth, .noTimestamp, .noText, .tooLarge]

/-- What is behind an optional value; without one the fault is the given one. -/
def orFault {α : Type} (x : Option α) (fault : Fault := .malformed) : Except Fault α :=
  match x with
  | some a => .ok a
  | none => .error fault

/-! ### Places -/

/-- The rest of a text and the place where it starts. -/
structure Cursor where
  rest : List Char
  index : Nat := 0
  line : Nat := 0
  column : Nat := 0

/-- The characters that end a line. -/
def isBreak (c : Char) : Bool :=
  c == '\n' || c == '\r' || c == '\x85' || c == '\u2028' || c == '\u2029'

/-- The end of a line or of the text. -/
def isLineEnd (c : Char) : Bool :=
  c == '\x00' || isBreak c

/-- What may follow an indicator that stands alone: a blank, or the end of a line or of the text. -/
def isGap (c : Char) : Bool :=
  c == ' ' || c == '\t' || isLineEnd c

namespace Cursor

/-- The character some places ahead. -/
def peek (cursor : Cursor) (offset : Nat := 0) : Char :=
  (cursor.rest[offset]?).getD '\x00'

/-- The place after one character. -/
def next (cursor : Cursor) : Cursor :=
  match cursor.rest with
  | [] => cursor
  | c :: rest =>
    let index := cursor.index + 1
    if isBreak c && !(c == '\r' && rest.head? == some '\n') then
      { rest, index, line := cursor.line + 1, column := 0 }
    else if c == '\ufeff' then
      { rest, index, line := cursor.line, column := cursor.column }
    else
      { rest, index, line := cursor.line, column := cursor.column + 1 }

/-- The place after some characters. -/
def forward (cursor : Cursor) : Nat → Cursor
  | 0 => cursor
  | n + 1 => cursor.next.forward n

/-- The characters of a class at the front, and the place after them. -/
def takeWhile (cursor : Cursor) (p : Char → Bool) : List Char × Cursor :=
  let taken := cursor.rest.takeWhile p
  (taken, cursor.forward taken.length)

/-- The place after the spaces at the front. -/
def skipSpaces (cursor : Cursor) : Cursor :=
  (cursor.takeWhile (· == ' ')).2

/-- The place after the spaces at the front that lie before a column. -/
def skipIndent (cursor : Cursor) (column : Nat) : Cursor :=
  let spaces := (cursor.rest.take (column - cursor.column)).takeWhile (· == ' ')
  cursor.forward spaces.length

/-- The line break at the front in its common form, and the place after it. -/
def lineBreak (cursor : Cursor) : List Char × Cursor :=
  match cursor.rest with
  | '\r' :: '\n' :: _ => (['\n'], cursor.forward 2)
  | c :: _ =>
    if c == '\u2028' || c == '\u2029' then ([c], cursor.forward 1)
    else if isBreak c then (['\n'], cursor.forward 1)
    else ([], cursor)
  | [] => ([], cursor)

/-- Whether a marker of three characters that starts or ends a document is at the front. -/
def atMarker (cursor : Cursor) (marker : String) : Bool :=
  marker.toList.isPrefixOf cursor.rest && isGap (cursor.peek 3)

/-- Whether a document starts or ends at the front. -/
def atSeparator (cursor : Cursor) : Bool :=
  cursor.atMarker "---" || cursor.atMarker "..."

end Cursor

end GridRules.Yaml
