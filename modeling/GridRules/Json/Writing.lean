import GridRules.Value.Display

/-!
# Writing JSON

The written form of a value that a reader can look at: entries and items stand on lines of their
own, two blanks deeper than what they belong to. Characters beyond the ASCII alphabet are written as
they are. Days, moments, bytes and sets are no values of JSON; where one is to be shown all the same
it is shown as a text. Writing ends where a part of the value cannot be written.
-/

namespace GridRules.Json

/-- Numbers that are not finite have names of their own. -/
def specialTexts : Decimal.SpecialTexts where
  undefined := "NaN"
  infinite := "Infinity"
  negativeInfinite := "-Infinity"

/-- The written form of a character in a string. -/
def escapedCharacter (c : Char) : List Char :=
  if c == '"' then ['\\', '"']
  else if c == '\\' then ['\\', '\\']
  else if c == '\n' then ['\\', 'n']
  else if c == '\r' then ['\\', 'r']
  else if c == '\t' then ['\\', 't']
  else if c == '\x08' then ['\\', 'b']
  else if c == '\x0c' then ['\\', 'f']
  else if c.toNat < 0x20 then
    '\\' :: 'u' :: '0' :: '0' :: [Nat.digitChar (c.toNat / 16), Nat.digitChar (c.toNat % 16)]
  else [c]

/-- The written form of a string. -/
def stringText (s : String) : String :=
  String.ofList ('"' :: s.toList.flatMap escapedCharacter ++ ['"'])

/-- The written form of a value without parts. -/
def scalarText : Value → String
  | .null => "null"
  | .bool b => if b then "true" else "false"
  | .int n => toString n
  | .real x => Decimal.text specialTexts x
  | .text s => stringText s
  | value => stringText value.shown

/-- The key of an entry: a text, or the written form of another value without parts. -/
def keyText : Value → String
  | .text s => stringText s
  | key => stringText (scalarText key)

/-- A line feed and the blanks of a nesting level. -/
def lineStart (level : Nat) : String :=
  String.ofList ('\n' :: List.replicate (2 * level) ' ')

/-! ### Texts that end early -/

/-- The reasons for which a value is not written in full: a part is no value of JSON, or a whole
number has too many digits. -/
inductive WritingFault where
  | noJson
  | longNumber
deriving DecidableEq, Repr

/-- A text as far as it was written, and the fault that ended it, if one did. -/
structure Written where
  text : String
  fault : Option WritingFault := none

/-- A text that was written with another one behind it. Nothing is written behind a fault. -/
def Written.andThen (first rest : Written) : Written :=
  match first.fault with
  | none => { text := first.text ++ rest.text, fault := rest.fault }
  | some _ => first

/-- Nothing is written of what is at fault. -/
def Written.ended (fault : WritingFault) : Written :=
  { text := "", fault }

/-- A value without parts, as it is written. -/
def writeScalar : Value → Written
  | .int n => if n.natAbs < Text.leastLong then { text := toString n } else .ended .longNumber
  | .day _ | .moment _ | .bytes _ | .set _ | .again _ => .ended .noJson
  | scalar => { text := scalarText scalar }

/-- What stands before an item. A number with too many digits takes it along. -/
def writeBefore (before : String) : Value → Written
  | .int n => if n.natAbs < Text.leastLong then { text := before } else .ended .longNumber
  | _ => { text := before }

/-- A key, with what stands before it and the colon behind it. -/
def writeKey (before : String) (key : Value) : Written :=
  let written : Written := { text := before ++ keyText key ++ ": " }
  match key with
  | .null | .bool _ | .real _ | .text _ => written
  | .int n => if n.natAbs < Text.leastLong then written else .ended .longNumber
  | _ => .ended .noJson

mutual

/-- A value as it is written at a nesting level. -/
def write (level : Nat) : Value → Written
  | .list [] => { text := "[]" }
  | .list (item :: items) =>
    ((writeBefore ("[" ++ lineStart (level + 1)) item).andThen (write (level + 1) item)).andThen
      ((writeItems (level + 1) items).andThen { text := lineStart level ++ "]" })
  | .pair first second =>
    ((writeBefore ("[" ++ lineStart (level + 1)) first).andThen (write (level + 1) first)).andThen
      (((writeBefore ("," ++ lineStart (level + 1)) second).andThen
        (write (level + 1) second)).andThen { text := lineStart level ++ "]" })
  | .mapping [] => { text := "\x7b\x7d" }
  | .mapping ((key, value) :: entries) =>
    Written.andThen { text := "\x7b" ++ lineStart (level + 1) }
      (((writeKey "" key).andThen (write (level + 1) value)).andThen
        ((writeEntries (level + 1) entries).andThen { text := lineStart level ++ "\x7d" }))
  | scalar => writeScalar scalar

/-- Further items of a list as they are written. -/
def writeItems (level : Nat) : List Value → Written
  | [] => { text := "" }
  | item :: items =>
    ((writeBefore ("," ++ lineStart level) item).andThen (write level item)).andThen
      (writeItems level items)

/-- Further entries of an object as they are written. -/
def writeEntries (level : Nat) : List (Value × Value) → Written
  | [] => { text := "" }
  | (key, value) :: entries =>
    ((writeKey ("," ++ lineStart level) key).andThen (write level value)).andThen
      (writeEntries level entries)

end

/-- The JSON text of a value. -/
def text (value : Value) : Written :=
  write 0 value

end GridRules.Json
