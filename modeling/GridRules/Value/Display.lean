import GridRules.Decimal.Shortest
import GridRules.Text.Quoted
import GridRules.Text.WholeNumber

/-!
# How messages show values

A message shows a text as it is and any other value in a written form, in which texts are quoted. A
value with a whole number of too many digits in it cannot be shown.
-/

namespace GridRules.Value

/-- Numbers that are not finite are shown by name. -/
def specialTexts : Decimal.SpecialTexts where
  undefined := "nan"
  infinite := "inf"
  negativeInfinite := "-inf"

/-- The written form of parts between brackets. -/
def writtenCall (name : String) (parts : List String) : String :=
  name ++ "(" ++ ", ".intercalate parts ++ ")"

/-- The written form of a day. -/
def writtenDay (d : Day) : String :=
  writtenCall "datetime.date" ([d.year, d.month, d.day].map fun (n : Nat) => toString n)

/-- The written form of a distance from the common clock, in whole days and the seconds above
them. -/
def writtenZone (zone : Int) : String :=
  if zone = 0 then
    "datetime.timezone.utc"
  else
    let days := zone.fdiv Moment.dayMinutes
    let seconds := zone.fmod Moment.dayMinutes * 60
    let part (name : String) (n : Int) : List String :=
      if n = 0 then [] else [name ++ "=" ++ toString n]
    writtenCall "datetime.timezone"
      [writtenCall "datetime.timedelta" (part "days" days ++ part "seconds" seconds)]

/-- The written form of a moment. Seconds and microseconds at the end are left out if they are
zero. -/
def writtenMoment (m : Moment) : String :=
  let fine :=
    if m.microsecond ≠ 0 then [m.second, m.microsecond]
    else if m.second ≠ 0 then [m.second]
    else []
  let numbers := [m.day.year, m.day.month, m.day.day, m.hour, m.minute] ++ fine
  writtenCall "datetime.datetime"
    ((numbers.map fun (n : Nat) => toString n)
      ++ (m.zone.map fun zone => "tzinfo=" ++ writtenZone zone).toList)

mutual

/-- The written form of a value. -/
def written : Value → String
  | .null => "None"
  | .bool b => if b then "True" else "False"
  | .int n => toString n
  | .real x => Decimal.text specialTexts x
  | .text s => Text.quoted s
  | .day d => writtenDay d
  | .moment m => writtenMoment m
  | .bytes data => Text.quotedBytes data
  | .list [] => "[]"
  | .list (item :: items) => "[" ++ item.written ++ writtenItems items ++ "]"
  | .pair first second => "(" ++ first.written ++ ", " ++ second.written ++ ")"
  | .set [] => "set()"
  | .set (member :: members) => "\x7b" ++ member.written ++ writtenItems members ++ "\x7d"
  | .again isMapping => if isMapping then "\x7b...\x7d" else "[...]"
  | .mapping [] => "\x7b\x7d"
  | .mapping ((key, value) :: entries) =>
    "\x7b" ++ key.written ++ ": " ++ value.written ++ writtenEntries entries ++ "\x7d"

/-- The written form of further items. -/
def writtenItems : List Value → String
  | [] => ""
  | item :: items => ", " ++ item.written ++ writtenItems items

/-- The written form of further entries. -/
def writtenEntries : List (Value × Value) → String
  | [] => ""
  | (key, value) :: entries =>
    ", " ++ key.written ++ ": " ++ value.written ++ writtenEntries entries

end

/-- A value as a message shows it: texts, days and moments by their own texts. -/
def shown : Value → String
  | .text s => s
  | .day d => d.text
  | .moment m => m.text
  | value => value.written

mutual

/-- Whether a value holds a whole number with more digits than a decimal number may have. -/
def hasLongNumber : Value → Bool
  | .int n => Text.leastLong ≤ n.natAbs
  | .list items | .set items => haveLongNumber items
  | .pair first second => first.hasLongNumber || second.hasLongNumber
  | .mapping entries => entriesHaveLongNumber entries
  | .null | .bool _ | .real _ | .text _ | .day _ | .moment _ | .bytes _ | .again _ => false

/-- Whether one of some items holds such a number. -/
def haveLongNumber : List Value → Bool
  | [] => false
  | item :: items => item.hasLongNumber || haveLongNumber items

/-- Whether a key or a value of some entries holds such a number. -/
def entriesHaveLongNumber : List (Value × Value) → Bool
  | [] => false
  | (key, value) :: entries =>
    key.hasLongNumber || value.hasLongNumber || entriesHaveLongNumber entries

end

/-- The name of a value's kind. -/
def kindName : Value → String
  | .null => "NoneType"
  | .bool _ => "bool"
  | .int _ => "int"
  | .real _ => "float"
  | .text _ => "str"
  | .day _ => "datetime.date"
  | .moment _ => "datetime.datetime"
  | .bytes _ => "bytes"
  | .list _ => "list"
  | .pair _ _ => "tuple"
  | .set _ => "set"
  | .mapping _ => "dict"
  | .again isMapping => if isMapping then "dict" else "list"

end GridRules.Value
