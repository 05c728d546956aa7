import GridRules.Decimal.Reading
import GridRules.Text.Base64
import GridRules.Text.WholeNumber
import GridRules.Value
import GridRules.Yaml.Cursor
import GridRules.Yaml.Tag

/-!
# Values of YAML scalars

What the text of a scalar stands for under a tag. A tag that is written may stand on a text that
does not have its form; the text is then read as far as the rules for its value go.
-/

namespace GridRules.Yaml

/-- The text of a number without low lines, with the sign at its front taken off. -/
def signedDigits (text : String) : Except Fault (Bool × List Char) :=
  match text.toList.filter (· != '_') with
  | [] => .error .numberWithoutDigits
  | '-' :: rest => .ok (true, rest)
  | rest => .ok (false, dropSign rest)

/-- The sum of parts to the base sixty. -/
def sixtiesSum (parts : List Int) : Int :=
  parts.foldl (fun value part => value * 60 + part) 0

/-- The whole number that a text stands for. -/
def wholeValue (text : String) : Except Fault Int := do
  let (negative, digits) ← signedDigits text
  let magnitude? : Option Int :=
    match digits with
    | ['0'] => some 0
    | '0' :: 'b' :: digits => Text.wholeNumberIn? 2 digits
    | '0' :: 'x' :: digits => Text.wholeNumberIn? 16 digits
    | '0' :: _ => Text.wholeNumberIn? 8 digits
    | digits =>
      if digits.contains ':' then
        ((colonParts digits).mapM fun part =>
          Text.wholeNumber? (String.ofList part)).map sixtiesSum
      else
        Text.wholeNumber? (String.ofList digits)
  if digits.isEmpty then
    throw .numberWithoutDigits
  let magnitude ← orFault magnitude? .unreadableNumber
  return if negative then -magnitude else magnitude

/-- The sum of parts to the base sixty, the last part first, each sum and product rounded. -/
def sixtiesRealSum (sum : Binary64) (base : Nat) : List Binary64 → Except Fault Binary64
  | [] => .ok sum
  | part :: parts => do
    let factor ← orFault (Binary64.ofNat? base) .tooLarge
    sixtiesRealSum (sum.sum (part.product factor)) (base * 60) parts

/-- The number with a fraction that a text stands for. -/
def realValue (text : String) : Except Fault Binary64 := do
  let (negative, digits) ← signedDigits text
  let digits := digits.map Char.toLower
  let sign (x : Binary64) : Binary64 := if negative then x.opposite else x
  match String.ofList digits with
  | ".inf" => return Binary64.infinity negative
  | ".nan" => return Binary64.notANumber
  | _ =>
    if digits.contains ':' then
      let parts ← (colonParts digits).mapM fun part =>
        orFault (Decimal.read? part) .unreadableNumber
      return sign (← sixtiesRealSum (Binary64.ofFields false 0 0) 1 parts.reverse)
    else
      return sign (← orFault (Decimal.read? digits) .unreadableNumber)

/-- The truth value that a word stands for, without regard to case. -/
def truthValue (text : String) : Except Fault Bool :=
  match text.toLower with
  | "yes" | "true" | "on" => .ok true
  | "no" | "false" | "off" => .ok false
  | _ => .error .unknownTruth

/-- The microseconds that the digits behind the point of a second stand for. -/
def microseconds (fraction : List Char) : Nat :=
  let digits := fraction.take 6
  Text.decimalValue (digits ++ List.replicate (6 - digits.length) '0')

/-- The minutes from the common clock that the parts of a zone stand for. -/
def zoneMinutes : Option (Char × List Char × List Char) → Int
  | none => 0
  | some (sign, hours, minutes) =>
    let distance : Int := (60 * Text.decimalValue hours + Text.decimalValue minutes : Nat)
    if sign == '-' then -distance else distance

/-- The day or the moment that a text stands for. -/
def timestampValue (text : String) : Except Fault Value := do
  let parts ← orFault (timestampParts? (dropFinalBreak text.toList)) .noTimestamp
  let number := Text.decimalValue
  let day ← orFault (Day.of? (number parts.year) (number parts.month) (number parts.day))
    .unreadableNumber
  match parts.time with
  | none => return .day day
  | some (hour, minute, second, fraction) =>
    let moment : Moment :=
      { day, hour := number hour, minute := number minute, second := number second,
        microsecond := microseconds fraction, zone := parts.zone.map zoneMinutes }
    if moment.isValid then return .moment moment else throw .unreadableNumber

/-- The bytes that a text stands for; it consists of characters of the ASCII alphabet. -/
def binaryValue (text : String) : Except Fault Value :=
  if text.toList.all fun c => c.toNat < 0x80 then
    (orFault (Text.Base64.read? text.toList) .malformed).map .bytes
  else
    .error .malformed

/-- The value of the text of a scalar under a tag. -/
def scalarValue (tag : Tag) (text : String) : Except Fault Value :=
  match tag with
  | .null => .ok .null
  | .bool => (truthValue text).map .bool
  | .int => (wholeValue text).map .int
  | .float => (realValue text).map .real
  | .timestamp => timestampValue text
  | .binary => binaryValue text
  | .text => .ok (.text text)
  | _ => .error .malformed

end GridRules.Yaml
