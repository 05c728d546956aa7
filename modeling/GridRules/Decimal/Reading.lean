import GridRules.Decimal.Arithmetic
import GridRules.Text.Classes

/-!
# Reading binary floating-point numbers

A number is written with digits, an optional point, an optional power of ten and an optional sign,
or by the name of what is no finite number. Digits may be those of any script, and blanks may stand
around the number. The value is the nearest binary floating-point number.
-/

namespace GridRules.Decimal

/-- The names of infinity and of what is no number, without regard to case. -/
def named? (text : List Char) : Option Binary64 :=
  match String.ofList (text.map Char.toLower) with
  | "inf" | "infinity" => some (Binary64.infinity false)
  | "nan" => some Binary64.notANumber
  | _ => none

/-- The power of ten behind the digits of a number. -/
def power? : List Char → Option Int
  | [] => some 0
  | e :: rest =>
    let (negative, digits) :=
      match rest with
      | '-' :: digits => (true, digits)
      | '+' :: digits => (false, digits)
      | digits => (false, digits)
    if (e == 'e' || e == 'E') && !digits.isEmpty && digits.all Text.isDigit then
      let n : Int := Text.decimalValue digits
      some (if negative then -n else n)
    else
      none

/-- The number that a text without sign writes. -/
def magnitude? (text : List Char) : Option Binary64 :=
  (named? text).orElse fun _ => do
    let whole := text.takeWhile Text.isDigit
    let (fraction, rest) :=
      match text.dropWhile Text.isDigit with
      | '.' :: rest => (rest.takeWhile Text.isDigit, rest.dropWhile Text.isDigit)
      | rest => ([], rest)
    let power ← power? rest
    if whole.isEmpty && fraction.isEmpty then
      none
    return Binary64.ofDecimal false (Text.decimalValue (whole ++ fraction))
      (power - fraction.length)

/-- The number that a text writes. -/
def read? (text : List Char) : Option Binary64 :=
  match Text.trimPadding text with
  | '-' :: rest => (magnitude? rest).map Binary64.opposite
  | '+' :: rest => magnitude? rest
  | rest => magnitude? rest

end GridRules.Decimal
