import GridRules.Decimal.Binary64

/-!
# Shortest decimals

A binary floating-point number is written with the fewest decimal digits that read back as the same
number; of several such decimals the nearest to the number is taken. Decimals of moderate size are
written with a point, the others with a power of ten.
-/

namespace GridRules.Decimal

/-- A decimal number `digits * 10 ^ exponent`. -/
structure Numeral where
  digits : Nat
  exponent : Int
deriving DecidableEq, Repr

/-- A power of ten as a quotient. -/
def powerOfTen (exponent : Int) : Nat × Nat :=
  if exponent < 0 then (1, Nat.pow 10 (-exponent).toNat) else (Nat.pow 10 exponent.toNat, 1)

/-- A positive number with the interval of numbers that round to it, all in quarters of the unit
`num / den` of its last binary digit. -/
structure Rounding where
  value : Nat
  low : Nat
  high : Nat
  closed : Bool
  num : Nat
  den : Nat

/-- The rounding interval of `significand * 2 ^ exponent`. The gap below a power of two is half as
wide as that above, unless the exponent is the least one. -/
def Rounding.of (significand : Nat) (exponent : Int) : Rounding where
  value := 4 * significand
  low := 4 * significand
    - (if significand = Nat.pow 2 52 ∧ exponent ≠ Binary64.leastExponent then 1 else 2)
  high := 4 * significand + 2
  closed := significand % 2 == 0
  num := if exponent < 0 then 1 else Nat.pow 2 exponent.toNat
  den := 4 * (if exponent < 0 then Nat.pow 2 (-exponent).toNat else 1)

namespace Rounding

/-- Whether a decimal lies in the interval. -/
def holds (interval : Rounding) (decimal : Numeral) : Bool :=
  let (num, den) := powerOfTen decimal.exponent
  let candidate := decimal.digits * num * interval.den
  let low := interval.low * interval.num * den
  let high := interval.high * interval.num * den
  if interval.closed then low ≤ candidate && candidate ≤ high
  else low < candidate && candidate < high

/-- The number as a multiple of a power of ten, rounded down, and whether the next multiple is
nearer. -/
def onGrid (interval : Rounding) (exponent : Int) : Nat × Bool :=
  let (num, den) := powerOfTen exponent
  let dividend := interval.value * interval.num * den
  let divisor := interval.den * num
  (dividend / divisor, divisor < 2 * (dividend % divisor))

/-- The number of digits before the decimal point; zero or less for a number below one tenth. -/
def magnitude (interval : Rounding) : Int :=
  let whole := interval.value * interval.num / interval.den
  if 0 < whole then
    (Nat.toDigits 10 whole).length
  else
    let zeros := (List.range 330).find? fun zeros =>
      interval.den ≤ interval.value * interval.num * Nat.pow 10 (zeros + 1)
    Int.negOfNat (zeros.getD 0)

/-- A decimal of the interval on the grid of a power of ten: the nearer of the two neighbours, if
both lie in the interval. -/
def candidate? (interval : Rounding) (exponent : Int) : Option Numeral :=
  let (below, aboveIsNearer) := interval.onGrid exponent
  let low : Numeral := ⟨below, exponent⟩
  let high : Numeral := ⟨below + 1, exponent⟩
  match 0 < below && interval.holds low, interval.holds high with
  | true, true => some (if aboveIsNearer then high else low)
  | true, false => some low
  | false, true => some high
  | false, false => none

/-- The shortest decimal of the interval; with seventeen digits there always is one. -/
def shortest (interval : Rounding) : Numeral :=
  let magnitude := interval.magnitude
  let found := (List.range 17).findSome? fun extra =>
    interval.candidate? (magnitude - (extra + 1 : Nat))
  found.getD ⟨(interval.onGrid (magnitude - 17)).1, magnitude - 17⟩

end Rounding

/-- The decimal without zeros at its end, at most `fuel` of them. -/
def trimmed (fuel : Nat) (decimal : Numeral) : Numeral :=
  match fuel with
  | 0 => decimal
  | fuel + 1 =>
    if decimal.digits % 10 = 0 ∧ decimal.digits ≠ 0 then
      trimmed fuel ⟨decimal.digits / 10, decimal.exponent + 1⟩
    else
      decimal

/-- The written form of a positive decimal: with a point from 10⁻⁴ up to below 10¹⁶, otherwise with
a signed power of ten of at least two digits. -/
def Numeral.text (decimal : Numeral) : String :=
  let digits := Nat.toDigits 10 decimal.digits
  let point : Int := digits.length + decimal.exponent
  if -4 < point ∧ point ≤ 16 then
    if point ≤ 0 then
      String.ofList ("0.".toList ++ List.replicate (-point).toNat '0' ++ digits)
    else if digits.length ≤ point.toNat then
      String.ofList (digits ++ List.replicate (point.toNat - digits.length) '0' ++ ".0".toList)
    else
      String.ofList (digits.take point.toNat ++ '.' :: digits.drop point.toNat)
  else
    let power := point - 1
    let powerDigits := Nat.toDigits 10 power.natAbs
    let fraction := digits.drop 1
    String.ofList
      (digits.take 1 ++ (if fraction.isEmpty then [] else '.' :: fraction)
        ++ ['e', if power < 0 then '-' else '+']
        ++ List.replicate (2 - powerDigits.length) '0' ++ powerDigits)

/-- The texts of the values that are no finite numbers. -/
structure SpecialTexts where
  undefined : String
  infinite : String
  negativeInfinite : String

/-- The written form of a binary floating-point number. -/
def text (special : SpecialTexts) (x : Binary64) : String :=
  match x.meaning with
  | .undefined => special.undefined
  | .infinite negative => if negative then special.negativeInfinite else special.infinite
  | .finite negative significand exponent =>
    let magnitude :=
      if significand = 0 then "0.0"
      else (trimmed 20 (Rounding.of significand exponent).shortest).text
    if negative then "-" ++ magnitude else magnitude

end GridRules.Decimal
