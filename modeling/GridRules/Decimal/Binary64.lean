import GridRules.Value

/-!
# Binary floating-point numbers

What the 64 bits of a number mean, and the number nearest to a quotient of natural numbers. All
arithmetic is on natural numbers and exact.
-/

namespace GridRules.Binary64

/-- The meaning of 64 bits: a sign with a significand and an exponent of two, or no finite number.
-/
inductive Meaning where
  | finite (negative : Bool) (significand : Nat) (exponent : Int)
  | infinite (negative : Bool)
  | undefined
deriving DecidableEq, Repr

/-- The least exponent of two. -/
def leastExponent : Int := -1074

/-- The meaning of a number's bits. -/
def meaning (x : Binary64) : Meaning :=
  let bits := x.bits.toNat
  let negative := bits / Nat.pow 2 63 == 1
  let exponent := bits / Nat.pow 2 52 % Nat.pow 2 11
  let fraction := bits % Nat.pow 2 52
  if exponent = 2047 then (if fraction = 0 then .infinite negative else .undefined)
  else if exponent = 0 then .finite negative fraction leastExponent
  else .finite negative (Nat.pow 2 52 + fraction) (leastExponent + (exponent - 1 : Nat))

/-- The number with the given sign, biased exponent and fraction. -/
def ofFields (negative : Bool) (exponent fraction : Nat) : Binary64 :=
  ⟨UInt64.ofNat ((if negative then Nat.pow 2 63 else 0) + exponent * Nat.pow 2 52 + fraction)⟩

/-- The infinity of a sign. -/
def infinity (negative : Bool) : Binary64 :=
  ofFields negative 2047 0

/-- The value that is no number. -/
def notANumber : Binary64 :=
  ofFields false 2047 (Nat.pow 2 51)

/-- The quotient rounded to the nearest natural number, a half to the even one. -/
def roundedQuotient (num den : Nat) : Nat :=
  let q := num / den
  let r := num % den
  if 2 * r < den then q
  else if den < 2 * r then q + 1
  else q + q % 2

/-- A natural number rounded to 53 binary digits. -/
def rounded (n : Nat) : Nat :=
  let unit := Nat.pow 2 (Nat.log2 n + 1 - 53)
  roundedQuotient n unit * unit

/-- The number nearest to `num / den` with the given sign; of two equally near ones that with an
even significand. A quotient beyond the largest number gives the infinity. -/
def ofRatio (negative : Bool) (num den : Nat) : Binary64 :=
  if num = 0 then
    ofFields negative 0 0
  else
    -- the exponent at which the quotient has 53 binary digits, or one less than that
    let estimate : Int := (Nat.log2 num : Int) - Nat.log2 den - 53
    let scaled (exponent : Int) : Nat × Nat :=
      if exponent < 0 then (num * Nat.pow 2 (-exponent).toNat, den)
      else (num, den * Nat.pow 2 exponent.toNat)
    let fits (exponent : Int) : Bool :=
      let (n, d) := scaled exponent
      n / d < Nat.pow 2 53
    let exponent := if fits estimate then estimate else estimate + 1
    let exponent := max leastExponent exponent
    let (n, d) := scaled exponent
    let significand := roundedQuotient n d
    let (significand, exponent) :=
      if significand = Nat.pow 2 53 then (Nat.pow 2 52, exponent + 1) else (significand, exponent)
    let biased := (exponent - leastExponent).toNat + 1
    if 2047 ≤ biased then infinity negative
    else if significand < Nat.pow 2 52 then ofFields negative 0 significand
    else ofFields negative biased (significand - Nat.pow 2 52)

/-- The number nearest to `digits * 10 ^ exponent`. Exponents far outside the range are not worked
out. -/
def ofDecimal (negative : Bool) (digits : Nat) (exponent : Int) : Binary64 :=
  let size : Int := (Nat.toDigits 10 digits).length + exponent
  if digits = 0 ∨ size < -400 then ofFields negative 0 0
  else if 400 < size then infinity negative
  else if exponent < 0 then ofRatio negative digits (Nat.pow 10 (-exponent).toNat)
  else ofRatio negative (digits * Nat.pow 10 exponent.toNat) 1

/-- How a number lies to a whole number, if it can be compared. -/
def compareInt? (x : Binary64) (n : Int) : Option Ordering :=
  match x.meaning with
  | .undefined => none
  | .infinite negative => some (if negative then .lt else .gt)
  | .finite negative significand exponent =>
    let signed : Int := if negative then -significand else significand
    if exponent < 0 then some (compare signed (n * Int.pow 2 (-exponent).toNat))
    else some (compare (signed * Int.pow 2 exponent.toNat) n)

/-- How two numbers lie to each other, if they can be compared. -/
def compare? (x y : Binary64) : Option Ordering :=
  match x.meaning, y.meaning with
  | .undefined, _ | _, .undefined => none
  | .infinite a, .infinite b => some (if a = b then .eq else if a then .lt else .gt)
  | .infinite a, _ => some (if a then .lt else .gt)
  | _, .infinite b => some (if b then .gt else .lt)
  | .finite a m e, .finite b n f =>
    let scaled (negative : Bool) (significand : Nat) (exponent : Int) : Int :=
      let n : Int := significand * Int.pow 2 (exponent - min e f).toNat
      if negative then -n else n
    some (compare (scaled a m e) (scaled b n f))

/-- Whether a number is zero, of either sign. -/
def isZero (x : Binary64) : Bool :=
  x.compareInt? 0 == some .eq

/-- The greatest whole number that is not above a number, if there is one. -/
def floor? (x : Binary64) : Option Int :=
  match x.meaning with
  | .finite negative significand exponent =>
    let signed : Int := if negative then -significand else significand
    if exponent < 0 then some (signed.fdiv (Int.pow 2 (-exponent).toNat))
    else some (signed * Int.pow 2 exponent.toNat)
  | _ => none

end GridRules.Binary64
