import GridRules.Decimal.Binary64

/-!
# Sums and products of binary floating-point numbers

The exact sum or product of two finite numbers, rounded to the nearest number. Infinities and what
is no number have the rules of their own.
-/

namespace GridRules.Binary64

/-- The number nearest to `significand * 2 ^ exponent` with the given sign. -/
def ofScaled (negative : Bool) (significand : Nat) (exponent : Int) : Binary64 :=
  if exponent < 0 then ofRatio negative significand (Nat.pow 2 (-exponent).toNat)
  else ofRatio negative (significand * Nat.pow 2 exponent.toNat) 1

/-- The number nearest to a natural number, if there is a finite one. -/
def ofNat? (n : Nat) : Option Binary64 :=
  let x := ofRatio false n 1
  match x.meaning with
  | .finite _ _ _ => some x
  | _ => none

/-- The number of the other sign. -/
def opposite (x : Binary64) : Binary64 :=
  ⟨x.bits ^^^ 0x8000000000000000⟩

/-- The product of two numbers. -/
def product (x y : Binary64) : Binary64 :=
  match x.meaning, y.meaning with
  | .undefined, _ | _, .undefined => notANumber
  | .infinite a, .infinite b => infinity (a != b)
  | .infinite a, .finite b significand _ | .finite a significand _, .infinite b =>
    if significand = 0 then notANumber else infinity (a != b)
  | .finite a m e, .finite b n f => ofScaled (a != b) (m * n) (e + f)

/-- The sum of two numbers. -/
def sum (x y : Binary64) : Binary64 :=
  match x.meaning, y.meaning with
  | .undefined, _ | _, .undefined => notANumber
  | .infinite a, .infinite b => if a = b then infinity a else notANumber
  | .infinite a, _ | _, .infinite a => infinity a
  | .finite a m e, .finite b n f =>
    let least := min e f
    let scaled (negative : Bool) (significand : Nat) (exponent : Int) : Int :=
      let n : Int := significand * Int.pow 2 (exponent - least).toNat
      if negative then -n else n
    let total := scaled a m e + scaled b n f
    if total = 0 then ofFields (a && b) 0 0 else ofScaled (total < 0) total.natAbs least

end GridRules.Binary64
