import GridRules.Proofs.Program.Evaluation
import Mathlib.Data.Rat.Floor
import Mathlib.Tactic.Linarith
import Mathlib.Tactic.FieldSimp

/-!
# Division toward zero

The computed quotient of two integers is their exact quotient without its fractional part. The
computed remainder is the only number that makes up the dividend together with a multiple of the
divisor, is smaller than the divisor, and is zero or has the sign of the dividend. This holds for
all signs of the two integers; both computations fail exactly if the divisor is zero.
-/

namespace GridRules.Program

/-! ### Truncation -/

/-- A rational number without its fractional part. -/
def truncation (x : ℚ) : Int :=
  if 0 ≤ x then ⌊x⌋ else ⌈x⌉

theorem truncation_of_nonneg {x : ℚ} (h : 0 ≤ x) : truncation x = ⌊x⌋ :=
  if_pos h

/-- At zero, where the two cases of truncation meet, the floor is the ceiling. -/
theorem truncation_of_nonpos {x : ℚ} (h : x ≤ 0) : truncation x = ⌈x⌉ := by
  rcases h.eq_or_lt with rfl | hlt
  · simp [truncation]
  · exact if_neg hlt.not_ge

/-! ### Exact quotients -/

section Exact

variable {a b quotient remainder : Int}

/-- The exact quotient lies beside the whole one by a fraction of the divisor. -/
theorem IsDivision.div_eq (h : IsDivision a b quotient remainder) :
    (a : ℚ) / b = quotient + remainder / b := by
  have hb : (b : ℚ) ≠ 0 := Int.cast_ne_zero.2 h.ne_zero
  rw [h.eq]
  push_cast
  field_simp

theorem IsDivision.abs_remainder_lt (h : IsDivision a b quotient remainder) :
    |remainder| < |b| := by
  rw [Int.abs_eq_natAbs, Int.abs_eq_natAbs]
  exact_mod_cast h.small

theorem IsDivision.abs_fraction_lt (h : IsDivision a b quotient remainder) :
    |(remainder : ℚ) / b| < 1 := by
  have hb : (0 : ℚ) < |(b : ℚ)| := abs_pos.2 (Int.cast_ne_zero.2 h.ne_zero)
  rw [abs_div, div_lt_one hb]
  exact_mod_cast h.abs_remainder_lt

/-- Two numbers on one side of zero stay on one side when both are divided by the same number. -/
theorem sameSide_div {x y : ℚ} (c : ℚ) (h : 0 ≤ x ∧ 0 ≤ y ∨ x ≤ 0 ∧ y ≤ 0) :
    0 ≤ x / c ∧ 0 ≤ y / c ∨ x / c ≤ 0 ∧ y / c ≤ 0 := by
  rcases h with ⟨hx, hy⟩ | ⟨hx, hy⟩ <;> rcases le_total 0 c with hc | hc
  · exact .inl ⟨div_nonneg hx hc, div_nonneg hy hc⟩
  · exact .inr ⟨div_nonpos_of_nonneg_of_nonpos hx hc, div_nonpos_of_nonneg_of_nonpos hy hc⟩
  · exact .inr ⟨div_nonpos_of_nonpos_of_nonneg hx hc, div_nonpos_of_nonpos_of_nonneg hy hc⟩
  · exact .inl ⟨div_nonneg_of_nonpos hx hc, div_nonneg_of_nonpos hy hc⟩

/-- The quotient of a division is the exact quotient without its fractional part. -/
theorem IsDivision.truncation_eq (h : IsDivision a b quotient remainder) :
    truncation ((a : ℚ) / b) = quotient := by
  obtain ⟨hlow, hhigh⟩ := abs_lt.1 h.abs_fraction_lt
  rcases sameSide_div b (x := a) (y := remainder) (by exact_mod_cast h.side) with
    ⟨hquotient, hfraction⟩ | ⟨hquotient, hfraction⟩
  · rw [truncation_of_nonneg hquotient, Int.floor_eq_iff, h.div_eq]
    constructor <;> linarith
  · rw [truncation_of_nonpos hquotient, Int.ceil_eq_iff, h.div_eq]
    constructor <;> linarith

/-- A division leaves a remainder of zero or of the sign of the dividend. For a dividend of zero
this follows from the size of the remainder, which is then a multiple of the divisor. -/
theorem IsDivision.eq_zero_or_sign_eq (h : IsDivision a b quotient remainder) :
    remainder = 0 ∨ remainder.sign = a.sign := by
  by_cases ha : a = 0
  · have hdvd : b ∣ remainder := ⟨-quotient, by linarith [h.eq]⟩
    exact .inl (Int.eq_zero_of_dvd_of_natAbs_lt_natAbs hdvd h.small)
  · rcases h.side with ⟨hdividend, hside⟩ | ⟨hdividend, hside⟩
    · rcases hside.eq_or_lt with hzero | hpos
      · exact .inl hzero.symm
      · refine .inr ?_
        rw [Int.sign_eq_one_of_pos hpos, Int.sign_eq_one_of_pos (by omega)]
    · rcases hside.eq_or_lt with hzero | hneg
      · exact .inl hzero
      · refine .inr ?_
        rw [Int.sign_eq_neg_one_of_neg hneg, Int.sign_eq_neg_one_of_neg (by omega)]

theorem side_of_sign_eq (h : remainder = 0 ∨ remainder.sign = a.sign) :
    0 ≤ a ∧ 0 ≤ remainder ∨ a ≤ 0 ∧ remainder ≤ 0 := by
  rcases h with rfl | hsign
  · simpa using Int.le_total 0 a
  · rcases Int.le_total 0 a with ha | ha
    · exact .inl ⟨ha, Int.sign_nonneg_iff.1 (hsign ▸ Int.sign_nonneg_iff.2 ha)⟩
    · exact .inr ⟨ha, Int.sign_nonpos_iff.1 (hsign ▸ Int.sign_nonpos_iff.2 ha)⟩

/-- Among the pairs that make up the dividend, a division is told by the size and the sign of its
remainder. -/
theorem isDivision_iff :
    IsDivision a b quotient remainder ↔
      a = b * quotient + remainder ∧ |remainder| < |b| ∧
        (remainder = 0 ∨ remainder.sign = a.sign) := by
  constructor
  · intro h
    exact ⟨h.eq, h.abs_remainder_lt, h.eq_zero_or_sign_eq⟩
  · rintro ⟨heq, hsmall, hsign⟩
    rw [Int.abs_eq_natAbs, Int.abs_eq_natAbs] at hsmall
    exact ⟨heq, by exact_mod_cast hsmall, side_of_sign_eq hsign⟩

end Exact

/-! ### The computed quotient and remainder -/

/-- The outcome is a fault that is reported under the given code. -/
def FailsWith (code : String) (outcome : Except EvalFault Int) : Prop :=
  ∃ fault, outcome = .error fault ∧ fault.failure.code = some code

theorem failsWith_divisionByZero : FailsWith "DIVISION_BY_ZERO" (.error .divisionByZero) :=
  ⟨_, rfl, rfl⟩

theorem not_failsWith_ok (code : String) (value : Int) : ¬ FailsWith code (.ok value) := by
  rintro ⟨fault, h, -⟩
  cases h

/-- Whatever the signs of two integers are, the computed quotient is the exact one without its
fractional part. With the computed remainder it is the only pair that makes up the dividend with a
remainder that is smaller than the divisor and zero or of the sign of the dividend. Both
computations fail exactly if the divisor is zero. -/
theorem division_truncates (a b : Int) :
    (b ≠ 0 →
      truncatedQuotient a b = .ok (truncation ((a : ℚ) / b)) ∧
      ∃ remainder, truncatedRemainder a b = .ok remainder ∧
        ∀ q m : Int, a = b * q + m ∧ |m| < |b| ∧ (m = 0 ∨ m.sign = a.sign) ↔
          q = truncation ((a : ℚ) / b) ∧ m = remainder) ∧
    (FailsWith "DIVISION_BY_ZERO" (truncatedQuotient a b) ↔ b = 0) ∧
    (FailsWith "DIVISION_BY_ZERO" (truncatedRemainder a b) ↔ b = 0) := by
  by_cases hb : b = 0
  · subst hb
    simp [failsWith_divisionByZero]
  · have hdivision := isDivision_tdiv a hb
    rw [truncatedQuotient_of_ne_zero a hb, truncatedRemainder_of_ne_zero a hb,
      hdivision.truncation_eq]
    refine ⟨fun _ => ⟨rfl, a.tmod b, rfl, fun q m => ?_⟩,
      iff_of_false (not_failsWith_ok _ _) hb, iff_of_false (not_failsWith_ok _ _) hb⟩
    rw [← isDivision_iff]
    constructor
    · intro h
      exact ⟨h.unique.1.symm, h.unique.2.symm⟩
    · rintro ⟨rfl, rfl⟩
      exact hdivision

/-- Minus seven halves are minus three, and minus one remains. -/
theorem division_truncates_negative :
    truncatedQuotient (-7) 2 = .ok (-3) ∧ truncatedRemainder (-7) 2 = .ok (-1) ∧
      truncation (((-7 : Int) : ℚ) / (2 : Int)) = -3 ∧
      ∀ q m : Int, -7 = 2 * q + m ∧ |m| < |2| ∧ (m = 0 ∨ m.sign = (-7 : Int).sign) ↔
        q = -3 ∧ m = -1 := by
  obtain ⟨hquotient, remainder, hremainder, hunique⟩ := (division_truncates (-7) 2).1 (by decide)
  have hminusThree : truncatedQuotient (-7) 2 = .ok (-3) := rfl
  have hminusOne : truncatedRemainder (-7) 2 = .ok (-1) := rfl
  have hvalue := Except.ok.inj (hquotient.symm.trans hminusThree)
  obtain rfl := Except.ok.inj (hremainder.symm.trans hminusOne)
  exact ⟨hminusThree, hminusOne, hvalue, fun q m => hvalue ▸ hunique q m⟩

end GridRules.Program
