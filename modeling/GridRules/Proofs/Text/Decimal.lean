import GridRules.Text.WholeNumber
import Mathlib.Data.List.Basic

/-!
# Decimal texts of whole numbers

The decimal text of a natural number consists of digits and is read back as the number. It has at
most as many digits as reading allows exactly if the number is below a power of ten.
-/

namespace GridRules.Text

theorem toNat_of_isDigit {c : Char} (h : c.isDigit = true) : 48 ≤ c.toNat ∧ c.toNat ≤ 57 := by
  simpa [Char.isDigit, Char.le_def, UInt32.le_iff_toNat_le] using h

theorem isBlank_of_isDigit {c : Char} (h : c.isDigit = true) : isBlank c = false := by
  have hrange := toNat_of_isDigit h
  rw [Bool.eq_false_iff, Ne, isBlank, Ranges.contains_iff]
  rintro ⟨range, hmem, hle⟩
  simp only [blankRanges, List.mem_cons, List.not_mem_nil, or_false] at hmem
  rcases hmem with rfl | rfl | rfl | rfl | rfl | rfl | rfl | rfl | rfl | rfl <;> omega

theorem digitValue?_of_isDigit {c : Char} (h : c.isDigit = true) :
    digitValue? c = some (c.toNat - 48) := by
  have hrange := toNat_of_isDigit h
  have hfind : zeroDigits.find? (fun first => first ≤ c.toNat && c.toNat < first + 10) =
      some 48 := by
    simp only [zeroDigits, List.find?_cons]
    simp [hrange.1, show c.toNat < 58 by omega]
  simp [digitValue?, hfind]

theorem isDigit_of_isDigit {c : Char} (h : c.isDigit = true) : isDigit c = true := by
  simp [isDigit, digitValue?_of_isDigit h]

theorem decimalValue_of_isDigit {digits : List Char} (h : ∀ c ∈ digits, c.isDigit = true) :
    decimalValue digits = Nat.ofDigitChars 10 digits 0 := by
  rw [Nat.ofDigitChars, decimalValue]
  refine List.foldl_ext _ _ 0 ?_
  intro value c hc
  simp [digitValue?_of_isDigit (h c hc)]

theorem isDigit_of_mem_repr {n : Nat} {c : Char} (h : c ∈ n.repr.toList) : c.isDigit = true := by
  rw [Nat.toList_repr] at h
  exact Nat.isDigit_of_mem_toDigits (by omega) (by omega) h

/-- The decimal text of a whole number consists of digits and a minus sign. -/
theorem notMem_toString {c : Char} (hdigit : c.isDigit = false) (hminus : c ≠ '-') (n : Int) :
    c ∉ (toString n).toList := by
  have hdigits (n : Nat) : c ∉ n.repr.toList := fun hmem => by
    simp [isDigit_of_mem_repr hmem] at hdigit
  rw [Int.toString_eq_repr, Int.repr_eq_if]
  split
  · exact hdigits _
  · rw [String.toList_append, List.mem_append]
    exact not_or.2 ⟨by simpa using hminus, hdigits _⟩

theorem newline_notMem_toString (n : Int) : '\n' ∉ (toString n).toList :=
  notMem_toString (by decide) (by decide) n

/-- The decimal text of a natural number is read back as the number. -/
theorem decimalValue_repr (n : Nat) : decimalValue n.repr.toList = n := by
  rw [decimalValue_of_isDigit fun c hc => isDigit_of_mem_repr hc, Nat.toList_repr,
    Nat.ofDigitChars_ten_toDigits]

theorem length_repr_le_mostDigits {n : Nat} : n.repr.length ≤ mostDigits ↔ n < leastLong := by
  have hpow (length : Nat) (h : 0 < length) : n.repr.length ≤ length ↔ n < Nat.pow 10 length :=
    Nat.length_repr_le_iff h
  unfold leastLong
  exact hpow mostDigits (by decide)

theorem lt_leastLong_of_length_le {n length : Nat} (hlength : length ≤ mostDigits)
    (h : n < Nat.pow 10 length) : n < leastLong := by
  have hpow (most : Nat) (hle : length ≤ most) : Nat.pow 10 length ≤ Nat.pow 10 most :=
    Nat.pow_le_pow_right (by decide) hle
  unfold leastLong
  exact Nat.lt_of_lt_of_le h (hpow mostDigits hlength)

theorem lt_leastLong_of_le_pow {n : Nat} (h : n ≤ Nat.pow 2 63) : n < leastLong :=
  lt_leastLong_of_length_le (show 63 ≤ mostDigits by decide)
    (Nat.lt_of_le_of_lt h (Nat.pow_lt_pow_left (show 2 < 10 by decide) (by decide)))

theorem lt_leastLong_of_lt_ten {n : Nat} (h : n < 10) : n < leastLong :=
  lt_leastLong_of_length_le (show 1 ≤ mostDigits by decide) h

theorem wholeNumberText?_of_lt {n : Int} (h : n.natAbs < leastLong) :
    wholeNumberText? n = some (toString n) :=
  if_pos h

theorem wholeNumberText?_of_le {n : Int} (h : leastLong ≤ n.natAbs) : wholeNumberText? n = none :=
  if_neg (Nat.not_lt.2 h)

end GridRules.Text
