import GridRules.Proofs.Text.Decimal
import GridRules.Text.Word

/-!
# Characters inside and outside words

Blanks are no word characters, and what starts a name is neither a blank nor a digit. Sets of
characters whose intervals lie apart have no character in common.
-/

namespace GridRules.Text

/-- No interval of one set meets an interval of the other. -/
def Ranges.Apart (ranges others : Ranges) : Prop :=
  ∀ range ∈ ranges, ∀ other ∈ others, range.2 < other.1 ∨ other.2 < range.1

instance (ranges others : Ranges) : Decidable (ranges.Apart others) :=
  inferInstanceAs (Decidable (∀ range ∈ ranges, ∀ other ∈ others, _ ∨ _))

theorem Ranges.Apart.contains_eq_false {ranges others : Ranges} (h : ranges.Apart others) {c : Char}
    (hc : ranges.contains c = true) : others.contains c = false := by
  obtain ⟨range, hrange, hlow, hhigh⟩ := (Ranges.contains_iff _ _).1 hc
  rw [Bool.eq_false_iff, Ne, Ranges.contains_iff]
  rintro ⟨other, hother, hlow', hhigh'⟩
  have hapart := h range hrange other hother
  omega

theorem toNat_of_isAlpha {c : Char} (h : c.isAlpha = true) : 65 ≤ c.toNat ∧ c.toNat ≤ 122 := by
  have hbetween {first last : Char} (h : c.val ≥ first.val ∧ c.val ≤ last.val) :
      first.toNat ≤ c.toNat ∧ c.toNat ≤ last.toNat :=
    h.imp UInt32.le_iff_toNat_le.1 UInt32.le_iff_toNat_le.1
  rcases (Bool.or_eq_true c.isUpper c.isLower).mp h with hupper | hlower
  · have : 65 ≤ c.toNat ∧ c.toNat ≤ 90 := hbetween (of_decide_eq_true hupper)
    omega
  · obtain ⟨hfirst, hlast⟩ := Bool.and_eq_true_iff.1 hlower
    have : 97 ≤ c.toNat ∧ c.toNat ≤ 122 :=
      hbetween ⟨of_decide_eq_true hfirst, of_decide_eq_true hlast⟩
    omega

theorem toNat_of_isNameStart {c : Char} (h : isNameStart c = true) :
    65 ≤ c.toNat ∧ c.toNat ≤ 122 := by
  simp only [isNameStart, Bool.or_eq_true, beq_iff_eq] at h
  rcases h with h | rfl
  · exact toNat_of_isAlpha h
  · decide

/-- Among the ASCII characters those of words are the letters, the digits and the low line. -/
theorem isWord_of_lt {c : Char} (h : c.toNat < 128) : isWord c = (c.isAlphanum || c == '_') := by
  have hletter : Ranges.Apart [(0, 127)] letterNumberRanges := by decide +kernel
  have hplain : Ranges.contains [(0, 127)] c = true := by
    simpa [Ranges.contains] using Nat.le_of_lt_succ h
  rw [isWord, hletter.contains_eq_false hplain, Bool.or_false]

theorem isWord_of_isBlank {c : Char} (h : isBlank c = true) : isWord c = false := by
  have hletter : blankRanges.Apart letterNumberRanges := by decide +kernel
  have hplain : blankRanges.Apart [(48, 122)] := by decide
  have houtside : ¬ (48 ≤ c.toNat ∧ c.toNat ≤ 122) := by
    simpa [Ranges.contains] using hplain.contains_eq_false h
  rw [Bool.eq_false_iff]
  intro hword
  simp only [isWord, hletter.contains_eq_false h, Bool.or_false, Bool.or_eq_true, beq_iff_eq,
    Char.isAlphanum] at hword
  rcases hword with (halpha | hdigit) | rfl
  · have := toNat_of_isAlpha halpha
    omega
  · have := toNat_of_isDigit hdigit
    omega
  · exact absurd (by decide) houtside

theorem isBlank_of_isNameStart {c : Char} (h : isNameStart c = true) : isBlank c = false := by
  rw [Bool.eq_false_iff]
  intro hblank
  exact absurd (isWord_of_isNameStart h) (by simp [isWord_of_isBlank hblank])

theorem isDigit_of_isNameStart {c : Char} (h : isNameStart c = true) : isDigit c = false := by
  have hzeros : ∀ first ∈ zeroDigits, first + 10 ≤ 65 ∨ 122 < first := by decide
  have hrange := toNat_of_isNameStart h
  have hnone : zeroDigits.find? (fun first => first ≤ c.toNat && c.toNat < first + 10) = none := by
    rw [List.find?_eq_none]
    intro first hfirst
    have := hzeros first hfirst
    simp only [Bool.and_eq_true, decide_eq_true_eq]
    omega
  simp [isDigit, digitValue?, hnone]

theorem isDigit_of_isBlank {c : Char} (h : isBlank c = true) : isDigit c = false := by
  have hzeros : ∀ first ∈ zeroDigits, ∀ range ∈ blankRanges,
      first + 10 ≤ range.1 ∨ range.2 < first := by decide +kernel
  obtain ⟨range, hrange, hlow, hhigh⟩ := (Ranges.contains_iff _ _).1 h
  have hnone : zeroDigits.find? (fun first => first ≤ c.toNat && c.toNat < first + 10) = none := by
    rw [List.find?_eq_none]
    intro first hfirst
    have := hzeros first hfirst range hrange
    simp only [Bool.and_eq_true, decide_eq_true_eq]
    omega
  simp [isDigit, digitValue?, hnone]

end GridRules.Text
