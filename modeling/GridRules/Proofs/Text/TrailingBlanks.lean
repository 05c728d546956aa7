import GridRules.Proofs.Text.Lines
import Mathlib.Data.List.DropRight
import Mathlib.Data.List.GetD

/-!
# Blanks at the ends of texts

Beyond the end of a line a text shows spaces, and beyond its last line it shows empty lines. So two
texts show the same characters at all places exactly if they become equal when the spaces at the
ends of their lines, and then the empty lines at their ends, are left out.
-/

namespace GridRules.Text

/-! ### Items at the end of a list -/

section Items

variable {α : Type*} {blank : α} {items others : List α}

theorem getD_concat_blank (items : List α) (i : Nat) :
    (items ++ [blank]).getD i blank = items.getD i blank := by
  rcases lt_or_ge i items.length with hlt | hge
  · exact List.getD_append _ _ _ _ hlt
  · rw [List.getD_append_right _ _ _ _ hge, List.getD_eq_default _ _ hge]
    cases i - items.length <;> rfl

theorem length_le_of_getD_eq (hothers : others.getLast? ≠ some blank)
    (h : ∀ i, items.getD i blank = others.getD i blank) : others.length ≤ items.length := by
  by_contra hlonger
  -- At the place of the last item of the longer list the shorter one shows a blank.
  have hlast : others.length - 1 < others.length := by omega
  have hblank := h (others.length - 1)
  rw [List.getD_eq_default _ _ (by omega), List.getD_eq_getElem _ _ hlast] at hblank
  exact hothers (by rw [List.getLast?_eq_getElem?, List.getElem?_eq_getElem hlast, hblank])

/-- Lists that do not end in a blank are equal if they agree at all places, with blanks beyond their
ends. -/
theorem eq_of_getD_eq (hitems : items.getLast? ≠ some blank)
    (hothers : others.getLast? ≠ some blank)
    (h : ∀ i, items.getD i blank = others.getD i blank) : items = others := by
  have hlength : items.length = others.length :=
    le_antisymm (length_le_of_getD_eq hitems fun i => (h i).symm) (length_le_of_getD_eq hothers h)
  refine List.ext_getElem hlength ?_
  intro i hi hi'
  rw [← List.getD_eq_getElem items blank hi, ← List.getD_eq_getElem others blank hi', h]

variable [DecidableEq α]

/-- The items up to the last one that is not blank. -/
def withoutTrailing (blank : α) (items : List α) : List α :=
  items.rdropWhile (· = blank)

theorem withoutTrailing_of_getLast?_ne (h : items.getLast? ≠ some blank) :
    withoutTrailing blank items = items := by
  rw [withoutTrailing, List.rdropWhile_eq_self_iff]
  intro hne
  simpa [List.getLast?_eq_some_getLast hne] using h

theorem getLast?_withoutTrailing_ne : (withoutTrailing blank items).getLast? ≠ some blank := by
  intro hlast
  have hne : withoutTrailing blank items ≠ [] := by
    rintro hnil
    rw [hnil] at hlast
    cases hlast
  have hblank := (List.getLast_eq_iff_getLast?_eq_some hne).2 hlast
  exact List.rdropWhile_last_not _ items hne (decide_eq_true hblank)

/-- Leaving out blanks at the end changes no place, with blanks beyond the end. -/
theorem getD_withoutTrailing (items : List α) (i : Nat) :
    (withoutTrailing blank items).getD i blank = items.getD i blank := by
  induction items using List.reverseRecOn with
  | nil => rfl
  | append_singleton items last ih =>
      by_cases hlast : last = blank
      · subst hlast
        rw [withoutTrailing, List.rdropWhile_concat_pos _ _ _ (by simp), getD_concat_blank]
        exact ih
      · rw [withoutTrailing, List.rdropWhile_concat_neg _ _ _ (by simpa using hlast)]

theorem withoutTrailing_eq_iff : withoutTrailing blank items = withoutTrailing blank others ↔
    ∀ i, items.getD i blank = others.getD i blank := by
  constructor
  · intro heq i
    rw [← getD_withoutTrailing items, heq, getD_withoutTrailing]
  · intro h
    refine eq_of_getD_eq getLast?_withoutTrailing_ne getLast?_withoutTrailing_ne ?_
    intro i
    rw [getD_withoutTrailing, getD_withoutTrailing, h]

end Items

/-! ### Texts -/

/-- The character that a text shows at a place. -/
def shownAt (text : String) (row col : Nat) : Char :=
  ((lines text.toList).getD row []).getD col ' '

/-- The lines of a text without the spaces at their ends, up to the last line that is not empty
then. -/
def trimmedLines (text : String) : List (List Char) :=
  withoutTrailing [] ((lines text.toList).map (withoutTrailing ' '))

/-- The text without the spaces at the ends of its lines and then without the empty lines at its
end. -/
def withoutTrailingBlanks (text : String) : String :=
  String.ofList (unlines (trimmedLines text))

theorem newline_notMem_of_mem_trimmedLines {text : String} {line : List Char}
    (h : line ∈ trimmedLines text) : '\n' ∉ line := by
  obtain ⟨whole, hwhole, rfl⟩ := List.mem_map.1 ((List.rdropWhile_prefix _ _).subset h)
  exact fun hmem => newline_notMem_of_mem_lines hwhole ((List.rdropWhile_prefix _ _).subset hmem)

/-- The trimmed lines are found again in the text that they make up. -/
theorem withoutTrailing_lines_unlines (text : String) :
    withoutTrailing [] (lines (unlines (trimmedLines text))) = trimmedLines text := by
  by_cases hempty : trimmedLines text = []
  · rw [hempty]
    rfl
  · rw [lines_unlines hempty fun _ => newline_notMem_of_mem_trimmedLines]
    exact withoutTrailing_of_getLast?_ne getLast?_withoutTrailing_ne

theorem withoutTrailingBlanks_inj {text other : String} :
    withoutTrailingBlanks text = withoutTrailingBlanks other ↔
      trimmedLines text = trimmedLines other := by
  constructor
  · intro h
    rw [← withoutTrailing_lines_unlines text, ← withoutTrailing_lines_unlines other]
    exact congrArg (fun trimmed => withoutTrailing [] (lines trimmed)) (String.ofList_injective h)
  · intro h
    rw [withoutTrailingBlanks, withoutTrailingBlanks, h]

/-- Texts are equal up to blanks at the ends exactly if they show the same characters. -/
theorem withoutTrailingBlanks_eq_iff {text other : String} :
    withoutTrailingBlanks text = withoutTrailingBlanks other ↔
      ∀ row col, shownAt text row col = shownAt other row col := by
  have hline (text : String) (row : Nat) :
      ((lines text.toList).map (withoutTrailing ' ')).getD row [] =
        withoutTrailing ' ' ((lines text.toList).getD row []) :=
    List.getD_map _ [] (withoutTrailing ' ')
  rw [withoutTrailingBlanks_inj, trimmedLines, trimmedLines, withoutTrailing_eq_iff]
  simp only [hline, withoutTrailing_eq_iff, shownAt]

example : withoutTrailingBlanks "ab  \n \n c \n  \n" = "ab\n\n c" := by decide +kernel

end GridRules.Text
