import GridRules.Difference
import GridRules.Proofs.Text.TrailingBlanks
import Mathlib.Algebra.Order.Group.Int
import Mathlib.Data.List.Sort
import Mathlib.Data.String.Basic

/-!
# Places of difference

Two texts are compared at every place that lies within one of them. Beyond both of them they show
the same blanks, so their differences are those of all places, row by row. In which order the two
texts are given makes no difference beyond the order of the characters shown.
-/

namespace GridRules.Difference

/-- The difference between two characters at a place. -/
def place (row col : Int) (e a : Char) : Difference :=
  ⟨row, col, String.singleton e, String.singleton a⟩

/-- Whether a place comes before another one, row by row. -/
def Before (first second : Difference) : Prop :=
  first.row < second.row ∨ first.row = second.row ∧ first.col < second.col

/-- The difference with its characters the other way round. -/
def swap (difference : Difference) : Difference :=
  { difference with expected := difference.actual, actual := difference.expected }

/-! ### Places of the comparison -/

theorem flatMap_range_succ {β : Type*} (f : Nat → List β) (n : Nat) :
    (List.range (n + 1)).flatMap f = f 0 ++ (List.range n).flatMap fun k => f (k + 1) := by
  rw [List.range_succ_eq_map, List.flatMap_cons, List.flatMap_map]

theorem ofLines_eq_flatMap (row col : Int) (e a : List Char) :
    ofLines row col e a = (List.range (max e.length a.length)).flatMap fun (k : Nat) =>
      ofLines.entry row (col + k) (e.getD k ' ') (a.getD k ' ') := by
  have hcol (col : Int) (k : Nat) : col + 1 + k = col + (k + 1 : Nat) := by
    omega
  fun_induction ofLines row col e a with
  | case1 col => rfl
  | case2 col e es ih => simp [flatMap_range_succ, ih, hcol]
  | case3 col a as ih => simp [flatMap_range_succ, ih, hcol]
  | case4 col e es a as ih => simp [flatMap_range_succ, ih, hcol, Nat.add_max_add_right]

theorem ofRows_eq_flatMap (row : Int) (e a : List (List Char)) :
    ofRows row e a = (List.range (max e.length a.length)).flatMap fun (k : Nat) =>
      ofLines (row + k) 0 (e.getD k []) (a.getD k []) := by
  have hrow (row : Int) (k : Nat) : row + 1 + k = row + (k + 1 : Nat) := by
    omega
  fun_induction ofRows row e a with
  | case1 row => rfl
  | case2 row e es ih => simp [flatMap_range_succ, ih, hrow]
  | case3 row a as ih => simp [flatMap_range_succ, ih, hrow]
  | case4 row e es a as ih => simp [flatMap_range_succ, ih, hrow, Nat.add_max_add_right]

/-- Where two lists differ, with the same item beyond their ends, one of them has not ended. -/
theorem lt_max_of_getD_ne {α : Type*} {items others : List α} {fill : α} {k : Nat}
    (h : items.getD k fill ≠ others.getD k fill) : k < max items.length others.length := by
  by_contra hge
  exact h (by rw [List.getD_eq_default _ _ (by omega), List.getD_eq_default _ _ (by omega)])

theorem mem_entry {row col : Int} {e a : Char} {difference : Difference} :
    difference ∈ ofLines.entry row col e a ↔ e ≠ a ∧ difference = place row col e a := by
  by_cases h : e = a <;> simp [ofLines.entry, place, h]

theorem mem_ofLines {row : Int} {e a : List Char} {difference : Difference} :
    difference ∈ ofLines row 0 e a ↔ ∃ col : Nat, e.getD col ' ' ≠ a.getD col ' ' ∧
      difference = place row col (e.getD col ' ') (a.getD col ' ') := by
  simp only [ofLines_eq_flatMap, List.mem_flatMap, List.mem_range, mem_entry, Int.zero_add]
  constructor
  · rintro ⟨col, -, h⟩
    exact ⟨col, h⟩
  · rintro ⟨col, hne, h⟩
    exact ⟨col, lt_max_of_getD_ne hne, hne, h⟩

/-- The differences of two texts are those of all places at which they show different characters. -/
theorem mem_between_iff {expected actual : String} {difference : Difference} :
    difference ∈ between expected actual ↔
      ∃ row col : Nat, Text.shownAt expected row col ≠ Text.shownAt actual row col ∧
        difference =
          place row col (Text.shownAt expected row col) (Text.shownAt actual row col) := by
  simp only [between, ofRows_eq_flatMap, List.mem_flatMap, List.mem_range, mem_ofLines,
    Int.zero_add]
  constructor
  · rintro ⟨row, -, h⟩
    exact ⟨row, h⟩
  · rintro ⟨row, col, hne, h⟩
    have hline :
        (Text.lines expected.toList).getD row [] ≠ (Text.lines actual.toList).getD row [] :=
      fun hline => hne (congrArg (·.getD col ' ') hline)
    exact ⟨row, lt_max_of_getD_ne hline, col, hne, h⟩

/-- A difference is listed exactly if it shows what the texts show at its place. -/
theorem place_mem_between_iff {expected actual : String} {row col : Nat} {e a : Char} :
    place row col e a ∈ between expected actual ↔
      e ≠ a ∧ Text.shownAt expected row col = e ∧ Text.shownAt actual row col = a := by
  rw [mem_between_iff]
  constructor
  · rintro ⟨row', col', hne, hplace⟩
    simp only [place, Difference.mk.injEq, Int.natCast_inj, String.singleton_inj] at hplace
    obtain ⟨rfl, rfl, rfl, rfl⟩ := hplace
    exact ⟨hne, rfl, rfl⟩
  · rintro ⟨hne, rfl, rfl⟩
    exact ⟨row, col, hne, rfl⟩

/-! ### Order -/

instance : Std.Irrefl Before where
  irrefl := by
    intro difference h
    rcases h with h | ⟨-, h⟩ <;> omega

instance : Std.Antisymm Before where
  antisymm := by
    intro first second h h'
    rcases h with h | ⟨h, hcol⟩ <;> rcases h' with h' | ⟨h', hcol'⟩ <;> omega

theorem pairwise_ofLines (row : Int) (e a : List Char) : (ofLines row 0 e a).Pairwise Before := by
  rw [ofLines_eq_flatMap, List.pairwise_flatMap]
  constructor
  · intro col _
    rw [ofLines.entry]
    split <;> simp
  · refine List.pairwise_lt_range.imp ?_
    intro col col' hlt first hfirst second hsecond
    obtain ⟨-, rfl⟩ := mem_entry.1 hfirst
    obtain ⟨-, rfl⟩ := mem_entry.1 hsecond
    exact .inr ⟨rfl, by simpa [place] using hlt⟩

/-- The differences of two texts are listed row by row. -/
theorem pairwise_between (expected actual : String) :
    (between expected actual).Pairwise Before := by
  rw [between, ofRows_eq_flatMap, List.pairwise_flatMap]
  constructor
  · exact fun row _ => pairwise_ofLines _ _ _
  · refine List.pairwise_lt_range.imp ?_
    intro row row' hlt first hfirst second hsecond
    obtain ⟨col, -, rfl⟩ := mem_ofLines.1 hfirst
    obtain ⟨col', -, rfl⟩ := mem_ofLines.1 hsecond
    exact .inl (by simpa [place] using hlt)

/-! ### Swapped texts -/

theorem swap_place (row col : Int) (e a : Char) : swap (place row col e a) = place row col a e :=
  rfl

theorem between_swap (expected actual : String) :
    between actual expected = (between expected actual).map swap := by
  refine (pairwise_between actual expected).eq_of_mem_iff ?_ ?_
  · rw [List.pairwise_map]
    exact pairwise_between expected actual
  · intro difference
    rw [List.mem_map, mem_between_iff]
    constructor
    · rintro ⟨row, col, hne, rfl⟩
      exact ⟨_, mem_between_iff.2 ⟨row, col, hne.symm, rfl⟩, swap_place ..⟩
    · rintro ⟨other, hother, rfl⟩
      obtain ⟨row, col, hne, rfl⟩ := mem_between_iff.1 hother
      exact ⟨row, col, hne.symm, swap_place ..⟩

/-- The differences of two texts are those at all places where the texts show different characters,
with blanks beyond their ends. Each is listed once, row by row, and swapping the texts swaps the
characters. -/
theorem between_exact (expected actual : String) :
    (∀ difference, difference ∈ between expected actual ↔
      ∃ row col : Nat, Text.shownAt expected row col ≠ Text.shownAt actual row col ∧
        difference =
          place row col (Text.shownAt expected row col) (Text.shownAt actual row col)) ∧
    (between expected actual).Pairwise Before ∧
    between actual expected = (between expected actual).map swap :=
  ⟨fun _ => mem_between_iff, pairwise_between expected actual, between_swap expected actual⟩

example : between "aaaa\nbb\ncc " "aaaaX\nbb" =
    [place 0 4 ' ' 'X', place 2 0 'c' ' ', place 2 1 'c' ' '] := by
  cbv

/-! ### Equal comparisons -/

/-- The same differences are found in two texts exactly if these show the same characters. -/
theorem between_eq_iff {expected a b : String} :
    between expected a = between expected b ↔
      ∀ row col, Text.shownAt a row col = Text.shownAt b row col := by
  constructor
  · intro h row col
    -- What `a` shows in place of the expected character is listed for `b` too, and conversely.
    have hlisted (e x : Char) : e ≠ x ∧ Text.shownAt expected row col = e ∧
        Text.shownAt a row col = x ↔ e ≠ x ∧ Text.shownAt expected row col = e ∧
          Text.shownAt b row col = x := by
      rw [← place_mem_between_iff, ← place_mem_between_iff, h]
    have ha := hlisted (Text.shownAt expected row col) (Text.shownAt a row col)
    have hb := hlisted (Text.shownAt expected row col) (Text.shownAt b row col)
    grind
  · intro h
    refine (pairwise_between expected a).eq_of_mem_iff (pairwise_between expected b) ?_
    intro difference
    simp only [mem_between_iff, h]

/-- The same differences from a text are found in two others exactly if these are equal up to blanks
at the ends. -/
theorem between_eq_iff_withoutTrailingBlanks {expected a b : String} :
    between expected a = between expected b ↔
      Text.withoutTrailingBlanks a = Text.withoutTrailingBlanks b :=
  between_eq_iff.trans Text.withoutTrailingBlanks_eq_iff.symm

theorem between_eq_nil_iff {expected actual : String} :
    between expected actual = [] ↔
      Text.withoutTrailingBlanks expected = Text.withoutTrailingBlanks actual := by
  have hself : between expected expected = [] := by
    rw [List.eq_nil_iff_forall_not_mem]
    intro difference hmem
    obtain ⟨row, col, hne, -⟩ := mem_between_iff.1 hmem
    exact hne rfl
  rw [← hself, between_eq_iff_withoutTrailingBlanks, eq_comm]

end GridRules.Difference
