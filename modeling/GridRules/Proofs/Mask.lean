import GridRules.Mask
import Mathlib.Algebra.BigOperators.Fin
import Mathlib.Data.Fintype.BigOperators
import Mathlib.Data.List.Sort
import Mathlib.Order.Interval.Finset.Nat

/-!
# Marked cells

The mask of some cells of an area marks exactly these. The number of marked cells is that of a
finite set, so that a full row, a full column or a full rectangle is known by counting.
-/

namespace GridRules

namespace Mask

/-- Whether the cell of an area is marked. -/
def isMarked (mask : Mask) (r c : Nat) : Bool :=
  (mask.bits[r]?.bind fun row => row[c]?).getD false

theorem isMarked_eq {mask : Mask} {r c : Nat} (hr : r < mask.height) (hc : c < mask.width) :
    mask.isMarked r c = mask.bits[r][c] := by
  simp [isMarked, hr, hc]

theorem lt_of_isMarked {mask : Mask} {r c : Nat} (h : mask.isMarked r c = true) :
    r < mask.height ∧ c < mask.width := by
  unfold isMarked at h
  by_cases hr : r < mask.height
  · by_cases hc : c < mask.width
    · exact ⟨hr, hc⟩
    · simp [hr, hc] at h
  · simp [hr] at h

theorem agrees_iff_isMarked {mask : Mask} {shape : Nat → Nat → Bool} :
    mask.agrees shape = true ↔
      ∀ r < mask.height, ∀ c < mask.width, mask.isMarked r c = shape r c := by
  rw [agrees_iff]
  constructor
  · intro h r hr c hc
    rw [← h ⟨r, hr⟩ ⟨c, hc⟩]
    exact isMarked_eq hr hc
  · intro h r c
    rw [← h r r.2 c c.2]
    exact (isMarked_eq r.2 c.2).symm

/-! ### The mask of given cells -/

theorem isMarked_empty (height width r c : Nat) : (empty height width).isMarked r c = false := by
  unfold isMarked empty
  rw [Vector.getElem?_replicate]
  split
  · rw [Option.bind_some, Vector.getElem?_replicate]
    split <;> rfl
  · rfl

theorem place?_of_lt {length i : Nat} (h : i < length) : place? length i = some i := by
  simp [place?, h]

theorem height_mark (mask : Mask) (cell : Coord) : (mask.mark cell).height = mask.height := by
  unfold mark
  split
  · split <;> rfl
  · rfl

theorem width_mark (mask : Mask) (cell : Coord) : (mask.mark cell).width = mask.width := by
  unfold mark
  split
  · split <;> rfl
  · rfl

/-- Marking a cell of the area marks no other one. -/
theorem isMarked_mark {mask : Mask} {i j : Nat} (hi : i < mask.height) (hj : j < mask.width)
    (r c : Nat) : (mask.mark (Coord.ofNat i j)).isMarked r c =
      (decide (r = i ∧ c = j) || mask.isMarked r c) := by
  simp only [mark, Coord.ofNat, place?_of_lt hi, place?_of_lt hj, Vector.getElem?_eq_getElem hi]
  unfold isMarked
  dsimp only
  rw [Vector.getElem?_setIfInBounds]
  by_cases hr : r = i
  · subst hr
    rw [if_pos rfl, if_pos hi, Option.bind_some, Vector.getElem?_setIfInBounds,
      Vector.getElem?_eq_getElem hi, Option.bind_some]
    by_cases hc : c = j
    · subst hc
      simp [hj]
    · simp [hc, Ne.symm hc]
  · simp [hr, Ne.symm hr]

theorem height_foldl_mark (mask : Mask) (cells : List Coord) :
    (cells.foldl mark mask).height = mask.height := by
  induction cells generalizing mask with
  | nil => rfl
  | cons cell cells ih => rw [List.foldl_cons, ih, height_mark]

theorem width_foldl_mark (mask : Mask) (cells : List Coord) :
    (cells.foldl mark mask).width = mask.width := by
  induction cells generalizing mask with
  | nil => rfl
  | cons cell cells ih => rw [List.foldl_cons, ih, width_mark]

@[simp] theorem height_ofCells (height width : Nat) (cells : List Coord) :
    (ofCells height width cells).height = height :=
  height_foldl_mark _ cells

@[simp] theorem width_ofCells (height width : Nat) (cells : List Coord) :
    (ofCells height width cells).width = width :=
  width_foldl_mark _ cells

/-- A coordinate lies within an area. -/
def Holds (height width : Nat) (cell : Coord) : Prop :=
  (0 ≤ cell.row ∧ cell.row < height) ∧ 0 ≤ cell.col ∧ cell.col < width

theorem Holds.exists_ofNat {height width : Nat} {cell : Coord} (h : Holds height width cell) :
    ∃ (r : Fin height) (c : Fin width), cell = Coord.ofNat r c := by
  obtain ⟨⟨hrow, hheight⟩, hcol, hwidth⟩ := h
  obtain ⟨i, hi⟩ := Int.eq_ofNat_of_zero_le hrow
  obtain ⟨j, hj⟩ := Int.eq_ofNat_of_zero_le hcol
  exact ⟨⟨i, by omega⟩, ⟨j, by omega⟩, Coord.ext hi hj⟩

theorem isMarked_foldl_mark {mask : Mask} {cells : List Coord}
    (h : ∀ cell ∈ cells, Holds mask.height mask.width cell) (r c : Nat) :
    (cells.foldl mark mask).isMarked r c = true ↔
      Coord.ofNat r c ∈ cells ∨ mask.isMarked r c = true := by
  induction cells generalizing mask with
  | nil => simp
  | cons cell cells ih =>
      obtain ⟨i, j, rfl⟩ := (h cell (by simp)).exists_ofNat
      have hcells : ∀ other ∈ cells,
          Holds (mask.mark (Coord.ofNat i j)).height (mask.mark (Coord.ofNat i j)).width other := by
        rw [height_mark, width_mark]
        exact fun other hother => h other (by simp [hother])
      rw [List.foldl_cons, ih hcells, isMarked_mark i.2 j.2]
      simp [Coord.ofNat, or_assoc, or_left_comm]

/-- The mask of cells of an area marks exactly these. -/
theorem isMarked_ofCells {height width : Nat} {cells : List Coord}
    (h : ∀ cell ∈ cells, Holds height width cell) (r c : Nat) :
    (ofCells height width cells).isMarked r c = true ↔ Coord.ofNat r c ∈ cells := by
  rw [ofCells, isMarked_foldl_mark h, isMarked_empty]
  simp

/-! ### Rows and columns -/

theorem mem_rows {mask : Mask} {r : Nat} : r ∈ mask.rows ↔ ∃ c, mask.isMarked r c = true := by
  simp only [rows, List.mem_map, List.mem_filter, List.any_eq_true, List.mem_finRange, true_and,
    Fin.getElem_fin, ← isMarked_eq]
  constructor
  · rintro ⟨r, ⟨c, hc⟩, rfl⟩
    exact ⟨c, hc⟩
  · rintro ⟨c, hc⟩
    obtain ⟨hr, hcol⟩ := lt_of_isMarked hc
    exact ⟨⟨r, hr⟩, ⟨⟨c, hcol⟩, hc⟩, rfl⟩

theorem mem_columns {mask : Mask} {c : Nat} :
    c ∈ mask.columns ↔ ∃ r, mask.isMarked r c = true := by
  simp only [columns, List.mem_map, List.mem_filter, List.any_eq_true, List.mem_finRange, true_and,
    Fin.getElem_fin, ← isMarked_eq]
  constructor
  · rintro ⟨c, ⟨r, hr⟩, rfl⟩
    exact ⟨r, hr⟩
  · rintro ⟨r, hr⟩
    obtain ⟨hrow, hc⟩ := lt_of_isMarked hr
    exact ⟨⟨c, hc⟩, ⟨⟨r, hrow⟩, hr⟩, rfl⟩

theorem pairwise_filter_finRange (length : Nat) (p : Fin length → Bool) :
    (((List.finRange length).filter p).map Fin.val).Pairwise (· < ·) :=
  List.Pairwise.map _ (fun _ _ h => h) ((List.pairwise_lt_finRange length).filter p)

theorem pairwise_rows (mask : Mask) : mask.rows.Pairwise (· < ·) :=
  pairwise_filter_finRange _ _

theorem pairwise_columns (mask : Mask) : mask.columns.Pairwise (· < ·) :=
  pairwise_filter_finRange _ _

/-! ### Counting -/

/-- The marked cells. -/
def marked (mask : Mask) : Finset (Nat × Nat) :=
  (Finset.range mask.height ×ˢ Finset.range mask.width).filter fun place =>
    mask.isMarked place.1 place.2

theorem mem_marked {mask : Mask} {r c : Nat} :
    (r, c) ∈ mask.marked ↔ mask.isMarked r c = true := by
  simp only [marked, Finset.mem_filter, Finset.mem_product, Finset.mem_range]
  constructor
  · rintro ⟨-, h⟩
    exact h
  · intro h
    exact ⟨lt_of_isMarked h, h⟩

theorem count_true_eq_sum (bits : List Bool) : bits.count true = (bits.map Bool.toNat).sum := by
  induction bits with
  | nil => rfl
  | cons bit bits ih => cases bit <;> simp [ih, Nat.add_comm]

theorem sum_map_toList {α : Type} {length : Nat} (items : Vector α length) (f : α → Nat) :
    (items.toList.map f).sum = ∑ i : Fin length, f items[i] := by
  have hitems : (Vector.ofFn fun i : Fin length => items[i]) = items := Vector.ofFn_getElem
  have hlist : items.toList = List.ofFn fun i : Fin length => items[i] := by
    rw [← Vector.toList_ofFn, hitems]
  rw [hlist, List.map_ofFn, List.sum_ofFn]
  rfl

theorem count_eq_sum (mask : Mask) :
    mask.count = (mask.bits.toList.map fun row => row.toList.count true).sum :=
  rfl

/-- The number of marked cells is that of a finite set. -/
theorem count_eq_card (mask : Mask) : mask.count = mask.marked.card := by
  have hbit (r : Fin mask.height) (c : Fin mask.width) :
      mask.bits[r][c].toNat = if mask.isMarked r c = true then 1 else 0 := by
    rw [isMarked_eq r.2 c.2, Fin.getElem_fin, Fin.getElem_fin]
    cases mask.bits[r.val][c.val] <;> rfl
  rw [marked, Finset.card_filter, Finset.sum_product, Finset.sum_range, count_eq_sum,
    sum_map_toList]
  refine Finset.sum_congr rfl ?_
  intro r _
  rw [count_true_eq_sum, sum_map_toList, Finset.sum_range]
  exact Finset.sum_congr rfl fun c _ => hbit r c

/-- If all marked cells lie in some rows and columns with at most as many cells, these are the
marked cells. -/
theorem isMarked_iff_of_count {mask : Mask} {rows columns : Finset Nat}
    (hcount : rows.card * columns.card ≤ mask.count)
    (h : ∀ r c, mask.isMarked r c = true → r ∈ rows ∧ c ∈ columns) (r c : Nat) :
    mask.isMarked r c = true ↔ r ∈ rows ∧ c ∈ columns := by
  have hsubset : mask.marked ⊆ rows ×ˢ columns :=
    fun place hplace => Finset.mem_product.2 (h _ _ (mem_marked.1 hplace))
  rw [count_eq_card, ← Finset.card_product] at hcount
  rw [← mem_marked, Finset.eq_of_subset_of_card_le hsubset hcount, Finset.mem_product]

/-- As many cells as the area is wide lie in one row only if they fill it. -/
theorem isMarked_iff_of_rows {mask : Mask} {r : Nat} (hcount : mask.count = mask.width)
    (hrows : mask.rows = [r]) (i j : Nat) :
    mask.isMarked i j = true ↔ i = r ∧ j < mask.width := by
  have hline (i j : Nat) (h : mask.isMarked i j = true) :
      i ∈ ({r} : Finset Nat) ∧ j ∈ Finset.range mask.width := by
    have hi : i ∈ mask.rows := mem_rows.2 ⟨j, h⟩
    exact ⟨by simpa [hrows] using hi, by simpa using (lt_of_isMarked h).2⟩
  rw [isMarked_iff_of_count (by simp [hcount]) hline, Finset.mem_singleton, Finset.mem_range]

/-- As many cells as the area is high lie in one column only if they fill it. -/
theorem isMarked_iff_of_columns {mask : Mask} {c : Nat} (hcount : mask.count = mask.height)
    (hcolumns : mask.columns = [c]) (i j : Nat) :
    mask.isMarked i j = true ↔ i < mask.height ∧ j = c := by
  have hline (i j : Nat) (h : mask.isMarked i j = true) :
      i ∈ Finset.range mask.height ∧ j ∈ ({c} : Finset Nat) := by
    have hj : j ∈ mask.columns := mem_columns.2 ⟨i, h⟩
    exact ⟨by simpa using (lt_of_isMarked h).1, by simpa [hcolumns] using hj⟩
  rw [isMarked_iff_of_count (by simp [hcount]) hline, Finset.mem_singleton, Finset.mem_range]

theorem mem_bounds_of_pairwise {items : List Nat} (hpairwise : items.Pairwise (· < ·))
    {first last : Nat} (hfirst : items.head? = some first) (hlast : items.getLast? = some last)
    {n : Nat} (h : n ∈ items) : n ∈ Finset.Icc first last := by
  have hle : items.Pairwise (· ≤ ·) := hpairwise.imp Nat.le_of_lt
  obtain ⟨rest, rfl⟩ := List.head?_eq_some_iff.1 hfirst
  obtain ⟨front, hfront⟩ := List.getLast?_eq_some_iff.1 hlast
  refine Finset.mem_Icc.2 ⟨?_, ?_⟩
  · rcases List.mem_cons.1 h with rfl | h
    · exact le_rfl
    · exact (List.pairwise_cons.1 hle).1 n h
  · rw [hfront] at h hle
    rcases List.mem_append.1 h with h | h
    · exact (List.pairwise_append.1 hle).2.2 n h last (by simp)
    · exact (List.mem_singleton.1 h).le

/-- As many cells as the smallest rectangle around them has fill it. -/
theorem isMarked_iff_of_bounds {mask : Mask} {top bottom left right : Nat}
    (htop : mask.rows.head? = some top) (hbottom : mask.rows.getLast? = some bottom)
    (hleft : mask.columns.head? = some left) (hright : mask.columns.getLast? = some right)
    (hcount : mask.count = (bottom + 1 - top) * (right + 1 - left)) (r c : Nat) :
    mask.isMarked r c = true ↔ (top ≤ r ∧ r ≤ bottom) ∧ left ≤ c ∧ c ≤ right := by
  have hbounds (r c : Nat) (h : mask.isMarked r c = true) :
      r ∈ Finset.Icc top bottom ∧ c ∈ Finset.Icc left right :=
    ⟨mem_bounds_of_pairwise mask.pairwise_rows htop hbottom (mem_rows.2 ⟨c, h⟩),
      mem_bounds_of_pairwise mask.pairwise_columns hleft hright (mem_columns.2 ⟨r, h⟩)⟩
  rw [isMarked_iff_of_count (by simp [hcount]) hbounds, Finset.mem_Icc, Finset.mem_Icc]

theorem lt_height_of_mem_rows {mask : Mask} {r : Nat} (h : r ∈ mask.rows) : r < mask.height := by
  obtain ⟨c, hc⟩ := mem_rows.1 h
  exact (lt_of_isMarked hc).1

theorem lt_width_of_mem_columns {mask : Mask} {c : Nat} (h : c ∈ mask.columns) :
    c < mask.width := by
  obtain ⟨r, hr⟩ := mem_columns.1 h
  exact (lt_of_isMarked hr).2

end Mask

end GridRules
