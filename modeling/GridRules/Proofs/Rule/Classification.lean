import GridRules.Proofs.Rule.Discovery
import Mathlib.Algebra.Ring.GeomSum

/-!
# Classification of sets of cells

Every family has its shapes: sets of cells of an area. The tests of the families count the marked
cells and look for their bounds; they pass exactly for the shapes, as long as the area has few
enough cells for the arrays and for the floating-point half of a checkerboard. So a symbol is
explained by the first family with the shape of its cells, which does not depend on their order, nor
on how often a cell is given.
-/

namespace GridRules

/-! ### Shapes of the families -/

/-- The cells of an area. -/
def area (height width : Int) : Set Coord :=
  {cell | (0 ≤ cell.row ∧ cell.row < height) ∧ 0 ≤ cell.col ∧ cell.col < width}

/-- The set of cells is a shape of the family in an area. Every set is one of the last family. -/
def Family.HasShape (family : Family) (height width : Int) (cells : Set Coord) : Prop :=
  match family with
  | .fill => cells = area height width
  | .border =>
    cells = {cell ∈ area height width |
      cell.row = 0 ∨ cell.row = height - 1 ∨ cell.col = 0 ∨ cell.col = width - 1}
  | .diagonal => cells = {cell ∈ area height width | cell.row = cell.col}
  | .antiDiagonal => cells = {cell ∈ area height width | cell.row + cell.col = min height width - 1}
  | .horizontalLine =>
    ∃ row, (0 ≤ row ∧ row < height) ∧ cells = {cell ∈ area height width | cell.row = row}
  | .verticalLine =>
    ∃ col, (0 ≤ col ∧ col < width) ∧ cells = {cell ∈ area height width | cell.col = col}
  | .filledRectangle =>
    ∃ top bottom left right, (0 ≤ top ∧ top < bottom ∧ bottom ≤ height) ∧
      (0 ≤ left ∧ left < right ∧ right ≤ width) ∧
      cells = {cell ∈ area height width |
        (top ≤ cell.row ∧ cell.row < bottom) ∧ left ≤ cell.col ∧ cell.col < right}
  | .checkerboard =>
    cells.Nonempty ∧
      ∃ parity, cells = {cell ∈ area height width | (cell.row + cell.col) % 2 = parity}
  | .coordinateSet => True

/-- The family is the first one with the set of cells as a shape. -/
def Family.IsFirst (family : Family) (height width : Int) (cells : Set Coord) : Prop :=
  family.HasShape height width cells ∧
    ∃ earlier later, Family.all = earlier ++ family :: later ∧
      ∀ other ∈ earlier, ¬ other.HasShape height width cells

namespace Mask

/-- The marked cells as a set. -/
def cells (mask : Mask) : Set Coord :=
  {cell | ∃ r c : Nat, mask.isMarked r c = true ∧ cell = Coord.ofNat r c}

variable {mask : Mask}

theorem ofNat_mem_cells {r c : Nat} : Coord.ofNat r c ∈ mask.cells ↔ mask.isMarked r c = true := by
  constructor
  · rintro ⟨i, j, hmarked, heq⟩
    obtain ⟨hrow, hcol⟩ := Coord.ext_iff.1 heq
    obtain rfl : r = i := Int.ofNat_inj.1 hrow
    obtain rfl : c = j := Int.ofNat_inj.1 hcol
    exact hmarked
  · intro hmarked
    exact ⟨r, c, hmarked, rfl⟩

theorem nonempty_cells : mask.cells.Nonempty ↔ ∃ r c, mask.isMarked r c = true := by
  constructor
  · rintro ⟨_, r, c, hmarked, -⟩
    exact ⟨r, c, hmarked⟩
  · rintro ⟨r, c, hmarked⟩
    exact ⟨_, ofNat_mem_cells.2 hmarked⟩

/-- The marked cells are those of the area with a property. -/
theorem cells_eq_iff {p : Coord → Prop} :
    mask.cells = {cell ∈ area mask.height mask.width | p cell} ↔
      ∀ r < mask.height, ∀ c < mask.width, (mask.isMarked r c = true ↔ p (Coord.ofNat r c)) := by
  constructor
  · intro heq r hr c hc
    have harea : Coord.ofNat r c ∈ area mask.height mask.width := by
      simp [area, Coord.ofNat, hr, hc]
    rw [← ofNat_mem_cells, heq]
    exact ⟨fun hcell => hcell.2, fun hp => ⟨harea, hp⟩⟩
  · intro h
    ext cell
    constructor
    · rintro ⟨r, c, hmarked, rfl⟩
      obtain ⟨hr, hc⟩ := lt_of_isMarked hmarked
      refine ⟨by simp [area, Coord.ofNat, hr, hc], (h r hr c hc).1 hmarked⟩
    · rintro ⟨hcell, hp⟩
      obtain ⟨r, c, rfl⟩ := Holds.exists_ofNat hcell
      exact ofNat_mem_cells.2 ((h r r.2 c c.2).2 hp)

/-- The mask of cells of an area has these cells. -/
theorem cells_ofCells {height width : Nat} {cells : List Coord}
    (h : ∀ cell ∈ cells, Holds height width cell) :
    (ofCells height width cells).cells = {cell | cell ∈ cells} := by
  ext cell
  constructor
  · rintro ⟨r, c, hmarked, rfl⟩
    exact (isMarked_ofCells h r c).1 hmarked
  · intro hcell
    obtain ⟨r, c, rfl⟩ := (h cell hcell).exists_ofNat
    exact ofNat_mem_cells.2 ((isMarked_ofCells h r c).2 hcell)

/-! ### Shapes that are compared cell by cell -/

theorem agrees_iff_cells {marks : Nat → Nat → Bool} {p : Coord → Prop}
    (h : ∀ r < mask.height, ∀ c < mask.width, (marks r c = true ↔ p (Coord.ofNat r c))) :
    mask.agrees marks = true ↔ mask.cells = {cell ∈ area mask.height mask.width | p cell} := by
  rw [agrees_iff_isMarked, cells_eq_iff]
  constructor
  · intro hagrees r hr c hc
    rw [hagrees r hr c hc, h r hr c hc]
  · intro hcells r hr c hc
    rw [Bool.eq_iff_iff, hcells r hr c hc, h r hr c hc]

/-- The test of a family comes to an end, and it passes the mask exactly under a condition. -/
def PassesIff (mask : Mask) (family : Family) (p : Prop) : Prop :=
  ∃ found, Finding.find? mask family = .ok found ∧ (found.isSome = true ↔ p)

theorem passesIff_fill : mask.PassesIff .fill (mask.cells = area mask.height mask.width) := by
  refine ⟨_, rfl, ?_⟩
  rw [Finding.fill?, Option.isSome_ite, agrees_iff_cells (p := fun _ => True) (by simp)]
  simp

section Indexed

variable (hheight : 0 < mask.height) (hwidth : 0 < mask.width)
  (harea : mask.height * mask.width < indexLimit)

include hheight hwidth harea

/-- In an area with few enough cells they can be compared one by one. -/
theorem indexed_eq_ok {α : Type} (outcome : α) : mask.indexed outcome = .ok outcome := by
  refine indexed_eq_ok_iff.2 ⟨?_, rfl⟩
  rwa [max_eq_right (Nat.one_le_of_lt hheight), max_eq_right (Nat.one_le_of_lt hwidth)]

theorem passesIff_border :
    mask.PassesIff .border (mask.cells = {cell ∈ area mask.height mask.width |
      cell.row = 0 ∨ cell.row = mask.height - 1 ∨ cell.col = 0 ∨ cell.col = mask.width - 1}) := by
  refine ⟨_, indexed_eq_ok hheight hwidth harea _, ?_⟩
  rw [Finding.border?, Option.isSome_ite]
  apply agrees_iff_cells
  intro r hr c hc
  simp only [Coord.ofNat, Bool.or_eq_true, beq_iff_eq]
  omega

theorem passesIff_diagonal : mask.PassesIff .diagonal
    (mask.cells = {cell ∈ area mask.height mask.width | cell.row = cell.col}) := by
  refine ⟨_, indexed_eq_ok hheight hwidth harea _, ?_⟩
  rw [Finding.diagonal?, Option.isSome_ite]
  apply agrees_iff_cells
  intro r hr c hc
  simp [Coord.ofNat]

theorem passesIff_antiDiagonal :
    mask.PassesIff .antiDiagonal (mask.cells = {cell ∈ area mask.height mask.width |
      cell.row + cell.col = min (mask.height : Int) mask.width - 1}) := by
  refine ⟨_, indexed_eq_ok hheight hwidth harea _, ?_⟩
  rw [Finding.antiDiagonal?, Option.isSome_ite]
  apply agrees_iff_cells
  intro r hr c hc
  simp only [Coord.ofNat, Bool.and_eq_true, beq_iff_eq, decide_eq_true_eq]
  omega

end Indexed

/-! ### Lines and rectangles -/

/-- The marked cells are those in some rows and columns. -/
def Fills (mask : Mask) (rows columns : Finset Nat) : Prop :=
  ∀ r c, mask.isMarked r c = true ↔ r ∈ rows ∧ c ∈ columns

variable {rows columns : Finset Nat}

theorem Fills.count_eq (h : mask.Fills rows columns) : mask.count = rows.card * columns.card := by
  have hmarked : mask.marked = rows ×ˢ columns := by
    ext ⟨r, c⟩
    rw [mem_marked, h r c, Finset.mem_product]
  rw [count_eq_card, hmarked, Finset.card_product]

theorem Fills.mem_rows_iff (h : mask.Fills rows columns) (hne : columns.Nonempty) (r : Nat) :
    r ∈ mask.rows ↔ r ∈ rows := by
  obtain ⟨c, hc⟩ := hne
  rw [mem_rows]
  constructor
  · rintro ⟨j, hmarked⟩
    exact ((h r j).1 hmarked).1
  · intro hr
    exact ⟨c, (h r c).2 ⟨hr, hc⟩⟩

theorem Fills.mem_columns_iff (h : mask.Fills rows columns) (hne : rows.Nonempty) (c : Nat) :
    c ∈ mask.columns ↔ c ∈ columns := by
  obtain ⟨r, hr⟩ := hne
  rw [mem_columns]
  constructor
  · rintro ⟨i, hmarked⟩
    exact ((h i c).1 hmarked).2
  · intro hc
    exact ⟨r, (h r c).2 ⟨hr, hc⟩⟩

theorem Fills.rows_eq (h : mask.Fills rows columns) (hne : columns.Nonempty) {items : List Nat}
    (hitems : items.Pairwise (· < ·)) (hmem : ∀ r, r ∈ items ↔ r ∈ rows) : mask.rows = items :=
  mask.pairwise_rows.eq_of_mem_iff hitems fun r => (h.mem_rows_iff hne r).trans (hmem r).symm

theorem Fills.columns_eq (h : mask.Fills rows columns) (hne : rows.Nonempty) {items : List Nat}
    (hitems : items.Pairwise (· < ·)) (hmem : ∀ c, c ∈ items ↔ c ∈ columns) :
    mask.columns = items :=
  mask.pairwise_columns.eq_of_mem_iff hitems fun c => (h.mem_columns_iff hne c).trans (hmem c).symm

/-- What fills rows and columns is given by a property of cells. -/
theorem fills_iff_cells {p : Coord → Prop} (hrows : rows ⊆ Finset.range mask.height)
    (hcolumns : columns ⊆ Finset.range mask.width)
    (hp : ∀ r < mask.height, ∀ c < mask.width,
      (p (Coord.ofNat r c) ↔ r ∈ rows ∧ c ∈ columns)) :
    mask.Fills rows columns ↔ mask.cells = {cell ∈ area mask.height mask.width | p cell} := by
  rw [cells_eq_iff]
  constructor
  · intro h r hr c hc
    rw [h r c, hp r hr c hc]
  · intro h r c
    constructor
    · intro hmarked
      obtain ⟨hr, hc⟩ := lt_of_isMarked hmarked
      exact (hp r hr c hc).1 ((h r hr c hc).1 hmarked)
    · rintro ⟨hrow, hcol⟩
      have hr := Finset.mem_range.1 (hrows hrow)
      have hc := Finset.mem_range.1 (hcolumns hcol)
      exact (h r hr c hc).2 ((hp r hr c hc).2 ⟨hrow, hcol⟩)

/-- A position with few enough digits has a text. -/
theorem exists_positionText {i : Nat} (h : i < Text.leastLong) (side : Nat)
    (dimension : Dimension) :
    ∃ text, Finding.positionText i side dimension = .ok text := by
  obtain ⟨text, htext⟩ := Option.isSome_iff_exists.1
    ((isSome_relativeText?_iff i side dimension (Int.natCast_nonneg side)).2 (.inr h))
  exact ⟨text, positionText_eq_ok_iff.2 htext⟩

section Positions

variable (hheight : 0 < mask.height ∧ mask.height < Text.leastLong)
  (hwidth : 0 < mask.width ∧ mask.width < Text.leastLong)

include hheight hwidth

omit hwidth in
theorem exists_horizontalLine? : ∃ found, Finding.find? mask .horizontalLine = .ok found := by
  rw [Finding.find?, Finding.horizontalLine?]
  split
  · split
    · next r hrows =>
        have hr : r < mask.height := lt_height_of_mem_rows (by simp [hrows])
        obtain ⟨text, htext⟩ := exists_positionText (hr.trans hheight.2) mask.height .height
        exact ⟨_, by rw [htext]; rfl⟩
    · exact ⟨none, rfl⟩
  · exact ⟨none, rfl⟩

theorem passesIff_horizontalLine : mask.PassesIff .horizontalLine
    (∃ r < mask.height, mask.Fills {r} (Finset.range mask.width)) := by
  obtain ⟨found, hfound⟩ := exists_horizontalLine? hheight
  refine ⟨found, hfound, ?_⟩
  constructor
  · intro h
    obtain ⟨finding, rfl⟩ := Option.isSome_iff_exists.1 h
    obtain ⟨r, hr, hmarked, -⟩ := horizontalLine?_eq_some hfound
    exact ⟨r, hr, fun i j => by simpa using hmarked i j⟩
  · rintro ⟨r, -, hfills⟩
    have hcount : mask.count = mask.width := by simpa using hfills.count_eq
    have hrows : mask.rows = [r] :=
      hfills.rows_eq ⟨0, by simpa using hwidth.1⟩ (List.pairwise_singleton _ _) (by simp)
    rw [Finding.find?, Finding.horizontalLine?, if_pos hcount, hrows] at hfound
    obtain ⟨text, -, hsome⟩ := bind_eq_ok hfound
    rw [← Except.ok.inj hsome, Option.isSome_some]

omit hheight in
theorem exists_verticalLine? : ∃ found, Finding.find? mask .verticalLine = .ok found := by
  rw [Finding.find?, Finding.verticalLine?]
  split
  · split
    · next c hcolumns =>
        have hc : c < mask.width := lt_width_of_mem_columns (by simp [hcolumns])
        obtain ⟨text, htext⟩ := exists_positionText (hc.trans hwidth.2) mask.width .width
        exact ⟨_, by rw [htext]; rfl⟩
    · exact ⟨none, rfl⟩
  · exact ⟨none, rfl⟩

theorem passesIff_verticalLine : mask.PassesIff .verticalLine
    (∃ c < mask.width, mask.Fills (Finset.range mask.height) {c}) := by
  obtain ⟨found, hfound⟩ := exists_verticalLine? hwidth
  refine ⟨found, hfound, ?_⟩
  constructor
  · intro h
    obtain ⟨finding, rfl⟩ := Option.isSome_iff_exists.1 h
    obtain ⟨c, hc, hmarked, -⟩ := verticalLine?_eq_some hfound
    exact ⟨c, hc, fun i j => by simpa using hmarked i j⟩
  · rintro ⟨c, -, hfills⟩
    have hcount : mask.count = mask.height := by simpa using hfills.count_eq
    have hcolumns : mask.columns = [c] :=
      hfills.columns_eq ⟨0, by simpa using hheight.1⟩ (List.pairwise_singleton _ _) (by simp)
    rw [Finding.find?, Finding.verticalLine?, if_pos hcount, hcolumns] at hfound
    obtain ⟨text, -, hsome⟩ := bind_eq_ok hfound
    rw [← Except.ok.inj hsome, Option.isSome_some]

/-- The bounds of a rectangle within the area have texts. -/
theorem exists_rectangle {top bottom left right : Nat}
    (hrows : top ≤ mask.height ∧ bottom ≤ mask.height)
    (hcolumns : left ≤ mask.width ∧ right ≤ mask.width) :
    ∃ finding, Finding.rectangle mask top bottom left right = .ok finding := by
  obtain ⟨r₁, h₁⟩ := exists_positionText (show top < Text.leastLong by omega) mask.height .height
  obtain ⟨r₂, h₂⟩ := exists_positionText (show bottom < Text.leastLong by omega) mask.height .height
  obtain ⟨c₁, h₃⟩ := exists_positionText (show left < Text.leastLong by omega) mask.width .width
  obtain ⟨c₂, h₄⟩ := exists_positionText (show right < Text.leastLong by omega) mask.width .width
  exact ⟨_, by rw [Finding.rectangle, h₁, h₂, h₃, h₄]; rfl⟩

theorem exists_filledRectangle? : ∃ found, Finding.find? mask .filledRectangle = .ok found := by
  rw [Finding.find?, Finding.filledRectangle?]
  split
  · next top bottom left right htop hbottom hleft hright =>
      split
      · have hrows := lt_height_of_mem_rows (List.mem_of_head? htop)
        have hrows' := lt_height_of_mem_rows (List.mem_of_getLast? hbottom)
        have hcolumns := lt_width_of_mem_columns (List.mem_of_head? hleft)
        have hcolumns' := lt_width_of_mem_columns (List.mem_of_getLast? hright)
        obtain ⟨finding, hfinding⟩ := exists_rectangle hheight hwidth
          ⟨hrows.le, Nat.succ_le_of_lt hrows'⟩ ⟨hcolumns.le, Nat.succ_le_of_lt hcolumns'⟩
        exact ⟨_, by rw [hfinding]; rfl⟩
      · exact ⟨none, rfl⟩
  · exact ⟨none, rfl⟩

theorem passesIff_filledRectangle : mask.PassesIff .filledRectangle
    (∃ top bottom left right, (top < bottom ∧ bottom ≤ mask.height) ∧
      (left < right ∧ right ≤ mask.width) ∧
      mask.Fills (Finset.Ico top bottom) (Finset.Ico left right)) := by
  obtain ⟨found, hfound⟩ := exists_filledRectangle? hheight hwidth
  refine ⟨found, hfound, ?_⟩
  constructor
  · intro h
    obtain ⟨finding, rfl⟩ := Option.isSome_iff_exists.1 h
    obtain ⟨top, bottom, left, right, hrows, hcolumns, hmarked, -⟩ :=
      filledRectangle?_eq_some hfound
    exact ⟨top, bottom, left, right, hrows, hcolumns, fun r c => by simpa using hmarked r c⟩
  · rintro ⟨top, bottom, left, right, ⟨hrows, -⟩, ⟨hcolumns, -⟩, hfills⟩
    have hrowsEq : mask.rows = List.range' top (bottom - top) := by
      refine hfills.rows_eq (Finset.nonempty_Ico.2 hcolumns) List.pairwise_lt_range' ?_
      intro r
      rw [List.mem_range'_1, Finset.mem_Ico]
      omega
    have hcolumnsEq : mask.columns = List.range' left (right - left) := by
      refine hfills.columns_eq (Finset.nonempty_Ico.2 hrows) List.pairwise_lt_range' ?_
      intro c
      rw [List.mem_range'_1, Finset.mem_Ico]
      omega
    have hcount : mask.count = (bottom - top) * (right - left) := by simpa using hfills.count_eq
    have hheights : top + (bottom - top) - 1 + 1 - top = bottom - top := by omega
    have hwidths : left + (right - left) - 1 + 1 - left = right - left := by omega
    rw [Finding.find?, Finding.filledRectangle?, hrowsEq, hcolumnsEq, List.head?_range',
      List.getLast?_range', List.head?_range', List.getLast?_range', if_neg (by omega),
      if_neg (by omega), if_neg (by omega), if_neg (by omega)] at hfound
    simp only [hheights, hwidths, hcount, if_true] at hfound
    obtain ⟨finding, -, hsome⟩ := map_eq_ok hfound
    rw [← hsome, Option.isSome_some]

end Positions

/-! ### Checkerboards -/

/-- Twice the number of cells of one parity is the number of all cells plus, with a sign, the
product of the alternating sums along both sides. -/
theorem two_mul_count_of_agrees {parity : Nat} (hparity : parity < 2)
    (h : mask.agrees (fun r c => (r + c) % 2 == parity) = true) :
    2 * (mask.count : Int) = mask.height * mask.width +
      (-1) ^ parity * ((∑ r ∈ Finset.range mask.height, (-1) ^ r) *
        ∑ c ∈ Finset.range mask.width, (-1) ^ c) := by
  -- The signs of the row and of the column have the sign of the parity exactly on marked cells.
  have hmark (r c : Nat) (hr : r < mask.height) (hc : c < mask.width) :
      2 * (if mask.isMarked r c = true then 1 else 0 : Int) =
        1 + (-1) ^ parity * ((-1) ^ r * (-1) ^ c) := by
    rw [agrees_iff_isMarked.1 h r hr c hc, ← pow_add, ← pow_add, neg_one_pow_eq_pow_mod_two]
    rcases Nat.mod_two_eq_zero_or_one (parity + (r + c)) with hsum | hsum
    · have hmarked : (r + c) % 2 = parity := by omega
      simp [hsum, hmarked]
    · have hplain : (r + c) % 2 ≠ parity := by omega
      simp [hsum, hplain]
  calc 2 * (mask.count : Int)
      = ∑ r ∈ Finset.range mask.height, ∑ c ∈ Finset.range mask.width,
          2 * (if mask.isMarked r c = true then 1 else 0 : Int) := by
        rw [count_eq_card, marked, Finset.card_filter, Finset.sum_product]
        push_cast
        simp only [Finset.mul_sum]
    _ = ∑ r ∈ Finset.range mask.height, ∑ c ∈ Finset.range mask.width,
          (1 + (-1) ^ parity * ((-1) ^ r * (-1) ^ c)) := by
        refine Finset.sum_congr rfl fun r hr => Finset.sum_congr rfl fun c hc => ?_
        exact hmark r c (Finset.mem_range.1 hr) (Finset.mem_range.1 hc)
    _ = _ := by
        simp only [Finset.sum_add_distrib, ← Finset.mul_sum]
        simp

/-- The cells of one parity are half of all cells, up to one half of a cell. -/
theorem count_bounds_of_agrees {parity : Nat} (hparity : parity < 2)
    (h : mask.agrees (fun r c => (r + c) % 2 == parity) = true) :
    mask.height * mask.width ≤ 2 * mask.count + 1 ∧
      2 * mask.count ≤ mask.height * mask.width + 1 := by
  have hsum (n : Nat) : (∑ i ∈ Finset.range n, (-1 : Int) ^ i) = 0 ∨
      (∑ i ∈ Finset.range n, (-1 : Int) ^ i) = 1 := by
    rw [neg_one_geom_sum]
    split
    · exact .inl rfl
    · exact .inr rfl
  have hcount := two_mul_count_of_agrees hparity h
  rw [← Nat.cast_mul] at hcount
  have hsign : (-1 : Int) ^ parity = 1 ∨ (-1 : Int) ^ parity = -1 := neg_one_pow_eq_or Int parity
  rcases hsum mask.height with hrows | hrows <;> rcases hsum mask.width with hcols | hcols <;>
    rcases hsign with hsign | hsign <;> rw [hrows, hcols, hsign] at hcount <;> omega

theorem count_ne_zero_iff : mask.count ≠ 0 ↔ ∃ r c, mask.isMarked r c = true := by
  rw [count_eq_card, Finset.card_ne_zero]
  constructor
  · rintro ⟨⟨r, c⟩, hplace⟩
    exact ⟨r, c, mem_marked.1 hplace⟩
  · rintro ⟨r, c, hmarked⟩
    exact ⟨(r, c), mem_marked.2 hmarked⟩

/-- Half of a number, up to one half, is about half of the number rounded to 53 binary digits, if
the number is not too large: what the rounding adds or takes away is at most two. -/
theorem half_rounded {n count : Nat} (hn : n < 2 ^ 55) (hlow : n ≤ 2 * count + 1)
    (hhigh : 2 * count ≤ n + 1) :
    count ≤ (Binary64.rounded n + 1) / 2 + 1 ∧ (Binary64.rounded n + 1) / 2 ≤ count + 1 := by
  have hlog : Nat.log2 n < 55 := by
    rcases Nat.eq_zero_or_pos n with rfl | hpos
    · decide
    · exact (Nat.log2_lt (by omega)).2 hn
  obtain hunit | hunit | hunit : Nat.log2 n + 1 - 53 = 0 ∨ Nat.log2 n + 1 - 53 = 1 ∨
      Nat.log2 n + 1 - 53 = 2 := by
    omega
  all_goals
    simp only [Binary64.rounded, hunit, Binary64.roundedQuotient, Nat.pow_eq, Nat.reducePow]
    split_ifs <;> omega

theorem isAboutHalf_of_agrees {parity : Nat} (hparity : parity < 2)
    (harea : mask.height * mask.width < 2 ^ 55) (hcount : mask.count ≠ 0)
    (h : mask.agrees (fun r c => (r + c) % 2 == parity) = true) : mask.isAboutHalf = true := by
  obtain ⟨hlow, hhigh⟩ := count_bounds_of_agrees hparity h
  have hhalf := half_rounded harea hlow hhigh
  simp [isAboutHalf, hcount, hhalf.1, hhalf.2]

/-- The cells are those of one parity, and there are any. -/
def IsCheckered (mask : Mask) : Prop :=
  mask.cells.Nonempty ∧ ∃ parity < 2, mask.agrees (fun r c => (r + c) % 2 == parity) = true

theorem exists_checkerboard? (hheight : 0 < mask.height) (hwidth : 0 < mask.width)
    (harea : mask.height * mask.width < indexLimit) :
    ∃ found, Finding.find? mask .checkerboard = .ok found := by
  rw [Finding.find?, indexed_eq_ok hheight hwidth harea]
  split <;> exact ⟨_, rfl⟩

/-- The bounds on the number of cells refuse no checkerboard of an area that is not too large. -/
theorem passesIff_checkerboard (hheight : 0 < mask.height) (hwidth : 0 < mask.width)
    (harea : mask.height * mask.width < indexLimit)
    (hboard : mask.height * mask.width < 2 ^ 55 ∨ ¬ mask.IsCheckered) :
    mask.PassesIff .checkerboard mask.IsCheckered := by
  obtain ⟨found, hfound⟩ := exists_checkerboard? hheight hwidth harea
  refine ⟨found, hfound, ?_⟩
  constructor
  · intro h
    obtain ⟨finding, rfl⟩ := Option.isSome_iff_exists.1 h
    obtain ⟨hcount, parity, hparity, -, hagrees⟩ := checkerboard?_eq_some hfound
    exact ⟨nonempty_cells.2 (count_ne_zero_iff.1 hcount), parity, hparity, hagrees⟩
  · intro hcheckered
    have harea' := hboard.resolve_right (not_not.2 hcheckered)
    obtain ⟨hne, parity, hparity, hagrees⟩ := hcheckered
    have hcount := count_ne_zero_iff.2 (nonempty_cells.1 hne)
    rw [Finding.find?, if_pos (isAboutHalf_of_agrees hparity harea' hcount hagrees),
      indexed_eq_ok hheight hwidth harea] at hfound
    rw [← Except.ok.inj hfound, Finding.checkerboard?]
    split
    · rfl
    · next heven =>
        obtain rfl | rfl : parity = 0 ∨ parity = 1 := by omega
        · exact absurd hagrees heven
        · rw [if_pos hagrees, Option.isSome_some]

theorem agrees_parity_iff {parity : Nat} :
    mask.agrees (fun r c => (r + c) % 2 == parity) = true ↔
      mask.cells = {cell ∈ area mask.height mask.width |
        (cell.row + cell.col) % 2 = (parity : Int)} := by
  apply agrees_iff_cells
  intro r hr c hc
  simp only [Coord.ofNat, beq_iff_eq]
  omega

/-! ### Tests -/

theorem fills_row_iff {r : Nat} (hr : r < mask.height) :
    mask.Fills {r} (Finset.range mask.width) ↔
      mask.cells = {cell ∈ area mask.height mask.width | cell.row = r} := by
  apply fills_iff_cells
  · simpa using hr
  · exact subset_rfl
  · intro i _ j hj
    simp [Coord.ofNat, hj]

theorem fills_column_iff {c : Nat} (hc : c < mask.width) :
    mask.Fills (Finset.range mask.height) {c} ↔
      mask.cells = {cell ∈ area mask.height mask.width | cell.col = c} := by
  apply fills_iff_cells
  · exact subset_rfl
  · simpa using hc
  · intro i hi j _
    simp [Coord.ofNat, hi]

theorem fills_rectangle_iff {top bottom left right : Nat} (hbottom : bottom ≤ mask.height)
    (hright : right ≤ mask.width) :
    mask.Fills (Finset.Ico top bottom) (Finset.Ico left right) ↔
      mask.cells = {cell ∈ area mask.height mask.width |
        (top ≤ cell.row ∧ cell.row < bottom) ∧ left ≤ cell.col ∧ cell.col < right} := by
  apply fills_iff_cells
  · intro r hr
    exact Finset.mem_range.2 ((Finset.mem_Ico.1 hr).2.trans_le hbottom)
  · intro c hc
    exact Finset.mem_range.2 ((Finset.mem_Ico.1 hc).2.trans_le hright)
  · intro i _ j _
    simp only [Coord.ofNat, Finset.mem_Ico]
    omega

/-- The cells of a mask are checkered exactly if they are a shape of the checkerboards. -/
theorem isCheckered_iff : mask.IsCheckered ↔
    Family.checkerboard.HasShape mask.height mask.width mask.cells := by
  refine and_congr_right fun hne => ?_
  constructor
  · rintro ⟨parity, -, hagrees⟩
    exact ⟨parity, agrees_parity_iff.1 hagrees⟩
  · rintro ⟨parity, hcells⟩
    -- The parity is that of a marked cell.
    obtain ⟨cell, hcell⟩ := hne
    have hsum : (cell.row + cell.col) % 2 = parity := (hcells ▸ hcell).2
    lift parity to Nat using by omega
    exact ⟨parity, by omega, agrees_parity_iff.2 hcells⟩

theorem PassesIff.congr {family : Family} {p q : Prop} (h : mask.PassesIff family p)
    (hiff : p ↔ q) : mask.PassesIff family q := by
  rwa [← propext hiff]

/-- The sides of an area with rows and columns, but not with too many cells, have short texts. -/
theorem sides_lt_leastLong (hheight : 0 < mask.height) (hwidth : 0 < mask.width)
    (harea : mask.height * mask.width < indexLimit) :
    (0 < mask.height ∧ mask.height < Text.leastLong) ∧
      0 < mask.width ∧ mask.width < Text.leastLong := by
  have hheight' := Nat.le_mul_of_pos_right mask.height hwidth
  have hwidth' := Nat.le_mul_of_pos_left mask.width hheight
  have hlimit : indexLimit ≤ cellLimit := by decide
  exact ⟨⟨hheight, Rule.lt_of_lt_cellLimit (by omega)⟩, hwidth, Rule.lt_of_lt_cellLimit (by omega)⟩

/-- No test fails on a mask of an area with rows and columns, but not with too many cells. -/
theorem exists_find? (hheight : 0 < mask.height) (hwidth : 0 < mask.width)
    (harea : mask.height * mask.width < indexLimit) (family : Family) :
    ∃ found, Finding.find? mask family = .ok found := by
  obtain ⟨hheight', hwidth'⟩ := sides_lt_leastLong hheight hwidth harea
  cases family with
  | fill => exact ⟨_, rfl⟩
  | border => exact ⟨_, indexed_eq_ok hheight hwidth harea _⟩
  | diagonal => exact ⟨_, indexed_eq_ok hheight hwidth harea _⟩
  | antiDiagonal => exact ⟨_, indexed_eq_ok hheight hwidth harea _⟩
  | horizontalLine => exact exists_horizontalLine? hheight'
  | verticalLine => exact exists_verticalLine? hwidth'
  | filledRectangle => exact exists_filledRectangle? hheight' hwidth'
  | checkerboard => exact exists_checkerboard? hheight hwidth harea
  | coordinateSet => exact ⟨_, rfl⟩

/-- The test of a family passes a mask of an area with rows and columns, but not with too many
cells, exactly if the marked cells are a shape of the family. -/
theorem passesIff_hasShape (hheight : 0 < mask.height) (hwidth : 0 < mask.width)
    (harea : mask.height * mask.width < indexLimit)
    (hboard : mask.height * mask.width < 2 ^ 55 ∨
      ¬ Family.checkerboard.HasShape mask.height mask.width mask.cells)
    {family : Family} (hfamily : family ≠ .coordinateSet) :
    mask.PassesIff family (family.HasShape mask.height mask.width mask.cells) := by
  obtain ⟨hheight', hwidth'⟩ := sides_lt_leastLong hheight hwidth harea
  cases family with
  | fill => exact passesIff_fill
  | border => exact passesIff_border hheight hwidth harea
  | diagonal => exact passesIff_diagonal hheight hwidth harea
  | antiDiagonal => exact passesIff_antiDiagonal hheight hwidth harea
  | horizontalLine =>
      refine (passesIff_horizontalLine hheight' hwidth').congr ?_
      constructor
      · rintro ⟨r, hr, hfills⟩
        exact ⟨r, by omega, (fills_row_iff hr).1 hfills⟩
      · rintro ⟨row, ⟨hrow, hlast⟩, hcells⟩
        lift row to Nat using hrow
        have hr : row < mask.height := by omega
        exact ⟨row, hr, (fills_row_iff hr).2 hcells⟩
  | verticalLine =>
      refine (passesIff_verticalLine hheight' hwidth').congr ?_
      constructor
      · rintro ⟨c, hc, hfills⟩
        exact ⟨c, by omega, (fills_column_iff hc).1 hfills⟩
      · rintro ⟨col, ⟨hcol, hlast⟩, hcells⟩
        lift col to Nat using hcol
        have hc : col < mask.width := by omega
        exact ⟨col, hc, (fills_column_iff hc).2 hcells⟩
  | filledRectangle =>
      refine (passesIff_filledRectangle hheight' hwidth').congr ?_
      constructor
      · rintro ⟨top, bottom, left, right, hrows, hcols, hfills⟩
        exact ⟨top, bottom, left, right, by omega, by omega,
          (fills_rectangle_iff hrows.2 hcols.2).1 hfills⟩
      · rintro ⟨top, bottom, left, right, ⟨htop, hrows, hbottom⟩, ⟨hleft, hcols, hright⟩, hcells⟩
        lift top to Nat using htop
        lift bottom to Nat using by omega
        lift left to Nat using hleft
        lift right to Nat using by omega
        exact ⟨top, bottom, left, right, by omega, by omega,
          (fills_rectangle_iff (by omega) (by omega)).2 hcells⟩
  | checkerboard =>
      rw [← isCheckered_iff] at hboard
      exact (passesIff_checkerboard hheight hwidth harea hboard).congr isCheckered_iff
  | coordinateSet => exact absurd rfl hfamily

/-! ### Masks of the same cells -/

theorem eq_of_isMarked {first second : Mask} (hheight : first.height = second.height)
    (hwidth : first.width = second.width)
    (h : ∀ r c, first.isMarked r c = second.isMarked r c) : first = second := by
  obtain ⟨height, width, bits⟩ := first
  obtain ⟨height', width', bits'⟩ := second
  obtain rfl : height = height' := hheight
  obtain rfl : width = width' := hwidth
  congr 1
  apply Vector.ext
  intro r hr
  apply Vector.ext
  intro c hc
  have hbit := h r c
  rwa [isMarked_eq hr hc, isMarked_eq hr hc] at hbit

/-- The order of cells does not matter to their mask, nor how often a cell is given. -/
theorem ofCells_congr {height width : Nat} {cells others : List Coord}
    (hcells : ∀ cell ∈ cells, Holds height width cell)
    (hothers : ∀ cell, cell ∈ others ↔ cell ∈ cells) :
    ofCells height width others = ofCells height width cells := by
  have hholds (cell) (hcell : cell ∈ others) : Holds height width cell :=
    hcells cell ((hothers cell).1 hcell)
  apply eq_of_isMarked
  · simp
  · simp
  · intro r c
    rw [Bool.eq_iff_iff, isMarked_ofCells hholds, isMarked_ofCells hcells, hothers]

/-- Cells of an area that is not too large have a mask. -/
theorem ofCells?_of_holds {height width : Nat} {cells : List Coord} (hheight : 0 < height)
    (hwidth : 0 < width) (harea : height * width < cellLimit)
    (hcells : ∀ cell ∈ cells, Holds height width cell) :
    ofCells? cells height width = .ok (ofCells height width cells) := by
  have hcovers : (cells.find? fun cell => !covers height width cell) = none := by
    rw [List.find?_eq_none]
    intro cell hcell
    obtain ⟨r, c, rfl⟩ := (hcells cell hcell).exists_ofNat
    simp [covers, Coord.ofNat, place?_of_lt r.2, place?_of_lt c.2]
  have hsides : max 1 height * max 1 width = height * width := by
    rw [max_eq_right hheight, max_eq_right hwidth]
  rw [ofCells?, if_neg (by omega)]
  simp only [Int.toNat_natCast, hsides, not_le.2 harea, if_false, hcovers]

end Mask

/-! ### The first family with a shape -/

namespace Family

/-- The last family stands behind all others. -/
theorem coordinateSet_not_mem {family : Family} {earlier later : List Family}
    (h : all = earlier ++ family :: later) : coordinateSet ∉ earlier := by
  intro hmem
  have hlast : coordinateSet ∈ family :: later := by
    have hgetLast : all.getLast? = some coordinateSet := rfl
    rw [h, List.getLast?_append_of_ne_nil _ (List.cons_ne_nil _ _)] at hgetLast
    exact List.mem_of_getLast? hgetLast
  have hnodup : all.Nodup := by decide
  rw [h, List.nodup_append] at hnodup
  exact hnodup.2.2 _ hmem _ hlast rfl

/-- The last family is the first one with a shape if no other has it. -/
theorem IsFirst.eq_coordinateSet_iff {family : Family} {height width : Int} {cells : Set Coord}
    (h : family.IsFirst height width cells) :
    family = .coordinateSet ↔
      ∀ other : Family, other ≠ .coordinateSet → ¬ other.HasShape height width cells := by
  obtain ⟨hshape, earlier, later, hall, hearlier⟩ := h
  constructor
  · rintro rfl other hother
    have hsplit : all.dropLast ++ coordinateSet :: [] = earlier ++ coordinateSet :: later := hall
    rw [List.append_cons_inj_of_notMem (by decide) (by decide)] at hsplit
    have hmem : ∀ other : Family, other ≠ coordinateSet → other ∈ all.dropLast := by
      intro other hother
      cases other with
      | coordinateSet => exact absurd rfl hother
      | _ => decide
    exact hearlier other (hsplit.1 ▸ hmem other hother)
  · intro hnone
    by_contra hother
    exact hnone family hother hshape

end Family

/-! ### Discovered rules -/

namespace Rule

variable {height width : Nat} {symbol : String} {cells : List Coord}

section Shapes

variable (hheight : 0 < height) (hwidth : 0 < width) (harea : height * width < Mask.indexLimit)
  (hboard : height * width < 2 ^ 55 ∨
    ¬ Family.checkerboard.HasShape height width {cell | cell ∈ cells})
  (hcells : ∀ cell ∈ cells, Mask.Holds height width cell)

include hheight hwidth harea hboard hcells

theorem passesIff_ofCells {family : Family} (hfamily : family ≠ .coordinateSet) :
    (Mask.ofCells height width cells).PassesIff family
      (family.HasShape height width {cell | cell ∈ cells}) := by
  have hpasses : (Mask.ofCells height width cells).PassesIff family _ :=
    Mask.passesIff_hasShape (by simpa using hheight) (by simpa using hwidth)
      (by simpa using harea) (by simpa [Mask.cells_ofCells hcells] using hboard) hfamily
  rwa [Mask.cells_ofCells hcells, Mask.height_ofCells, Mask.width_ofCells] at hpasses

theorem not_hasShape_of_nothing {family : Family} (hfamily : family ≠ .coordinateSet)
    (h : Finding.find? (Mask.ofCells height width cells) family = .ok none) :
    ¬ family.HasShape height width {cell | cell ∈ cells} := by
  obtain ⟨found, hfound, hiff⟩ := passesIff_ofCells hheight hwidth harea hboard hcells hfamily
  obtain rfl : none = found := Except.ok.inj (h.symm.trans hfound)
  intro hshape
  cases hiff.2 hshape

/-- The rule of the first test that a mask passes is of the first family with the shape. -/
theorem isFirst_of_firstOf? {rule : Rule}
    (h : firstOf? (Mask.ofCells height width cells) symbol Family.all = .ok (some rule)) :
    rule.family.IsFirst height width {cell | cell ∈ cells} := by
  obtain ⟨earlier, later, finding, hall, hearlier, hfinding, -⟩ := firstOf?_eq_some h
  obtain ⟨found, hfound, hiff⟩ := passesIff_ofCells hheight hwidth harea hboard hcells
    (family_ne_of_firstOf? h)
  obtain rfl : some finding = found := Except.ok.inj (hfinding.symm.trans hfound)
  refine ⟨hiff.1 rfl, earlier, later, hall, ?_⟩
  intro other hmem
  have hother : other ≠ .coordinateSet := by
    rintro rfl
    exact Family.coordinateSet_not_mem hall hmem
  exact not_hasShape_of_nothing hheight hwidth harea hboard hcells hother (hearlier other hmem)

/-- If no test is passed, the last family is the first one with the shape. -/
theorem isFirst_coordinateSet
    (h : firstOf? (Mask.ofCells height width cells) symbol Family.all = .ok none) :
    Family.coordinateSet.IsFirst height width {cell | cell ∈ cells} := by
  refine ⟨trivial, Family.all.dropLast, [], rfl, ?_⟩
  intro family hmem
  have hfamily : family ≠ .coordinateSet := by
    rintro rfl
    revert hmem
    decide
  exact not_hasShape_of_nothing hheight hwidth harea hboard hcells hfamily
    (firstOf?_eq_none h family (List.mem_of_mem_dropLast hmem))

end Shapes

/-- In an area with rows and columns, but not too many cells, the families can be tried in order. -/
theorem exists_firstOf?_all (hheight : 0 < height) (hwidth : 0 < width)
    (harea : height * width < Mask.indexLimit) (symbol : String) (cells : List Coord) :
    ∃ found, firstOf? (Mask.ofCells height width cells) symbol Family.all = .ok found := by
  refine exists_firstOf? symbol fun family _ => Mask.exists_find? ?_ ?_ ?_ family
  · simpa using hheight
  · simpa using hwidth
  · simpa using harea

section Others

variable (hheight : 0 < height) (hwidth : 0 < width) (harea : height * width < Mask.indexLimit)
  (hcells : ∀ cell ∈ cells, Mask.Holds height width cell) {others : List Coord}
  (hothers : ∀ cell, cell ∈ others ↔ cell ∈ cells)

include hheight hwidth harea hcells hothers

/-- Cells have the mask of the same cells in another order. -/
theorem ofCells?_others :
    Mask.ofCells? others height width = .ok (Mask.ofCells height width cells) := by
  have hholds (cell) (hcell : cell ∈ others) : Mask.Holds height width cell :=
    hcells cell ((hothers cell).1 hcell)
  have hlimit : Mask.indexLimit ≤ Mask.cellLimit := by decide
  rw [Mask.ofCells?_of_holds hheight hwidth (by omega) hholds, Mask.ofCells_congr hcells hothers]

/-- A rule with a condition does not depend on the order of the cells. -/
theorem discover_of_some {rule : Rule}
    (h : firstOf? (Mask.ofCells height width cells) symbol Family.all = .ok (some rule)) :
    discover others symbol height width = .ok rule := by
  simp only [discover, ofCells?_others hheight hwidth harea hcells hothers, h]

/-- Cells without a condition are listed as given. -/
theorem discover_of_none {c : Char}
    (h : firstOf? (Mask.ofCells height width cells) (String.singleton c) Family.all = .ok none) :
    discover others (String.singleton c) height width = .ok (coordinateSet c others) := by
  simp only [discover, ofCells?_others hheight hwidth harea hcells hothers, h,
    String.toList_singleton]

end Others

/-- For a symbol of one character a rule is discovered in every area with few enough cells. -/
theorem exists_discover (hheight : 0 < height) (hwidth : 0 < width)
    (harea : height * width < Mask.indexLimit)
    (hcells : ∀ cell ∈ cells, Mask.Holds height width cell) (symbol : Char) :
    ∃ rule, discover cells (String.singleton symbol) height width = .ok rule := by
  obtain ⟨found, hfound⟩ := exists_firstOf?_all hheight hwidth harea (String.singleton symbol) cells
  cases found with
  | some rule =>
      exact ⟨rule, discover_of_some hheight hwidth harea hcells (fun _ => Iff.rfl) hfound⟩
  | none => exact ⟨_, discover_of_none hheight hwidth harea hcells (fun _ => Iff.rfl) hfound⟩

/-- In a larger area no rule is discovered, unless all of its cells are given. -/
theorem discover_of_large (hheight : 0 < height) (hwidth : 0 < width)
    (harea : Mask.indexLimit ≤ height * width)
    (hcells : ∀ cell ∈ cells, Mask.Holds height width cell)
    {left : Coord} (hleft : Mask.Holds height width left) (hnotMem : left ∉ cells)
    (symbol : String) : discover cells symbol height width = .error .tooManyCells := by
  have hsides : max 1 height * max 1 width = height * width := by
    rw [max_eq_right (Nat.one_le_of_lt hheight), max_eq_right (Nat.one_le_of_lt hwidth)]
  by_cases hlimit : height * width < Mask.cellLimit
  · have hfill : Finding.fill? (Mask.ofCells height width cells) = none := by
      obtain ⟨r, c, rfl⟩ := hleft.exists_ofNat
      refine if_neg fun hagrees => hnotMem ?_
      rw [← Mask.isMarked_ofCells hcells r c]
      exact Mask.agrees_iff_isMarked.1 hagrees r (by simp) c (by simp)
    have hborder : Finding.find? (Mask.ofCells height width cells) .border =
        .error .tooManyCells := by
      rw [Finding.find?, Mask.indexed, if_pos]
      simpa [hsides] using harea
    have hfirst : firstOf? (Mask.ofCells height width cells) symbol Family.all =
        .error .tooManyCells := by
      rw [Family.all, firstOf?, Finding.find?, hfill]
      simp only [firstOf?, hborder]
    simp only [discover, Mask.ofCells?_of_holds hheight hwidth hlimit hcells, hfirst]
  · rw [discover, Mask.ofCells?, if_neg (by omega)]
    simp only [Int.toNat_natCast, hsides, if_pos (not_lt.1 hlimit)]

/-- Cells of an area with few enough cells, for a checkerboard fewer than two to the power of
fifty-five, are classified by the set of them. The test of each family but the last passes exactly
if the set is one of the family's shapes. The rule that is discovered is of the first family with
this shape, and lists the cells exactly if no other family has it. Cells in another order, or given
more or less often, have the same rule, but for the cells that it lists. Only a rule that lists the
cells asks for a symbol of one character. -/
theorem discover_classifies {height width : Int} {cells : List Coord} (hheight : 1 ≤ height)
    (hwidth : 1 ≤ width) (harea : height * width < Mask.indexLimit)
    (hboard : height * width < 2 ^ 55 ∨
      ¬ Family.checkerboard.HasShape height width {cell | cell ∈ cells})
    (hcells : ∀ cell ∈ cells, cell ∈ area height width) :
    (∃ mask, Mask.ofCells? cells height width = .ok mask ∧ ∀ family ≠ .coordinateSet,
      ∃ found, Finding.find? mask family = .ok found ∧
        (found.isSome = true ↔ family.HasShape height width {cell | cell ∈ cells})) ∧
    ∀ symbol : String,
      ((∃ c, symbol = String.singleton c) ∨ ∃ family : Family, family ≠ .coordinateSet ∧
        family.HasShape height width {cell | cell ∈ cells}) →
      ∃ rule, discover cells symbol height width = .ok rule ∧
        rule.family.IsFirst height width {cell | cell ∈ cells} ∧
        (rule.family = .coordinateSet ↔ ∀ family : Family, family ≠ .coordinateSet →
          ¬ family.HasShape height width {cell | cell ∈ cells}) ∧
        ∀ others : List Coord, (∀ cell, cell ∈ others ↔ cell ∈ cells) →
          discover others symbol height width =
            .ok (if rule.family = .coordinateSet then { rule with cells := others } else rule) := by
  lift height to Nat using by omega with m
  lift width to Nat using by omega with n
  have hm : 0 < m := by omega
  have hn : 0 < n := by omega
  have harea : m * n < Mask.indexLimit := by exact_mod_cast harea
  have hboard : m * n < 2 ^ 55 ∨
      ¬ Family.checkerboard.HasShape m n {cell | cell ∈ cells} :=
    hboard.imp_left fun h => by exact_mod_cast h
  have hlimit : Mask.indexLimit ≤ Mask.cellLimit := by decide
  constructor
  · exact ⟨_, Mask.ofCells?_of_holds hm hn (by omega) hcells, fun family hfamily =>
      passesIff_ofCells hm hn harea hboard hcells hfamily⟩
  · intro symbol hsymbol
    obtain ⟨found, hfound⟩ := exists_firstOf?_all hm hn harea symbol cells
    cases found with
    | some rule =>
        have hfirst := isFirst_of_firstOf? hm hn harea hboard hcells hfound
        refine ⟨rule, discover_of_some hm hn harea hcells (fun _ => Iff.rfl) hfound, hfirst,
          hfirst.eq_coordinateSet_iff, fun others hothers => ?_⟩
        rw [discover_of_some hm hn harea hcells hothers hfound,
          if_neg (family_ne_of_firstOf? hfound)]
    | none =>
        have hfirst := isFirst_coordinateSet hm hn harea hboard hcells hfound
        have hnone := hfirst.eq_coordinateSet_iff.1 rfl
        obtain ⟨c, rfl⟩ | ⟨family, hfamily, hshape⟩ := hsymbol
        · exact ⟨_, discover_of_none hm hn harea hcells (fun _ => Iff.rfl) hfound, hfirst,
            hfirst.eq_coordinateSet_iff, fun others hothers =>
              discover_of_none hm hn harea hcells hothers hfound⟩
        · exact absurd hshape (hnone family hfamily)

/-- Two opposite corners of an area of two rows and columns are an anti-diagonal before they are a
checkerboard. -/
theorem discover_classifies_corners :
    ∃ rule, discover [⟨0, 1⟩, ⟨1, 0⟩] "#" 2 2 = .ok rule ∧
      rule.family.IsFirst 2 2 {cell | cell ∈ [(⟨0, 1⟩ : Coord), ⟨1, 0⟩]} ∧
      rule.family = .antiDiagonal ∧
      discover [⟨1, 0⟩, ⟨0, 1⟩, ⟨1, 0⟩] "#" 2 2 = .ok rule := by
  have hcells : ∀ cell ∈ [(⟨0, 1⟩ : Coord), ⟨1, 0⟩], cell ∈ area 2 2 :=
    show ∀ cell ∈ [(⟨0, 1⟩ : Coord), ⟨1, 0⟩],
      (0 ≤ cell.row ∧ cell.row < 2) ∧ 0 ≤ cell.col ∧ cell.col < 2 by decide
  obtain ⟨-, hrules⟩ :=
    discover_classifies (show 1 ≤ 2 by decide) (show 1 ≤ 2 by decide) (by decide)
      (.inl (by decide)) hcells
  obtain ⟨rule, hdiscover, hfirst, -, hothers⟩ := hrules "#" (.inl ⟨'#', rfl⟩)
  have hrule : rule = ofFinding .antiDiagonal "#" { condition := "r + c == H - 1 && c < H" } :=
    Except.ok.inj (hdiscover.symm.trans rfl)
  subst hrule
  exact ⟨_, hdiscover, hfirst, rfl, hothers [⟨1, 0⟩, ⟨0, 1⟩, ⟨1, 0⟩] (by simp)⟩

/-- No rule is discovered in an area of four times two to the power of sixty-two cells, and none for
cells that have to be listed under a symbol of two characters. -/
theorem discover_refused :
    (¬ ∃ rule, discover [] "x" 4611686018427387904 4 = .ok rule) ∧
      ¬ ∃ rule, discover [⟨0, 0⟩, ⟨0, 3⟩] "ab" 1 4 = .ok rule := by
  have hlarge : discover [] "x" 4611686018427387904 4 = .error .tooManyCells := by
    rw [discover, Mask.ofCells?, if_neg (by decide), if_pos (by decide)]
  have hsymbol : discover [⟨0, 0⟩, ⟨0, 3⟩] "ab" 1 4 = .error (.notOneCharacter "ab") := rfl
  rw [hlarge, hsymbol]
  constructor
  · rintro ⟨rule, hrule⟩
    cases hrule
  · rintro ⟨rule, hrule⟩
    cases hrule

end Rule

end GridRules
