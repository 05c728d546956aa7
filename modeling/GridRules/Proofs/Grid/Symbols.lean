import GridRules.Grid.Reading
import GridRules.Proofs.Grouping
import GridRules.Proofs.Mask
import GridRules.Proofs.Text.Decimal
import GridRules.Proofs.Text.Lines

/-!
# Grids in use and their symbols

A grid in use is made from a size or from a drawing, and then written and cleared. The cells that
carry a symbol are gathered by symbol, each in the one group of its symbol.
-/

namespace GridRules.Grid

/-- A bound on the number of cells of a grid: no memory has room for references to so many. -/
def heldLimit : Nat := Nat.pow 2 59

/-- The cells of a grid are held in memory. -/
def IsHeld (grid : Grid) : Prop :=
  grid.height * grid.width < heldLimit

instance (grid : Grid) : Decidable grid.IsHeld :=
  inferInstanceAs (Decidable (_ < _))

/-- A grid held in memory that was made from whole numbers as sides or from a drawing, and then
written and cleared any number of times. -/
inductive Reachable : Grid → Prop
  | ofSize {height width : Int} {grid : Grid} (h : ofSize height width = .ok grid)
      (hheld : grid.IsHeld := by decide) : Reachable grid
  | ofLines {lines : List (List Char)} {blank : Option Char} {grid : Grid}
      (h : ofLines lines blank = .ok grid) (hheld : grid.IsHeld := by decide) : Reachable grid
  | ofText {text : String} {blank : Option Char} {grid : Grid} (h : ofText text blank = .ok grid)
      (hheld : grid.IsHeld := by decide) : Reachable grid
  | write {grid next : Grid} {place : Coord} {symbol : Option String} {stroke : Int} {landed : Bool}
      (h : Reachable grid) (hwrite : grid.write place symbol stroke = .ok (next, landed)) :
      Reachable next
  | clear {grid : Grid} (h : Reachable grid) : Reachable grid.clear

/-- The sides of a grid are shown as numbers. -/
def IsNumbered (grid : Grid) : Prop :=
  grid.heightIsTruth = false ∧ grid.widthIsTruth = false

/-! ### New grids -/

/-- A grid that is made from a size is blank, and its sides are below the bound. -/
theorem ofSize_eq_ok {height width : Int} {grid : Grid} (h : ofSize height width = .ok grid) :
    (height.toNat < sideLimit ∧ width.toNat < sideLimit) ∧
      ∃ hheight hwidth, grid = blank height.toNat width.toNat hheight hwidth := by
  simp only [ofSize, ofValues, side?] at h
  split at h
  · next hpositive =>
    split at h
    · next hsides => exact ⟨hsides, hpositive.1, hpositive.2, (Except.ok.inj h).symm⟩
    · cases h
  · cases h

theorem ofLines_eq_ok {lines : List (List Char)} {blank : Option Char} {grid : Grid}
    (h : ofLines lines blank = .ok grid) :
    grid.height = lines.length ∧ grid.width = longest lines ∧ grid.IsNumbered := by
  unfold ofLines at h
  split at h
  · obtain rfl := Except.ok.inj h
    exact ⟨rfl, rfl, rfl, rfl⟩
  · cases h

theorem longest_le_iff {lines : List (List Char)} {bound : Nat} :
    longest lines ≤ bound ↔ ∀ line ∈ lines, line.length ≤ bound := by
  have hfold (width : Nat) : lines.foldl (fun width line => max width line.length) width ≤ bound ↔
      width ≤ bound ∧ ∀ line ∈ lines, line.length ≤ bound := by
    induction lines generalizing width with
    | nil => simp
    | cons line lines ih => simp [ih, and_assoc]
  simpa [longest] using hfold 0

/-! ### Grids in use -/

/-- A write that is not refused leaves the grid alone or puts a symbol or nothing on a cell. -/
theorem write_eq_ok {grid : Grid} {result : Grid × Bool} {place : Coord} {symbol : Option String}
    {stroke : Int} (h : grid.write place symbol stroke = .ok result) :
    result = (grid, false) ∨ ∃ glyph, result = grid.put place glyph stroke := by
  unfold Grid.write at h
  split at h
  · split at h
    · exact .inr ⟨none, (Except.ok.inj h).symm⟩
    · split at h
      · exact .inr ⟨_, (Except.ok.inj h).symm⟩
      · cases h
  · exact .inl (Except.ok.inj h).symm

theorem exists_cells_put (grid : Grid) (place : Coord) (symbol : Option Char) (stroke : Int) :
    ∃ cells, (grid.put place symbol stroke).1 = { grid with cells := cells } := by
  unfold put
  split
  · exact ⟨_, rfl⟩
  · split
    · unfold replace
      split <;> exact ⟨_, rfl⟩
    · exact ⟨_, rfl⟩

/-- A write that is not refused changes nothing but cells. -/
theorem exists_cells_of_write {grid next : Grid} {place : Coord} {symbol : Option String}
    {stroke : Int} {landed : Bool} (h : grid.write place symbol stroke = .ok (next, landed)) :
    ∃ cells, next = { grid with cells := cells } := by
  rcases write_eq_ok h with heq | ⟨glyph, heq⟩
  · obtain ⟨rfl, -⟩ := Prod.mk.inj heq
    exact ⟨_, rfl⟩
  · obtain rfl : next = (grid.put place glyph stroke).1 := congrArg Prod.fst heq
    exact exists_cells_put grid place glyph stroke

/-- What new grids have and what does not depend on the cells, all grids in use have. -/
theorem Reachable.of_new {p : Grid → Prop} {grid : Grid} (h : grid.Reachable)
    (hsize : ∀ {height width grid}, Grid.ofSize height width = .ok grid → grid.IsHeld → p grid)
    (hlines : ∀ {lines blank grid}, Grid.ofLines lines blank = .ok grid → grid.IsHeld → p grid)
    (hcells : ∀ {grid} cells, p grid → p { grid with cells := cells }) : p grid := by
  induction h with
  | ofSize h hheld => exact hsize h hheld
  | ofLines h hheld => exact hlines h hheld
  | ofText h hheld => exact hlines h hheld
  | write _ hwrite ih =>
      obtain ⟨cells, rfl⟩ := exists_cells_of_write hwrite
      exact hcells cells ih
  | clear _ ih => exact hcells _ ih

/-- The sides of a grid in use are shown as numbers. -/
theorem Reachable.isNumbered {grid : Grid} (h : grid.Reachable) : grid.IsNumbered := by
  refine h.of_new ?_ ?_ ?_
  · intro height width grid h _
    obtain ⟨-, _, _, rfl⟩ := ofSize_eq_ok h
    exact ⟨rfl, rfl⟩
  · intro lines blank grid h _
    exact (ofLines_eq_ok h).2.2
  · intro grid cells hnumbered
    exact hnumbered

/-- The cells of a grid in use are held in memory. -/
theorem Reachable.isHeld {grid : Grid} (h : grid.Reachable) : grid.IsHeld :=
  h.of_new (fun _ hheld => hheld) (fun _ hheld => hheld) fun _ hheld => hheld

/-- The sides of a grid in use have decimal texts that can be read. -/
theorem Reachable.sides_lt {grid : Grid} (h : grid.Reachable) :
    grid.height < Text.leastLong ∧ grid.width < Text.leastLong := by
  have hheld : grid.height * grid.width < heldLimit := h.isHeld
  have hlimit : heldLimit ≤ Nat.pow 2 63 := by decide
  have hheight := Nat.le_mul_of_pos_right grid.height grid.width_pos
  have hwidth := Nat.le_mul_of_pos_left grid.width grid.height_pos
  exact ⟨Text.lt_leastLong_of_le_pow (by omega), Text.lt_leastLong_of_le_pow (by omega)⟩

/-! ### Symbols -/

variable {grid : Grid}

theorem symbol?_ofNat {r c : Nat} (hr : r < grid.height) (hc : c < grid.width) :
    grid.symbol? (Coord.ofNat r c) = grid.cells[r][c].symbol := by
  have hinside : grid.inside (Coord.ofNat r c) = true := by
    simp [inside_iff, Coord.ofNat, hr, hc]
  rw [symbol?, cell?, if_pos hinside]
  simp [Coord.ofNat, hr, hc]

theorem holds_of_symbol? {cell : Coord} {symbol : Char} (h : grid.symbol? cell = some symbol) :
    Mask.Holds grid.height grid.width cell := by
  unfold symbol? cell? at h
  split at h
  · next hinside => exact (inside_iff grid cell).1 hinside
  · cases h

/-- The occupied cells are those with a symbol. -/
theorem mem_occupied {cell : Coord} {symbol : Char} :
    (cell, symbol) ∈ grid.occupied ↔ grid.symbol? cell = some symbol := by
  simp only [occupied, List.mem_flatMap, List.mem_finRange, List.mem_filterMap, true_and,
    Option.map_eq_some_iff, Prod.mk.injEq]
  constructor
  · rintro ⟨r, c, symbol, hsymbol, rfl, rfl⟩
    rw [symbol?_ofNat r.2 c.2]
    exact hsymbol
  · intro h
    obtain ⟨r, c, rfl⟩ := (holds_of_symbol? h).exists_ofNat
    rw [symbol?_ofNat r.2 c.2] at h
    exact ⟨r, c, symbol, h, rfl, rfl⟩

theorem mem_swapped {cell : Coord} {symbol : Char} :
    (symbol, cell) ∈ grid.occupied.map (fun entry => (entry.2, entry.1)) ↔
      grid.symbol? cell = some symbol := by
  rw [← mem_occupied]
  simp

/-- The group of a symbol holds the cells with this symbol. -/
theorem mem_of_mem_bySymbol {symbol : Char} {cells : List Coord}
    (h : (symbol, cells) ∈ grid.bySymbol) {cell : Coord} :
    cell ∈ cells ↔ grid.symbol? cell = some symbol := by
  obtain ⟨-, rfl⟩ := mem_grouped_iff.1 h
  rw [mem_itemsOf, mem_swapped]

theorem exists_mem_bySymbol {symbol : Char} {cell : Coord} (h : grid.symbol? cell = some symbol) :
    ∃ cells, (symbol, cells) ∈ grid.bySymbol := by
  obtain ⟨cells, hcells, -⟩ := exists_mem_grouped.2 (mem_swapped.2 h)
  exact ⟨cells, hcells⟩

/-- A symbol has one group only. -/
theorem cells_eq_of_mem_bySymbol {symbol : Char} {cells others : List Coord}
    (h : (symbol, cells) ∈ grid.bySymbol) (h' : (symbol, others) ∈ grid.bySymbol) :
    cells = others := by
  rw [(mem_grouped_iff.1 h).2, (mem_grouped_iff.1 h').2]

end GridRules.Grid
