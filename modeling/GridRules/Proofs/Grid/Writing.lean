import GridRules.Proofs.Grid.Symbols

/-!
# Writing cells

A write that lands puts its symbol and its stroke number on one cell; every other write, and every
cell that a write does not name, leaves things as they are. A write is refused with a fault only for
a text that is not one character, and only within the grid.
-/

namespace GridRules

/-- A cell after a write to it. -/
def Cell.overwrite (cell write : Cell) : Cell :=
  if Grid.lands cell write.symbol write.stroke then write else cell

namespace Grid

variable {grid : Grid} {place : Coord} {cell : Cell} {stroke : Int}

/-! ### Cells of a grid -/

theorem cell?_of_not_inside (h : ¬grid.inside place = true) : grid.cell? place = none :=
  if_neg h

/-- The cell of a grid of the same size with other cells. -/
theorem cell?_withCells (h : grid.inside place = true)
    (cells : Vector (Vector Cell grid.width) grid.height) :
    ({ grid with cells := cells } : Grid).cell? place =
      (cells[place.row.toNat]?).bind fun row => row[place.col.toNat]? :=
  if_pos h

theorem inside_of_cell? (h : grid.cell? place = some cell) : grid.inside place = true := by
  by_contra houtside
  rw [cell?_of_not_inside houtside] at h
  cases h

theorem exists_cell?_of_inside (h : grid.inside place = true) :
    ∃ cell, grid.cell? place = some cell := by
  obtain ⟨r, c, rfl⟩ := Mask.Holds.exists_ofNat ((inside_iff grid place).1 h)
  refine ⟨grid.cells[r][c], ?_⟩
  rw [cell?_withCells h grid.cells]
  simp [Coord.ofNat]

theorem cell?_clear (h : grid.inside place = true) : grid.clear.cell? place = some {} := by
  obtain ⟨r, c, rfl⟩ := Mask.Holds.exists_ofNat ((inside_iff grid place).1 h)
  unfold clear
  rw [cell?_withCells h]
  simp [Coord.ofNat]

/-! ### Replacing one cell -/

theorem inside_replace (grid : Grid) (place : Coord) (cell : Cell) :
    (grid.replace place cell).inside = grid.inside := by
  unfold replace
  split <;> rfl

theorem cell?_replace_self (h : grid.inside place = true) (cell : Cell) :
    (grid.replace place cell).cell? place = some cell := by
  obtain ⟨r, c, rfl⟩ := Mask.Holds.exists_ofNat ((inside_iff grid place).1 h)
  have hrow : grid.cells[(Coord.ofNat r c).row.toNat]? = some grid.cells[r] := by
    simp [Coord.ofNat]
  simp only [replace, hrow]
  rw [cell?_withCells h]
  simp [Coord.ofNat]

/-- Replacing a cell leaves every other cell as it is. -/
theorem cell?_replace_of_ne {other : Coord} (hplace : grid.inside place = true)
    (hne : other ≠ place) (cell : Cell) :
    (grid.replace place cell).cell? other = grid.cell? other := by
  by_cases hother : grid.inside other = true
  · obtain ⟨r, c, rfl⟩ := Mask.Holds.exists_ofNat ((inside_iff grid place).1 hplace)
    obtain ⟨i, j, rfl⟩ := Mask.Holds.exists_ofNat ((inside_iff grid other).1 hother)
    have hrow : grid.cells[(Coord.ofNat r c).row.toNat]? = some grid.cells[r] := by
      simp [Coord.ofNat]
    simp only [replace, hrow]
    rw [cell?_withCells hother, cell?_withCells hother grid.cells]
    by_cases hi : r = i
    · subst hi
      have hj : (c : Nat) ≠ j := fun hj => hne (by rw [hj])
      simp [Coord.ofNat, hj]
    · have hi : (r : Nat) ≠ i := fun h => hi (Fin.ext h)
      simp [Coord.ofNat, hi]
  · rw [cell?_of_not_inside hother, cell?_of_not_inside]
    rwa [inside_replace]

/-! ### Single writes -/

theorem lands_iff {symbol : Option Char} :
    lands cell symbol stroke = true ↔ symbol = none ∨ cell.stroke ≤ stroke := by
  simp [lands]

theorem put_of_lands {symbol : Option Char} (h : grid.cell? place = some cell)
    (hlands : lands cell symbol stroke = true) :
    grid.put place symbol stroke = (grid.replace place ⟨symbol, stroke⟩, true) := by
  simp [put, h, hlands]

theorem put_of_not_lands {symbol : Option Char} (h : grid.cell? place = some cell)
    (hlands : lands cell symbol stroke = false) :
    grid.put place symbol stroke = (grid, false) := by
  simp [put, h, hlands]

theorem inside_put (grid : Grid) (place : Coord) (symbol : Option Char) (stroke : Int) :
    (grid.put place symbol stroke).1.inside = grid.inside := by
  obtain ⟨cells, h⟩ := exists_cells_put grid place symbol stroke
  rw [h]
  rfl

/-- The cell at the place of a write, after it. -/
theorem cell?_put_self (h : grid.cell? place = some cell) (symbol : Option Char) (stroke : Int) :
    (grid.put place symbol stroke).1.cell? place =
      some (cell.overwrite ⟨symbol, stroke⟩) := by
  unfold Cell.overwrite
  cases hlands : lands cell symbol stroke with
  | false =>
      rw [put_of_not_lands h hlands]
      exact h
  | true =>
      rw [put_of_lands h hlands]
      exact cell?_replace_self (inside_of_cell? h) _

/-- A write leaves every other cell as it is. -/
theorem cell?_put_of_ne {other : Coord} (h : other ≠ place) (symbol : Option Char) (stroke : Int) :
    (grid.put place symbol stroke).1.cell? other = grid.cell? other := by
  unfold put
  split
  · rfl
  · next cell hcell =>
    split
    · exact cell?_replace_of_ne (inside_of_cell? hcell) h _
    · rfl

theorem singleCharacter?_eq_none {text : String} :
    singleCharacter? text = none ↔ text.length ≠ 1 := by
  rw [← String.length_toList, Ne, List.length_eq_one_iff]
  unfold singleCharacter?
  split <;> simp_all

theorem write_of_not_inside (h : ¬grid.inside place = true) (symbol : Option String)
    (stroke : Int) : grid.write place symbol stroke = .ok (grid, false) :=
  if_neg h

theorem write_of_length_ne_one {text : String} (h : grid.inside place = true)
    (htext : text.length ≠ 1) (stroke : Int) :
    grid.write place (some text) stroke = .error (.notOneCharacter text) := by
  simp [write, h, singleCharacter?_eq_none.2 htext]

/-- A write within the grid of nothing, or of one character, is not refused with a fault. -/
theorem write_of_length_eq_one {symbol : Option String} (h : grid.inside place = true)
    (hsymbol : ∀ text ∈ symbol, text.length = 1) (stroke : Int) :
    ∃ glyph, (glyph = none ↔ symbol = none) ∧
      grid.write place symbol stroke = .ok (grid.put place glyph stroke) := by
  cases symbol with
  | none => exact ⟨none, by simp, by simp [write, h]⟩
  | some text =>
      cases hc : singleCharacter? text with
      | none => exact absurd (hsymbol text rfl) (singleCharacter?_eq_none.1 hc)
      | some c => exact ⟨some c, by simp, by simp [write, h, hc]⟩

end Grid

end GridRules
