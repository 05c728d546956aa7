import GridRules.Proofs.Grid.Reading
import GridRules.Proofs.Text.Rows

/-!
# The grid of a text

A text draws the grid of its rows. The grid is as wide as the longest row, and drawn again with the
same blank character it shows the rows padded to this width, so that nothing of them is lost. Only a
text whose rows are all empty draws no grid.
-/

namespace GridRules.Grid

/-- The grid that rows draw: as high as they are many and as wide as the longest, with their
characters as its symbols. Cells are empty beyond the end of a row and where it has the blank
character. -/
structure IsDrawnBy (rows : List (List Char)) (blank : Char) (grid : Grid) : Prop where
  height : grid.height = rows.length
  width : (∀ row ∈ rows, row.length ≤ grid.width) ∧ ∃ row ∈ rows, row.length = grid.width
  text : (grid.render (String.singleton blank)).toList =
    ['\n'].intercalate (rows.map fun row => row.rightpad grid.width blank)
  empty : ∀ r (hr : r < rows.length) c, c < grid.width →
    (grid.symbol? (Coord.ofNat r c) = none ↔ rows[r].length ≤ c ∨ rows[r][c]? = some blank)

variable {rows : List (List Char)} {blank : Char} {grid : Grid}

theorem longest_pos_iff : 0 < longest rows ↔ ∃ row ∈ rows, row ≠ [] := by
  have hzero : longest rows ≤ 0 ↔ ∀ row ∈ rows, row = [] := by
    rw [longest_le_iff]
    simp
  rw [← not_iff_not, not_lt, hzero]
  simp

theorem exists_length_eq_longest (h : 0 < longest rows) :
    ∃ row ∈ rows, row.length = longest rows := by
  by_contra hnone
  have hshorter : longest rows ≤ longest rows - 1 := by
    refine longest_le_iff.2 fun row hrow => ?_
    have hle : row.length ≤ longest rows := longest_le_iff.1 le_rfl row hrow
    have hne : row.length ≠ longest rows := fun heq => hnone ⟨row, hrow, heq⟩
    omega
  omega

theorem ofLines_of_longest_pos (h : 0 < longest rows) (blank : Option Char) :
    ∃ grid, ofLines rows blank = .ok grid := by
  have hlength : 0 < rows.length := by
    obtain ⟨row, hrow, -⟩ := longest_pos_iff.1 h
    exact List.length_pos_of_mem hrow
  exact ⟨_, dif_pos ⟨hlength, h⟩⟩

/-- A character is read as no symbol exactly if it is the blank one. -/
theorem symbol_drawnCell_eq_none {c : Char} :
    (drawnCell (some blank) c).symbol = none ↔ c = blank := by
  by_cases hc : c = blank <;> simp [drawnCell, hc]

theorem isDrawnBy_of_ofLines (h : ofLines rows (some blank) = .ok grid)
    (hpos : 0 < longest rows) : grid.IsDrawnBy rows blank := by
  obtain ⟨hheight, hwidth, -⟩ := ofLines_eq_ok h
  refine ⟨hheight, ?_, ?_, ?_⟩
  · rw [hwidth]
    exact ⟨longest_le_iff.1 le_rfl, exists_length_eq_longest hpos⟩
  · have hblank (c : Char) : (if c = blank then blank else c) = c := by
      split <;> simp_all
    rw [toList_render, Text.unlines_eq_intercalate, drawnRows_of_ofLines h blank, hwidth]
    simp [hblank, List.rightpad]
  · intro r hr c hc
    rw [hwidth] at hc
    rw [symbol?_of_ofLines h hr hc]
    by_cases hend : c < rows[r].length
    · simp [hend, symbol_drawnCell_eq_none]
    · simp [hend, not_lt.1 hend]

/-- Reading a text loses nothing of it. If all of its rows are empty, it draws no grid; otherwise it
draws the grid of its rows. -/
theorem ofText_canonical (text : String) (blank : Char) :
    ∃ rows, (∀ other, Text.HasRows text.toList other ↔ other = rows) ∧
      ((∀ row ∈ rows, row = []) → ∃ fault, ofText text (some blank) = .error fault ∧
        fault.failure.category = .grid ∧ fault.failure.code = "EMPTY_PATTERN") ∧
      ((∃ row ∈ rows, row ≠ []) → ∃ grid, ofText text (some blank) = .ok grid ∧
        grid.IsDrawnBy rows blank) := by
  refine ⟨_, fun other => Text.hasRows_iff, ?_, ?_⟩
  · intro hempty
    refine ⟨.emptyPattern, dif_neg fun hpos => ?_, rfl, rfl⟩
    obtain ⟨row, hrow, hne⟩ := longest_pos_iff.1 hpos.2
    exact hne (hempty row hrow)
  · intro hrow
    have hpos := longest_pos_iff.2 hrow
    obtain ⟨grid, hgrid⟩ := ofLines_of_longest_pos hpos (some blank)
    exact ⟨grid, hgrid, isDrawnBy_of_ofLines hgrid hpos⟩

end GridRules.Grid
