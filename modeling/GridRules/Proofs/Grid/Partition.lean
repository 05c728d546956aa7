import GridRules.Proofs.Grid.Symbols
import Mathlib.Data.List.FinRange

/-!
# The occupied cells by symbol

The occupied cells of a grid are listed row by row. Gathered by symbol they are each in one group,
still row by row, and the groups stand in the order of their first cells.
-/

namespace GridRules

/-- Whether a cell comes before another one, row by row. -/
def Coord.Before (first second : Coord) : Prop :=
  first.row < second.row ∨ first.row = second.row ∧ first.col < second.col

theorem Coord.Before.ne {first second : Coord} (h : first.Before second) : first ≠ second := by
  rintro rfl
  rcases h with h | ⟨-, h⟩ <;> omega

namespace Grid

variable (grid : Grid)

/-- The occupied cells are listed row by row. -/
theorem pairwise_occupied : (grid.occupied.map Prod.fst).Pairwise Coord.Before := by
  rw [List.pairwise_map, occupied, List.pairwise_flatMap]
  constructor
  · intro r _
    rw [List.pairwise_filterMap]
    refine (List.pairwise_lt_finRange grid.width).imp ?_
    intro c c' hlt first hfirst second hsecond
    obtain ⟨_, -, rfl⟩ := Option.map_eq_some_iff.1 hfirst
    obtain ⟨_, -, rfl⟩ := Option.map_eq_some_iff.1 hsecond
    exact .inr ⟨rfl, by simpa [Coord.ofNat] using hlt⟩
  · refine (List.pairwise_lt_finRange grid.height).imp ?_
    intro r r' hlt first hfirst second hsecond
    obtain ⟨_, -, hfirst⟩ := List.mem_filterMap.1 hfirst
    obtain ⟨_, -, hsecond⟩ := List.mem_filterMap.1 hsecond
    obtain ⟨_, -, rfl⟩ := Option.map_eq_some_iff.1 hfirst
    obtain ⟨_, -, rfl⟩ := Option.map_eq_some_iff.1 hsecond
    exact .inl (by simpa [Coord.ofNat] using hlt)

/-- The number of occupied cells is the number of cells with a symbol, row by row. -/
theorem occupiedCount_eq_sum : grid.occupiedCount =
    (grid.cells.toList.map fun row => row.toList.countP fun cell => cell.symbol.isSome).sum := by
  have hitems {α : Type} {n : Nat} (items : Vector α n) :
      items.toList = (List.finRange n).map fun i => items[i] := by
    apply List.ext_getElem <;> simp
  simp only [occupiedCount, occupied, List.length_flatMap, List.length_filterMap_eq_countP, hitems,
    List.map_map, List.countP_map, Function.comp_def, Option.isSome_map]

/-- The occupied cells are the members of the groups. -/
theorem isOrdered_bySymbol :
    IsOrdered Coord.Before (grid.occupied.map Prod.fst) grid.bySymbol := by
  have hcells : (grid.occupied.map fun entry => (entry.2, entry.1)).map Prod.snd =
      grid.occupied.map Prod.fst := by
    simp [Function.comp_def]
  rw [bySymbol, ← hcells]
  apply isOrdered_grouped
  rw [hcells]
  exact grid.pairwise_occupied

/-- Gathering by symbol is a partition that keeps the order. Each symbol has one group, and no group
is empty; a cell is in the group of a symbol exactly if it holds the symbol, and in one group once.
Groups are listed row by row, and they stand in the order of their first cells. Together they have
as many cells as are occupied. -/
theorem bySymbol_partition :
    (grid.bySymbol.map Prod.fst).Nodup ∧
    (∀ group ∈ grid.bySymbol, group.2 ≠ [] ∧ group.2.Pairwise Coord.Before) ∧
    (∀ place symbol, (∃ cells, (symbol, cells) ∈ grid.bySymbol ∧ place ∈ cells) ↔
      grid.symbol? place = some symbol) ∧
    (grid.bySymbol.flatMap Prod.snd).Nodup ∧
    (grid.bySymbol.filterMap fun group => group.2.head?).Pairwise Coord.Before ∧
    (grid.bySymbol.map fun group => group.2.length).sum = grid.occupiedCount ∧
    grid.occupiedCount =
      (grid.cells.toList.map fun row => row.toList.countP fun cell => cell.symbol.isSome).sum := by
  have hordered := grid.isOrdered_bySymbol
  have hnodup : (grid.occupied.map Prod.fst).Nodup := grid.pairwise_occupied.imp Coord.Before.ne
  refine ⟨hordered.keys, fun group hgroup => ⟨hordered.nonempty group hgroup,
    hordered.within group hgroup⟩, ?_, hordered.perm.nodup_iff.2 hnodup, hordered.firsts, ?_,
    grid.occupiedCount_eq_sum⟩
  · intro place symbol
    rw [bySymbol, exists_mem_grouped, mem_swapped]
  · have hlength := hordered.perm.length_eq
    rwa [List.length_flatMap, List.length_map] at hlength

end Grid

end GridRules
