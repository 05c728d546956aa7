import GridRules.Difference
import GridRules.Proofs.Grid.Reading

/-!
# Verdicts on outputs

An output is accepted for a grid if it is the canonical text of the grid once a line feed at its end
is taken off. The line feed is taken off even where it is the symbol of the last cell, so the text
of such a grid is accepted only with another line feed behind it.
-/

namespace GridRules.Verdict

/-- An output is accepted for a text exactly if it is the text once a line feed at its end is taken
off. -/
theorem valid_ofTexts_iff {expected output : String} :
    (ofTexts expected output).valid = true ↔
      Text.dropFinalNewline output.toList = expected.toList := by
  have hactual : expected = String.ofList (Text.dropFinalNewline output.toList) ↔
      Text.dropFinalNewline output.toList = expected.toList := by
    rw [← String.toList_inj, String.toList_ofList, eq_comm]
  rw [← hactual]
  by_cases h : expected = String.ofList (Text.dropFinalNewline output.toList) <;>
    simp [ofTexts, h]

/-- The text of a grid ends in a line feed exactly if the last cell holds one. -/
theorem getLast?_render_eq_newline {grid : Grid} :
    grid.render.toList.getLast? = some '\n' ↔ grid.symbol? grid.lastPlace = some '\n' := by
  rw [show grid.render = grid.render (String.singleton ' ') from rfl, Grid.getLast?_render]
  cases grid.symbol? grid.lastPlace <;> simp

/-- An output is accepted for a grid exactly if it is the text of the grid with a line feed behind
it, or is the text of the grid and the last cell does not hold a line feed. So the text of a grid is
itself accepted except where the last cell holds a line feed. -/
theorem valid_ofGrid_iff (grid : Grid) :
    (∀ output, (ofGrid grid output).valid = true ↔
      output = grid.render ++ "\n" ∨
        output = grid.render ∧ grid.symbol? grid.lastPlace ≠ some '\n') ∧
    ((ofGrid grid grid.render).valid = true ↔ grid.symbol? grid.lastPlace ≠ some '\n') := by
  have hvalid (output : String) : (ofGrid grid output).valid = true ↔
      output = grid.render ++ "\n" ∨
        output = grid.render ∧ grid.symbol? grid.lastPlace ≠ some '\n' := by
    have hfeed : output.toList = grid.render.toList ++ ['\n'] ↔ output = grid.render ++ "\n" := by
      rw [← String.toList_inj, String.toList_append]
      rfl
    rw [ofGrid, valid_ofTexts_iff, Text.dropFinalNewline_eq_iff, hfeed, String.toList_inj, Ne,
      getLast?_render_eq_newline]
  refine ⟨hvalid, ?_⟩
  have hlonger : grid.render ≠ grid.render ++ "\n" := by
    intro h
    have hlength := congrArg String.length h
    rw [String.length_append] at hlength
    exact absurd hlength (Nat.lt_succ_self _).ne
  rw [hvalid]
  simp [hlonger]

/-- The text of the grid whose only cell holds a line feed is not accepted for it. -/
theorem valid_ofGrid_newline :
    ∃ grid : Grid, Grid.ofLines [['\n']] (some ' ') = .ok grid ∧ grid.Reachable ∧
      grid.symbol? ⟨0, 0⟩ = some '\n' ∧ grid.render = "\n" ∧ (ofGrid grid "\n").valid = false ∧
      ¬ ∀ output, (ofGrid grid output).valid = true ↔
        output = grid.render ∨ output = grid.render ++ "\n" := by
  obtain ⟨grid, hgrid, hsymbol, hrender, hrefused⟩ : ∃ grid : Grid,
      Grid.ofLines [['\n']] (some ' ') = .ok grid ∧ grid.symbol? ⟨0, 0⟩ = some '\n' ∧
        grid.render = "\n" ∧ (ofGrid grid "\n").valid = false := ⟨_, rfl, rfl, rfl, rfl⟩
  have hheld : grid.IsHeld := by
    obtain ⟨hheight, hwidth, -⟩ := Grid.ofLines_eq_ok hgrid
    rw [Grid.IsHeld, hheight, hwidth]
    decide
  refine ⟨grid, hgrid, .ofLines hgrid hheld, hsymbol, hrender, hrefused, ?_⟩
  intro hall
  have haccepted := (hall "\n").2 (.inl hrender.symm)
  rw [hrefused] at haccepted
  cases haccepted

end GridRules.Verdict
