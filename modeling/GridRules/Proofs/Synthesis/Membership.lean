import GridRules.Program.Interpreter
import GridRules.Proofs.Synthesis.Condition
import GridRules.Study

/-!
# Conditions under settings

Whatever the thresholds are, the condition of some cells is an expression whose value at a
coordinate tells whether this is one of the cells. So all layouts of a condition are equivalent.
There is no condition that shows a coordinate with too many digits.
-/

namespace GridRules

open Program

variable {settings : Settings} {step : String} {grouping wrap : Int} {cells : List Coord}

/-- Settings with a blank indentation and whole numbers as thresholds give a plain layout. -/
theorem Settings.isPlain_layout (hindent : settings.value .indent = .text step)
    (hblank : ∀ c ∈ step.toList, Text.isBlank c = true)
    (hgrouping : settings.value .groupingThreshold = .int grouping)
    (hwrap : settings.value .wrapThreshold = .int wrap) : settings.layout.IsPlain where
  grouping := ⟨grouping, hgrouping⟩
  wrap := ⟨wrap, hwrap⟩
  indent := ⟨step, hindent, hblank⟩

/-- An expression text that decides a property of a cell has the value one or zero at every
coordinate, whatever the sides are. -/
theorem Tells.evaluate_eq {text : String} {p : Coord → Prop} [DecidablePred p] (h : Tells 1 text p)
    (row col height width : Int) :
    evaluate text row col height width = .ok (if p ⟨row, col⟩ then 1 else 0) := by
  obtain ⟨e, hwrites, hdecides⟩ := h
  obtain ⟨b, heval, hb⟩ := hdecides (cellEnv row col height width) ⟨row, col⟩ rfl rfl
  have hvalue : truthValue b = if p ⟨row, col⟩ then 1 else 0 := by
    by_cases hp : p ⟨row, col⟩
    · rw [hb.2 hp, if_pos hp]
      rfl
    · rw [Bool.eq_false_iff.2 (mt hb.1 hp), if_neg hp]
      rfl
  simp only [evaluate, hwrites.ofText, heval, hvalue]

/-- Under settings with a blank indentation and any whole numbers as thresholds, some cells have a
condition, which is read as an expression. Its value is one at the cells and zero at all other
coordinates, whatever the sides are, and so is that of the condition that they have in every other
plain layout. The coordinates of the cells have decimal texts that can be read. -/
theorem Settings.evaluate_cellsCondition (hindent : settings.value .indent = .text step)
    (hblank : ∀ c ∈ step.toList, Text.isBlank c = true)
    (hgrouping : settings.value .groupingThreshold = .int grouping)
    (hwrap : settings.value .wrapThreshold = .int wrap)
    (hcells : ∀ cell ∈ cells, cell.IsShort) :
    ∃ text, settings.cellsCondition cells = .ok text ∧ (∃ e, Expr.ofText text = .ok e) ∧
      ∀ row col height width,
        evaluate text row col height width = .ok (if ⟨row, col⟩ ∈ cells then 1 else 0) ∧
        ∀ other : Layout, other.IsPlain →
          ∃ otherText, Synthesis.cellsCondition other cells = .ok otherText ∧
            evaluate otherText row col height width = evaluate text row col height width := by
  have hlayout := Settings.isPlain_layout hindent hblank hgrouping hwrap
  obtain ⟨text, htext, htells⟩ := exists_cellsCondition hcells hlayout
  refine ⟨text, htext, ?_, ?_⟩
  · obtain ⟨e, hwrites, -⟩ := htells
    exact ⟨e, hwrites.ofText⟩
  · intro row col height width
    have hvalue := htells.evaluate_eq row col height width
    refine ⟨hvalue, fun other hother => ?_⟩
    obtain ⟨otherText, hotherText, hother⟩ := exists_cellsCondition hcells hother
    exact ⟨otherText, hotherText, (hother.evaluate_eq row col height width).trans hvalue.symm⟩

/-- Settings that gather all cells by row, and indent with a tabulator. -/
def gatheringSettings : Settings :=
  (Settings.default.set .indent (.text "\t")).set .groupingThreshold (.int (-1))

/-- Gathered by row, two columns of a row above the area and a cell that is listed twice. -/
theorem Settings.evaluate_cellsCondition_gathered :
    ∃ text, gatheringSettings.cellsCondition [⟨-3, 5⟩, ⟨0, -2⟩, ⟨-3, 1⟩, ⟨0, -2⟩] = .ok text ∧
      evaluate text (-3) 1 0 (-7) = .ok 1 ∧ evaluate text (-3) 2 0 0 = .ok 0 ∧
      evaluate text 0 (-2) 9 9 = .ok 1 := by
  have hsmall {n : Nat} (h : n < 10) : n < Text.leastLong := Text.lt_leastLong_of_lt_ten h
  have hcells : ∀ cell ∈ [(⟨-3, 5⟩ : Coord), ⟨0, -2⟩, ⟨-3, 1⟩, ⟨0, -2⟩], cell.IsShort := by
    have hall : ∀ cell ∈ [(⟨-3, 5⟩ : Coord), ⟨0, -2⟩, ⟨-3, 1⟩, ⟨0, -2⟩],
        cell.row.natAbs < 10 ∧ cell.col.natAbs < 10 := by
      decide
    exact fun cell hcell => ⟨hsmall (hall cell hcell).1, hsmall (hall cell hcell).2⟩
  obtain ⟨text, htext, -, hvalue⟩ := Settings.evaluate_cellsCondition
    (show gatheringSettings.value .indent = .text "\t" from rfl) (List.all_eq_true.1 (by decide))
    (show gatheringSettings.value .groupingThreshold = .int (-1) from rfl)
    (show gatheringSettings.value .wrapThreshold = .int 5 from rfl) hcells
  exact ⟨text, htext, (hvalue (-3) 1 0 (-7)).1, (hvalue (-3) 2 0 0).1, (hvalue 0 (-2) 9 9).1⟩

/-! ### Coordinates with too many digits -/

theorem natAbs_lt_of_number {n : Int} {text : String} (h : Synthesis.number n = .ok text) :
    n.natAbs < Text.leastLong := by
  by_contra hlong
  rw [number_of_long (not_lt.1 hlong)] at h
  cases h

theorem isShort_of_cellTerm {cell : Coord} {text : String}
    (h : Synthesis.cellTerm cell = .ok text) :
    cell.IsShort := by
  obtain ⟨row, hrow, h⟩ := bind_eq_ok h
  obtain ⟨col, hcol, -⟩ := bind_eq_ok h
  exact ⟨natAbs_lt_of_number hrow, natAbs_lt_of_number hcol⟩

theorem isShort_of_rowTerm {row : Int} {columns : List Int} {text : String}
    (h : Synthesis.rowTerm row columns = .ok text) :
    ∀ column ∈ columns, Coord.IsShort ⟨row, column⟩ := by
  unfold Synthesis.rowTerm at h
  split at h
  · exact List.forall_mem_singleton.2 (isShort_of_cellTerm h)
  · intro column hcolumn
    obtain ⟨alternatives, halternatives, h⟩ := bind_eq_ok h
    obtain ⟨rowText, hrow, -⟩ := bind_eq_ok h
    obtain ⟨term, hterm⟩ := exists_of_mapM halternatives column hcolumn
    obtain ⟨colText, hcol, -⟩ := bind_eq_ok hterm
    exact ⟨natAbs_lt_of_number hrow, natAbs_lt_of_number hcol⟩

/-- Whatever the layout is, cells have a condition only if no coordinate has too many digits. -/
theorem isShort_of_cellsCondition {layout : Layout} {text : String}
    (h : Synthesis.cellsCondition layout cells = .ok text) : ∀ cell ∈ cells, cell.IsShort := by
  intro cell hcell
  rw [Synthesis.cellsCondition, if_neg (by simpa using List.ne_nil_of_mem hcell)] at h
  obtain ⟨joiner, -, h⟩ := bind_eq_ok h
  obtain ⟨gathers, -, h⟩ := bind_eq_ok h
  split at h
  · obtain ⟨terms, hterms, -⟩ := bind_eq_ok h
    obtain ⟨group, hgroup, hcol⟩ :=
      exists_mem_grouped.2 (List.mem_map_of_mem (f := fun cell => (cell.row, cell.col)) hcell)
    obtain ⟨term, hterm⟩ := exists_of_mapM hterms _ hgroup
    exact isShort_of_rowTerm hterm cell.col hcol
  · obtain ⟨terms, hterms, -⟩ := bind_eq_ok h
    obtain ⟨term, hterm⟩ := exists_of_mapM hterms cell hcell
    exact isShort_of_cellTerm hterm

/-- A cell whose row has one digit too many has no condition. -/
theorem Settings.cellsCondition_longRow_refused :
    ¬ ∃ text, Settings.default.cellsCondition [⟨Text.leastLong, 0⟩] = .ok text := by
  rintro ⟨text, htext⟩
  obtain ⟨hrow, -⟩ := isShort_of_cellsCondition htext _ (List.mem_singleton.2 rfl)
  exact hrow.ne (Int.natAbs_natCast _)

end GridRules
