import GridRules.Analysis
import GridRules.Proofs.Grid.Symbols
import GridRules.Proofs.Outcome
import GridRules.Proofs.Rule.Classification
import GridRules.Proofs.Rule.Drawing
import GridRules.Proofs.Synthesis.Condition

/-!
# Analyses draw their grids

The rules of an analysis hold on the cells of their symbols and on no other cells of the grid, and
so they draw the grid at its own size, in whatever order they stand.
-/

namespace GridRules

open Program

/-! ### Explained symbols -/

/-- A table lists no other cells for a symbol than the given ones. -/
def CellTable.Fits (table : CellTable) (symbol : Char) (cells : List Coord) : Prop :=
  ∀ others, table.cells? (String.singleton symbol) = some others → others = cells

section Explained

variable {height width : Nat} {symbol : Char} {cells : List Coord} {table : CellTable} {rule : Rule}

theorem listedCells_coordinateSet (h : table.Fits symbol cells) :
    (Rule.coordinateSet symbol cells).listedCells table = cells := by
  rw [Rule.listedCells]
  cases hfound : table.cells? (String.singleton symbol) with
  | none => simp [Rule.coordinateSet, hfound]
  | some others =>
      obtain rfl := h others hfound
      simp [Rule.coordinateSet, hfound]

variable (h : Rule.discover cells (String.singleton symbol) height width = .ok rule)

include h

/-- The rule for the cells of a symbol describes them or lists them. -/
theorem explain_cases :
    rule.symbol = String.singleton symbol ∧
      (rule.family ≠ .coordinateSet ∧
          Describes rule.condition (Mask.ofCells height width cells) ∨
        rule = Rule.coordinateSet symbol cells) := by
  obtain ⟨hsymbol, hdescribes | ⟨c, hc, hlisted⟩⟩ := Rule.describes_of_discover h
  · rw [Int.toNat_natCast, Int.toNat_natCast] at hdescribes
    exact ⟨hsymbol, .inl hdescribes⟩
  · obtain rfl : symbol = c := String.singleton_inj.1 hc
    exact ⟨hsymbol, .inr hlisted⟩

/-- The rule for the cells of a symbol holds on a cell of the area exactly if it is one of them. -/
theorem exists_test_of_discover (hcells : ∀ cell ∈ cells, Mask.Holds height width cell)
    (hfits : table.Fits symbol cells) :
    ∃ test, rule.test table = .ok test ∧ ∀ cell, Mask.Holds height width cell →
      test.holds cell height width = .ok (decide (cell ∈ cells)) := by
  obtain ⟨-, ⟨hfamily, e, hwrites, hdecides⟩ | hlisted⟩ := explain_cases h
  · refine ⟨.formula e, by rw [Rule.test, if_neg hfamily, hwrites.ofText], ?_⟩
    intro cell hcell
    obtain ⟨r, c, rfl⟩ := hcell.exists_ofNat
    obtain ⟨value, heval, hvalue⟩ := (hdecides r (by simp) c (by simp)).exists_value
    rw [Mask.isMarked_ofCells hcells] at hvalue
    have heval : e.eval (cellEnv (Coord.ofNat r c).row (Coord.ofNat r c).col height width) =
        .ok value := by
      rw [Mask.height_ofCells, Mask.width_ofCells] at heval
      exact heval
    have htrue : (value != 0) = decide (Coord.ofNat r c ∈ cells) := by
      rw [Bool.eq_iff_iff, bne_iff_ne, hvalue, decide_eq_true_iff]
    simp only [Test.holds, heval, htrue]
  · refine ⟨.listed cells, ?_, fun cell _ => by simp [Test.holds, List.contains_eq_mem]⟩
    rw [hlisted, Rule.test, if_pos (show (Rule.coordinateSet symbol cells).family = .coordinateSet
      from rfl), listedCells_coordinateSet hfits]

end Explained

/-! ### The rules of a grid -/

/-- The cells of a grid by symbol, as a table beside its rules. -/
def Grid.cellTable (grid : Grid) : CellTable :=
  grid.bySymbol.map fun (symbol, cells) => (String.singleton symbol, cells)

variable {grid : Grid} {analysis : Analysis} {rule : Rule} {rules : List Rule} {table : CellTable}

theorem fits_cellTable {symbol : Char} {cells : List Coord}
    (h : (symbol, cells) ∈ grid.bySymbol) : grid.cellTable.Fits symbol cells := by
  intro others hothers
  obtain ⟨⟨key, found⟩, hentry, rfl⟩ := Option.map_eq_some_iff.1 hothers
  have hkey : key = String.singleton symbol := by simpa using List.find?_some hentry
  have hmem := List.mem_reverse.1 (List.mem_of_find?_eq_some hentry)
  obtain ⟨⟨other, group⟩, hgroup, heq⟩ := List.mem_map.1 hmem
  obtain ⟨hother, rfl⟩ := Prod.mk.inj heq
  obtain rfl : other = symbol := String.singleton_inj.1 (hother.trans hkey)
  exact Grid.cells_eq_of_mem_bySymbol hgroup h

/-- A symbol that is explained has the rule that is discovered for its cells. -/
theorem discover_of_explain {symbol : Char} {cells : List Coord} {entry : Rule × Nat}
    (h : Analysis.explain grid symbol cells = .ok entry) :
    Rule.discover cells (String.singleton symbol) grid.height grid.width = .ok entry.1 := by
  have hside {isTruth : Bool} {n : Nat} {side : Int}
      (h : Mask.sideOf (if isTruth then .bool true else .int n) = .ok side) : side = n := by
    cases isTruth with
    | true => cases h
    | false => exact (Except.ok.inj h).symm
  obtain ⟨height, hheight, h⟩ := bind_eq_ok h
  obtain ⟨width, hwidth, h⟩ := bind_eq_ok h
  obtain ⟨rule, hrule, h⟩ := bind_eq_ok h
  obtain rfl := Except.ok.inj h
  rwa [hside hheight, hside hwidth] at hrule

theorem mem_rules_iff (h : Analysis.ofGrid? grid = .ok analysis) : rule ∈ analysis.rules ↔
    ∃ symbol cells, (symbol, cells) ∈ grid.bySymbol ∧
      Rule.discover cells (String.singleton symbol) grid.height grid.width = .ok rule := by
  obtain ⟨explained, hexplained, rfl⟩ := map_eq_ok h
  have hmem := mem_of_mapM hexplained
  constructor
  · intro hrule
    obtain ⟨entry, hentry, rfl⟩ := List.mem_map.1 hrule
    obtain ⟨⟨symbol, cells⟩, hcells, hexplain⟩ := (hmem entry).1 hentry
    exact ⟨symbol, cells, hcells, discover_of_explain hexplain⟩
  · rintro ⟨symbol, cells, hcells, hrule⟩
    obtain ⟨entry, hexplain⟩ := exists_of_mapM hexplained _ hcells
    obtain rfl : entry.1 = rule :=
      Except.ok.inj ((discover_of_explain hexplain).symm.trans hrule)
    exact List.mem_map_of_mem ((hmem entry).2 ⟨_, hcells, hexplain⟩)

theorem exists_discover_of_mem_bySymbol (h : Analysis.ofGrid? grid = .ok analysis) {symbol : Char}
    {cells : List Coord} (hcells : (symbol, cells) ∈ grid.bySymbol) :
    ∃ rule, Rule.discover cells (String.singleton symbol) grid.height grid.width = .ok rule := by
  obtain ⟨explained, hexplained, -⟩ := map_eq_ok h
  obtain ⟨entry, hentry⟩ := exists_of_mapM hexplained _ hcells
  exact ⟨entry.1, discover_of_explain hentry⟩

/-- A grid with more cells than a memory holds has no analysis, if a symbol is shown on some of them
only. -/
theorem exists_fault_of_large (hlarge : Grid.heldLimit ≤ grid.height * grid.width)
    {shown left : Coord} {symbol : Char} (hshown : grid.symbol? shown = some symbol)
    (hleft : Mask.Holds grid.height grid.width left) (hother : grid.symbol? left ≠ some symbol) :
    ∃ fault, Analysis.ofGrid? grid = .error fault := by
  cases hanalysis : Analysis.ofGrid? grid with
  | error fault => exact ⟨fault, rfl⟩
  | ok analysis =>
      obtain ⟨cells, hcells⟩ := Grid.exists_mem_bySymbol hshown
      obtain ⟨rule, hrule⟩ := exists_discover_of_mem_bySymbol hanalysis hcells
      have hmem (cell : Coord) : cell ∈ cells ↔ grid.symbol? cell = some symbol :=
        Grid.mem_of_mem_bySymbol hcells
      rw [Rule.discover_of_large grid.height_pos grid.width_pos hlarge
        (fun cell hcell => Grid.holds_of_symbol? ((hmem cell).1 hcell)) hleft
        (mt (hmem left).1 hother)] at hrule
      cases hrule

/-- A grid in use has an analysis. -/
theorem exists_ofGrid? (hgrid : grid.Reachable) :
    ∃ analysis, Analysis.ofGrid? grid = .ok analysis := by
  have hexplain : ∀ entry ∈ grid.bySymbol, ∃ explained,
      Analysis.explain grid entry.1 entry.2 = .ok explained := by
    rintro ⟨symbol, cells⟩ hcells
    obtain ⟨rule, hrule⟩ := Rule.exists_discover grid.height_pos grid.width_pos hgrid.isHeld
      (fun cell hcell => Grid.holds_of_symbol? ((Grid.mem_of_mem_bySymbol hcells).1 hcell)) symbol
    refine ⟨(rule, cells.length), ?_⟩
    simp only [Analysis.explain, Grid.heightValue, Grid.widthValue, hgrid.isNumbered.1,
      hgrid.isNumbered.2]
    exact congrArg (· >>= fun rule => Except.ok (rule, cells.length)) hrule
  obtain ⟨explained, hexplained, -⟩ := exists_mapM (r := fun _ _ => True) fun entry hentry =>
    (hexplain entry hentry).imp fun _ h => ⟨h, trivial⟩
  exact ⟨_, by rw [Analysis.ofGrid?, Analysis.explained, hexplained]; rfl⟩

theorem holds_of_mem_bySymbol {symbol : Char} {cells : List Coord}
    (h : (symbol, cells) ∈ grid.bySymbol) :
    ∀ cell ∈ cells, Mask.Holds grid.height grid.width cell :=
  fun _ hcell => Grid.holds_of_symbol? ((Grid.mem_of_mem_bySymbol h).1 hcell)

theorem fits_nil (symbol : Char) (cells : List Coord) : CellTable.Fits [] symbol cells := by
  intro others hothers
  cases hothers

variable (hanalysis : Analysis.ofGrid? grid = .ok analysis)
  (htable : ∀ symbol cells, (symbol, cells) ∈ grid.bySymbol → table.Fits symbol cells)

include hanalysis htable

/-- The test of a rule of a grid holds on a cell exactly if the cell shows the symbol of the rule.
-/
theorem exists_test_of_mem_rules (h : rule ∈ analysis.rules) :
    ∃ test symbol, rule.test table = .ok test ∧ rule.symbol = String.singleton symbol ∧
      ∀ cell, Mask.Holds grid.height grid.width cell →
        test.holds cell grid.height grid.width =
          .ok (decide (grid.symbol? cell = some symbol)) := by
  obtain ⟨symbol, cells, hcells, hrule⟩ := (mem_rules_iff hanalysis).1 h
  obtain ⟨test, htest, hholds⟩ := exists_test_of_discover hrule
    (holds_of_mem_bySymbol hcells) (htable symbol cells hcells)
  refine ⟨test, symbol, htest, (explain_cases hrule).1, ?_⟩
  intro cell hcell
  rw [hholds cell hcell]
  simp only [Grid.mem_of_mem_bySymbol hcells]

variable (hrules : ∀ rule, rule ∈ rules ↔ rule ∈ analysis.rules)

include hrules

/-- The tests of the rules of a grid know the symbol of every cell. -/
theorem knows_of_rules {tests : List (String × Test)} (htests : Rule.tests table rules = .ok tests)
    {cell : Coord} (hcell : Mask.Holds grid.height grid.width cell) :
    Knows tests grid.height grid.width cell (grid.symbol? cell) where
  holds := by
    intro text test hmem
    obtain ⟨rule, hrule, rfl, htest⟩ := (mem_tests_iff htests).1 hmem
    obtain ⟨test', symbol, htest', hsymbol, hholds⟩ :=
      exists_test_of_mem_rules hanalysis htable ((hrules rule).1 hrule)
    obtain rfl : test' = test := Except.ok.inj (htest'.symm.trans htest)
    exact ⟨symbol, hsymbol, hholds cell hcell⟩
  covers := by
    intro symbol hsymbol
    obtain ⟨cells, hcells⟩ := Grid.exists_mem_bySymbol hsymbol
    obtain ⟨rule, hrule⟩ := exists_discover_of_mem_bySymbol hanalysis hcells
    obtain ⟨test, htest, -⟩ := exists_test_of_discover hrule
      (holds_of_mem_bySymbol hcells) (htable symbol cells hcells)
    have hmem := (hrules _).2 ((mem_rules_iff hanalysis).2 ⟨symbol, cells, hcells, hrule⟩)
    exact ⟨test, (mem_tests_iff htests).2 ⟨_, hmem, (explain_cases hrule).1, htest⟩⟩

section Tests

variable {tests : List (String × Test)} (htests : Rule.tests table rules = .ok tests)
  (blank : String)

include htests

theorem drawCell_of_rules {r c : Nat} (hr : r < grid.height) (hc : c < grid.width) :
    drawCell blank grid.height grid.width ⟨r, c⟩ tests =
      .ok ((grid.cells[r][c].symbol.map String.singleton).getD blank) := by
  have hcell : Mask.Holds grid.height grid.width (Coord.ofNat r c) := by
    simp [Mask.Holds, Coord.ofNat, hr, hc]
  have hknows := knows_of_rules hanalysis htable hrules htests hcell
  rw [Grid.symbol?_ofNat hr hc] at hknows
  exact hknows.drawCell_eq blank

theorem drawRow_of_rules {r : Nat} (hr : r < grid.height) :
    drawRow tests blank grid.height grid.width r grid.width 0 =
      .ok (grid.cells[r].toList.flatMap fun cell =>
        (cell.symbol.map fun c => [c]).getD blank.toList) := by
  have hitems := drawRow_of_items (fun cell : Cell => (cell.symbol.map String.singleton).getD blank)
    grid.cells[r].toList 0 fun c hc => by
      have hdraw := drawCell_of_rules hanalysis htable hrules htests blank hr
        (by simpa using hc : c < grid.width)
      simpa using hdraw
  rw [Vector.length_toList, Int.natCast_zero] at hitems
  rw [hitems]
  congr 2
  funext cell
  cases cell.symbol <;> simp

/-- The rules of a grid draw its rows at its own size. -/
theorem drawRows_of_rules : drawRows tests blank grid.height grid.width grid.height 0 =
    .ok (grid.drawnRows blank.toList) := by
  have hitems := drawRows_of_items (fun row : Vector Cell grid.width => row.toList.flatMap
    fun cell => (cell.symbol.map fun c => [c]).getD blank.toList) grid.cells.toList 0 fun r hr => by
      have hdraw := drawRow_of_rules hanalysis htable hrules htests blank
        (by simpa using hr : r < grid.height)
      rw [Int.toNat_natCast]
      simpa using hdraw
  rwa [Vector.length_toList, Int.natCast_zero] at hitems

end Tests

/-- The rules of a grid draw the grid at its own size, in whatever order they stand. -/
theorem draw_of_rules (blank : String) :
    Rule.draw rules grid.height grid.width table blank = .ok (grid.render blank) := by
  have htest : ∀ rule ∈ rules, ∃ test, rule.test table = .ok test := by
    intro rule hrule
    obtain ⟨test, -, htest, -⟩ :=
      exists_test_of_mem_rules hanalysis htable ((hrules rule).1 hrule)
    exact ⟨test, htest⟩
  obtain ⟨tests, htests⟩ := exists_tests htest
  rw [draw_of_tests htests, Int.toNat_natCast,
    drawRows_of_rules hanalysis htable hrules htests blank]
  rfl

/-! ### Any order of the rules -/

/-- A rule holds on a cell of an area: it lists the cell, or its condition is true there. -/
def Rule.HoldsOn (rule : Rule) (table : CellTable) (height width : Int) (cell : Coord) : Prop :=
  ∃ test, rule.test table = .ok test ∧ test.holds cell height width = .ok true

omit hrules in
theorem holdsOn_iff (h : rule ∈ analysis.rules) {cell : Coord}
    (hcell : Mask.Holds grid.height grid.width cell) :
    rule.HoldsOn table grid.height grid.width cell ↔
      (grid.symbol? cell).map String.singleton = some rule.symbol := by
  obtain ⟨test, symbol, htest, hsymbol, hholds⟩ :=
    exists_test_of_mem_rules hanalysis htable h
  simp [Rule.HoldsOn, htest, hholds cell hcell, hsymbol]

omit hanalysis htable hrules

/-- A grid in use has an analysis whose rules draw it at its own size in whatever order they stand,
with any text in place of a missing symbol, whether its cells are given beside the rules or not. No
two rules for different symbols hold on the same cell. -/
theorem Analysis.draw_of_perm (hgrid : grid.Reachable) :
    ∃ analysis, Analysis.ofGrid? grid = .ok analysis ∧
      ∀ rules : List Rule, rules.Perm analysis.rules → ∀ table ∈ [grid.cellTable, []],
        (∀ blank, Rule.draw rules grid.height grid.width table blank = .ok (grid.render blank)) ∧
        ∀ rule ∈ rules, ∀ other ∈ rules, rule.symbol ≠ other.symbol →
          ∀ cell, grid.inside cell = true →
            ¬ (rule.HoldsOn table grid.height grid.width cell ∧
              other.HoldsOn table grid.height grid.width cell) := by
  obtain ⟨analysis, hanalysis⟩ := exists_ofGrid? hgrid
  refine ⟨analysis, hanalysis, ?_⟩
  intro rules hperm table htable
  have hfits : ∀ symbol cells, (symbol, cells) ∈ grid.bySymbol → table.Fits symbol cells := by
    intro symbol cells hcells
    rcases List.mem_pair.1 htable with rfl | rfl
    · exact fits_cellTable hcells
    · exact fits_nil symbol cells
  refine ⟨draw_of_rules hanalysis hfits fun _ => hperm.mem_iff, ?_⟩
  rintro rule hrule other hother hne cell hinside ⟨hholds, hholds'⟩
  have hcell := (Grid.inside_iff grid cell).1 hinside
  have hsymbol := (holdsOn_iff hanalysis hfits (hperm.mem_iff.1 hrule) hcell).1 hholds
  have hsymbol' := (holdsOn_iff hanalysis hfits (hperm.mem_iff.1 hother) hcell).1 hholds'
  exact hne (Option.some.inj (hsymbol.symm.trans hsymbol'))

/-- The rules of a small grid in reverse order, with a full stop in place of a missing symbol. -/
theorem Analysis.draw_of_perm_reverse :
    ∃ grid analysis, Grid.ofText "#@\n@ " = .ok grid ∧ Analysis.ofGrid? grid = .ok analysis ∧
      Rule.draw analysis.rules.reverse grid.height grid.width [] "." = .ok "#@\n@." := by
  have hgrid : Grid.ofText "#@\n@ " = .ok _ := rfl
  obtain ⟨analysis, hanalysis, hdraw⟩ := Analysis.draw_of_perm (.ofText hgrid)
  exact ⟨_, analysis, hgrid, hanalysis, (hdraw _ (List.reverse_perm _) [] (by simp)).1 "."⟩

end GridRules
