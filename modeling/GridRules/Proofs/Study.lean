import GridRules.Proofs.Analysis
import GridRules.Proofs.Compiler
import GridRules.Proofs.Synthesis.Agreement
import GridRules.Shell.Host
import GridRules.Study

/-!
# Studies of grids in use

The program that a study makes for a grid draws this grid, if the limit of the interpreter suffices
for every row and every cell, and the study is then verified. Otherwise the interpreter reaches its
limit. On any system, the study that has the program compiled is the one of what the executable file
prints.
-/

namespace GridRules

open Program

variable {grid : Grid} {analysis : Analysis} {layout : Layout} {settings : Settings} {limit : Int}

/-! ### Programs of grids -/

section Programs

variable (hanalysis : Analysis.ofGrid? grid = .ok analysis)
  (hheight : grid.height < Text.leastLong) (hwidth : grid.width < Text.leastLong)

include hanalysis hheight hwidth

/-- The rules of a grid can stand in a program, whether they list their cells or describe them. -/
theorem isPlaceable_of_mem_rules {rule : Rule} (h : rule ∈ analysis.rules) :
    rule.IsPlaceable grid.cellTable := by
  obtain ⟨symbol, cells, hcells, hrule⟩ := (mem_rules_iff hanalysis).1 h
  obtain ⟨hsymbol, hcases⟩ := explain_cases hrule
  refine ⟨⟨symbol, hsymbol⟩, ?_, ?_⟩
  · intro hfamily
    rcases hcases with ⟨-, e, hwrites, -⟩ | hlisted
    · exact ⟨e, hwrites⟩
    · rw [hlisted] at hfamily
      exact absurd rfl hfamily
  · intro hfamily
    rcases hcases with ⟨hformula, -⟩ | hlisted
    · exact absurd hfamily hformula
    · rw [hlisted, listedCells_coordinateSet (fits_cellTable hcells)]
      intro cell hcell
      obtain ⟨⟨hrow, hrow'⟩, hcol, hcol'⟩ := holds_of_mem_bySymbol hcells cell hcell
      exact ⟨by omega, by omega⟩

variable (hlayout : layout.IsPlain)

include hlayout

/-- A grid has a listing, which is a program that tests every cell for its symbol. -/
theorem exists_listing_of_grid :
    ∃ listing tests branches,
      Listing.ofRules analysis.rules (.int grid.height) (.int grid.width) grid.cellTable layout =
        .ok listing ∧
      drawRows tests " " grid.height grid.width grid.height 0 = .ok (grid.drawnRows [' ']) ∧
      List.Forall₂ (Matches grid.height grid.width) tests branches ∧
      ofText listing.code =
        .ok (programStatements (.ofInt grid.height) (.ofInt grid.width) branches) := by
  obtain ⟨listing, tests, branches, hlisting, htests, hmatches, htext⟩ :=
    exists_programStatements hlayout
      (fun rule => isPlaceable_of_mem_rules hanalysis hheight hwidth)
      (show (grid.height : Int).natAbs < _ by simpa using hheight)
      (show (grid.width : Int).natAbs < _ by simpa using hwidth)
  exact ⟨listing, tests, branches, hlisting, drawRows_of_rules hanalysis
    (fun _ _ => fits_cellTable) (fun _ => Iff.rfl) htests " ", hmatches, htext⟩

variable {listing : Listing}
  (hlisting : Listing.ofRules analysis.rules (.int grid.height) (.int grid.width) grid.cellTable
    layout = .ok listing)

include hlisting

/-- Under a limit that suffices, the program of a grid prints the grid. -/
theorem interpret_of_grid (hlimit : grid.height * (grid.width + 1) ≤ limit.toNat) :
    interpret listing.code limit = .ok (grid.render ++ "\n") := by
  obtain ⟨_, tests, branches, hlisting', hdraw, hmatches, htext⟩ :=
    exists_listing_of_grid hanalysis hheight hwidth hlayout
  obtain rfl := Except.ok.inj (hlisting.symm.trans hlisting')
  have hlimit' : (grid.height : Int).toNat * (1 + (grid.width : Int).toNat) ≤ limit.toNat := by
    simpa [Nat.add_comm 1] using hlimit
  have houtput := output_programStatements (Expr.eval_ofInt · grid.height)
    (Expr.eval_ofInt · grid.width) hmatches hlimit'
  have hrows : grid.drawnRows [' '] ≠ [] := by
    have hpos := grid.height_pos
    intro hnil
    have hlength := congrArg List.length hnil
    simp only [Grid.drawnRows, List.length_map, Vector.length_toList, List.length_nil] at hlength
    omega
  rw [Int.toNat_natCast, hdraw] at houtput
  rw [interpret, htext]
  simp only [houtput]
  rw [endedLines_eq_unlines hrows, String.ofList_append]
  rfl

/-- Under a smaller limit the program of a grid is stopped. -/
theorem interpret_of_grid_exhausted (hlimit : limit.toNat < grid.height * (grid.width + 1)) :
    interpret listing.code limit = .error (.unfinished (.stepLimit limit)) := by
  obtain ⟨_, tests, branches, hlisting', hdraw, hmatches, htext⟩ :=
    exists_listing_of_grid hanalysis hheight hwidth hlayout
  obtain rfl := Except.ok.inj (hlisting.symm.trans hlisting')
  have hlimit' : limit.toNat < (grid.height : Int).toNat * (1 + (grid.width : Int).toNat) := by
    simpa [Nat.add_comm 1] using hlimit
  have houtput := output_programStatements_exhausted (Expr.eval_ofInt · grid.height)
    (Expr.eval_ofInt · grid.width) hmatches hdraw hlimit'
  rw [interpret, htext]
  simp only [houtput]

end Programs

/-! ### Verdicts -/

/-- A grid's own text with a line feed behind it is the grid's. -/
theorem verdict_of_render (grid : Grid) :
    Verdict.ofGrid grid (grid.render ++ "\n") = { valid := true } := by
  have hactual : String.ofList (Text.dropFinalNewline (grid.render ++ "\n").toList) =
      grid.render := by
    simp [Text.dropFinalNewline]
  simp only [Verdict.ofGrid, Verdict.ofTexts, hactual, if_true]

theorem exists_shownCount? {verdict : Verdict} (h : verdict.valid = true) (value : Value) :
    ∃ shown, verdict.shownCount? value = some shown := by
  cases value <;> exact ⟨_, by simp [Verdict.shownCount?, h]; rfl⟩

/-- Whatever the settings say about differences, a grid's own text is reported to match. -/
theorem compare_of_render (settings : Settings) (grid : Grid) :
    Study.compare settings grid (grid.render ++ "\n") =
      .ok
        { output := grid.render ++ "\n"
          verdict := { valid := true }
          report := "✓ Output matches grid exactly." } := by
  obtain ⟨shown, hshown⟩ := exists_shownCount? (show ({ valid := true } : Verdict).valid = true
    from rfl) (settings.value .maxReported)
  simp only [Study.compare, verdict_of_render, hshown]
  rfl

theorem compare_of_maxReported {most : Int} (h : settings.value .maxReported = .int most)
    (grid : Grid) (output : String) :
    Study.compare settings grid output =
      .ok
        { output
          verdict := Verdict.ofGrid grid output
          report := (Verdict.ofGrid grid output).report most } := by
  simp only [Study.compare, h, Verdict.shownCount?]
  rfl

/-! ### Studies -/

/-- The program for a grid whose sides are numbers is the listing of the grid. -/
theorem exists_program (hlayout : settings.layout.IsPlain)
    (hanalysis : Analysis.ofGrid? grid = .ok analysis) (hgrid : grid.IsNumbered)
    (hheight : grid.height < Text.leastLong) (hwidth : grid.width < Text.leastLong) :
    ∃ listing,
      Listing.ofRules analysis.rules (.int grid.height) (.int grid.width) grid.cellTable
        settings.layout = .ok listing ∧
      Study.program settings grid analysis = .ok listing := by
  obtain ⟨listing, -, -, hlisting, -⟩ := exists_listing_of_grid hanalysis hheight hwidth hlayout
  refine ⟨listing, hlisting, ?_⟩
  simp only [Study.program, Grid.heightValue, Grid.widthValue, hgrid.1, hgrid.2]
  exact congrArg (Except.mapError StudyFault.layout) hlisting

section Studies

variable (host : Host) {listing : Listing} (hanalysis : Analysis.ofGrid? grid = .ok analysis)
  (hprogram : Study.program settings grid analysis = .ok listing)

include hanalysis hprogram

/-- A study compares a given output with the grid, whatever the mode is. -/
theorem ofGrid_candidate (output : String) (mode : Option String) :
    Study.ofGrid host settings grid (some output) mode =
      (Study.compare settings grid output).map fun comparison =>
        { analysis, listing, comparison := some comparison } := by
  simp only [Study.ofGrid, hanalysis, hprogram, Except.mapError, pure_bind, ok_bind,
    Option.mapM_some, Functor.map]
  cases Study.compare settings grid output <;> rfl

/-- A study that runs its program compares what comes of it, if anything does. -/
theorem ofGrid_mode (mode : String) :
    Study.ofGrid host settings grid none (some mode) =
      settings.run host listing.code mode >>= fun output =>
        Study.ofGrid host settings grid (some output) none := by
  simp only [ofGrid_candidate host hanalysis hprogram]
  simp only [Study.ofGrid, hanalysis, hprogram, Except.mapError, ok_bind]
  cases settings.run host listing.code mode with
  | error fault => rfl
  | ok output =>
      simp only [Option.mapM_some, Functor.map, Except.map, ok_bind]
      cases Study.compare settings grid output <;> rfl

/-- With a whole number as the number of differences to report, a study of a given output has the
verdict on it. -/
theorem exists_study_of_candidate {most : Int} (hmost : settings.value .maxReported = .int most)
    (output : String) (mode : Option String) :
    ∃ study, Study.ofGrid host settings grid (some output) mode = .ok study ∧
      study.isVerified = (Verdict.ofGrid grid output).valid := by
  rw [ofGrid_candidate host hanalysis hprogram, compare_of_maxReported hmost]
  exact ⟨_, rfl, rfl⟩

end Studies

theorem run_interpreter (settings : Settings) (host : Host) (code : String) :
    settings.run host code "interpreter" = (interpret code).mapError .interpretation := by
  simp [Settings.run]

theorem run_compiler {host : Host} {compiler : Compiler}
    (h : Compiler.ofValues host (settings.value .compiler) (settings.value .compilerFlags)
      (settings.value .timeout) = .ok compiler) (code : String) :
    settings.run host code "compiler" = (compiler.output host code).mapError .compilation := by
  simp [Settings.run, h]

/-- The study of a grid in use that runs its program on the interpreter, under settings with a blank
indentation and whole numbers as thresholds. If the usual limit suffices for every row and every
cell, the study is verified by an output that is the text of the grid and a line feed, without
differences; otherwise the interpreter reports that the limit is exceeded. -/
theorem Study.ofGrid_interpreter (host : Host) {step : String} {grouping wrap : Int}
    (hindent : settings.value .indent = .text step)
    (hblank : ∀ c ∈ step.toList, Text.isBlank c = true)
    (hgrouping : settings.value .groupingThreshold = .int grouping)
    (hwrap : settings.value .wrapThreshold = .int wrap) (hgrid : grid.Reachable) :
    (grid.height * (grid.width + 1) ≤ 5000000 →
      ∃ study comparison, Study.ofGrid host settings grid none (some "interpreter") = .ok study ∧
        study.comparison = some comparison ∧ comparison.output = grid.render ++ "\n" ∧
        comparison.verdict.valid = true ∧ comparison.verdict.differences = [] ∧
        study.isVerified = true) ∧
    (5000000 < grid.height * (grid.width + 1) →
      ∃ fault, Study.ofGrid host settings grid none (some "interpreter") = .error fault ∧
        fault.failure.category = .execution ∧ fault.failure.code = "STEP_LIMIT_EXCEEDED") := by
  obtain ⟨analysis, hanalysis⟩ := exists_ofGrid? hgrid
  obtain ⟨hheight, hwidth⟩ := hgrid.sides_lt
  have hlayout := Settings.isPlain_layout hindent hblank hgrouping hwrap
  obtain ⟨listing, hlisting, hprogram⟩ :=
    exists_program hlayout hanalysis hgrid.isNumbered hheight hwidth
  have hstudy := ofGrid_mode host hanalysis hprogram "interpreter"
  rw [run_interpreter] at hstudy
  constructor
  · intro hlimit
    have hrun := interpret_of_grid hanalysis hheight hwidth hlayout hlisting
      (show grid.height * (grid.width + 1) ≤ defaultLimit.toNat from hlimit)
    simp only [hrun, Except.mapError, ok_bind, ofGrid_candidate host hanalysis hprogram,
      compare_of_render, Except.map] at hstudy
    exact ⟨_, _, hstudy, rfl, rfl, rfl, rfl, rfl⟩
  · intro hlimit
    have hrun := interpret_of_grid_exhausted hanalysis hheight hwidth hlayout hlisting
      (show defaultLimit.toNat < grid.height * (grid.width + 1) from hlimit)
    simp only [hrun, Except.mapError] at hstudy
    have hshort : defaultLimit.natAbs < Text.leastLong :=
      Rule.lt_of_lt_cellLimit (show 5000000 < Mask.cellLimit by decide)
    refine ⟨_, hstudy, ?_⟩
    rw [StudyFault.failure, Fault.failure]
    exact RunFault.failure_stepLimit hshort

/-- A small drawing with a quote and a backslash is verified, and a tall empty grid is too large. -/
theorem Study.ofGrid_interpreter_corner :
    (∃ grid study comparison, Grid.ofText "#'\n\\" = .ok grid ∧
      Study.ofGrid Shell.host .default grid none (some "interpreter") = .ok study ∧
      study.comparison = some comparison ∧ comparison.output = "#'\n\\ \n") ∧
    ∃ grid fault, Grid.ofSize 5000000 1 = .ok grid ∧
      Study.ofGrid Shell.host .default grid none (some "interpreter") = .error fault ∧
      fault.failure.code = "STEP_LIMIT_EXCEEDED" := by
  have hall {grid : Grid} (hgrid : grid.Reachable) := Study.ofGrid_interpreter Shell.host
    (show Settings.default.value .indent = .text "    " from rfl) (List.all_eq_true.1 (by decide))
    (show Settings.default.value .groupingThreshold = .int 20 from rfl)
    (show Settings.default.value .wrapThreshold = .int 5 from rfl) hgrid
  constructor
  · have hgrid : Grid.ofText "#'\n\\" = .ok _ := rfl
    obtain ⟨study, comparison, hstudy, hcomparison, houtput, -⟩ := (hall (.ofText hgrid)).1
      (by decide)
    exact ⟨_, study, comparison, hgrid, hstudy, hcomparison, houtput⟩
  · have hgrid : Grid.ofSize 5000000 1 = .ok _ := rfl
    obtain ⟨fault, hfault, -, hcode⟩ := (hall (.ofSize hgrid)).2 (by decide)
    exact ⟨_, fault, hgrid, hfault, hcode⟩

/-- On any system, the study of a grid in use that has its program compiled is the study of what the
executable file prints, and is verified if that is the text of the grid and a line feed, as it is
for the interpreter. If nothing is printed the fault is one of the compilation. -/
theorem Study.ofGrid_compiler {host : Host} {compiler : Compiler} {step : String}
    {grouping wrap : Int}
    (hcompiler : Compiler.ofValues host (settings.value .compiler) (settings.value .compilerFlags)
      (settings.value .timeout) = .ok compiler)
    (hindent : settings.value .indent = .text step)
    (hblank : ∀ c ∈ step.toList, Text.isBlank c = true)
    (hgrouping : settings.value .groupingThreshold = .int grouping)
    (hwrap : settings.value .wrapThreshold = .int wrap) (hgrid : grid.Reachable) :
    ∃ analysis listing, Analysis.ofGrid? grid = .ok analysis ∧
      Study.program settings grid analysis = .ok listing ∧
      (∀ limit : Int, grid.height * (grid.width + 1) ≤ limit.toNat →
        interpret listing.code limit = .ok (grid.render ++ "\n")) ∧
      (∀ output, compiler.Prints host listing.code output →
        Study.ofGrid host settings grid none (some "compiler") =
          Study.ofGrid host settings grid (some output) none) ∧
      (compiler.Prints host listing.code (grid.render ++ "\n") →
        ∃ study, Study.ofGrid host settings grid none (some "compiler") = .ok study ∧
          study.isVerified = true) ∧
      ((∀ output, ¬ compiler.Prints host listing.code output) →
        ∃ fault, compiler.output host listing.code = .error fault ∧
          Study.ofGrid host settings grid none (some "compiler") =
            .error (.compilation fault)) := by
  obtain ⟨analysis, hanalysis⟩ := exists_ofGrid? hgrid
  obtain ⟨hheight, hwidth⟩ := hgrid.sides_lt
  have hlayout := Settings.isPlain_layout hindent hblank hgrouping hwrap
  obtain ⟨listing, hlisting, hprogram⟩ :=
    exists_program hlayout hanalysis hgrid.isNumbered hheight hwidth
  have hstudy := ofGrid_mode host hanalysis hprogram "compiler"
  rw [run_compiler hcompiler] at hstudy
  have hprinted (output : String) (h : compiler.Prints host listing.code output) :
      Study.ofGrid host settings grid none (some "compiler") =
        Study.ofGrid host settings grid (some output) none := by
    rw [hstudy, Compiler.output_eq_ok_iff.2 h]
    rfl
  refine ⟨analysis, listing, hanalysis, hprogram,
    fun limit => interpret_of_grid hanalysis hheight hwidth hlayout hlisting, hprinted, ?_, ?_⟩
  · intro h
    rw [hprinted _ h, ofGrid_candidate host hanalysis hprogram, compare_of_render]
    exact ⟨_, rfl, rfl⟩
  · intro hnone
    cases houtput : compiler.output host listing.code with
    | error fault =>
        rw [hstudy, houtput]
        exact ⟨fault, rfl, rfl⟩
    | ok output => exact absurd (Compiler.output_eq_ok_iff.1 houtput) (hnone output)

end GridRules
