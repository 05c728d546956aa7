import GridRules.Analysis
import GridRules.Compiler
import GridRules.Difference
import GridRules.Program.Interpreter
import GridRules.Settings.Basic
import GridRules.Synthesis.Listing

/-!
# From a grid to a verified program

A study of a grid holds its analysis and the program that draws it. If there is an output to compare
with the grid, given or made by running the program, the study has a verdict on it and a report.

Settings may hold values of any kind. A value that does not fit is a fault only where it is used.
-/

namespace GridRules

/-- The reasons for which a study cannot be made. -/
inductive StudyFault where
  | analysis (fault : DiscoveryFault)
  | layout (fault : LayoutFault)
  | unusableLimit
  | unsupportedMode (mode : String)
  | interpretation (fault : Program.Fault)
  | compilation (fault : BuildFault)
deriving Repr

/-- What is reported of a study that cannot be made. -/
def StudyFault.failure : StudyFault → Failure
  | .analysis fault => fault.failure
  | .layout fault => fault.failure
  | .unusableLimit => .plain .badType
  | .unsupportedMode mode => (Settings.Complaint.mode (.text mode)).failure
  | .interpretation fault => fault.failure
  | .compilation fault => fault.failure

/-! ### Settings in use -/

namespace Settings

/-- The layout of programs. -/
def layout (settings : Settings) : Layout where
  groupingThreshold := settings.value .groupingThreshold
  wrapThreshold := settings.value .wrapThreshold
  indent := settings.value .indent

/-- The condition that a cell is one of the given ones. -/
def cellsCondition (settings : Settings) (cells : List Coord) : Except LayoutFault String :=
  Synthesis.cellsCondition settings.layout cells

/-- The condition of a rule in program text. -/
def condition (settings : Settings) (table : CellTable) (rule : Rule) :
    Except LayoutFault String :=
  Synthesis.condition settings.layout table rule

/-- The program that draws an area of the given size from rules. -/
def listing (settings : Settings) (rules : List Rule) (height width : Value)
    (table : CellTable := []) : Except LayoutFault Listing :=
  Listing.ofRules rules height width table settings.layout

/-- The output of a program text, run in a mode on a system; the empty mode stands for the one of
the settings. -/
def run (settings : Settings) (host : Host) (code mode : String) : Except StudyFault String :=
  let mode := if mode = "" then (settings.value .mode).shown else mode
  match mode with
  | "interpreter" => (Program.interpret code).mapError .interpretation
  | "compiler" =>
    match Compiler.ofValues host (settings.value .compiler) (settings.value .compilerFlags)
        (settings.value .timeout) with
    | .error fault => .error (.compilation fault)
    | .ok compiler => (compiler.output host code).mapError .compilation
  | mode => .error (.unsupportedMode mode)

end Settings

/-! ### Studies -/

/-- An output with the verdict on it and the report about that. -/
structure Comparison where
  output : String
  verdict : Verdict
  report : String
deriving Repr

/-- Everything that is found out about a grid. -/
structure Study where
  analysis : Analysis
  listing : Listing
  comparison : Option Comparison := none
deriving Repr

namespace Study

/-- The program for a grid with the given analysis. -/
def program (settings : Settings) (grid : Grid) (analysis : Analysis) :
    Except StudyFault Listing :=
  let table : CellTable := grid.bySymbol.map fun (symbol, cells) =>
    (String.singleton symbol, cells)
  (settings.listing analysis.rules grid.heightValue grid.widthValue table).mapError .layout

/-- The comparison of an output with a grid. -/
def compare (settings : Settings) (grid : Grid) (output : String) :
    Except StudyFault Comparison := do
  let verdict := Verdict.ofGrid grid output
  match verdict.shownCount? (settings.value .maxReported) with
  | some shown => return { output, verdict, report := verdict.report shown }
  | none => throw .unusableLimit

/-- The study of a grid on a system. A candidate output is compared with the grid; without one, a
mode tells how to run the program; without either, nothing is compared. -/
def ofGrid (host : Host) (settings : Settings) (grid : Grid)
    (candidate mode : Option String := none) : Except StudyFault Study := do
  let analysis ← (Analysis.ofGrid? grid).mapError .analysis
  let listing ← program settings grid analysis
  let output : Option String ←
    match candidate, mode with
    | some text, _ => pure (some text)
    | none, some mode => some <$> settings.run host listing.code mode
    | none, none => pure none
  let comparison ← output.mapM (compare settings grid)
  return { analysis, listing, comparison }

/-- Whether there is an output that draws the grid. -/
def isVerified (study : Study) : Bool :=
  study.comparison.any fun comparison => comparison.verdict.valid

end Study

end GridRules
