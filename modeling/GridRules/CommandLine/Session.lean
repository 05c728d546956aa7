import GridRules.About
import GridRules.CommandLine.Display
import GridRules.CommandLine.Options
import GridRules.Pattern
import GridRules.Settings.Store

/-!
# Sessions

A session carries out what the arguments ask for. It loads the settings, then the pattern, and then
shows the analysis, writes the program or compares an output. A coded failure ends it with a
message; any other failure has no answer.
-/

namespace GridRules.CommandLine

/-- What a session leaves: its exit status, what it wrote to the two standard streams, and the
workspace. Reading the arguments may end the session, which then has no messages of its own. -/
structure Answer where
  status : Nat
  output : String := ""
  messages : Option String := some ""
  workspace : Workspace
deriving Repr

namespace Answer

/-- The exit status of a session that did what it was asked for. -/
def fine : Nat := 0

/-- The exit status if an output differs from its pattern. -/
def mismatch : Nat := 1

/-- The exit status of a session that failed. -/
def failed : Nat := 2

end Answer

/-- The reasons for which a session fails. -/
inductive Fault where
  | settings (fault : Settings.StoreFault)
  | pattern (fault : PatternFault)
  | study (fault : StudyFault)
  | writing (fault : FileFault)

/-- What is reported of a session that fails. -/
def Fault.failure : Fault → Failure
  | .settings fault => fault.failure
  | .pattern fault => fault.failure
  | .study fault => fault.failure
  | .writing fault => fault.failure

/-- The directory of the settings. -/
def settingsDirectory : String := "config"

/-- Shows the analysis of a pattern. -/
def analyze (settings : Settings) (workspace : Workspace) (pattern : String) :
    Except Fault Answer := do
  let (grid, workspace) ← (workspace.pattern settings pattern).mapError .pattern
  let analysis ← (Analysis.ofGrid? grid).mapError fun fault => .study (.analysis fault)
  return {
    status := Answer.fine
    output := analysisPage grid analysis
    workspace }

/-- Shows the program for a pattern, or writes it to a file. -/
def generate (settings : Settings) (workspace : Workspace) (pattern : String)
    (file : Option String) : Except Fault Answer := do
  let (grid, workspace) ← (workspace.pattern settings pattern).mapError .pattern
  let analysis ← (Analysis.ofGrid? grid).mapError fun fault => .study (.analysis fault)
  let listing ← (Study.program settings grid analysis).mapError .study
  let warnings := warningLines listing.warnings
  match file.filter (· ≠ "") with
  | none =>
    return {
      status := Answer.fine
      output := page [listing.code]
      messages := some (page warnings)
      workspace }
  | some name =>
    let workspace ←
      (workspace.write (Path.ofText name) (page [listing.code])).mapError .writing
    return {
      status := Answer.fine
      messages := some (page (warnings ++ [Style.green.apply ("Program written to " ++ name)]))
      workspace }

/-- Compares an output, from a file or of the program itself, with a pattern. -/
def verify (host : Host) (settings : Settings) (workspace : Workspace) (pattern : String)
    (output mode : Option String) : Except Fault Answer := do
  let (grid, workspace) ← (workspace.pattern settings pattern).mapError .pattern
  let (candidate, workspace) ←
    match output.filter (· ≠ "") with
    | some name =>
      let (text, workspace) ← (workspace.readText name).mapError .pattern
      pure (some text, workspace)
    | none => pure (none, workspace)
  let study ← (Study.ofGrid host settings grid candidate (some (mode.getD ""))).mapError .study
  return {
    status := if study.isVerified then Answer.fine else Answer.mismatch
    output := (study.comparison.map comparisonPage).getD ""
    workspace }

/-- Carries out an action. -/
def Action.run (action : Action) (host : Host) (settings : Settings) (workspace : Workspace) :
    Except Fault Answer :=
  match action with
  | .analyze pattern => CommandLine.analyze settings workspace pattern
  | .generate pattern output => CommandLine.generate settings workspace pattern output
  | .verify pattern output mode => CommandLine.verify host settings workspace pattern output mode

/-- The files that an action reads or writes. -/
def Action.files : Action → List String
  | .analyze pattern => [pattern]
  | .generate pattern output => pattern :: output.toList
  | .verify pattern output _ => pattern :: output.toList

/-- The files that a session may look at. -/
def Options.files (options : Options) : List Path :=
  let store : SettingsStore := { directory := Path.ofText settingsDirectory }
  store.directory :: store.variableFiles ++ store.candidates
    ++ (options.config.toList ++ options.action.files).map Path.ofText

/-- Loads the settings and carries out the action. -/
def Options.run (options : Options) (host : Host) (workspace : Workspace) : Except Fault Answer :=
  match SettingsStore.openIn settingsDirectory workspace with
  | .error fault => .error (.settings fault)
  | .ok (store, workspace) =>
    match (store.load workspace options.config).2 with
    | .error fault => .error (.settings fault)
    | .ok settings => options.action.run host settings workspace

/-- The answer to arguments on a system. -/
def answer (host : Host) (arguments : List String) (workspace : Workspace) :
    Except Failure Answer :=
  match Options.ofArguments arguments with
  | .error .usage => .ok { status := Answer.failed, messages := none, workspace }
  | .error .help => .ok { status := Answer.fine, messages := none, workspace }
  | .error .version =>
    .ok {
      status := Answer.fine
      output := page [About.versionLine]
      messages := none
      workspace }
  | .ok options =>
    match options.run host workspace with
    | .ok answer => .ok answer
    | .error fault =>
      let failure := fault.failure
      if failure.category.isCoded then
        .ok { status := Answer.failed, messages := some (failurePage failure), workspace }
      else
        .error failure

end GridRules.CommandLine
