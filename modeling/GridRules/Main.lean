import GridRules.CommandLine.Session
import GridRules.Shell.Host

/-!
# The program

The program gathers what a session may look at into a workspace, lets the session answer, and writes
what the answer holds.
-/

namespace GridRules

/-- The workspace with what the file system holds at a path. -/
def gatherOne (workspace : Workspace) (path : Path) : IO Workspace := do
  match workspace.locate path with
  | .error _ => return workspace
  | .ok place =>
    try
      let bytes ← IO.FS.readBinFile path.text
      let content :=
        match String.fromUTF8? bytes with
        | some text => Content.text text
        | none => .bytes
      return { workspace with files := Workspace.putEntry place content workspace.files }
    catch
      | .noFileOrDirectory .. => return workspace
      | _ => return { workspace with directories := workspace.directories ++ [place] }

/-- The workspace with what the file system holds along a path. -/
def gather (workspace : Workspace) (path : Path) : IO Workspace :=
  ((List.range path.names.length).map fun n => (⟨path.names.take (n + 1)⟩ : Path)).foldlM
    gatherOne workspace

/-- The names that a text may mention as those of variables. -/
def mentioned (text : String) : List String :=
  let words := (text.map fun c => if c.isAlphanum || c == '_' then c else ' ').toList
  ((Text.splitOn ' ' words).filter (!·.isEmpty)).map String.ofList

/-- The workspace with the variables of the environment that settings may depend on. -/
def gatherVariables (workspace : Workspace) : IO Workspace := do
  let texts := workspace.files.map fun (_, content) =>
    match content with
    | .text s => s
    | .bytes => ""
  let names := Settings.variableFields.map Prod.fst ++ texts.flatMap mentioned
  names.foldlM (fun workspace name => do
    match ← IO.getEnv name with
    | some value => return (workspace.setVariable name value).toOption.getD workspace
    | none => return workspace) workspace

/-- The workspace of a session. -/
def gatherAll (arguments : List String) : IO Workspace := do
  let paths :=
    match CommandLine.Options.ofArguments arguments with
    | .ok options => options.files
    | .error _ => []
  let workspace ← paths.foldlM gather {}
  let workspace ← gatherVariables workspace
  if arguments.contains Workspace.inputName then
    return { workspace with input := ← (← IO.getStdin).readToEnd }
  else
    return workspace

/-- The help of the program. -/
def help : String :=
  "usage: gridsynth [--config FILE] [--debug] [--version] analyze|generate|verify PATTERN"

end GridRules

open GridRules in
/-- Answers the arguments. -/
def main (arguments : List String) : IO UInt32 := do
  let workspace ← gatherAll arguments
  match CommandLine.answer Shell.host arguments workspace with
  | .error failure =>
    IO.eprintln failure.text
    return 1
  | .ok answer =>
    for (place, content) in answer.workspace.changedSince workspace do
      if let .text text := content then
        IO.FS.writeFile (GridRules.Path.mk place).text text
    IO.print answer.output
    match answer.messages with
    | some text => IO.eprint text
    | none => if answer.output.isEmpty then IO.eprintln help
    return UInt32.ofNat answer.status
