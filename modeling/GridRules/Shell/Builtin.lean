import GridRules.Shell.Condition
import GridRules.Shell.Filter

/-!
# Utilities by name

Some utilities belong to the shell itself, which runs them without a new script, and some lie as
tools among the files. Those that change what the script does next are not among them.
-/

namespace GridRules.Shell

namespace Builtin

/-! ### Utilities of the shell -/

/-- Changes the current directory. A dash stands for the one before, which is shown. -/
def cd : Utility := fun arguments state =>
  let here := nameOf state.directory
  let back := (state.value? "OLDPWD").getD here
  let target := arguments.head?.getD ((state.value? "HOME").getD here)
  let name := if target == "-" then back else target
  let place := state.placeOfName name
  if state.files.isDirectory place then
    (if target == "-" then .line name else {},
      { (state.assign "OLDPWD" here).assign "PWD" (nameOf place) with directory := place })
  else (.complaint ("can't cd to " ++ name), state)

/-- The first line of the input, with whether a line end follows it; a backslash joins lines and
escapes characters unless it is taken as it is. Characters come with whether they are escaped. -/
def takeLine (raw : Bool) : Nat → List Char → List (Char × Bool) × Bool × List Char
  | 0, text => ([], false, text)
  | _, [] => ([], false, [])
  | fuel + 1, c :: rest =>
    if c == '\n' then ([], true, rest)
    else if c == '\\' && !raw then
      match rest with
      | '\n' :: rest => takeLine raw fuel rest
      | d :: rest =>
        let (line, ended, rest) := takeLine raw fuel rest
        ((d, true) :: line, ended, rest)
      | [] => ([], false, [])
    else
      let (line, ended, rest) := takeLine raw fuel rest
      ((c, false) :: line, ended, rest)

/-- Reads a line of the input into names; the last one takes all that is left. -/
def read : Utility := fun arguments state =>
  let raw := arguments.contains "-r"
  let names := arguments.filter fun name => name.toList.head? != some '-'
  let separators := state.separators
  let isSeparator (c : Char × Bool) : Bool := !c.2 && separators.contains c.1
  let isBlank (c : Char × Bool) : Bool :=
    isSeparator c && (c.1 == ' ' || c.1 == '\t' || c.1 == '\n')
  let text := (textOf state.input).toList
  let (line, ended, rest) := takeLine raw (text.length + 1) text
  let state := { state with input := bytesOf (String.ofList rest) }
  let plain (line : List (Char × Bool)) : String := String.ofList (line.map Prod.fst)
  let rec fill : List String → List (Char × Bool) → State → State
    | [], _, state => state
    | [name], line, state =>
      state.assign name (plain (line.reverse.dropWhile isBlank).reverse)
    | name :: names, line, state =>
      let value := line.takeWhile fun c => !isSeparator c
      let behind := (line.drop value.length).dropWhile isBlank
      let behind :=
        match behind with
        | c :: rest => if isSeparator c then rest.dropWhile isBlank else c :: rest
        | [] => []
      fill names behind (state.assign name (plain value))
  let state := fill (if names.isEmpty then ["REPLY"] else names) (line.dropWhile isBlank) state
  ({ status := if ended then 0 else 1 }, state)

/-- Says what a name means: `tells` gives the words for it. -/
def describe (state : State) (name : String) : Option (String × String) :=
  if reservedWords.contains name then some (name, " is a shell keyword")
  else if (state.functions.lookup name).isSome then some (name, " is a shell function")
  else if specialNames.contains name then some (name, " is a special shell builtin")
  else if ["cd", "echo", "printf", "test", "[", "read", "pwd", "true", "false", "kill", "wait",
      "type", "command", "umask", "local"].contains name then some (name, " is a shell builtin")
  else
    let places := (((state.value? "PATH").getD "").splitOn ":").map fun directory =>
      if name.contains '/' then name else directory ++ "/" ++ name
    (places.find? fun place =>
      match state.files.find? (state.placeOfName place) with
      | some (.tool _) => true
      | some (.file _ executable) => executable
      | _ => false).map fun place => (place, " is " ++ place)

/-- The utility of the shell with a name. -/
def ofName? (name : String) : Option Utility :=
  match name with
  | "echo" => some fun arguments state => (Writing.echo arguments, state)
  | "printf" => some fun arguments state => (Writing.printf arguments, state)
  | "test" => some fun arguments state => (Condition.test arguments state, state)
  | "[" => some fun arguments state =>
    match arguments.getLast? with
    | some "]" => (Condition.test arguments.dropLast state, state)
    | _ => (.complaint "missing ]", state)
  | "true" | ":" | "times" | "ulimit" | "hash" | "alias" | "unalias" | "jobs" =>
    some fun _ state => ({}, state)
  | "false" => some fun _ state => ({ status := 1 }, state)
  | "umask" => some fun arguments state =>
    (if arguments.isEmpty then .line "0022" else {}, state)
  | "pwd" => some fun _ state => (.line (nameOf state.directory), state)
  | "cd" => some cd
  | "read" => some read
  | "type" => some fun arguments state =>
    FileUtility.forEach arguments state fun name state =>
      match describe state name with
      | some (shown, text) =>
        (.line ((if shown.contains '/' then name else shown) ++ text), state)
      | none => ({ Reply.line (name ++ ": not found") with status := 127 }, state)
  | _ => none

/-! ### Tools -/

/-- The letters of the options that tools know; a tool that is not listed looks at its arguments by
itself. -/
def knownOptions : List (String × String) :=
  [("cat", "AbeEnstTuv"), ("cp", "abdfHilLnPprRsStTuvxZ"), ("mv", "bfinStTuvZ"),
    ("ln", "bdfFiLnPrsStTv"), ("mkdir", "mpvZ"), ("rmdir", "pv"), ("touch", "acdfhmrt"),
    ("wc", "cLlmw"), ("tr", "cCdst"), ("sort", "bcCdfghikmMnorRsStTuVyz"), ("rm", "dfiIrRv"),
    ("tee", "aip"), ("uniq", "cdDfisuwz"), ("basename", "asz"), ("dirname", "z"), ("sleep", ""),
    ("head", "cnqvz"), ("tail", "bcfFnqrsvz"), ("seq", "fsw"), ("date", "dfIrRsu"),
    ("id", "aZgGnruz"), ("dd", ""), ("yes", ""), ("tac", "brs")]

/-- The number of milliseconds that a text of seconds writes. -/
def milliseconds? (text : String) : Option Nat :=
  match text.splitOn "." with
  | [whole] => whole.toNat?.map (1000 * ·)
  | [whole, part] => do
    let whole ← if whole.isEmpty then some 0 else whole.toNat?
    let part ← ((String.ofList ((part.toList ++ ['0', '0', '0']).take 3))).toNat?
    return 1000 * whole + part
  | _ => none

/-- Lets time go by. -/
def sleep : Utility := fun arguments state =>
  match arguments with
  | [] => (FileUtility.noOperand "sleep", state)
  | arguments =>
    match arguments.find? fun text => (milliseconds? text).isNone with
    | some text =>
      (.advised "sleep" ("invalid time interval " ++ FileUtility.quoted text), state)
    | none =>
      let time := (arguments.filterMap milliseconds?).foldl (· + ·) 0
      ({}, { state with clock := state.clock + time })

/-- Writes the places of tools. -/
def which : Utility := fun arguments state =>
  FileUtility.forEach arguments state fun name state =>
    match describe { state with functions := [] } name with
    | some (shown, _) =>
      if shown.contains '/' then (.line shown, state) else ({ status := 1 }, state)
    | none => ({ status := 1 }, state)

/-- The tools that are no shells and start no other tools. -/
def tools : List (String × Utility) :=
  [("cat", FileUtility.cat), ("chmod", FileUtility.chmod), ("cp", FileUtility.cp),
    ("mv", FileUtility.mv), ("ln", FileUtility.ln), ("install", FileUtility.install),
    ("rm", FileUtility.rm), ("touch", FileUtility.touch), ("mkdir", FileUtility.mkdir),
    ("rmdir", FileUtility.rmdir), ("ls", FileUtility.ls), ("tee", FileUtility.tee),
    ("head", Filter.head), ("tail", Filter.tail), ("wc", Filter.wc), ("tr", Filter.tr), ("sort", Filter.sort),
    ("uniq", Filter.uniq), ("cut", Filter.cut), ("rev", Filter.rev), ("tac", Filter.tac),
    ("sleep", sleep), ("which", which), ("sync", fun _ state => ({}, state)),
    ("printf", fun arguments state => (Writing.printf ("--" :: arguments), state)),
    ("basename", fun arguments state => (Filter.basename arguments, state)),
    ("dirname", fun arguments state => (Filter.dirname arguments, state)),
    ("seq", fun arguments state => (Filter.seq arguments, state)),
    ("expr", fun arguments state => (Filter.expr arguments, state))]

/-- The tools that are shells. -/
def shells : List String := ["sh", "dash", "bash"]

/-- The tools that start another one. -/
def launchers : List String := ["env", "nice", "nohup", "setsid", "timeout"]

/-- The tools that are utilities of the shell as well. -/
def commonTools : List String := ["echo", "test", "[", "true", "false", "pwd"]

/-- The names of all tools. -/
def toolNames : List String :=
  shells ++ launchers ++ commonTools ++ ["date", "id", "dd", "yes"] ++ tools.map Prod.fst

/-- What a tool does that is called by a name. -/
def runTool (name tool : String) : Utility := fun arguments state =>
  let letters := (arguments.filter fun argument =>
    argument.length > 1 && argument.toList.head? == some '-').flatMap fun argument =>
      argument.toList.drop 1
  let unknown := (knownOptions.lookup tool).bind fun known =>
    letters.find? fun c => !known.toList.contains c && !(c.isDigit && tool != "dd")
  match unknown with
  | some c => (.advised name ("invalid option -- '" ++ String.singleton c ++ "'"), state)
  | none =>
    match (tools.lookup tool).orElse fun _ => ofName? tool with
    | some utility => utility arguments state
    | none => ({}, state)

end Builtin

end GridRules.Shell
