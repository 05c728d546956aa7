import GridRules.Shell.Builtin

/-!
# Redirections and programs

Before a command runs its descriptors are led where redirections say. A command that is neither a
function nor a utility of the shell names a program, which is looked for among the files.
-/

namespace GridRules.Shell

namespace State

/-! ### Redirections -/

/-- The descriptor that the name of a device stands for. -/
def deviceDescriptor? (name : String) : Option Nat :=
  match name with
  | "/dev/stdin" => some 0
  | "/dev/stdout" => some 1
  | "/dev/stderr" => some 2
  | name =>
    match name.splitOn "/dev/fd/" with
    | ["", number] => number.toNat?
    | _ => none

/-- The state in which a descriptor leads to a sink. -/
def lead (state : State) (descriptor : Nat) (sink : Sink) : State :=
  { state with
    descriptors := (descriptor, sink) :: state.descriptors.filter (·.1 ≠ descriptor) }

/-- The state in which a descriptor leads to a file that is made if it is not there. -/
def openFile (state : State) (descriptor : Nat) (name : String) (keeps : Bool) :
    Except String State :=
  let place := state.placeOfName name
  match (deviceDescriptor? name).bind fun number => state.descriptors.lookup number with
  | some sink => .ok (state.lead descriptor sink)
  | none =>
    if place == nullDevice then .ok (state.lead descriptor .nowhere)
    else if state.files.isDirectory place && name != "" then
      .error ("cannot create " ++ name ++ ": Is a directory")
    else if state.hasRoomFor name then
      let entry : Entry :=
        match state.files.find? place with
        | some (.file content executable) => .file (if keeps then content else []) executable
        | _ => .file [] false
      .ok ({ state with files := state.files.put place entry }.lead descriptor (.file place))
    else .error ("cannot create " ++ name ++ ": Directory nonexistent")

/-- The state after a redirection, or the message why there is none. -/
def redirect (evaluate : Evaluator) (state : State) (redirection : Redirection) :
    Except String State :=
  match redirection.target with
  | .here content =>
    let (text, state) := state.textOfWord evaluate content
    .ok { state with input := bytesOf text }
  | .input file =>
    let (name, state) := state.textOfWord evaluate file
    if deviceDescriptor? name == some 0 then .ok state
    else
      match state.content? name with
      | some bytes => .ok { state with input := bytes }
      | none => .error ("cannot open " ++ name ++ ": No such file")
  | .output file =>
    let (name, state) := state.textOfWord evaluate file
    state.openFile redirection.descriptor name false
  | .append file =>
    let (name, state) := state.textOfWord evaluate file
    state.openFile redirection.descriptor name true
  | .duplicate descriptor =>
    let (text, state) := state.textOfWord evaluate descriptor
    if text == "-" then
      .ok { state with
        descriptors := state.descriptors.filter (·.1 ≠ redirection.descriptor)
        input := if redirection.descriptor = 0 then [] else state.input }
    else
      match text.toNat?.bind fun number => state.descriptors.lookup number with
      | some sink => .ok (state.lead redirection.descriptor sink)
      | none =>
        if text == "0" && redirection.descriptor = 0 then .ok state
        else .error (text ++ ": Bad file descriptor")

/-- The state after some redirections. -/
def redirectAll (evaluate : Evaluator) (state : State) (redirections : List Redirection) :
    Except String State :=
  redirections.foldlM (fun state redirection => state.redirect evaluate redirection) state

/-- The state after a body under redirections, with the descriptors from before. -/
def restored (before after : State) (redirections : List Redirection) : State :=
  { after with
    descriptors := before.descriptors
    input := if redirections.any (·.descriptor == 0) then before.input else after.input }

/-! ### Programs -/

/-- What lies under the name of a program. -/
inductive Program where
  | found (place : Place)
  | denied
  | missing
deriving DecidableEq, Repr

/-- The program with a name: one with a stroke in it is a place, others are looked for in
directories. -/
def program (state : State) (name : String) : Program :=
  let names :=
    if name.contains '/' then [name]
    else (((state.value? "PATH").getD "").splitOn ":").map fun directory => directory ++ "/" ++ name
  names.foldl (fun program candidate =>
    match program with
    | .found place => .found place
    | program =>
      let place := state.placeOfName candidate
      match state.files.find? place with
      | some (.tool _) => .found place
      | some (.file _ true) => .found place
      | some (.file _ false) => .denied
      | some .directory => if name.contains '/' then .denied else program
      | _ => program) (if name.isEmpty then .denied else .missing)

/-- The state in which a program of its own starts. -/
def forProgram (state : State) (name : String) (parameters : List String) : State :=
  { name, parameters
    bindings := state.bindings.filter fun binding => binding.2.exported
    files := state.files
    directory := state.directory
    input := state.input
    descriptors := state.descriptors
    channels := state.channels
    clock := state.clock }

/-- What the arguments of a shell ask for: a script that is an argument, one in a file, or one that
is the input. -/
inductive ShellTask where
  | argument (script : String)
  | file (name : String)
  | input
  | refused (message : String)

/-- The letter of a switch with a long name. -/
def switchLetter? (name : String) : Option Char :=
  [("errexit", 'e'), ("nounset", 'u'), ("xtrace", 'x'), ("noglob", 'f'), ("verbose", 'v'),
    ("noexec", 'n'), ("allexport", 'a'), ("noclobber", 'C'), ("monitor", 'm')].lookup name

/-- Takes options off the front of some arguments. -/
def takeSwitches (switches : Switches) (asCommand : Bool) :
    List String → Except String (Switches × Bool × List String)
  | [] => .ok (switches, asCommand, [])
  | "--" :: rest => .ok (switches, asCommand, rest)
  | "-" :: rest => .ok (switches, asCommand, rest)
  | "-o" :: name :: rest =>
    match (switchLetter? name).bind fun letter => switches.turn letter true with
    | some switches => takeSwitches switches asCommand rest
    | none => .error ("Illegal option -o " ++ name)
  | "+o" :: name :: rest =>
    match (switchLetter? name).bind fun letter => switches.turn letter false with
    | some switches => takeSwitches switches asCommand rest
    | none => .error ("Illegal option +o " ++ name)
  | word :: rest =>
    match word.toList with
    | sign :: c :: letters =>
      if sign == '-' || sign == '+' then
        let isCommand := asCommand || sign == '-' && (c :: letters).contains 'c'
        let letters := (c :: letters).filter (· != 'c')
        match letters.find? fun letter => (switches.turn letter true).isNone with
        | some letter => .error ("Illegal option " ++ String.ofList [sign, letter])
        | none =>
          takeSwitches (letters.foldl (fun switches letter =>
            (switches.turn letter (sign == '-')).getD switches) switches) isCommand rest
      else .ok (switches, asCommand, word :: rest)
    | _ => .ok (switches, asCommand, word :: rest)

/-- What a shell does with its arguments: its task, its name, its parameters and its switches. -/
def shellTask (name : String) (arguments : List String) :
    ShellTask × String × List String × Switches :=
  match takeSwitches {} false arguments with
  | .error message => (.refused message, name, [], {})
  | .ok (switches, true, script :: own :: parameters) =>
    (.argument script, own, parameters, switches)
  | .ok (switches, true, [script]) => (.argument script, name, [], switches)
  | .ok (switches, true, []) => (.refused "-c requires an argument", name, [], switches)
  | .ok (switches, false, file :: parameters) => (.file file, file, parameters, switches)
  | .ok (switches, false, []) => (.input, name, [], switches)

/-- What a tool that starts another one asks for: whether the bindings from before are dropped, the
names without value, new bindings, and the words that name the other tool. -/
structure Launch where
  dropsBindings : Bool := false
  unset : List String := []
  given : List (String × String) := []
  words : List String := []

/-- Reads new bindings in front of the words that name the other tool. -/
def bindingsOf : List String → Launch
  | [] => {}
  | word :: rest =>
    let text := word.toList
    if text.contains '=' then
      let name := text.takeWhile (· != '=')
      let launch := bindingsOf rest
      { launch with
        given := (String.ofList name, String.ofList (text.drop (name.length + 1))) :: launch.given }
    else { words := word :: rest }

/-- Reads the arguments of such a tool; it is a fault if it has no such option. -/
def launchOf (tool : String) : List String → Except Char Launch
  | [] => .ok {}
  | "--" :: rest => .ok (if tool == "env" then bindingsOf rest else { words := rest })
  | word :: rest =>
    match word.toList with
    | ['-'] | ['-', 'i'] =>
      if tool == "env" then
        (launchOf tool rest).map fun launch => { launch with dropsBindings := true }
      else .error 'i'
    | ['-', 'u'] =>
      if tool == "env" then
        match rest with
        | name :: rest =>
          (launchOf tool rest).map fun launch => { launch with unset := name :: launch.unset }
        | [] => .ok {}
      else .error 'u'
    | ['-', 'n'] =>
      if tool == "nice" then
        match rest with
        | _ :: rest => launchOf tool rest
        | [] => .ok {}
      else .error 'n'
    | '-' :: c :: _ => .error c
    | _ =>
      if tool == "env" then .ok (bindingsOf (word :: rest))
      else if tool == "timeout" then .ok { words := rest }
      else .ok { words := word :: rest }

/-- The state in which the other tool starts. -/
def launched (state : State) (launch : Launch) : State :=
  let bindings := if launch.dropsBindings then [] else state.bindings
  let bindings := bindings.filter fun binding => !launch.unset.contains binding.1
  launch.given.foldl (fun state (name, value) => state.bind name { value, exported := true })
    { state with bindings }

/-- The interpreter that the first line of a file names, with its one argument. -/
def interpreter? (content : Bytes) : Option (String × List String) :=
  match content with
  | 35 :: 33 :: rest =>
    let line := textOf (rest.takeWhile (· != 10))
    let isBlank (c : Char) : Bool := c == ' ' || c == '\t'
    let text := line.toList.dropWhile isBlank
    let text := (text.reverse.dropWhile isBlank).reverse
    let name := text.takeWhile fun c => !isBlank c
    let argument := (text.drop name.length).dropWhile isBlank
    if name.isEmpty then none
    else some (String.ofList name, if argument.isEmpty then [] else [String.ofList argument])
  | _ => none

/-- What a shell says of an interpreter line that names no program, or of a file of which it is not
known how to run it. -/
inductive StartFault where
  | noInterpreter
  | unknownFormat
deriving DecidableEq, Repr

/-- The tool that a file runs on, the name under which it is called, and its arguments. Interpreters
may be files that name others. -/
def startOf : Nat → State → Place → String → List String →
    Except StartFault (String × String × List String)
  | 0, _, _, _, _ => .error .noInterpreter
  | fuel + 1, state, place, name, arguments =>
    match state.files.find? place with
    | some (.tool tool) => .ok (tool, name, arguments)
    | some (.file content true) =>
      match interpreter? content with
      | none => .error .unknownFormat
      | some (interpreter, own) =>
        startOf fuel state (state.placeOfName interpreter) interpreter (own ++ name :: arguments)
    | _ => .error .noInterpreter

/-- How many interpreters may be named after each other. -/
def interpreterLimit : Nat := 5

end State

end GridRules.Shell
