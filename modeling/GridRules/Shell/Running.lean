import GridRules.Shell.Control

/-!
# Running scripts

Commands run as functions on states. What runs apart from the script, such as a command in brackets
or in a pipeline, leaves nothing behind but files, what it wrote, and its status. A command runs to
a given depth of commands within commands, and a loop for a given number of rounds; one that goes
beyond counts as endless.
-/

namespace GridRules.Shell

mutual

/-- The state after a command, run to some depth. -/
def Command.run : Nat → Command → State → State
  | 0, _, state => { state with ending := some .endless }
  | fuel + 1, command, state =>
    let evaluate : Evaluator := outputOf fuel
    match command with
    | .all commands =>
      commands.foldl (fun state command =>
        if state.ending.isSome then state else command.run fuel state) (state.withStatus
          (if commands.isEmpty then 0 else state.status))
    | .both first second =>
      let after := state.tested (first.run fuel)
      if after.ending.isSome || after.status ≠ 0 then after else second.run fuel after
    | .either first second =>
      let after := state.tested (first.run fuel)
      if after.ending.isSome || after.status = 0 then after else second.run fuel after
    | .negated body =>
      let after := state.tested (body.run fuel)
      if after.ending.isSome then after else after.withStatus (if after.status = 0 then 1 else 0)
    | .pipe first second =>
      let number := state.channels.length
      let middle := runApart fuel (first.run fuel)
        { state with
          channels := state.channels ++ [[]]
          descriptors := (state.lead 1 (.channel number)).descriptors }
      let piped := { state with
        files := middle.files, channels := middle.channels, clock := middle.clock
        ending := middle.ending, input := middle.collected number }
      let after := if piped.ending.isSome then piped else runApart fuel (second.run fuel) piped
      { after with
        descriptors := state.descriptors
        input := state.input
        channels := after.channels.take number }.checked
    | .background body =>
      let after := runApart fuel (body.run fuel) { state with input := [] }
      { after with input := state.input, lastJob := some after.status, status := 0 }
    | .subshell line body => (runApart fuel (body.run fuel) { state with line }).checked
    | .under line body redirections =>
      let state := { state with line }
      match state.redirectAll evaluate redirections with
      | .error message => ((state.complain message).withStatus 2).checked
      | .ok inner =>
        if inner.ending.isSome then inner
        else state.restored (body.run fuel inner) redirections
    | .choose condition holds otherwise =>
      let after := state.tested (condition.run fuel)
      if after.ending.isSome then after
      else if after.status = 0 then holds.run fuel after
      else otherwise.run fuel (after.withStatus 0)
    | .loop _ whileHolds condition body =>
      let round (state : State) : Bool × State :=
        let last := state.lastOutput
        let after := state.tested (condition.run fuel)
        if after.ending.isSome then after.afterRound
        else if (after.status == 0) != whileHolds then
          (false, after.withStatus last)
        else
          let after := body.run fuel after
          let (again, after) := after.afterRound
          (again, { after with lastOutput := after.status })
      let after := State.repeatRounds round State.roundLimit
        { state with loops := state.loops + 1, lastOutput := 0 }
      { after with loops := state.loops }
    | .forEach line name words body =>
      let (fields, state) := { state with line }.fieldsOf evaluate words
      let before := state
      let (_, after) := fields.foldl (fun (again, state) field =>
        if !again || state.ending.isSome then (again, state)
        else (body.run fuel (state.assign name field)).afterRound)
        (true, { state with loops := state.loops + 1, status := 0 })
      { after with loops := before.loops }
    | .select line word clauses =>
      let (text, state) := { state with line }.textOfWord evaluate word
      let (_, after) := clauses.foldl (fun (found, state) (patterns, body) =>
        if found || state.ending.isSome then (found, state)
        else
          let (isMatch, state) := patterns.foldl (fun (isMatch, state) pattern =>
            if isMatch then (isMatch, state)
            else state.matchesWord evaluate pattern text) (false, state)
          if isMatch then (true, body.run fuel state) else (false, state))
        (false, state.withStatus 0)
      after
    | .define name body =>
      { state with
        functions := (name, body) :: state.functions.filter (·.1 ≠ name)
        status := 0 }
    | .simple line assignments words redirections =>
      let (fields, state) := { state with line, lastOutput := 0 }.fieldsOf evaluate words
      if state.ending.isSome then state
      else
        let isSpecial := (fields.head?.map specialNames.contains).getD false
        match state.redirectAll evaluate redirections with
        | .error message =>
          if isSpecial then (state.complain message).exit 2
          else ((state.complain message).withStatus 2).checked
        | .ok inner =>
          let keeps := fields.isEmpty || isSpecial
          let (given, inner) := assignments.foldl (fun (given, state) (name, value) =>
            if state.ending.isSome then (given, state)
            else
              let (text, state) := state.textOfWord evaluate value
              let before := state.bindings.lookup name
              let state := if state.ending.isSome then state else state.assign name text
              let state :=
                if keeps || state.ending.isSome then state
                else state.bind name { value := text, exported := true }
              (given ++ [(name, text, before)], state))
            (([] : List (String × String × Option Binding)), inner)
          if inner.ending.isSome then inner
          else
            let shown := given.map (fun (name, text, _) => name ++ "=" ++ text) ++ fields
            let inner :=
              if inner.switches.showsCommands then
                inner.writeTo 2 (bytesOf ("+ " ++ " ".intercalate shown ++ "\n"))
              else inner
            let after :=
              if fields.isEmpty then inner.withStatus inner.lastOutput
              else runWords fuel fields inner
            let after :=
              if keeps then after
              else after.reveal (given.map fun (name, _, before) => (name, before)).reverse
            if fields == ["exec"] then after.checked
            else (state.restored after redirections).checked

/-- The output of a script that runs apart, without the line ends behind it. -/
def outputOf : Nat → List Char → State → List Char × State
  | 0, _, state => ([], { state with ending := some .endless })
  | fuel + 1, script, state =>
    let number := state.channels.length
    let lexemes := lexemesFrom [] [] state.line (script.length + 2) script
    let after := runApart fuel (runLexemes fuel lexemes)
      { state with
        channels := state.channels ++ [[]]
        descriptors := (state.lead 1 (.channel number)).descriptors
        isTested := false }
    let text := (textOf (after.collected number)).toList
    ((text.reverse.dropWhile (· == '\n')).reverse,
      { state with
        files := after.files, channels := after.channels.take number, clock := after.clock
        input := after.input, ending := after.ending, lastOutput := after.status })

/-- The state after a body that runs apart from the script, with what is to run at its end. -/
def runApart : Nat → (State → State) → State → State
  | 0, _, state => { state with ending := some .endless }
  | fuel + 1, body, state =>
    state.rejoin (finish fuel (body
      { state with traps := state.traps.filter fun trap => trap.2.isEmpty, loops := 0 }))

/-- The state after what is to run at the end of a script. -/
def finish : Nat → State → State
  | 0, state => { state with ending := some .endless }
  | fuel + 1, state =>
    match state.ending, state.traps.lookup "0" with
    | some (.signal _), _ | some .endless, _ | _, none => state
    | _, some action =>
      let after := runLexemes fuel (lexemes action.toList)
        { state with ending := none, traps := state.traps.filter (·.1 ≠ "0") }
      if after.ending == some .exit then after else after.withStatus state.status

/-- The state after the lines of a script. A line that cannot be read ends it. -/
def runLexemes : Nat → List Lexeme → State → State
  | 0, _, state => { state with ending := some .endless }
  | fuel + 1, lexemes, state =>
    match lexemes with
    | [] => state
    | [⟨.finish, _⟩] => state
    | lexemes =>
      match readLine lexemes with
      | .error fault => { state with line := fault.line }.fail fault.message
      | .ok (command, rest) =>
        let state :=
          match command with
          | .all [] => state
          | command => command.run fuel state
        if state.ending.isSome then state else runLexemes fuel rest state

/-- The state after the command that some words name. -/
def runWords : Nat → List String → State → State
  | 0, _, state => { state with ending := some .endless }
  | _, [], state => state
  | fuel + 1, name :: arguments, state =>
    let speaking (body : State → State) : State :=
      { body { state with speaker := some name } with speaker := state.speaker }
    match (if specialNames.contains name then none else state.functions.lookup name) with
    | some body =>
      let after := body.run fuel
        { state with
          parameters := arguments, calls := state.calls + 1, loops := 0, hidden := [] }
      { after.reveal after.hidden with
        parameters := state.parameters, calls := state.calls, loops := state.loops
        hidden := state.hidden
        ending := if after.ending == some .back then none else after.ending }
    | none =>
      match name with
      | "eval" =>
        if arguments.isEmpty then state.withStatus 0
        else speaking (runLexemes fuel (lexemes (" ".intercalate arguments).toList))
      | "." =>
        match arguments with
        | [] => state.withStatus 0
        | file :: _ =>
          match state.content? file with
          | some content =>
            speaking (runLexemes fuel (lexemes (textOf content).toList))
          | none => speaking fun state => state.fail ("cannot open " ++ file ++ ": No such file")
      | "exec" =>
        match arguments with
        | [] => state.withStatus 0
        | arguments =>
          let after := speaking (startProgram true fuel arguments)
          { after with ending := after.ending.orElse fun _ => some .exit }
      | "command" =>
        match arguments with
        | [] => state.withStatus 0
        | "-v" :: names =>
          match names with
          | [] => state.withStatus 0
          | name :: _ =>
            match Builtin.describe state name with
            | some (shown, _) => (state.writeTo 1 (bytesOf (shown ++ "\n"))).withStatus 0
            | none => state.withStatus 127
        | arguments => runWords fuel arguments { state with functions := [] } |>
          fun after => { after with functions := state.functions }
      | "kill" =>
        match State.killed arguments with
        | .error message => speaking fun state => (state.complain message).withStatus 2
        | .ok (signal, targets) =>
          targets.foldl (fun state target =>
            if state.ending.isSome then state
            else if target == toString State.processNumber then
              match state.traps.lookup (toString signal) with
              | some action =>
                if signal = 0 then state.withStatus 0
                else if signal = 9 then { state with ending := some (.signal signal) }
                else
                  let after := runLexemes fuel (lexemes action.toList) state
                  if after.ending.isSome then after else after.withStatus 0
              | none =>
                if signal = 0 || harmlessSignals.contains signal then state.withStatus 0
                else { state with ending := some (.signal signal) }
            else
              let message :=
                if (if target.toList.all Char.isDigit then target.toNat? else none).isSome then
                  "No such process\n"
                else "Illegal number: " ++ target
              { { state with speaker := some "kill" }.complain message with
                speaker := state.speaker
                status := if message == "No such process\n" then 1 else 2 }) (state.withStatus 0)
      | _ =>
        match State.control? name with
        | some control => speaking (control arguments)
        | none =>
          match Builtin.ofName? name with
          | some utility =>
            speaking fun state =>
              let (reply, state) := utility arguments state
              state.answered reply
          | none => startProgram false fuel (name :: arguments) state

/-- The state after a program that some words name; one that replaces the script passes on a signal
that ends it. -/
def startProgram (replaces : Bool) : Nat → List String → State → State
  | 0, _, state => { state with ending := some .endless }
  | _, [], state => state
  | fuel + 1, name :: arguments, state =>
    let joined (after : State) : State :=
      if replaces then state.rejoin after else state.resume after
    match state.program name with
    | .missing => (state.complain (name ++ ": not found")).withStatus 127
    | .denied =>
      (state.complain (name ++ ": Permission denied")).withStatus
        (if name.isEmpty then 127 else 126)
    | .found place =>
      match State.startOf State.interpreterLimit state place name arguments with
      | .ok (tool, called, arguments) => joined (runProgram fuel tool called arguments state)
      | .error .noInterpreter => (state.complain (name ++ ": not found")).withStatus 127
      | .error .unknownFormat => joined (runProgram fuel "sh" name (name :: arguments) state)

/-- The state in which a tool ends that is called by a name. -/
def runProgram : Nat → String → String → List String → State → State
  | 0, _, _, _, state => { state with ending := some .endless }
  | fuel + 1, tool, name, arguments, state =>
    if Builtin.shells.contains tool then
      let (task, own, parameters, switches) := State.shellTask name arguments
      let start := { state.forProgram own parameters with switches }
      let refused (message : String) : State :=
        ({ start with name, line := 0 }.complain message).exit 2
      finish fuel
        (match task with
          | .argument script => runLexemes fuel (lexemes script.toList) start
          | .input =>
            runLexemes fuel (lexemes (textOf state.input).toList) { start with input := [] }
          | .file file =>
            match state.content? file with
            | some content => runLexemes fuel (lexemes (textOf content).toList) start
            | none => refused ("cannot open " ++ file ++ ": No such file")
          | .refused message => refused message)
    else if Builtin.launchers.contains tool then
      match State.launchOf tool arguments with
      | .error c =>
        let reply := Reply.advised name ("invalid option -- '" ++ String.singleton c ++ "'") 125
        state.answered reply
      | .ok launch =>
        let inner := state.launched launch
        match launch.words with
        | [] =>
          let rows := inner.bindings.filterMap fun (name, binding) =>
            if binding.exported then some (name ++ "=" ++ binding.value ++ "\n") else none
          (state.writeTo 1 (bytesOf (String.join rows))).withStatus 0
        | word :: words =>
          match state.program word with
          | .found place =>
            match State.startOf State.interpreterLimit inner place word words with
            | .ok (tool, called, words) => runProgram fuel tool called words inner
            | .error _ => runProgram fuel "sh" word (word :: words) inner
          | other =>
            let (reason, status) :=
              if other = .denied then ("Permission denied", 126)
              else ("No such file or directory", 127)
            (state.writeTo 2
              (bytesOf (name ++ ": '" ++ word ++ "': " ++ reason ++ "\n"))).withStatus status
    else
      let (reply, state) := Builtin.runTool name tool arguments state
      state.answered reply

end

/-! ### Programs from outside -/

/-- How deep commands may lie within commands. -/
def depthLimit : Nat := 2000

/-- What remains of a program that has ended. One that a signal ended has the negated number of the
signal as its status; one that never ends has none. -/
structure Result where
  status : Option Int
  output : Bytes
  errors : Bytes
  files : Files
  clock : Nat
deriving Repr, Inhabited

/-- The result of the state in which a program has ended. -/
def State.result (state : State) : Result where
  status :=
    match state.ending with
    | some .endless => none
    | some (.signal n) => some (-(n : Int))
    | _ => some state.status
  output := state.collected 0
  errors := state.collected 1
  files := state.files
  clock := state.clock

/-- The directories in which tools lie. -/
def toolDirectories : List Place := [["usr", "bin"], ["bin"]]

/-- The directories of a system with nothing but its tools. -/
def standardDirectories : List Place :=
  [["usr"], ["usr", "bin"], ["bin"], ["tmp"], ["tmp", "work"], ["dev"], ["etc"], ["work"]]

/-- The files of a system with nothing but its tools. -/
def standardFiles : Files :=
  standardDirectories.map (fun place => (place, .directory)) ++
    toolDirectories.flatMap fun directory =>
      Builtin.toolNames.map fun name => (directory ++ [name], .tool name)

/-- Executes the program at a place under a name and with arguments; none if it cannot be
executed. -/
def execute? (files : Files) (place : Place) (name : String) (arguments : List String) :
    Option Result :=
  let path := ":".intercalate (toolDirectories.map nameOf)
  let state : State :=
    { files, directory := ["work"], bindings := [("PATH", { value := path, exported := true })] }
  match files.find? place with
  | some (.tool _) | some (.file _ true) =>
    match State.startOf State.interpreterLimit state place name arguments with
    | .ok (tool, called, arguments) =>
      some (runProgram depthLimit tool called arguments state).result
    | .error _ => none
  | _ => none

end GridRules.Shell
