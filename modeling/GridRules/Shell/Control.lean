import GridRules.Shell.Starting

/-!
# What a script does next

A script may end, leave a loop, return from a function or be ended by a signal. The utilities here
ask for that, or change the parameters and settings of the script.
-/

namespace GridRules.Shell

/-! ### Signals -/

/-- The numbers of signals by name. -/
def signals : List (String × Nat) :=
  [("HUP", 1), ("INT", 2), ("QUIT", 3), ("ILL", 4), ("TRAP", 5), ("ABRT", 6), ("BUS", 7),
    ("FPE", 8), ("KILL", 9), ("USR1", 10), ("SEGV", 11), ("USR2", 12), ("PIPE", 13), ("ALRM", 14),
    ("TERM", 15), ("STKFLT", 16), ("CHLD", 17), ("CONT", 18), ("STOP", 19), ("TSTP", 20),
    ("TTIN", 21), ("TTOU", 22), ("URG", 23), ("XCPU", 24), ("XFSZ", 25), ("VTALRM", 26),
    ("PROF", 27), ("WINCH", 28), ("IO", 29), ("PWR", 30), ("SYS", 31)]

/-- The signals that end nothing by themselves. -/
def harmlessSignals : List Nat := [17, 18, 23, 28]

/-- What is said of a command that a signal has ended. A utility of the shell complains if its
output is lost. -/
def signalWords : List (Nat × String) :=
  [(1, "Hangup"), (3, "Quit"), (4, "Illegal instruction"), (5, "Trace/breakpoint trap"),
    (6, "Aborted"), (7, "Bus error"), (8, "Floating point exception"), (9, "Killed"),
    (10, "User defined signal 1"), (11, "Segmentation fault"), (12, "User defined signal 2"),
    (14, "Alarm clock"), (15, "Terminated"), (24, "CPU time limit exceeded"),
    (25, "File size limit exceeded"), (31, "Bad system call")]

/-- The number of a signal that is named or numbered. -/
def signal? (text : String) : Option Nat :=
  match text.toNat? with
  | some n => if n ≤ 64 then some n else none
  | none =>
    if text == "EXIT" then some 0
    else signals.lookup (String.ofList (text.toList.map Char.toUpper))

namespace State

/-- The state after a round of a loop, and whether there may be another one. -/
def afterRound (state : State) : Bool × State :=
  match state.ending with
  | none => (true, state)
  | some (.leave n) =>
    (false, { state with ending := if n ≤ 1 then none else some (.leave (n - 1)) })
  | some (.next n) =>
    if n ≤ 1 then (true, { state with ending := none })
    else (false, { state with ending := some (.next (n - 1)) })
  | some _ => (false, state)

/-- Repeats a round as long as it asks for another one, but not more often than given. -/
def repeatRounds (round : State → Bool × State) : Nat → State → State
  | 0, state => { state with ending := some .endless }
  | n + 1, state =>
    match round state with
    | (true, state) => repeatRounds round n state
    | (false, state) => state

/-- How many rounds a loop may have. -/
def roundLimit : Nat := 200000

/-- What remains of a state when something ran apart from the script. A signal ends both. -/
def rejoin (before after : State) : State :=
  { before with
    files := after.files
    channels := after.channels
    clock := after.clock
    input := after.input
    status := after.status
    ending :=
      match after.ending with
      | some (.signal n) => some (.signal n)
      | some .endless => some .endless
      | _ => none }

/-- What remains of a state when a program of its own ran. A signal ends that program only. -/
def resume (before after : State) : State :=
  let state := before.rejoin after
  match after.ending with
  | some (.signal n) =>
    let words := ((signalWords.lookup n).map (· ++ "\n")).getD ""
    { state.writeTo 2 (bytesOf words) with status := 128 + n, ending := none }
  | _ => state

/-- The state after a command whose failure ends the script if that is asked for. -/
def checked (state : State) : State :=
  if state.switches.endsOnFailure && !state.isTested && state.status ≠ 0 && state.ending.isNone then
    { state with ending := some .exit }
  else state

/-- The state after a body that decides what runs next. -/
def tested (state : State) (body : State → State) : State :=
  { body { state with isTested := true } with isTested := state.isTested }

/-- The state after a reply of a utility. Complaints are written at once, the output when the
utility has ended. A utility of the shell complains if its output is lost. -/
def answered (state : State) (reply : Reply) : State :=
  let isLost := !reply.output.isEmpty && (state.descriptors.lookup 1).isNone
  match state.speaker, isLost with
  | some speaker, true => (state.complain (speaker ++ ": I/O error")).withStatus 1
  | _, _ =>
    let state := reply.complaints.foldl complain state
    { (state.writeTo 1 reply.output).writeTo 2 reply.errors with status := reply.status }

/-! ### Utilities that change the script -/

/-- The number that an argument of such a utility writes. -/
def countArgument (arguments : List String) (default : Nat) : Except String Nat :=
  match arguments with
  | [] => .ok default
  | text :: _ =>
    match (if text.toList.all Char.isDigit then text.toNat? else none) with
    | some n => if n < Nat.pow 2 31 then .ok n else .error ("Illegal number: " ++ text)
    | none => .error ("Illegal number: " ++ text)

/-- Gives names values, and marks them. -/
def mark (change : Binding → Binding) (arguments : List String) (state : State) : State :=
  (arguments.filter fun argument => argument.toList.head? != some '-').foldl (fun state argument =>
    if state.ending.isSome then state
    else
      let name := argument.toList.takeWhile (· != '=')
      if !isName name then
        state.fail (argument.takeWhile (· != '=') |>.toString |> (· ++ ": bad variable name"))
      else
        let name := String.ofList name
        let state :=
          if argument.contains '=' then
            state.assign name (String.ofList (argument.toList.drop (name.length + 1)))
          else if (state.bindings.lookup name).isSome then state
          else state.bind name { value := "" }
        match state.bindings.lookup name with
        | some binding => if state.ending.isSome then state else state.bind name (change binding)
        | none => state) (state.withStatus 0)

/-- Sets switches and parameters. -/
def set (arguments : List String) (state : State) : State :=
  let replaces := arguments.contains "--" ||
    arguments.any fun argument =>
      !(["-", "+"].contains (String.ofList (argument.toList.take 1)))
  match takeSwitches state.switches false arguments with
  | .error message => state.fail message
  | .ok (switches, _, parameters) =>
    { state with
      switches
      parameters := if replaces then parameters else state.parameters
      status := 0 }

/-- Hides the values under names until the function under way returns. -/
def hide (arguments : List String) (state : State) : State :=
  if state.calls = 0 then state.fail "not in a function"
  else
    arguments.foldl (fun state argument =>
      let name := String.ofList (argument.toList.takeWhile (· != '='))
      let before := state.bindings.lookup name
      let state := { state with hidden := (name, before) :: state.hidden }
      if argument.contains '=' then
        state.assign name (String.ofList (argument.toList.drop (name.length + 1)))
      else if before.isSome then state
      else state) (state.withStatus 0)

/-- The state with hidden bindings put back. -/
def reveal (state : State) (hidden : List (String × Option Binding)) : State :=
  hidden.foldl (fun state (name, binding) =>
    match binding with
    | some binding => state.bind name binding
    | none => { state with bindings := state.bindings.filter (·.1 ≠ name) }) state

/-- Says what is to run when a signal comes or the script ends. -/
def trap (arguments : List String) (state : State) : State :=
  match arguments.filter (· != "--") with
  | [] => state.withStatus 0
  | action :: names =>
    let (action, names) := if names.isEmpty then ("-", [action]) else (action, names)
    names.foldl (fun state name =>
      match signal? name with
      | none =>
        (state.writeTo 2 (bytesOf ("trap: " ++ name ++ ": bad trap\n"))).withStatus 1
      | some number =>
        let others := state.traps.filter (·.1 ≠ toString number)
        { state with
          traps := if action == "-" then others else (toString number, action) :: others })
      (state.withStatus 0)

/-- The utilities that change the script, apart from those that run commands themselves. -/
def control? (name : String) : Option (List String → State → State) :=
  match name with
  | "exit" => some fun arguments state =>
    match countArgument arguments state.status with
    | .ok n => state.exit (n % 256)
    | .error message => state.fail message
  | "return" => some fun arguments state =>
    match countArgument arguments state.status with
    | .ok n =>
      if state.calls = 0 then state.exit (n % 256)
      else { state with status := n % 256, ending := some .back }
    | .error message => state.fail message
  | "break" => some fun arguments state =>
    match countArgument arguments 1 with
    | .ok 0 => state.fail "Illegal number: 0"
    | .ok n =>
      if state.loops = 0 then state.withStatus 0
      else { state with status := 0, ending := some (.leave (min n state.loops)) }
    | .error message => state.fail message
  | "continue" => some fun arguments state =>
    match countArgument arguments 1 with
    | .ok 0 => state.fail "Illegal number: 0"
    | .ok n =>
      if state.loops = 0 then state.withStatus 0
      else { state with status := 0, ending := some (.next (min n state.loops)) }
    | .error message => state.fail message
  | "shift" => some fun arguments state =>
    match countArgument arguments 1 with
    | .ok n =>
      if n > state.parameters.length then state.fail "can't shift that many"
      else { state with parameters := state.parameters.drop n, status := 0 }
    | .error message => state.fail message
  | "export" => some (mark fun binding => { binding with exported := true })
  | "readonly" => some (mark fun binding => { binding with fixed := true })
  | "unset" => some fun arguments state =>
    if arguments.head? == some "-f" then
      { state with
        functions := state.functions.filter fun entry => !(arguments.drop 1).contains entry.1
        status := 0 }
    else
      (arguments.filter (· != "-v")).foldl (fun state name =>
        if state.ending.isSome then state else state.unbind name) (state.withStatus 0)
  | "set" => some set
  | "local" => some hide
  | "trap" => some trap
  | "wait" => some fun arguments state =>
    match arguments with
    | [] => state.withStatus 0
    | arguments =>
      match countArgument arguments 0 with
      | .ok n => state.withStatus (if n = jobNumber then state.lastJob.getD 127 else 127)
      | .error message => (state.complain message).withStatus 2
  | _ => none

/-- The signal and the numbers of the processes that arguments name. -/
def killed (arguments : List String) : Except String (Nat × List String) :=
  let usage : String :=
    "Usage: kill [-s sigspec | -signum | -sigspec] [pid | job]... or\nkill -l [exitstatus]"
  let targets (signal : Nat) : List String → Except String (Nat × List String)
    | [] => .error usage
    | names => .ok (signal, names)
  match arguments with
  | "-s" :: name :: rest =>
    match signal? name with
    | some n => targets n rest
    | none => .error ("invalid signal number or name: " ++ name)
  | "--" :: rest => targets 15 rest
  | first :: rest =>
    match first.toList with
    | '-' :: c :: name =>
      match signal? (String.ofList (c :: name)) with
      | some n => targets n rest
      | none => .error ("Illegal option -" ++ String.singleton c)
    | _ => targets 15 (first :: rest)
  | [] => .error usage

end State

end GridRules.Shell
