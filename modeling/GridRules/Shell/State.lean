import GridRules.Shell.Command
import GridRules.Shell.Files

/-!
# The state of a running script

A running script sees files, parameters and settings, and writes to descriptors. A descriptor leads
to a channel, which collects what is written to it, or to a file.
-/

namespace GridRules.Shell

/-- Where the output of a command goes. Channel 0 is the standard output, channel 1 the one for
messages; further channels are pipes. -/
inductive Sink where
  | channel (number : Nat)
  | file (place : Place)
  | nowhere
deriving Repr, Inhabited, DecidableEq

/-- The sinks of the open descriptors. -/
abbrev Descriptors := List (Nat × Sink)

/-- The reasons for which the commands behind the present one do not run. Leaving a loop, going on
with its next round and returning from a function end only what they name. -/
inductive Ending where
  | leave (loops : Nat)
  | next (loops : Nat)
  | back
  | exit
  | signal (number : Nat)
  | endless
deriving Repr, Inhabited, DecidableEq

/-- A named value, with whether other programs see it and whether it may change. -/
structure Binding where
  value : String
  exported : Bool := false
  fixed : Bool := false
deriving Repr, Inhabited, DecidableEq

/-- The switches of a script: to end at the first failure, to refuse parameters without value, and
to show the commands that run. -/
structure Switches where
  endsOnFailure : Bool := false
  refusesUnset : Bool := false
  showsCommands : Bool := false
deriving Repr, Inhabited, DecidableEq

/-- The switches with one more turned on or off; none if there is no such switch. -/
def Switches.turn (switches : Switches) (letter : Char) (on : Bool) : Option Switches :=
  match letter with
  | 'e' => some { switches with endsOnFailure := on }
  | 'u' => some { switches with refusesUnset := on }
  | 'x' => some { switches with showsCommands := on }
  | c => if "abCfhimnsvVE".toList.contains c then some switches else none

/-- The state of a script. A channel holds what was written to it in pieces, the latest first. The
`clock` counts milliseconds of sleep. The `speaker` is the utility in whose name messages are
written. A command is tested if it decides what runs next, so that its failure ends nothing. The
`calls` and `loops` are those under way, the `hidden` bindings those from outside the function under
way. The statuses are those of the last command, of the last script whose output was meant, and of
the last command that was not waited for. -/
structure State where
  name : String := "sh"
  parameters : List String := []
  bindings : List (String × Binding) := []
  functions : List (String × Command) := []
  traps : List (String × String) := []
  switches : Switches := {}
  files : Files := []
  directory : Place := []
  input : Bytes := []
  descriptors : Descriptors := [(1, .channel 0), (2, .channel 1)]
  channels : List (List Bytes) := [[], []]
  clock : Nat := 0
  line : Nat := 1
  speaker : Option String := none
  isTested : Bool := false
  calls : Nat := 0
  loops : Nat := 0
  status : Nat := 0
  lastOutput : Nat := 0
  lastJob : Option Nat := none
  hidden : List (String × Option Binding) := []
  ending : Option Ending := none
deriving Inhabited

namespace State

/-! ### Writing -/

/-- The state after bytes were written to a sink. -/
def write (state : State) (sink : Sink) (bytes : Bytes) : State :=
  match sink with
  | .channel number =>
    { state with channels := state.channels.modify number (bytes :: ·) }
  | .file place =>
    match state.files.find? place with
    | some (.file content executable) =>
      { state with files := state.files.put place (.file (content ++ bytes) executable) }
    | _ => state
  | .nowhere => state

/-- The state after bytes were written to a descriptor; what is written to one that is not open is
lost. -/
def writeTo (state : State) (number : Nat) (bytes : Bytes) : State :=
  if bytes.isEmpty then state
  else
    match state.descriptors.lookup number with
    | some sink => state.write sink bytes
    | none => state

/-- What a channel has collected. -/
def collected (state : State) (number : Nat) : Bytes :=
  (state.channels[number]?.getD []).reverse.flatten

/-- The state after a message about what went wrong. -/
def complain (state : State) (text : String) : State :=
  let speaker := (state.speaker.map (· ++ ": ")).getD ""
  state.writeTo 2
    (bytesOf (state.name ++ ": " ++ toString state.line ++ ": " ++ speaker ++ text ++ "\n"))

/-- The state with a status. -/
def withStatus (state : State) (status : Nat) : State :=
  { state with status }

/-- The state in which the script ends with a status. -/
def exit (state : State) (status : Nat) : State :=
  { state with status, ending := some .exit }

/-- The state in which the script ends with a message. -/
def fail (state : State) (text : String) : State :=
  (state.complain text).exit 2

/-! ### Named values -/

/-- The value under a name. -/
def value? (state : State) (name : String) : Option String :=
  (state.bindings.lookup name).map Binding.value

/-- Bindings with one of them replaced, or added at the end. -/
def putBinding (name : String) (binding : Binding) :
    List (String × Binding) → List (String × Binding)
  | [] => [(name, binding)]
  | other :: rest =>
    if other.1 = name then (name, binding) :: rest else other :: putBinding name binding rest

/-- The state with a binding. -/
def bind (state : State) (name : String) (binding : Binding) : State :=
  { state with bindings := putBinding name binding state.bindings }

/-- The state with a value under a name; it is a fault if that may not change. -/
def assign (state : State) (name value : String) : State :=
  let binding := (state.bindings.lookup name).getD { value }
  if binding.fixed then state.fail (name ++ ": is read only")
  else state.bind name { binding with value }

/-- The state without the value under a name. -/
def unbind (state : State) (name : String) : State :=
  match state.bindings.lookup name with
  | some { fixed := true, .. } => state.fail (name ++ ": is read only")
  | _ => { state with bindings := state.bindings.filter (·.1 ≠ name) }

/-- The number by which a script refers to itself. -/
def processNumber : Nat := 4242

/-- The number by which a script refers to the last command that it did not wait for. -/
def jobNumber : Nat := 4243

/-- The letters of the switches that are on. -/
def switchLetters (state : State) : String :=
  String.ofList
    ((if state.switches.endsOnFailure then ['e'] else [])
      ++ (if state.switches.refusesUnset then ['u'] else [])
      ++ (if state.switches.showsCommands then ['x'] else []))

/-- The value of a parameter or under a name; none if it is not set. -/
def parameter? (state : State) (name : String) : Option String :=
  match name with
  | "?" => some (toString state.status)
  | "#" => some (toString state.parameters.length)
  | "$" => some (toString processNumber)
  | "!" => state.lastJob.map fun _ => toString jobNumber
  | "-" => some state.switchLetters
  | "0" => some state.name
  | name =>
    match name.toNat? with
    | some n => state.parameters[n - 1]?
    | none => state.value? name

/-- The characters that separate fields. -/
def separators (state : State) : List Char :=
  ((state.value? "IFS").getD " \t\n").toList

end State

end GridRules.Shell
