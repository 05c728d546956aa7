import GridRules.Text.Classes

/-!
# Options of the command line

The arguments name a command with a pattern and options. Global options stand before the command and
those of the command behind it. A long option may be shortened as long as only one option begins
like that; its value follows as the next argument or behind an equals sign. The value of a short
option may also follow directly. After two dashes alone no argument is an option; as a value they
stand for none.
-/

namespace GridRules.CommandLine

/-- The ways to run a program that a command can name. -/
def runModes : List String := ["interpreter", "compiler"]

/-- The commands with their patterns and options. -/
inductive Action where
  | analyze (pattern : String)
  | generate (pattern : String) (output : Option String)
  | verify (pattern : String) (output mode : Option String)
deriving Repr, DecidableEq

/-- What the arguments ask for. -/
structure Options where
  config : Option String := none
  debug : Bool := false
  action : Action
deriving Repr, DecidableEq

/-- The reasons for which the arguments end a run. -/
inductive Stop where
  | usage
  | version
  | help
deriving Repr, DecidableEq

/-- The options. -/
inductive Flag where
  | help
  | config
  | debug
  | version
  | output
  | run
deriving Repr, DecidableEq

/-- Whether an option has a value. -/
def Flag.hasValue : Flag → Bool
  | .config | .output | .run => true
  | _ => false

/-- The names of options, as one command or the front of the command line knows them. -/
abbrev Names := List (String × Flag)

/-- The options before the command. -/
def globalNames : Names :=
  [("-h", .help), ("--help", .help), ("--config", .config), ("--debug", .debug),
    ("--version", .version)]

/-- The commands. -/
inductive Verb where
  | analyze
  | generate
  | verify
deriving Repr, DecidableEq

/-- The command with a name. -/
def Verb.ofName? : String → Option Verb
  | "analyze" => some .analyze
  | "generate" => some .generate
  | "verify" => some .verify
  | _ => none

/-- The options of a command. -/
def Verb.names : Verb → Names
  | .analyze => [("-h", .help), ("--help", .help)]
  | .generate => [("-h", .help), ("--help", .help), ("-o", .output), ("--output", .output)]
  | .verify => [("-h", .help), ("--help", .help), ("--output", .output), ("--run", .run)]

/-! ### Items -/

/-- An option as an argument writes it: the option, if it is a known one, whether its name is a
short one, and the value that the same argument holds. -/
structure Mention where
  flag : Option Flag
  short : Bool := false
  value : Option String := none
deriving Repr, DecidableEq

/-- An argument by its role. -/
inductive Item where
  | operand (text : String)
  | option (mention : Mention)
  | divider
deriving Repr, DecidableEq

/-- The text before the first equals sign and the one behind it. -/
def atEquals (text : List Char) : List Char × Option String :=
  match text.dropWhile (· != '=') with
  | _ :: value => (text.takeWhile (· != '='), some (String.ofList value))
  | [] => (text, none)

/-- Whether an argument is a number below zero, which is no option. -/
def isNegativeNumber (text : List Char) : Bool :=
  let text := if text.getLast? == some '\n' then text.dropLast else text
  match text with
  | '-' :: digits =>
    let whole := digits.takeWhile Text.isDigit
    match digits.drop whole.length with
    | [] => !whole.isEmpty
    | '.' :: places => !places.isEmpty && places.all Text.isDigit
    | _ => false
  | _ => false

/-- The options that an argument may shorten. -/
def shortened (names : Names) (argument : List Char) : List Mention :=
  match argument with
  | '-' :: '-' :: _ =>
    let (front, value) := atEquals argument
    (names.filter fun entry => front.isPrefixOf entry.1.toList).map fun entry =>
      { flag := some entry.2, value }
  | _ =>
    names.filterMap fun entry =>
      if entry.1.toList == argument.take 2 then
        some {
          flag := some entry.2, short := true, value := some (String.ofList (argument.drop 2)) }
      else if argument.isPrefixOf entry.1.toList then
        some { flag := some entry.2, short := true }
      else
        none

/-- The role of an argument before any divider; none if it shortens several options. -/
def role? (names : Names) (argument : String) : Option Item :=
  let chars := argument.toList
  let isShort (name : List Char) : Bool := !(name.take 2 == ['-', '-'])
  if chars.head? != some '-' then
    some (.operand argument)
  else
    match names.lookup argument with
    | some flag => some (.option { flag := some flag, short := isShort chars })
    | none =>
      if chars.length == 1 then
        some (.operand argument)
      else
        let (front, value) := atEquals chars
        match value, names.lookup (String.ofList front) with
        | some value, some flag =>
          some (.option { flag := some flag, short := isShort front, value := some value })
        | _, _ =>
          match shortened names chars with
          | [mention] => some (.option mention)
          | [] =>
            if isNegativeNumber chars || chars.contains ' ' then some (.operand argument)
            else some (.option { flag := none })
          | _ => none

/-- The roles of arguments. -/
def items? (names : Names) : List String → Option (List Item)
  | [] => some []
  | "--" :: rest => some (.divider :: rest.map .operand)
  | argument :: rest => do
    let item ← role? names argument
    let items ← items? names rest
    return item :: items

/-! ### Reading -/

/-- What was read of some items: the operand, the values of options, and whether there were
arguments that nothing takes. -/
structure Found where
  operand : Option String := none
  values : List (Flag × String) := []
  surplus : Bool := false
deriving Repr

/-- The value of an option; of several the last. -/
def Found.value? (found : Found) (flag : Flag) : Option String :=
  (found.values.reverse.find? (·.1 == flag)).map Prod.snd

/-- The argument behind which no argument is an option. -/
def divider : String := "--"

/-- Notes the value of an option; a divider leaves it empty. Other values of `--run` are fixed, and
where `--run` is known it excludes `--output`. -/
def Found.note (found : Found) (names : Names) (flag : Flag) (value : String) :
    Except Stop Found :=
  let other : Flag := if flag == .run then .output else .run
  if flag == .run && value != divider && !runModes.contains value then .error .usage
  else if names.any (·.2 == .run) && (found.value? other).isSome then .error .usage
  else .ok { found with values := found.values ++ [(flag, if value = divider then "" else value)] }

/-- How short options end a run that are gathered in one argument behind the request for help: an
unknown option and a missing value come before the help. -/
def gatheredStop (names : Names) (rest : List Item) : List Char → Stop
  | [] => .help
  | c :: more =>
    match names.lookup (String.ofList ['-', c]) with
    | none => .usage
    | some flag =>
      if flag.hasValue then
        match more, rest with
        | [], .operand _ :: _ => .help
        | [], _ => .usage
        | _, _ => .help
      else
        gatheredStop names rest more

/-- What an option without a value does. -/
def Flag.effect (flag : Flag) (found : Found) : Except Stop Found :=
  match flag with
  | .help => .error .help
  | .version => .error .version
  | flag => .ok { found with values := found.values ++ [(flag, "")] }

/-- Takes an option and, if it has a value of its own argument, that argument. -/
def takeOption (names : Names) (mention : Mention) (found : Found) (rest : List Item) :
    Except Stop (Found × List Item) :=
  match mention.flag with
  | none => .ok ({ found with surplus := true }, rest)
  | some flag =>
    if flag.hasValue then
      match mention.value, rest with
      | some value, rest => (found.note names flag value).map fun found => (found, rest)
      | none, .operand value :: rest =>
        (found.note names flag value).map fun found => (found, rest)
      | none, _ => .error .usage
    else
      match mention.value with
      | none => (flag.effect found).map fun found => (found, rest)
      | some value =>
        if mention.short && value != "" then .error (gatheredStop names rest value.toList)
        else .error .usage

theorem length_of_takeOption {names : Names} {mention : Mention} {found after : Found}
    {rest left : List Item} (h : takeOption names mention found rest = .ok (after, left)) :
    left.length ≤ rest.length := by
  have aux {x : Except Stop Found} {tail : List Item}
      (hx : x.map (fun found => (found, tail)) = .ok (after, left)) : left = tail := by
    cases x <;> simp [Except.map] at hx
    exact hx.2.symm
  unfold takeOption at h
  split at h
  · simp only [Except.ok.injEq, Prod.mk.injEq] at h
    simp [h.2]
  · split at h
    · split at h
      · simp [aux h]
      · simp [aux h]
      · simp at h
    · split at h
      · simp [aux h]
      · split at h <;> simp at h

/-- The operand at the front of items, with dividers around it, and what follows. Of the arguments
two dashes that it takes the first is left out. -/
def takeOperand? : List Item → Option (String × List Item)
  | .operand text :: .divider :: rest => some (text, rest)
  | .operand text :: rest => some (text, rest)
  | .divider :: .operand text :: rest => some (text, rest)
  | _ => none

theorem length_of_takeOperand? {items rest : List Item} {text : String}
    (h : takeOperand? items = some (text, rest)) : rest.length < items.length := by
  unfold takeOperand? at h
  split at h <;> simp at h
  all_goals
    obtain ⟨_, rfl⟩ := h
    simp only [List.length_cons]
    omega

/-- Reads the items behind a command. -/
def readItems (names : Names) (found : Found) (items : List Item) : Except Stop Found :=
  match items with
  | [] => .ok found
  | .option mention :: rest =>
    match h : takeOption names mention found rest with
    | .error stop => .error stop
    | .ok (found, left) =>
      have := length_of_takeOption h
      readItems names found left
  | item :: rest =>
    match h : if found.operand.isSome then none else takeOperand? (item :: rest) with
    | some (text, left) =>
      have : left.length < (item :: rest).length := by
        split at h
        · simp at h
        · exact length_of_takeOperand? h
      readItems names { found with operand := some text } left
    | none => readItems names { found with surplus := true } rest
termination_by items.length
decreasing_by all_goals grind

/-- The action of a command with its arguments. -/
def Verb.action (verb : Verb) (arguments : List String) : Except Stop (Action × Bool) :=
  match items? verb.names arguments with
  | none => .error .usage
  | some items =>
    match readItems verb.names {} items with
    | .error stop => .error stop
    | .ok found =>
      match found.operand with
      | none => .error .usage
      | some pattern =>
        let output := found.value? .output
        let action : Action :=
          match verb with
          | .analyze => .analyze pattern
          | .generate => .generate pattern output
          | .verify => .verify pattern output (found.value? .run)
        .ok (action, found.surplus)

/-- Reads the items at the front of the command line, up to the command. The arguments themselves
run along. -/
def readFront (found : Found) : List Item → List String → Except Stop (Found × List String)
  | .option mention :: .operand text :: rest, _ :: argument :: arguments =>
    match takeOption globalNames mention found [.operand text] with
    | .error stop => .error stop
    | .ok (found, []) => readFront found rest arguments
    | .ok (found, _) => .ok (found, argument :: arguments)
  | .option mention :: rest, _ :: arguments =>
    match takeOption globalNames mention found [] with
    | .error stop => .error stop
    | .ok (found, _) => readFront found rest arguments
  | .operand _ :: _, arguments => .ok (found, arguments)
  | _, _ => .error .usage

/-- What arguments ask for. -/
def Options.ofArguments (arguments : List String) : Except Stop Options := do
  match items? globalNames arguments with
  | none => throw .usage
  | some items =>
    let (found, rest) ← readFront {} items arguments
    match rest with
    | [] => throw .usage
    | name :: rest =>
      match Verb.ofName? name with
      | none => throw .usage
      | some verb =>
        let (action, surplus) ← verb.action rest
        if found.surplus || surplus then
          throw .usage
        else
          return {
            config := found.value? .config
            debug := (found.value? .debug).isSome
            action }

end GridRules.CommandLine
