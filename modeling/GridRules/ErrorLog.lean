import GridRules.Failure

/-!
# Error logs

An error log counts failures by the names of their categories, keeps the latest of them as
incidents, and holds at most one recovery strategy for each category. A guarded call turns a failure
into the value that the strategy for exactly its category gives; if there is none, the failure is
passed on or gives way to a fallback value. Where something has to be shown and cannot be, what that
ends in takes the place of the failure.
-/

namespace GridRules

/-- A failure that was raised, with the text that it is shown as. A failure that cannot be shown
ends in another one where its text is asked for. -/
inductive Raised where
  | shown (failure : Failure) (text : String)
  | textless (failure : Failure) (reason : Raised)
deriving Repr, Inhabited

namespace Raised

/-- What was raised. -/
def failure : Raised → Failure
  | .shown failure _ => failure
  | .textless failure _ => failure

/-- What comes of showing what was raised. -/
def text : Raised → Except Raised String
  | .shown _ text => .ok text
  | .textless _ reason => .error reason

end Raised

/-- What is known of the place where a failure arose, under names. -/
abbrev Surroundings := List (String × Value)

/-- An entry of the history of failures. The function is the name under which the failure arose, or
whatever else stands for it. -/
structure Incident where
  function : Value
  name : String
  code : Option String
  message : String
deriving Repr, Inhabited

/-- A recovery strategy sees what was raised and where. It gives a value, the null value if it has
none, or raises a failure itself. -/
abbrev Strategy := Raised → Surroundings → Except Raised Value

/-- A log of failures. -/
structure ErrorLog where
  counts : List (String × Nat) := []
  history : List Incident := []
  capacity : Int := 1000
  strategies : List (Category × Strategy) := []

namespace ErrorLog

/-- The number of failures of a name since it was last reset. -/
def count (log : ErrorLog) (name : String) : Nat :=
  (log.counts.lookup name).getD 0

/-- Counts with the number of one name replaced, or added at the end. -/
def setCount (name : String) (n : Nat) : List (String × Nat) → List (String × Nat)
  | [] => [(name, n)]
  | entry :: rest =>
    if entry.1 = name then (name, n) :: rest else entry :: setCount name n rest

/-- The log with a strategy in place of an earlier one for the same category. -/
def register (log : ErrorLog) (category : Category) (strategy : Strategy) : ErrorLog :=
  { log with strategies := (category, strategy) :: log.strategies }

/-- The incident of a failure. Where no function is given its category stands for it. -/
def incident (failure : Failure) (text : String) (surroundings : Surroundings) : Incident where
  function := (surroundings.lookup "function").getD (.text failure.category.name)
  name := failure.category.name
  code := failure.code
  message := text

/-- The log with one more failure counted. -/
def tally (log : ErrorLog) (failure : Failure) : ErrorLog :=
  { log with
    counts := setCount failure.category.name (log.count failure.category.name + 1) log.counts }

/-- The log with one more incident. If the history grows beyond the capacity, its oldest incident is
dropped. -/
def note (log : ErrorLog) (incident : Incident) : ErrorLog :=
  let history := log.history ++ [incident]
  { log with history := if log.capacity < history.length then history.drop 1 else history }

/-- The log after one more failure with a text. -/
def record (log : ErrorLog) (failure : Failure) (text : String) (surroundings : Surroundings) :
    ErrorLog :=
  (log.tally failure).note (incident failure text surroundings)

/-- The value that the strategy for a failure's category gives, if it gives one. The failure of a
strategy is shown, and left at that. -/
def recovery? (log : ErrorLog) (raised : Raised) (surroundings : Surroundings) :
    Except Raised (Option Value) :=
  match log.strategies.lookup raised.failure.category with
  | none => .ok none
  | some strategy =>
    match strategy raised surroundings with
    | .error other => other.text.map fun _ => none
    | .ok .null => .ok none
    | .ok value => .ok (some value)

/-- Counts a failure, notes it and recovers from it. A failure that cannot be shown is counted, but
neither noted nor recovered from. -/
def handle (log : ErrorLog) (raised : Raised) (surroundings : Surroundings) :
    ErrorLog × Except Raised (Option Value) :=
  match raised.text with
  | .error reason => (log.tally raised.failure, .error reason)
  | .ok text =>
    let log := log.record raised.failure text surroundings
    (log, log.recovery? raised surroundings)

/-- The texts of the arguments of a call. -/
structure ArgumentTexts where
  inOrder : String
  byName : String
deriving Repr, Inhabited

/-- The first hundred characters of a text. -/
def excerpt (text : String) : String :=
  String.ofList (text.toList.take 100)

/-- What is known of a call under a name. -/
def surroundings (name : String) (arguments : ArgumentTexts) : Surroundings :=
  [("function", .text name), ("args", .text (excerpt arguments.inOrder)),
    ("kwargs", .text (excerpt arguments.byName))]

/-- The outcome of a call under a name. The arguments of a call that fails are shown first. -/
def guard (log : ErrorLog) (name : String) (arguments : Except Raised ArgumentTexts)
    (call : Except Raised Value) (fallback : Value) (passOn : Bool) :
    ErrorLog × Except Raised Value :=
  match call, arguments with
  | .ok value, _ => (log, .ok value)
  | .error _, .error reason => (log, .error reason)
  | .error raised, .ok arguments =>
    match log.handle raised (surroundings name arguments) with
    | (log, .error reason) => (log, .error reason)
    | (log, .ok (some value)) => (log, .ok value)
    | (log, .ok none) => (log, if passOn then .error raised else .ok fallback)

/-- The log with the count of a name set to zero, if it has one. -/
def reset (log : ErrorLog) (name : String) : ErrorLog :=
  match log.counts.lookup name with
  | none => log
  | some _ => { log with counts := setCount name 0 log.counts }

/-- The latest `limit` incidents; all of them for the limit zero, and all but the oldest `-limit`
for a limit below zero. -/
def latest (log : ErrorLog) (limit : Int := 100) : List Incident :=
  if limit ≤ 0 then log.history.drop (-limit).toNat
  else log.history.drop (log.history.length - limit.toNat)

end ErrorLog

end GridRules
