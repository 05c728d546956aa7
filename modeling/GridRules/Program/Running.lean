import GridRules.Program.Expr
import GridRules.Text.WholeNumber

/-!
# Running a program

Running a program changes the values of its variables and appends to what it has printed. Every run
of a loop body is paid from a budget, which bounds the length of the run whatever the program does
to its counters.
-/

namespace GridRules.Program

/-- The state of a running program: its variables, what it has printed with the last character
first, and the number of loop bodies that may still be run. -/
structure State where
  env : Env := []
  printed : List Char := []
  budget : Nat
deriving Repr, Inhabited

/-- How the run of a statement ends. -/
inductive Outcome where
  | done (state : State)
  | exited (status : Int) (state : State)
  | failed (fault : EvalFault)
  | exhausted
deriving Repr, Inhabited

/-- Goes on with a further run if a run is done. -/
def Outcome.andThen (outcome : Outcome) (next : State → Outcome) : Outcome :=
  match outcome with
  | .done state => next state
  | other => other

namespace State

/-- Evaluates an expression and goes on with its value. -/
def withValue (state : State) (expr : Expr) (next : Int → Outcome) : Outcome :=
  match expr.eval state.env with
  | .error fault => .failed fault
  | .ok value => next value

/-- The state after an assignment. -/
def assign (state : State) (name : String) (value : Int) : State :=
  { state with env := state.env.set name value }

/-- The state after one has been added to a variable. -/
def increment (state : State) (name : String) : State :=
  match state.env.get? name with
  | some value => state.assign name (value + 1)
  | none => state

/-- The state after printing. -/
def print (state : State) (glyphs : List Char) : State :=
  { state with printed := glyphs.reverse ++ state.printed }

end State

/-- Runs a body while a condition holds, at most `rounds` times. A round that would begin with an
empty budget ends the run. -/
def iterate (condition : Expr) (counter : String) (body : State → Outcome) :
    Nat → State → Outcome
  | rounds, state =>
    match condition.eval state.env with
    | .error fault => .failed fault
    | .ok value =>
      if value = 0 then
        .done state
      else
        match rounds, state.budget with
        | rounds + 1, budget + 1 =>
          match body { state with budget } with
          | .done after => iterate condition counter body rounds (after.increment counter)
          | other => other
        | _, _ => .exhausted

mutual

/-- Runs one statement. -/
def Statement.run : Statement → State → Outcome
  | .declare name value, state =>
    state.withValue value fun value => .done (state.assign name value)
  | .loop counter start condition body, state =>
    state.withValue start fun value =>
      iterate condition counter (runAll body) state.budget (state.assign counter value)
  | .choose branches otherwise, state =>
    runFirst branches (runAll otherwise) state
  | .print glyphs, state => .done (state.print glyphs)
  | .exit status, state => state.withValue status fun value => .exited value state

/-- Runs statements one after the other. -/
def runAll : List Statement → State → Outcome
  | [], state => .done state
  | statement :: rest, state => (statement.run state).andThen (runAll rest)

/-- Runs the first branch whose condition holds, or else `otherwise`. -/
def runFirst : List (Expr × List Statement) → (State → Outcome) → State → Outcome
  | [], otherwise, state => otherwise state
  | (condition, body) :: rest, otherwise, state =>
    state.withValue condition fun value =>
      if value = 0 then runFirst rest otherwise state else runAll body state

end

/-- The reasons for which the run of a program has no output. -/
inductive RunFault where
  | evaluation (fault : EvalFault)
  | stepLimit (limit : Int)
  | nonzeroExit (status : Int)
deriving DecidableEq, Repr

/-- What is reported of a run without output. A limit or a status may have too many digits for its
text. -/
def RunFault.failure : RunFault → Failure
  | .evaluation fault => fault.failure
  | .stepLimit limit =>
    match Text.wholeNumberText? limit with
    | none => .plain .badValue
    | some text =>
      { category := .execution, code := "STEP_LIMIT_EXCEEDED",
        message := "Program exceeded " ++ text ++ " loop iterations" }
  | .nonzeroExit status =>
    match Text.wholeNumberText? status with
    | none => .plain .badValue
    | some text =>
      { category := .execution, code := "NONZERO_EXIT",
        message := "Program exited with status " ++ text,
        details := [(.text "exit_code", .int status)] }

/-- The default bound on the number of loop bodies that a program may run. -/
def defaultLimit : Int := 5000000

/-- What an outcome of a whole program means for its output. -/
def Outcome.output (limit : Int) : Outcome → Except RunFault String
  | .done state => .ok (String.ofList state.printed.reverse)
  | .exited status state =>
    if status = 0 then .ok (String.ofList state.printed.reverse) else .error (.nonzeroExit status)
  | .failed fault => .error (.evaluation fault)
  | .exhausted => .error (.stepLimit limit)

/-- The output of a program that may run at most `limit` loop bodies. -/
def output (statements : List Statement) (limit : Int := defaultLimit) :
    Except RunFault String :=
  (runAll statements { budget := limit.toNat }).output limit

end GridRules.Program
