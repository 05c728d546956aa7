import GridRules.Program.Reading
import GridRules.Program.Running

/-!
# Running program texts and evaluating expression texts

Nothing of a text is run or evaluated before all of it has been read, so a fault in the text comes
before every fault of a run.
-/

namespace GridRules.Program

/-- The reasons for which a text has no output or no value. -/
inductive Fault where
  | malformed (fault : SyntaxFault)
  | unfinished (fault : RunFault)
deriving DecidableEq, Repr

/-- What is reported of a text without output or value. -/
def Fault.failure : Fault → Failure
  | .malformed fault => fault.failure
  | .unfinished fault => fault.failure

/-- The output of a program text that may run at most `limit` loop bodies. -/
def interpret (source : String) (limit : Int := defaultLimit) : Except Fault String :=
  match ofText source with
  | .error fault => .error (.malformed fault)
  | .ok statements =>
    match output statements limit with
    | .error fault => .error (.unfinished fault)
    | .ok text => .ok text

/-- The variables that an expression sees at a cell of an area: the row, the column, the height and
the width. -/
def cellEnv (row col height width : Int) : Env :=
  [("r", row), ("c", col), ("H", height), ("W", width)]

/-- The value of an expression text at a cell of an area. -/
def evaluate (expression : String) (row col height width : Int) : Except Fault Int :=
  match Expr.ofText expression with
  | .error fault => .error (.malformed fault)
  | .ok expr =>
    match expr.eval (cellEnv row col height width) with
    | .error fault => .error (.unfinished (.evaluation fault))
    | .ok value => .ok value

end GridRules.Program
