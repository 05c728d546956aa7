import GridRules.Failure

/-!
# Expressions and statements

Integer expressions over named variables, with the operators of loop programs. Truth is one and
falsehood zero; every value but zero counts as true. Integers are unbounded, and division goes
toward zero. A loop program is a sequence of declarations, counted loops, chains of alternatives,
print statements and returns.
-/

namespace GridRules.Program

/-- The binary operators, from the loosest level to the tightest. -/
inductive BinaryOperator where
  | or
  | and
  | equal
  | different
  | less
  | atMost
  | greater
  | atLeast
  | plus
  | minus
  | times
  | divide
  | remainder
deriving DecidableEq, Repr

/-- The level of an operator; operators of a higher level bind tighter. -/
def BinaryOperator.level : BinaryOperator → Nat
  | .or => 1
  | .and => 2
  | .equal | .different => 3
  | .less | .atMost | .greater | .atLeast => 4
  | .plus | .minus => 5
  | .times | .divide | .remainder => 6

/-- The written form of an operator. -/
def BinaryOperator.text : BinaryOperator → String
  | .or => "||"
  | .and => "&&"
  | .equal => "=="
  | .different => "!="
  | .less => "<"
  | .atMost => "<="
  | .greater => ">"
  | .atLeast => ">="
  | .plus => "+"
  | .minus => "-"
  | .times => "*"
  | .divide => "/"
  | .remainder => "%"

/-- An expression. -/
inductive Expr where
  | number (n : Nat)
  | truth (b : Bool)
  | var (name : String)
  | not (operand : Expr)
  | negate (operand : Expr)
  | binary (op : BinaryOperator) (left right : Expr)
deriving DecidableEq, Repr, Inhabited

/-! ### Variables -/

/-- The values of the variables, each name at most once. -/
abbrev Env := List (String × Int)

namespace Env

/-- The value of a variable. -/
def get? (name : String) : Env → Option Int
  | [] => none
  | (other, value) :: rest => if other = name then some value else get? name rest

/-- The variables after an assignment. -/
def set (name : String) (value : Int) : Env → Env
  | [] => [(name, value)]
  | (other, old) :: rest =>
    if other = name then (name, value) :: rest else (other, old) :: set name value rest

@[simp] theorem get?_set (env : Env) (name other : String) (value : Int) :
    (env.set name value).get? other = if name = other then some value else env.get? other := by
  induction env with
  | nil => simp [set, get?]
  | cons entry rest ih =>
      rw [set]
      split
      · next h =>
          subst h
          simp only [get?]
          split <;> rfl
      · next h =>
          simp only [get?, ih]
          split
          · next h' =>
              subst h'
              rw [if_neg (Ne.symm h)]
          · rfl

end Env

/-! ### Values -/

/-- The reasons for which an expression has no value. -/
inductive EvalFault where
  | undefinedVariable (name : String)
  | divisionByZero
deriving DecidableEq, Repr

/-- What is reported of an evaluation without value. -/
def EvalFault.failure : EvalFault → Failure
  | .undefinedVariable name =>
    { category := .execution, code := "UNDEFINED_VARIABLE",
      message := "Undefined variable '" ++ name ++ "'" }
  | .divisionByZero =>
    { category := .execution, code := "DIVISION_BY_ZERO", message := "Division by zero" }

/-- The number that stands for a truth value. -/
def truthValue (b : Bool) : Int :=
  if b then 1 else 0

/-- The quotient toward zero: that of the magnitudes, turned around if exactly one of the two
numbers is negative. -/
def truncatedQuotient (a b : Int) : Except EvalFault Int :=
  if b = 0 then
    .error .divisionByZero
  else
    let magnitude : Nat := a.natAbs / b.natAbs
    .ok (if 0 ≤ a ↔ 0 ≤ b then magnitude else -magnitude)

/-- The remainder of the division toward zero: what its quotient leaves of the dividend. -/
def truncatedRemainder (a b : Int) : Except EvalFault Int :=
  match truncatedQuotient a b with
  | .error fault => .error fault
  | .ok quotient => .ok (a - b * quotient)

@[simp] theorem truncatedQuotient_zero (a : Int) :
    truncatedQuotient a 0 = .error .divisionByZero :=
  rfl

@[simp] theorem truncatedRemainder_zero (a : Int) :
    truncatedRemainder a 0 = .error .divisionByZero :=
  rfl

theorem truncatedQuotient_of_ne_zero (a : Int) {b : Int} (hb : b ≠ 0) :
    truncatedQuotient a b = .ok (a.tdiv b) := by
  simp only [truncatedQuotient, if_neg hb, Int.ofNat_tdiv]
  congr 1
  -- A dividend of zero is not negative, and its quotient is zero on either side.
  rcases Int.lt_or_le a 0 with ha | ha <;> rcases Int.lt_or_le b 0 with hb | hb
  · rw [if_pos (by omega), Int.ofNat_natAbs_of_nonpos (Int.le_of_lt ha),
      Int.ofNat_natAbs_of_nonpos (Int.le_of_lt hb), Int.neg_tdiv, Int.tdiv_neg, Int.neg_neg]
  · rw [if_neg (by omega), Int.ofNat_natAbs_of_nonpos (Int.le_of_lt ha), Int.natAbs_of_nonneg hb,
      Int.neg_tdiv, Int.neg_neg]
  · rw [if_neg (by omega), Int.natAbs_of_nonneg ha, Int.ofNat_natAbs_of_nonpos (Int.le_of_lt hb),
      Int.tdiv_neg, Int.neg_neg]
  · rw [if_pos (by omega), Int.natAbs_of_nonneg ha, Int.natAbs_of_nonneg hb]

theorem truncatedRemainder_of_ne_zero (a : Int) {b : Int} (hb : b ≠ 0) :
    truncatedRemainder a b = .ok (a.tmod b) := by
  rw [truncatedRemainder, truncatedQuotient_of_ne_zero a hb, Int.tmod_def]

/-- The value of an operator between two values. -/
def BinaryOperator.apply : BinaryOperator → Int → Int → Except EvalFault Int
  | .or, a, b => .ok (truthValue (a != 0 || b != 0))
  | .and, a, b => .ok (truthValue (a != 0 && b != 0))
  | .equal, a, b => .ok (truthValue (a == b))
  | .different, a, b => .ok (truthValue (a != b))
  | .less, a, b => .ok (truthValue (a < b))
  | .atMost, a, b => .ok (truthValue (a ≤ b))
  | .greater, a, b => .ok (truthValue (b < a))
  | .atLeast, a, b => .ok (truthValue (b ≤ a))
  | .plus, a, b => .ok (a + b)
  | .minus, a, b => .ok (a - b)
  | .times, a, b => .ok (a * b)
  | .divide, a, b => truncatedQuotient a b
  | .remainder, a, b => truncatedRemainder a b

/-- Whether the left operand alone decides the value, which is then that truth value. -/
def BinaryOperator.decidedBy? (op : BinaryOperator) (left : Int) : Option Bool :=
  match op with
  | .or => if left = 0 then none else some true
  | .and => if left = 0 then some false else none
  | _ => none

/-- The value of an expression. Operands are evaluated from left to right, and a right operand only
if the left one does not decide the value. -/
@[simp] def Expr.eval (env : Env) : Expr → Except EvalFault Int
  | .number n => .ok n
  | .truth b => .ok (truthValue b)
  | .var name =>
    match env.get? name with
    | some value => .ok value
    | none => .error (.undefinedVariable name)
  | .not operand =>
    match operand.eval env with
    | .error fault => .error fault
    | .ok a => .ok (truthValue (a == 0))
  | .negate operand =>
    match operand.eval env with
    | .error fault => .error fault
    | .ok a => .ok (-a)
  | .binary op left right =>
    match left.eval env with
    | .error fault => .error fault
    | .ok a =>
      match op.decidedBy? a with
      | some b => .ok (truthValue b)
      | none =>
        match right.eval env with
        | .error fault => .error fault
        | .ok b => op.apply a b

/-! ### Statements -/

/-- A statement. A loop declares its counter, runs while its condition holds and adds one to the
counter after each run of its body. -/
inductive Statement where
  | declare (name : String) (value : Expr)
  | loop (counter : String) (start condition : Expr) (body : List Statement)
  | choose (branches : List (Expr × List Statement)) (otherwise : List Statement)
  | print (glyphs : List Char)
  | exit (status : Expr)
deriving Repr, Inhabited

end GridRules.Program
