import GridRules.Grid.Basic
import GridRules.Program.Interpreter
import GridRules.Rule.Basic
import GridRules.Text.Lines

/-!
# Drawing rules

Rules are drawn on an area of any size by testing them cell by cell. The first rule that holds for a
cell gives its symbol; where none holds the blank text is drawn. All conditions are read before the
first cell is drawn.
-/

namespace GridRules

open Program (Expr EvalFault Fault)

/-- A rule made ready for testing cells. -/
inductive Test where
  | listed (cells : List Coord)
  | formula (condition : Expr)

/-- Whether a test holds for a cell of an area. -/
def Test.holds (test : Test) (cell : Coord) (height width : Int) : Except EvalFault Bool :=
  match test with
  | .listed cells => .ok (cells.contains cell)
  | .formula condition =>
    match condition.eval (Program.cellEnv cell.row cell.col height width) with
    | .error fault => .error fault
    | .ok value => .ok (value != 0)

/-- The test of a rule. -/
def Rule.test (rule : Rule) (table : CellTable) : Except Program.SyntaxFault Test :=
  if rule.family = .coordinateSet then
    .ok (.listed (rule.listedCells table))
  else
    match Expr.ofText rule.condition with
    | .error fault => .error fault
    | .ok condition => .ok (.formula condition)

/-- The tests of rules, with the symbols that they draw. -/
def Rule.tests (table : CellTable) : List Rule →
    Except Program.SyntaxFault (List (String × Test))
  | [] => .ok []
  | rule :: rest =>
    match rule.test table with
    | .error fault => .error fault
    | .ok test =>
      match Rule.tests table rest with
      | .error fault => .error fault
      | .ok tests => .ok ((rule.symbol, test) :: tests)

/-- The text drawn on a cell. -/
def drawCell (blank : String) (height width : Int) (cell : Coord) :
    List (String × Test) → Except EvalFault String
  | [] => .ok blank
  | (symbol, test) :: rest =>
    match test.holds cell height width with
    | .error fault => .error fault
    | .ok true => .ok symbol
    | .ok false => drawCell blank height width cell rest

/-- The texts drawn on the cells of a row from the column `col` on, `count` of them. -/
def drawRow (tests : List (String × Test)) (blank : String) (height width row : Int) :
    (count : Nat) → (col : Int) → Except EvalFault (List Char)
  | 0, _ => .ok []
  | count + 1, col =>
    match drawCell blank height width ⟨row, col⟩ tests with
    | .error fault => .error fault
    | .ok text =>
      match drawRow tests blank height width row count (col + 1) with
      | .error fault => .error fault
      | .ok rest => .ok (text.toList ++ rest)

/-- The rows of the drawing from the row `row` on, `count` of them. -/
def drawRows (tests : List (String × Test)) (blank : String) (height width : Int) :
    (count : Nat) → (row : Int) → Except EvalFault (List (List Char))
  | 0, _ => .ok []
  | count + 1, row =>
    match drawRow tests blank height width row width.toNat 0 with
    | .error fault => .error fault
    | .ok line =>
      match drawRows tests blank height width count (row + 1) with
      | .error fault => .error fault
      | .ok rest => .ok (line :: rest)

/-- The drawing of rules on an area, its rows joined by line feeds. -/
def Rule.draw (rules : List Rule) (height width : Int) (table : CellTable := [])
    (blank : String := " ") : Except Fault String :=
  match Rule.tests table rules with
  | .error fault => .error (.malformed fault)
  | .ok tests =>
    match drawRows tests blank height width height.toNat 0 with
    | .error fault => .error (.unfinished (.evaluation fault))
    | .ok rows => .ok (String.ofList (Text.unlines rows))

/-- The reasons for which rules cannot be drawn on an area. -/
inductive DrawingFault where
  | rules (fault : Fault)
  | sideNotNumber

/-- What is reported of rules that cannot be drawn. -/
def DrawingFault.failure : DrawingFault → Failure
  | .rules fault => fault.failure
  | .sideNotNumber => .plain .badType

/-- The drawing of rules on an area whose sides are given by data values. The conditions are read
before the sides are looked at, and without rows the width is not looked at. -/
def Rule.drawOn (rules : List Rule) (height width : Value) (table : CellTable := [])
    (blank : String := " ") : Except DrawingFault String :=
  match Rule.tests table rules, Grid.side? height, Grid.side? width with
  | .error fault, _, _ => .error (.rules (.malformed fault))
  | .ok _, none, _ => .error .sideNotNumber
  | .ok _, some h, none => if 0 < h then .error .sideNotNumber else .ok ""
  | .ok _, some h, some w => (Rule.draw rules h w table blank).mapError .rules

end GridRules
