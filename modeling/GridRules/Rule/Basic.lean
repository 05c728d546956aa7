import GridRules.Cells
import GridRules.Rule.Dimension
import GridRules.Text.Quoted

/-!
# Rules

A rule says by a condition on row and column which cells a symbol occupies. The condition is an
expression text over the row `r`, the column `c` and the dimensions `H` and `W`; a rule of the last
family lists the cells instead. These may be given apart from the rule, in a table by symbol, which
then goes before the cells of the rule.
-/

namespace GridRules

/-- The families of rules, in the order in which they are tried. -/
inductive Family where
  | fill
  | border
  | diagonal
  | antiDiagonal
  | horizontalLine
  | verticalLine
  | filledRectangle
  | checkerboard
  | coordinateSet
deriving DecidableEq, Repr

namespace Family

/-- All families, in the order in which they are tried. -/
def all : List Family :=
  [fill, border, diagonal, antiDiagonal, horizontalLine, verticalLine, filledRectangle,
    checkerboard, coordinateSet]

/-- The name of a family. -/
def name : Family → String
  | fill => "fill"
  | border => "border"
  | diagonal => "diagonal"
  | antiDiagonal => "anti_diagonal"
  | horizontalLine => "horizontal_line"
  | verticalLine => "vertical_line"
  | filledRectangle => "filled_rectangle"
  | checkerboard => "checkerboard"
  | coordinateSet => "coordinate_set"

/-- The family with a name. -/
def ofName? (text : String) : Option Family :=
  all.find? (·.name == text)

end Family

/-- How much a rule is trusted at other sizes. -/
inductive Confidence where
  | exact
  | literalRectangle
  | literalLine
  | none
deriving DecidableEq, Repr

/-- The written form of a confidence. -/
def Confidence.text : Confidence → String
  | .exact => "1.0"
  | .literalRectangle => "0.7"
  | .literalLine => "0.5"
  | .none => "0.0"

/-- What a family's test finds out about the cells of a symbol: their condition, and whether it
moves along with the size of the area. -/
structure Finding where
  condition : String
  scalable : Bool := true
  confidence : Confidence := .exact
deriving DecidableEq, Repr

/-- A rule for the cells of a symbol. -/
structure Rule where
  family : Family
  symbol : String
  condition : String := ""
  scalable : Bool := true
  confidence : Confidence := .exact
  cells : List Coord := []
deriving DecidableEq, Repr

namespace Rule

/-- The rule of a family for a symbol. -/
def ofFinding (family : Family) (symbol : String) (finding : Finding) : Rule where
  family := family
  symbol := symbol
  condition := finding.condition
  scalable := finding.scalable
  confidence := finding.confidence

/-- The rule that lists its cells. Its condition names them, but is no expression. -/
def coordinateSet (symbol : Char) (cells : List Coord) : Rule where
  family := .coordinateSet
  symbol := String.singleton symbol
  condition := "occupied_" ++ toString symbol.toNat ++ ".count(\x7br, c\x7d)"
  scalable := false
  confidence := .none
  cells := cells

/-- The dimensions to which a rule refers. -/
def parameters (rule : Rule) : List Dimension :=
  if rule.family = .coordinateSet then [] else Dimension.referenced rule.condition

/-- A one-line description of a rule. -/
def describe (rule : Rule) : String :=
  Text.quoted rule.symbol ++ ": " ++ rule.family.name ++ " ["
    ++ (if rule.scalable then "scalable" else "fixed") ++ ", confidence=" ++ rule.confidence.text
    ++ "] " ++ rule.condition

/-- The cells that a rule lists, or that a table lists in their stead. -/
def listedCells (rule : Rule) (table : CellTable) : List Coord :=
  (table.cells? rule.symbol).getD rule.cells

end Rule

end GridRules
