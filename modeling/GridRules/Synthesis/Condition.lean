import GridRules.Cells
import GridRules.Rule.Basic
import GridRules.Synthesis.Layout

/-!
# Conditions of a program

The text of the condition under which a program prints a symbol. Listed cells become alternatives,
one for each cell, or one for each row where there are many. There is no text if a coordinate has
too many digits.
-/

namespace GridRules

namespace Synthesis

/-- Texts with a separator between them. -/
def joined (separator : String) : List String → String
  | [] => ""
  | [text] => text
  | text :: next :: rest => text ++ separator ++ joined separator (next :: rest)

/-- The decimal text of a coordinate. -/
def number (n : Int) : Except LayoutFault String :=
  match Text.wholeNumberText? n with
  | some text => .ok text
  | none => .error .longNumber

/-- The condition that a cell is the given one. -/
def cellTerm (cell : Coord) : Except LayoutFault String := do
  return "(r==" ++ (← number cell.row) ++ " && c==" ++ (← number cell.col) ++ ")"

/-- The condition that a cell lies in a column. -/
def columnTerm (column : Int) : Except LayoutFault String := do
  return "c==" ++ (← number column)

/-- The condition that a cell lies in a row, in one of the given columns. -/
def rowTerm (row : Int) (columns : List Int) : Except LayoutFault String :=
  match columns with
  | [column] => cellTerm ⟨row, column⟩
  | columns => do
    let alternatives ← columns.mapM columnTerm
    return "(r==" ++ (← number row) ++ " && (" ++ joined " || " alternatives ++ "))"

/-- The conditions of the rows of the given cells, the rows in the order in which they are first
met. -/
def rowTerms (cells : List Coord) : Except LayoutFault (List String) :=
  (grouped (cells.map fun cell => (cell.row, cell.col))).mapM fun (row, columns) =>
    rowTerm row columns

/-- The condition that a cell is one of the given ones. -/
def cellsCondition (layout : Layout) (cells : List Coord) : Except LayoutFault String :=
  if cells.isEmpty then
    .ok "false"
  else do
    let joiner ← layout.lineJoiner
    if ← layout.gathers cells.length then
      return joined joiner (← rowTerms cells)
    else
      let terms ← cells.mapM cellTerm
      return joined (if ← layout.keepsLine cells.length then " || " else joiner) terms

/-- The condition of a rule in program text. -/
def condition (layout : Layout) (table : CellTable) (rule : Rule) : Except LayoutFault String :=
  if rule.family = .coordinateSet then cellsCondition layout (rule.listedCells table)
  else .ok rule.condition

end Synthesis

end GridRules
