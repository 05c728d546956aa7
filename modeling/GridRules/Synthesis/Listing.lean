import GridRules.Synthesis.Condition

/-!
# Program listings

The text of the program that draws an area from a list of rules: two loops over rows and columns
around one chain of alternatives, which prints the symbol of the first rule that holds for a cell,
or else a space.
-/

namespace GridRules

/-- A program text with the size it draws, and whether it draws other sizes as well. The sides are
shown as they were given. -/
structure Listing where
  code : String
  height : Value
  width : Value
  warnings : List String
  scalable : Bool
deriving Repr

namespace Synthesis

/-- The character literal of a symbol. -/
def characterLiteral (symbol : String) : String :=
  let body :=
    match symbol with
    | "\\" => "\\\\"
    | "'" => "\\'"
    | "\n" => "\\n"
    | "\t" => "\\t"
    | other => other
  "'" ++ body ++ "'"

/-- The lines of one branch of the chain. -/
def branchLines (layout : Layout) (table : CellTable) (opener : String) (rule : Rule) :
    Except LayoutFault (List String) := do
  let condition ← condition layout table rule
  let branch ← layout.indentation 3
  let body ← layout.indentation 4
  return [branch ++ opener ++ " (" ++ condition ++ ") \x7b",
    body ++ "cout << " ++ characterLiteral rule.symbol ++ ";"]

/-- The lines that print one cell. -/
def cellLines (layout : Layout) (table : CellTable) : List Rule → Except LayoutFault (List String)
  | [] => do return [(← layout.indentation 3) ++ "cout << ' ';"]
  | first :: rest => do
    let start ← branchLines layout table "if" first
    let others ← rest.mapM (branchLines layout table "\x7d else if")
    let branch ← layout.indentation 3
    let body ← layout.indentation 4
    return start ++ others.flatten
      ++ [branch ++ "\x7d else \x7b", body ++ "cout << ' ';", branch ++ "\x7d"]

/-- The lines of the program. -/
def programLines (layout : Layout) (table : CellTable) (rules : List Rule)
    (height width : Value) : Except LayoutFault (List String) := do
  let outer ← layout.indentation 1
  let inner ← layout.indentation 2
  let height ← Layout.shown height
  let width ← Layout.shown width
  let cells ← cellLines layout table rules
  return ["#include <iostream>",
      "using namespace std;",
      "",
      "int main() \x7b",
      outer ++ "int H = " ++ height ++ ";  // Height - change to scale",
      outer ++ "int W = " ++ width ++ ";  // Width - change to scale",
      "",
      outer ++ "for (int r = 0; r < H; r++) \x7b",
      inner ++ "for (int c = 0; c < W; c++) \x7b"]
    ++ cells
    ++ [inner ++ "\x7d",
      inner ++ "cout << endl;",
      outer ++ "\x7d",
      "",
      outer ++ "return 0;",
      "\x7d"]

/-- The warning about cells that stand in the program one by one. -/
def fixedWarning : String :=
  "Contains fixed coordinates - will not scale with H/W changes."

end Synthesis

open Synthesis in
/-- The program that draws an area of the given size from rules. -/
def Listing.ofRules (rules : List Rule) (height width : Value) (table : CellTable := [])
    (layout : Layout := {}) : Except LayoutFault Listing := do
  let lines ← programLines layout table rules height width
  let fixed := rules.any fun rule => rule.family = .coordinateSet
  return {
    code := joined "\n" lines
    height
    width
    warnings := if fixed then [fixedWarning] else []
    scalable := !fixed }

end GridRules
