import GridRules.Grid.Basic
import GridRules.Rule.Discovery

/-!
# Analyses

The analysis of a grid has one rule for every symbol that the grid shows, in the order in which the
symbols are first met, and a warning for every rule that does not move along with the size.
-/

namespace GridRules

/-- The rules of a grid and the warnings about them. -/
structure Analysis where
  rules : List Rule
  warnings : List String
deriving Repr

namespace Analysis

/-- The warning about a rule that does not scale. -/
def fixedWarning (rule : Rule) (count : Nat) : String :=
  "Character '" ++ rule.symbol ++ "': " ++
    if rule.family = .coordinateSet then
      "Pattern could not be parameterized. Using coordinate set (" ++ toString count ++ " points)."
    else
      rule.family.name ++ " uses fixed positions and will not scale with H/W."

/-- The warning about listed cells. -/
def listedWarning : String :=
  "WARNING: Some patterns use coordinate sets. "
    ++ "Changing H or W will NOT scale these patterns proportionally."

/-- The rule of a symbol of a grid, with the number of its cells. The sides of the grid have to be
numbers. -/
def explain (grid : Grid) (symbol : Char) (cells : List Coord) :
    Except DiscoveryFault (Rule × Nat) := do
  let height ← Mask.sideOf grid.heightValue
  let width ← Mask.sideOf grid.widthValue
  let rule ← Rule.discover cells (String.singleton symbol) height width
  return (rule, cells.length)

/-- The rule of every symbol of a grid, with the number of its cells. -/
def explained (grid : Grid) : Except DiscoveryFault (List (Rule × Nat)) :=
  grid.bySymbol.mapM fun entry => explain grid entry.1 entry.2

/-- The analysis with the given rules, each with the number of its cells. -/
def ofExplained (explained : List (Rule × Nat)) : Analysis :=
  let rules := explained.map Prod.fst
  let fixed := (explained.filter fun entry => !entry.1.scalable).map fun entry =>
    fixedWarning entry.1 entry.2
  let listed := if rules.any fun rule => rule.family = .coordinateSet then [listedWarning] else []
  { rules, warnings := fixed ++ listed }

/-- The analysis of a grid. -/
def ofGrid? (grid : Grid) : Except DiscoveryFault Analysis :=
  (explained grid).map ofExplained

/-- Whether every rule moves along with the size. -/
def isParametric (analysis : Analysis) : Bool :=
  analysis.rules.all Rule.scalable

end Analysis

end GridRules
