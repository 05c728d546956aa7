import GridRules.Analysis
import GridRules.Study

/-!
# What the command line shows

Texts for a terminal that shows colours.
-/

namespace GridRules.CommandLine

/-- The ways in which a terminal shows a text. -/
inductive Style where
  | bold
  | red
  | green
  | yellow
  | cyan
deriving Repr, DecidableEq

/-- The number that selects a style. -/
def Style.number : Style → Nat
  | .bold => 1
  | .red => 31
  | .green => 32
  | .yellow => 33
  | .cyan => 36

/-- A text between the sequences that select a style and leave it. -/
def Style.apply (style : Style) (text : String) : String :=
  "\x1b[" ++ toString style.number ++ "m" ++ text ++ "\x1b[0m"

/-- Lines with a line feed behind each. -/
def page (lines : List String) : String :=
  String.join (lines.map (· ++ "\n"))

/-- The line between the parts of a page. -/
def ruleLine : String :=
  Style.bold.apply (String.ofList (List.replicate 40 '─'))

/-- The lines about warnings. -/
def warningLines (warnings : List String) : List String :=
  warnings.map fun warning => Style.yellow.apply ("⚠ " ++ warning)

/-- The lines about a rule. -/
def ruleLines (rule : Rule) : List String :=
  let scale := if rule.scalable then Style.green.apply "scalable" else Style.yellow.apply "fixed"
  let parameters := rule.parameters.map Dimension.name
  ["  " ++ Style.cyan.apply (Text.quoted rule.symbol) ++ " " ++ Style.bold.apply rule.family.name
      ++ " [" ++ scale ++ ", confidence " ++ rule.confidence.text ++ "]",
    "    " ++ rule.condition]
  ++ (if parameters.isEmpty then [] else ["    parameters: " ++ ", ".intercalate parameters])

/-- The page about an analysis. -/
def analysisPage (grid : Grid) (analysis : Analysis) : String :=
  let size := toString grid.height ++ "x" ++ toString grid.width
  let status :=
    if analysis.isParametric then Style.green.apply "fully parametric"
    else Style.yellow.apply "partially fixed"
  page
    ([Style.bold.apply ("\nPattern analysis (" ++ size ++ ")"), ruleLine]
      ++ (if analysis.rules.isEmpty then [Style.yellow.apply "  Grid is empty."] else [])
      ++ analysis.rules.flatMap ruleLines
      ++ [ruleLine, "  " ++ Style.bold.apply "Result:" ++ " " ++ status]
      ++ warningLines analysis.warnings)

/-- The page about a comparison. -/
def comparisonPage (comparison : Comparison) : String :=
  let style : Style := if comparison.verdict.valid then .green else .red
  page [style.apply comparison.report]

/-- The page about a failure. -/
def failurePage (failure : Failure) : String :=
  page [Style.red.apply ("Error: " ++ failure.text)]

end GridRules.CommandLine
