import GridRules.Grid.Basic

/-!
# Differences between drawings

Two texts are compared place by place. Beyond the end of a line a text shows spaces, and beyond its
last line it shows empty lines.
-/

namespace GridRules

/-- A place where two texts show different characters. -/
structure Difference where
  row : Int
  col : Int
  expected : String
  actual : String
deriving DecidableEq, Repr

namespace Difference

/-- The differences between two lines, from the column `col` on. -/
def ofLines (row col : Int) : List Char → List Char → List Difference
  | [], [] => []
  | e :: es, [] => entry e ' ' ++ ofLines row (col + 1) es []
  | [], a :: as => entry ' ' a ++ ofLines row (col + 1) [] as
  | e :: es, a :: as => entry e a ++ ofLines row (col + 1) es as
where
  entry (e a : Char) : List Difference :=
    if e = a then [] else [⟨row, col, String.singleton e, String.singleton a⟩]

/-- The differences between two sequences of lines, from the row `row` on. -/
def ofRows (row : Int) : List (List Char) → List (List Char) → List Difference
  | [], [] => []
  | e :: es, [] => ofLines row 0 e [] ++ ofRows (row + 1) es []
  | [], a :: as => ofLines row 0 [] a ++ ofRows (row + 1) [] as
  | e :: es, a :: as => ofLines row 0 e a ++ ofRows (row + 1) es as

/-- The differences between two texts, row by row. -/
def between (expected actual : String) : List Difference :=
  ofRows 0 (Text.lines expected.toList) (Text.lines actual.toList)

end Difference

/-- The result of comparing an output with what is expected. -/
structure Verdict where
  valid : Bool
  differences : List Difference := []
deriving DecidableEq, Repr

namespace Verdict

/-- Compares an output with an expected text. One line feed at the end of the output does not
count. -/
def ofTexts (expected output : String) : Verdict :=
  let actual := String.ofList (Text.dropFinalNewline output.toList)
  if expected = actual then { valid := true }
  else { valid := false, differences := Difference.between expected actual }

/-- Compares an output with the canonical text of a grid. -/
def ofGrid (grid : Grid) (output : String) : Verdict :=
  ofTexts grid.render output

/-! ### Reports -/

/-- How a report shows a character; blanks have names. -/
def glyphText (glyph : String) : String :=
  match glyph with
  | " " => "(space)"
  | "\t" => "(tab)"
  | "\n" => "(newline)"
  | other => "'" ++ other ++ "'"

/-- The line of a report about one difference. -/
def differenceLine (difference : Difference) : String :=
  "  Row " ++ toString difference.row ++ ", Col " ++ toString difference.col ++ ": expected "
    ++ glyphText difference.expected ++ ", got " ++ glyphText difference.actual

/-- The first `limit` items; a limit below zero leaves out that many at the end. -/
def takeLimit {α : Type} (limit : Int) (items : List α) : List α :=
  if 0 ≤ limit then items.take limit.toNat else items.take (items.length - (-limit).toNat)

/-- The number of differences that a report shows unless it is told otherwise. -/
def defaultShown : Int := 10

/-- The number of differences that a report on a verdict shows, as a data value gives it: a whole
number, a truth value that stands for one or zero, or nothing for the usual number. Any other value
does only where there is nothing to count. -/
def shownCount? (verdict : Verdict) : Value → Option Int
  | .int n => some n
  | .bool b => some (if b then 1 else 0)
  | .null => some defaultShown
  | _ => if verdict.valid || verdict.differences.isEmpty then some defaultShown else none

/-- The report on a verdict, with at most `limit` differences. -/
def report (verdict : Verdict) (limit : Int := defaultShown) : String :=
  if verdict.valid then
    "✓ Output matches grid exactly."
  else
    let shown :=
      if verdict.differences.isEmpty then
        ["  Texts differ only in trailing blanks or empty lines."]
      else
        let more := verdict.differences.length - limit
        (takeLimit limit verdict.differences).map differenceLine
          ++ (if 0 < more then ["  ... and " ++ toString more ++ " more differences"] else [])
    String.intercalate "\n" (["✗ Output does not match grid:", ""] ++ shown)

end Verdict

end GridRules
