import GridRules.Cells
import GridRules.Failure
import GridRules.Text.Lines
import GridRules.Text.Quoted
import GridRules.Value.Display

/-!
# Grids

A grid is a rectangular table of cells with at least one row and one column. A cell is empty or
holds one character, and remembers the number of the stroke that wrote it. A write with a smaller
stroke number than the cell's is refused; erasing a cell is never refused.
-/

namespace GridRules

/-- One place of a grid: its symbol, if it holds one, and the number of the last stroke that wrote
it. A place that was never written has the stroke number `-1`. -/
structure Cell where
  symbol : Option Char := none
  stroke : Int := -1
deriving DecidableEq, Repr, Inhabited

/-- A table of `height` rows of `width` cells. A side of length one may have been given as a truth
value, and is then shown as one. -/
structure Grid where
  height : Nat
  width : Nat
  cells : Vector (Vector Cell width) height
  height_pos : 0 < height
  width_pos : 0 < width
  heightIsTruth : Bool := false
  widthIsTruth : Bool := false

/-- The reasons for which a grid cannot be built or written. -/
inductive GridFault where
  | dimensionsNotIntegers
  | dimensionsNotPositive (height width : Value)
  | tooLarge
  | emptyPattern
  | notOneCharacter (symbol : String)
deriving Repr

/-- What is reported of a fault of a grid. -/
def GridFault.failure : GridFault → Failure
  | .dimensionsNotIntegers =>
    { category := .validation, code := "INVALID_DIMENSIONS",
      message := "Grid dimensions must be integers" }
  | .dimensionsNotPositive height width =>
    { category := .validation, code := "INVALID_DIMENSIONS",
      message := "Grid dimensions must be positive, got " ++ height.shown ++ "x" ++ width.shown,
      details := [(.text "height", height), (.text "width", width)] }
  | .tooLarge => .plain .tooLarge
  | .emptyPattern =>
    { category := .grid, code := "EMPTY_PATTERN", message := "Pattern is empty" }
  | .notOneCharacter symbol =>
    { category := .validation, code := "INVALID_SYMBOL",
      message := "Cell symbols must be single characters, got " ++ Text.quoted symbol }

namespace Grid

/-! ### Construction -/

/-- The grid of the given size whose cells were never written. -/
def blank (height width : Nat) (hh : 0 < height) (hw : 0 < width) : Grid where
  height := height
  width := width
  cells := Vector.replicate height (Vector.replicate width {})
  height_pos := hh
  width_pos := hw

/-- The whole number that a value stands for; the truth values stand for one and zero. -/
def side? : Value → Option Int
  | .int n => some n
  | .bool b => some (if b then 1 else 0)
  | _ => none

/-- Whether a value is a truth value. -/
def isTruth : Value → Bool
  | .bool _ => true
  | _ => false

/-- A bound on the lengths of texts and lists, which are held in memory. -/
def sideLimit : Nat := Nat.pow 2 63

/-- A grid whose size is given by data values, refused unless both sides are positive and below the
bound. -/
def ofValues (height width : Value) : Except GridFault Grid :=
  match side? height, side? width with
  | some h, some w =>
    if p : 0 < h.toNat ∧ 0 < w.toNat then
      if h.toNat < sideLimit ∧ w.toNat < sideLimit then
        .ok
          { blank h.toNat w.toNat p.1 p.2 with
            heightIsTruth := isTruth height
            widthIsTruth := isTruth width }
      else
        .error .tooLarge
    else
      .error (.dimensionsNotPositive height width)
  | _, _ => .error .dimensionsNotIntegers

/-- A grid of any requested size. -/
def ofSize (height width : Int) : Except GridFault Grid :=
  ofValues (.int height) (.int width)

/-! ### Cells -/

/-- Whether a coordinate lies within the grid. -/
def inside (grid : Grid) (place : Coord) : Bool :=
  0 ≤ place.row && place.row < grid.height && 0 ≤ place.col && place.col < grid.width

theorem inside_iff (grid : Grid) (place : Coord) :
    grid.inside place = true ↔
      (0 ≤ place.row ∧ place.row < grid.height) ∧ 0 ≤ place.col ∧ place.col < grid.width := by
  simp [inside, and_assoc]

/-- The cell at a coordinate, if it lies within the grid. -/
def cell? (grid : Grid) (place : Coord) : Option Cell :=
  if grid.inside place then
    (grid.cells[place.row.toNat]?).bind fun row => row[place.col.toNat]?
  else
    none

/-- The symbol at a coordinate; an empty cell and one outside the grid have none. -/
def symbol? (grid : Grid) (place : Coord) : Option Char :=
  (grid.cell? place).bind Cell.symbol

/-- The grid with one cell replaced. -/
def replace (grid : Grid) (place : Coord) (cell : Cell) : Grid :=
  match grid.cells[place.row.toNat]? with
  | none => grid
  | some row =>
    let row := row.setIfInBounds place.col.toNat cell
    { grid with cells := grid.cells.setIfInBounds place.row.toNat row }

/-- Whether a write lands on a cell: an erasure always does, a symbol does if its stroke number is
at least that of the cell. -/
def lands (cell : Cell) (symbol : Option Char) (stroke : Int) : Bool :=
  symbol.isNone || cell.stroke ≤ stroke

/-- The grid after a write, and whether the write landed. -/
def put (grid : Grid) (place : Coord) (symbol : Option Char) (stroke : Int) : Grid × Bool :=
  match grid.cell? place with
  | none => (grid, false)
  | some cell =>
    if lands cell symbol stroke then (grid.replace place ⟨symbol, stroke⟩, true) else (grid, false)

/-- The only character of a text of length one. -/
def singleCharacter? (text : String) : Option Char :=
  match text.toList with
  | [c] => some c
  | _ => none

/-- A write whose symbol is given as a text, or as nothing for an erasure. The text is looked at
only if the coordinate lies within the grid. -/
def write (grid : Grid) (place : Coord) (symbol : Option String) (stroke : Int) :
    Except GridFault (Grid × Bool) :=
  if grid.inside place then
    match symbol with
    | none => .ok (grid.put place none stroke)
    | some text =>
      match singleCharacter? text with
      | some c => .ok (grid.put place (some c) stroke)
      | none => .error (.notOneCharacter text)
  else
    .ok (grid, false)

/-- The grid of the same size whose cells were never written. -/
def clear (grid : Grid) : Grid :=
  { grid with cells := Vector.replicate grid.height (Vector.replicate grid.width {}) }

/-! ### Views -/

/-- The occupied cells with their symbols, row by row. -/
def occupied (grid : Grid) : List (Coord × Char) :=
  (List.finRange grid.height).flatMap fun r =>
    (List.finRange grid.width).filterMap fun c =>
      grid.cells[r][c].symbol.map (Coord.ofNat r c, ·)

/-- The number of occupied cells. -/
def occupiedCount (grid : Grid) : Nat :=
  grid.occupied.length

/-- The coordinates that each symbol occupies, row by row, the symbols in the order in which they
are first met. -/
def bySymbol (grid : Grid) : List (Char × List Coord) :=
  grouped (grid.occupied.map fun entry => (entry.2, entry.1))

/-- The rows of a grid as they are drawn, with `blank` in place of a missing symbol. -/
def drawnRows (grid : Grid) (blank : List Char) : List (List Char) :=
  grid.cells.toList.map fun row =>
    row.toList.flatMap fun cell => (cell.symbol.map fun c => [c]).getD blank

/-- The canonical text of a grid: its rows, joined by line feeds. -/
def render (grid : Grid) (blank : String := " ") : String :=
  String.ofList (Text.unlines (grid.drawnRows blank.toList))

/-- The height as it is shown. -/
def heightValue (grid : Grid) : Value :=
  if grid.heightIsTruth then .bool true else .int grid.height

/-- The width as it is shown. -/
def widthValue (grid : Grid) : Value :=
  if grid.widthIsTruth then .bool true else .int grid.width

/-- A one-line summary of a grid. -/
def summary (grid : Grid) : String :=
  "Grid(height=" ++ grid.heightValue.shown ++ ", width=" ++ grid.widthValue.shown ++ ", occupied="
    ++ toString grid.occupiedCount ++ ")"

end Grid

end GridRules
