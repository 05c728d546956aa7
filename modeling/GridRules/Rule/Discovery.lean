import GridRules.Decimal.Binary64
import GridRules.Failure
import GridRules.Mask
import GridRules.Rule.Basic

/-!
# Discovering rules

Each family but the last has a test that finds its condition for a mask, if the marked cells are
exactly those of a shape of the family. The first family in order that passes explains a symbol; if
none does, the cells are listed.

Some tests compare the marked cells with the row and the column of every cell, and these have to fit
into arrays of numbers. The test for checkerboards asks first whether about half of the cells are
marked, and works the half out in binary floating point.
-/

namespace GridRules

/-- The reasons for which no rule can be discovered. -/
inductive DiscoveryFault where
  | sideNotNumber
  | negativeSide
  | tooManyCells
  | outsideArea (cell : Coord)
  | longPosition
  | notOneCharacter (symbol : String)
deriving DecidableEq, Repr

/-- What is reported of a fault of a discovery. -/
def DiscoveryFault.failure : DiscoveryFault → Failure
  | .sideNotNumber => .plain .badType
  | .negativeSide | .tooManyCells | .longPosition => .plain .badValue
  | .outsideArea _ => .plain .badIndex
  | .notOneCharacter _ => .plain .badType

namespace Mask

/-- A bound on the number of cells of an area, a side of length zero counting as one. -/
def cellLimit : Nat := Nat.pow 2 63

/-- A bound on the number of cells of an area for which the row and the column of every cell fit
into an array. -/
def indexLimit : Nat := Nat.pow 2 59

/-- The outcome of a comparison with the row and the column of every cell. -/
def indexed {α : Type} (mask : Mask) (outcome : α) : Except DiscoveryFault α :=
  if indexLimit ≤ max 1 mask.height * max 1 mask.width then .error .tooManyCells else .ok outcome

/-- Whether about half of the cells are marked, up to one cell, and any at all. -/
def isAboutHalf (mask : Mask) : Bool :=
  let half := (Binary64.rounded (mask.height * mask.width) + 1) / 2
  mask.count != 0 && mask.count ≤ half + 1 && half ≤ mask.count + 1

end Mask

namespace Finding

/-- Every cell. -/
def fill? (mask : Mask) : Option Finding :=
  if mask.agrees fun _ _ => true then some { condition := "true" } else none

/-- The outline of the area. -/
def border? (mask : Mask) : Option Finding :=
  if mask.agrees fun r c => r == 0 || r + 1 == mask.height || c == 0 || c + 1 == mask.width then
    some { condition := "r == 0 || r == H-1 || c == 0 || c == W-1" }
  else
    none

/-- The cells whose row and column are equal. -/
def diagonal? (mask : Mask) : Option Finding :=
  if mask.agrees fun r c => r == c then some { condition := "r == c" } else none

/-- The cells whose row and column add up to the last index of the shorter side. -/
def antiDiagonal? (mask : Mask) : Option Finding :=
  let side := min mask.height mask.width
  if mask.agrees fun r c => r + c + 1 == side && r < side && c < side then
    some
      { condition :=
          if mask.height ≤ mask.width then "r + c == H - 1 && c < H"
          else "r + c == W - 1 && r < W" }
  else
    none

/-- A finding whose condition moves with the area if one of the given positions does. -/
def ofPositions (condition : String) (scalable : Bool) (literal : Confidence) : Finding where
  condition := condition
  scalable := scalable
  confidence := if scalable then .exact else literal

/-- The text of a position along a side. -/
def positionText (position side : Nat) (dimension : Dimension) : Except DiscoveryFault String :=
  match relativeText? position side dimension.name with
  | some text => .ok text
  | none => .error .longPosition

/-- Whether a position along a side is written relative to it. -/
def isRelative (position : String) (dimension : Dimension) : Bool :=
  position.toList.contains dimension.letter

/-- One full row. -/
def horizontalLine? (mask : Mask) : Except DiscoveryFault (Option Finding) :=
  if mask.count = mask.width then
    match mask.rows with
    | [r] => do
      let position ← positionText r mask.height .height
      return some (ofPositions ("r == " ++ position) (isRelative position .height) .literalLine)
    | _ => .ok none
  else
    .ok none

/-- One full column. -/
def verticalLine? (mask : Mask) : Except DiscoveryFault (Option Finding) :=
  if mask.count = mask.height then
    match mask.columns with
    | [c] => do
      let position ← positionText c mask.width .width
      return some (ofPositions ("c == " ++ position) (isRelative position .width) .literalLine)
    | _ => .ok none
  else
    .ok none

/-- A rectangle between the given rows and columns, the last ones left out. -/
def rectangle (mask : Mask) (top bottom left right : Nat) : Except DiscoveryFault Finding := do
  let r₁ ← positionText top mask.height .height
  let r₂ ← positionText bottom mask.height .height
  let c₁ ← positionText left mask.width .width
  let c₂ ← positionText right mask.width .width
  return ofPositions
    ("r >= " ++ r₁ ++ " && r < " ++ r₂ ++ " && c >= " ++ c₁ ++ " && c < " ++ c₂)
    (isRelative r₁ .height || isRelative r₂ .height || isRelative c₁ .width || isRelative c₂ .width)
    .literalRectangle

/-- The smallest rectangle around the marked cells, if all of it is marked. -/
def filledRectangle? (mask : Mask) : Except DiscoveryFault (Option Finding) :=
  match mask.rows.head?, mask.rows.getLast?, mask.columns.head?, mask.columns.getLast? with
  | some top, some bottom, some left, some right =>
    if mask.count = (bottom + 1 - top) * (right + 1 - left) then
      (rectangle mask top (bottom + 1) left (right + 1)).map some
    else
      .ok none
  | _, _, _, _ => .ok none

/-- The cells with an even sum of row and column, or those with an odd one. -/
def checkerboard? (mask : Mask) : Option Finding :=
  if mask.agrees fun r c => (r + c) % 2 == 0 then
    some { condition := "(r + c) % 2 == 0" }
  else if mask.agrees fun r c => (r + c) % 2 == 1 then
    some { condition := "(r + c) % 2 == 1" }
  else
    none

/-- What the test of a family finds out about a mask. -/
def find? (mask : Mask) : Family → Except DiscoveryFault (Option Finding)
  | .fill => .ok (fill? mask)
  | .border => mask.indexed (border? mask)
  | .diagonal => mask.indexed (diagonal? mask)
  | .antiDiagonal => mask.indexed (antiDiagonal? mask)
  | .horizontalLine => horizontalLine? mask
  | .verticalLine => verticalLine? mask
  | .filledRectangle => filledRectangle? mask
  | .checkerboard => if mask.isAboutHalf then mask.indexed (checkerboard? mask) else .ok none
  | .coordinateSet => .ok none

end Finding

namespace Rule

/-- The rule of the first of some families whose test a mask passes. -/
def firstOf? (mask : Mask) (symbol : String) : List Family → Except DiscoveryFault (Option Rule)
  | [] => .ok none
  | family :: families =>
    match Finding.find? mask family with
    | .error fault => .error fault
    | .ok (some finding) => .ok (some (ofFinding family symbol finding))
    | .ok none => firstOf? mask symbol families

end Rule

/-- The length that a data value gives a side. -/
def Mask.sideOf : Value → Except DiscoveryFault Int
  | .int n => .ok n
  | _ => .error .sideNotNumber

/-- The mask of the given coordinates, all of which have to lie within the area. -/
def Mask.ofCells? (cells : List Coord) (height width : Int) : Except DiscoveryFault Mask :=
  if height < 0 ∨ width < 0 then
    .error .negativeSide
  else if Mask.cellLimit ≤ max 1 height.toNat * max 1 width.toNat then
    .error .tooManyCells
  else
    match cells.find? fun cell => !Mask.covers height.toNat width.toNat cell with
    | some cell => .error (.outsideArea cell)
    | none => .ok (Mask.ofCells height.toNat width.toNat cells)

/-- The rule that explains the given coordinates of an area. Only the listing of cells asks for a
symbol of one character. -/
def Rule.discover (cells : List Coord) (symbol : String) (height width : Int) :
    Except DiscoveryFault Rule :=
  match Mask.ofCells? cells height width with
  | .error fault => .error fault
  | .ok mask =>
    match Rule.firstOf? mask symbol Family.all with
    | .error fault => .error fault
    | .ok (some rule) => .ok rule
    | .ok none =>
      match symbol.toList with
      | [c] => .ok (coordinateSet c cells)
      | _ => .error (.notOneCharacter symbol)

end GridRules
