import GridRules.Cells

/-!
# Masks

A mask says for every cell of an area whether it is marked. An area may have no rows or no columns.
-/

namespace GridRules

/-- The marked cells of an area. -/
structure Mask where
  height : Nat
  width : Nat
  bits : Vector (Vector Bool width) height

namespace Mask

/-- A mask without marked cells. -/
def empty (height width : Nat) : Mask where
  height := height
  width := width
  bits := Vector.replicate height (Vector.replicate width false)

/-- The place that an index names along a side of the given length. Indices below zero count from
the end. -/
def place? (length : Nat) (index : Int) : Option Nat :=
  if 0 ≤ index ∧ index < length then some index.toNat
  else if index < 0 ∧ -(length : Int) ≤ index then some (index + length).toNat
  else none

/-- The mask with one more cell marked; a coordinate outside the area marks nothing. -/
def mark (mask : Mask) (cell : Coord) : Mask :=
  match place? mask.height cell.row, place? mask.width cell.col with
  | some r, some c =>
    match mask.bits[r]? with
    | some row => { mask with bits := mask.bits.setIfInBounds r (row.setIfInBounds c true) }
    | none => mask
  | _, _ => mask

/-- The mask of the given coordinates. -/
def ofCells (height width : Nat) (cells : List Coord) : Mask :=
  cells.foldl mark (empty height width)

/-- Whether a coordinate names a cell of the area. -/
def covers (height width : Nat) (cell : Coord) : Bool :=
  (place? height cell.row).isSome && (place? width cell.col).isSome

/-- Whether the marked cells are exactly those of a shape. -/
def agrees (mask : Mask) (shape : Nat → Nat → Bool) : Bool :=
  (List.finRange mask.height).all fun r =>
    (List.finRange mask.width).all fun c => mask.bits[r][c] == shape r c

theorem agrees_iff (mask : Mask) (shape : Nat → Nat → Bool) :
    mask.agrees shape = true ↔
      ∀ (r : Fin mask.height) (c : Fin mask.width), mask.bits[r][c] = shape r c := by
  simp [agrees, List.all_eq_true]

/-- The number of marked cells. -/
def count (mask : Mask) : Nat :=
  (mask.bits.toList.map fun row => row.toList.count true).foldr (· + ·) 0

/-- The rows with a marked cell, in increasing order. -/
def rows (mask : Mask) : List Nat :=
  ((List.finRange mask.height).filter fun r =>
    (List.finRange mask.width).any fun c => mask.bits[r][c]).map Fin.val

/-- The columns with a marked cell, in increasing order. -/
def columns (mask : Mask) : List Nat :=
  ((List.finRange mask.width).filter fun c =>
    (List.finRange mask.height).any fun r => mask.bits[r][c]).map Fin.val

end Mask

end GridRules
