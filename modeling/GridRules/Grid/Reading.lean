import GridRules.Grid.Basic

/-!
# Reading a grid from text

The lines of a drawing become the rows of a grid as wide as the longest line. A character becomes
the symbol of its cell, unless it is the blank character, which leaves the cell empty.
-/

namespace GridRules.Grid

/-- The cell drawn by one character: occupied by the first stroke, or never written. -/
def drawnCell (blank : Option Char) (c : Char) : Cell :=
  if some c = blank then {} else ⟨some c, 0⟩

/-- One row of the given width; what lies beyond the end of the line was never written. -/
def drawnRow (blank : Option Char) (width : Nat) (line : List Char) : Vector Cell width :=
  let cells := (line.map (drawnCell blank)).toArray
  Vector.ofFn fun c => cells[c.val]?.getD {}

/-- The length of the longest line. -/
def longest (lines : List (List Char)) : Nat :=
  lines.foldl (fun width line => max width line.length) 0

/-- The grid that lines draw. Without any character there is no grid. -/
def ofLines (lines : List (List Char)) (blank : Option Char) : Except GridFault Grid :=
  if h : 0 < lines.length ∧ 0 < longest lines then
    .ok
      { height := lines.length
        width := longest lines
        cells := Vector.mk (lines.map (drawnRow blank (longest lines))).toArray (by simp)
        height_pos := h.1
        width_pos := h.2 }
  else
    .error .emptyPattern

/-- The grid that a text draws. A carriage return before a line feed is dropped, and a line feed at
the end does not begin another row. -/
def ofText (text : String) (blank : Option Char := some ' ') : Except GridFault Grid :=
  ofLines (Text.lines (Text.dropFinalNewline (Text.dropCarriageReturns text.toList))) blank

end GridRules.Grid
