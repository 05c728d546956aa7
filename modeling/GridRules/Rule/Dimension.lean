import GridRules.Text.WholeNumber
import GridRules.Text.Word

/-!
# Dimensions

Conditions may refer to the height and the width of the area. A position that stands in a simple
relation to a side is written relative to it, so that it moves along when the side changes.
-/

namespace GridRules

/-- The sides of an area. -/
inductive Dimension where
  | height
  | width
deriving DecidableEq, Repr

namespace Dimension

/-- The variable that holds a dimension. -/
def letter : Dimension → Char
  | .height => 'H'
  | .width => 'W'

/-- The name of the variable that holds a dimension. -/
def name (dimension : Dimension) : String :=
  String.singleton dimension.letter

/-- Whether a letter stands in a text as a word of its own; `inWord` says whether a word character
comes right before the text. -/
def standsAlone (letter : Char) : (inWord : Bool) → List Char → Bool
  | _, [] => false
  | inWord, c :: rest =>
    (c == letter && !inWord && !(rest.head?.map Text.isWord).getD false)
      || standsAlone letter (Text.isWord c) rest

/-- The dimensions to which an expression refers, the height first. -/
def referenced (expression : String) : List Dimension :=
  [height, width].filter fun dimension =>
    standsAlone dimension.letter false expression.toList

end Dimension

/-- The text of a position along a side of the given size, relative to the side's name if the
position is the size, one or two less, or its half, its fourth or its third. Any other position is
written as a number, if it does not have too many digits. -/
def relativeText? (position size : Int) (name : String) : Option String :=
  if position = 0 then some "0"
  else if position = size then some name
  else if position = size - 1 then some (name ++ "-1")
  else if position = size.fdiv 2 then some (name ++ "/2")
  else if position = size - 2 then some (name ++ "-2")
  else if size.fmod 4 = 0 ∧ position = size.fdiv 4 then some (name ++ "/4")
  else if size.fmod 3 = 0 ∧ position = size.fdiv 3 then some (name ++ "/3")
  else Text.wholeNumberText? position

end GridRules
