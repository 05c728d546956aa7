import GridRules.Decimal.Arithmetic
import GridRules.Failure
import GridRules.Value.Display

/-!
# The layout of programs

The layout says how deep the lines of a program are indented and how alternatives are laid out in a
condition. It may hold values of any kind. A value that does not fit is a fault only where it is
used, and so is a number that has too many digits to be shown.
-/

namespace GridRules

/-! ### Multiples of values -/

namespace Value

/-- A text, `count` times. -/
def repeated (text : String) : Nat → String
  | 0 => ""
  | count + 1 => repeated text count ++ text

/-- A list, `count` times. -/
def repeatedList {α : Type} (items : List α) (count : Nat) : List α :=
  (List.replicate count items).flatten

/-- The multiple of a value: a number is multiplied by the count, and a text, bytes and a list are
repeated. Truth values count as one and zero. Other values have no multiples. -/
def multiple? (count : Nat) : Value → Option Value
  | .bool b => some (.int (if b then count else 0))
  | .int n => some (.int (n * count))
  | .real x => (Binary64.ofNat? count).map fun y => .real (x.product y)
  | .text s => some (.text (repeated s count))
  | .bytes data => some (.bytes (repeatedList data count))
  | .list items => some (.list (repeatedList items count))
  | .null | .day _ | .moment _ | .pair _ _ | .set _ | .mapping _ | .again _ => none

end Value

/-! ### Layouts -/

/-- The reasons for which a program has no text. -/
inductive LayoutFault where
  | badIndent
  | badThreshold
  | longNumber
deriving DecidableEq, Repr

/-- What is reported of a program without a text. -/
def LayoutFault.failure : LayoutFault → Failure
  | .badIndent | .badThreshold => .plain .badType
  | .longNumber => .plain .badValue

/-- The layout of program text: the number of cells above which they are gathered by row, the number
of alternatives that still stand on one line, and one step of indentation. -/
structure Layout where
  groupingThreshold : Value := .int 20
  wrapThreshold : Value := .int 5
  indent : Value := .text "    "
deriving Repr, Inhabited

namespace Layout

/-- The text of a value in a program. -/
def shown (value : Value) : Except LayoutFault String :=
  if value.hasLongNumber then .error .longNumber else .ok value.shown

/-- The indentation of a nesting level. -/
def indentation (layout : Layout) (level : Nat) : Except LayoutFault String :=
  match layout.indent.multiple? level with
  | none => .error .badIndent
  | some step => shown step

/-- The text between alternatives on lines of their own. Only a text can be put into it. -/
def lineJoiner (layout : Layout) : Except LayoutFault String :=
  match layout.indent with
  | .text step => .ok (" ||\n" ++ Value.repeated step 4)
  | _ => .error .badIndent

/-- Whether so many cells are gathered by row. Nothing is above what is no number of the real line.
-/
def gathers (layout : Layout) (count : Nat) : Except LayoutFault Bool :=
  match layout.groupingThreshold with
  | .int n => .ok (n < count)
  | .bool b => .ok ((if b then 1 else 0) < count)
  | .real x => .ok (x.compareInt? count == some .lt)
  | _ => .error .badThreshold

/-- Whether so many alternatives stand on one line. None do under what is no number of the real
line. -/
def keepsLine (layout : Layout) (count : Nat) : Except LayoutFault Bool :=
  match layout.wrapThreshold with
  | .int n => .ok (count ≤ n)
  | .bool b => .ok (count ≤ if b then 1 else 0)
  | .real x => .ok (x.compareInt? count == some .gt || x.compareInt? count == some .eq)
  | _ => .error .badThreshold

end Layout

end GridRules
