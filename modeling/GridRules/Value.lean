import GridRules.Calendar

/-!
# Data values

The values that a data file, a setting or the details of a failure can hold. A mapping keeps its
entries in the order of insertion.
-/

namespace GridRules

/-- A binary floating-point number of 64 bits. Two numbers are the same if their bits are. -/
structure Binary64 where
  bits : UInt64
deriving DecidableEq, Repr, Inhabited

/-- A value of a data file. A list or mapping that holds itself has a mark of that, `again`, where
it would begin anew. -/
inductive Value where
  | null
  | bool (b : Bool)
  | int (n : Int)
  | real (x : Binary64)
  | text (s : String)
  | day (d : Day)
  | moment (m : Moment)
  | bytes (data : List UInt8)
  | list (items : List Value)
  | pair (first second : Value)
  | set (members : List Value)
  | mapping (entries : List (Value × Value))
  | again (isMapping : Bool)
deriving Repr, Inhabited

namespace Value

/-- A mapping whose keys are texts. -/
def object (entries : List (String × Value)) : Value :=
  .mapping (entries.map fun entry => (.text entry.1, entry.2))

/-- The value of an entry with a text key; of several the last. -/
def field? (key : String) : Value → Option Value
  | .mapping entries =>
    entries.reverse.findSome? fun
      | (.text k, v) => if k == key then some v else none
      | _ => none
  | _ => none

end Value

end GridRules
