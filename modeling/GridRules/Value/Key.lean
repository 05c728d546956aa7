import GridRules.Decimal.Binary64

/-!
# Keys of mappings

A value without parts that can change may be the key of an entry. Numbers and truth values are the
same key if they are equal as numbers, where a truth value counts as one or zero.
-/

namespace GridRules.Value

/-- Whether a value may be the key of an entry. -/
def isKey : Value → Bool
  | .list _ | .set _ | .mapping _ | .again _ => false
  | _ => true

/-- The whole number that a value counts as, if it is a number without a fraction part or a truth
value. -/
def whole? : Value → Option Int
  | .int n => some n
  | .bool b => some (if b then 1 else 0)
  | _ => none

/-- Whether two values are the same key. -/
def isSameKey (a b : Value) : Bool :=
  match a, b with
  | .null, .null => true
  | .text s, .text t => s == t
  | .day d, .day e => d == e
  | .moment m, .moment n => m.isSame n
  | .bytes d, .bytes e => d == e
  | .pair a b, .pair c d => isSameKey a c && isSameKey b d
  | .real x, .real y => x == y || (x.isZero && y.isZero)
  | .real x, other | other, .real x =>
    match whole? other with
    | some n => x.compareInt? n == some .eq
    | none => false
  | a, b =>
    match whole? a, whole? b with
    | some m, some n => m == n
    | _, _ => false

/-- The entries of a mapping after a further one. An entry with the same key keeps its key and its
place, and takes the new value. -/
def putEntry (entries : List (Value × Value)) (key value : Value) : List (Value × Value) :=
  if entries.any fun entry => entry.1.isSameKey key then
    entries.map fun entry => if entry.1.isSameKey key then (entry.1, value) else entry
  else
    entries ++ [(key, value)]

/-! ### The order of keys -/

/-- The kinds of keys that can be compared with each other. -/
inductive KeyKind where
  | number
  | text
  | bytes
  | day
  | moment (isZoned : Bool)
deriving DecidableEq, Repr

/-- The kind of a key, if it can be compared. -/
def keyKind? : Value → Option KeyKind
  | .bool _ | .int _ | .real _ => some .number
  | .text _ => some .text
  | .bytes _ => some .bytes
  | .day _ => some .day
  | .moment m => some (.moment m.zone.isSome)
  | _ => none

/-- Whether all keys of some entries can be compared with each other. A single one has nothing to be
compared with. -/
def areComparable (entries : List (Value × Value)) : Bool :=
  match entries with
  | [] | [_] => true
  | entry :: rest =>
    let kind := entry.1.keyKind?
    kind.isSome && rest.all fun other => other.1.keyKind? == kind

/-- How two numbers or truth values lie to each other. -/
def compareNumbers? (a b : Value) : Option Ordering :=
  match a, b with
  | .real x, .real y => x.compare? y
  | .real x, b => (whole? b).bind x.compareInt?
  | a, .real y => (whole? a).bind fun n => (y.compareInt? n).map Ordering.swap
  | a, b => do return compare (← whole? a) (← whole? b)

/-- Whether a key does not come behind another one of its kind. -/
def isOrdered (a b : Value) : Bool :=
  match a, b with
  | .text s, .text t => s ≤ t
  | .bytes d, .bytes e => d ≤ e
  | .day d, .day e => d.number ≤ e.number
  | .moment m, .moment n => m.position ≤ n.position
  | a, b => compareNumbers? a b != some .gt

end GridRules.Value
