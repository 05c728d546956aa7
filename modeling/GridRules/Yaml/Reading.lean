import GridRules.Value.Key
import GridRules.Yaml.Node
import GridRules.Yaml.ScalarValue

/-!
# Reading YAML

The value of a text follows from the tags of its nodes. A mapping may take over the entries of
others by a merge key. Of several faults the one nearest to the root counts, and of those the first.
-/

namespace GridRules.Yaml

/-! ### Outcomes -/

/-- A value, or a fault with its distance from the node at hand. What mappings take over is looked
at before the other parts on the same level, so a level has two steps. -/
abbrev Outcome (α : Type) := Except (Nat × Fault) α

namespace Outcome

/-- A fault of a node itself. -/
def fault {α : Type} (fault : Fault) : Outcome α :=
  .error (1, fault)

/-- A fault in what a mapping takes over. -/
def mergeFault {α : Type} : Outcome α :=
  .error (0, .malformed)

/-- The outcome of what lies a level below. -/
def below {α : Type} (x : Outcome α) : Outcome α :=
  x.mapError fun (distance, fault) => (distance + 2, fault)

/-- Two values, or the nearer one of two faults. -/
def both {α β : Type} (x : Outcome α) (y : Outcome β) : Outcome (α × β) :=
  match x, y with
  | .ok a, .ok b => .ok (a, b)
  | .ok _, .error fault => .error fault
  | .error fault, .ok _ => .error fault
  | .error first, .error second => .error (if second.1 < first.1 then second else first)

/-- A value in front of others, or the nearer one of two faults. -/
def cons {α : Type} (x : Outcome α) (xs : Outcome (List α)) : Outcome (List α) :=
  (both x xs).map fun (a, as) => a :: as

/-- Values in front of others, or the nearer one of two faults. -/
def append {α : Type} (xs ys : Outcome (List α)) : Outcome (List α) :=
  (both xs ys).map fun (as, bs) => as ++ bs

/-- The key of an entry; values that are no keys are faults. -/
def key (x : Outcome Value) : Outcome Value :=
  match x with
  | .ok value => if value.isKey then .ok value else fault .malformed
  | .error (distance, found) => if distance ≤ 1 then .error (distance, found) else fault .malformed

/-- The mapping of some entries, of which later ones replace earlier ones with the same key. -/
def collected (x : Outcome (List (Value × Value))) : Outcome (List (Value × Value)) :=
  x.map fun entries => entries.foldl (fun all entry => Value.putEntry all entry.1 entry.2) []

end Outcome

/-- Whether a tag is one of scalars. -/
def Tag.isScalar : Tag → Bool
  | .null | .bool | .int | .float | .timestamp | .binary | .text => true
  | _ => false

/-- Whether a tag is one of collections. -/
def Tag.isCollection : Tag → Bool
  | .sequence | .orderedMapping | .pairs | .mapping | .set => true
  | _ => false

/-- The fault of a node whose kind does not fit its tag. It shows a level deeper for tags of
collections. -/
def misfit {α : Type} (tag : Tag) : Outcome α :=
  if tag.isCollection then (Outcome.fault .malformed).below else Outcome.fault .malformed

/-! ### From nodes to values -/

mutual

/-- The text of a scalar, or of what a mapping gives as its value. -/
def Node.valueText? : Node → Option String
  | .scalar _ text => some text
  | .mapping _ entries => Node.entriesText? entries
  | _ => none

/-- The text behind the first key that marks the value of a mapping. -/
def Node.entriesText? : List (Node × Node) → Option String
  | [] => none
  | (key, node) :: entries =>
    if key.tag = .value then node.valueText? else Node.entriesText? entries

end

/-- The value of a node with a tag of scalars and the given text. -/
def scalarOutcome (tag : Tag) (text : String) : Outcome Value :=
  (scalarValue tag text).mapError fun fault => (1, fault)

mutual

/-- The value of a node. -/
def Node.value : Node → Outcome Value
  | .again tag => .ok (.again (tag = .mapping))
  | .scalar tag text => if tag.isScalar then scalarOutcome tag text else misfit tag
  | .sequence tag items =>
    match tag with
    | .sequence => Outcome.below (Value.list <$> Node.values items)
    | .orderedMapping | .pairs => Outcome.below (Value.list <$> Node.pairValues items)
    | tag => misfit tag
  | .mapping tag entries =>
    match tag with
    | .mapping => Outcome.below (Value.mapping <$> Outcome.collected (Node.entryValues entries))
    | .set =>
      Outcome.below ((fun all => Value.set (all.map Prod.fst)) <$>
        Outcome.collected (Node.entryValues entries))
    | .timestamp =>
      Outcome.fault (if (Node.entriesText? entries).isSome then .noText else .malformed)
    | tag =>
      match Node.entriesText? entries with
      | some text => if tag.isScalar then scalarOutcome tag text else misfit tag
      | none => misfit tag

/-- The values of nodes. -/
def Node.values : List Node → Outcome (List Value)
  | [] => .ok []
  | node :: nodes => Outcome.cons node.value (Node.values nodes)

/-- The pairs that mappings with one entry each stand for. -/
def Node.pairValues : List Node → Outcome (List Value)
  | [] => .ok []
  | .mapping _ [(key, node)] :: nodes =>
    Outcome.cons ((fun (a, b) => Value.pair a b) <$> Outcome.both key.value node.value)
      (Node.pairValues nodes)
  | _ => Outcome.fault .malformed

/-- The entries of a mapping: those that it takes over, and behind them its own. -/
def Node.entryValues (entries : List (Node × Node)) : Outcome (List (Value × Value)) :=
  Outcome.append (Node.mergedEntries entries) (Node.ownEntries entries)

/-- The entries that a mapping has of its own. -/
def Node.ownEntries : List (Node × Node) → Outcome (List (Value × Value))
  | [] => .ok []
  | (key, node) :: entries =>
    if key.tag = .merge then
      Node.ownEntries entries
    else
      Outcome.cons (Outcome.both (Node.keyValue key) node.value) (Node.ownEntries entries)

/-- The value of a key. One that marks the value of a mapping is its own text. -/
def Node.keyValue (node : Node) : Outcome Value :=
  if node.tag = .value then
    match node.valueText? with
    | some text => .ok (.text text)
    | none => Outcome.fault .malformed
  else
    Outcome.key node.value

/-- The entries that a mapping takes over. -/
def Node.mergedEntries : List (Node × Node) → Outcome (List (Value × Value))
  | [] => .ok []
  | (key, node) :: entries =>
    if key.tag = .merge then Outcome.append node.sources (Node.mergedEntries entries)
    else Node.mergedEntries entries

/-- The entries that a node offers to a mapping: those of a mapping, or those of several. -/
def Node.sources : Node → Outcome (List (Value × Value))
  | .mapping _ entries => Node.entryValues entries
  | .sequence _ nodes => Node.sourceLists nodes
  | .again _ => .ok []
  | .scalar _ _ => Outcome.mergeFault

/-- The entries of several mappings, the last mapping first. -/
def Node.sourceLists : List Node → Outcome (List (Value × Value))
  | [] => .ok []
  | .mapping _ entries :: nodes =>
    Outcome.append (Node.sourceLists nodes) (Node.entryValues entries)
  | .again _ :: nodes => Node.sourceLists nodes
  | _ => Outcome.mergeFault

end

/-- The value of a text; an empty text has the null value. -/
def read (text : String) : Except Fault Value := do
  match ← Node.ofTokens (← tokens text.toList) with
  | none => return .null
  | some node => node.value.mapError fun fault => fault.2

end GridRules.Yaml
