/-!
# Coordinates and groups

A cell is addressed by its row and its column, both counted from zero. Coordinates may lie outside
a given grid.

Items that carry a key are gathered by key. The keys stand in the order in which they are first met,
and within a group the items keep their order.
-/

namespace GridRules

/-- A row and a column. -/
@[ext]
structure Coord where
  row : Int
  col : Int
deriving DecidableEq, Repr, Inhabited

/-- A coordinate with natural row and column. -/
def Coord.ofNat (row col : Nat) : Coord :=
  ⟨row, col⟩

/-! ### Groups -/

section Groups

variable {κ α : Type} [DecidableEq κ]

/-- The items that carry one key, in their order. -/
def itemsOf (key : κ) (items : List (κ × α)) : List α :=
  items.filterMap fun item => if item.1 = key then some item.2 else none

/-- The groups of a list of keyed items. -/
def grouped (items : List (κ × α)) : List (κ × List α) :=
  (items.map Prod.fst).eraseDups.map fun key => (key, itemsOf key items)

theorem mem_itemsOf {key : κ} {items : List (κ × α)} {a : α} :
    a ∈ itemsOf key items ↔ (key, a) ∈ items := by
  simp only [itemsOf, List.mem_filterMap, Option.ite_none_right_eq_some, Option.some.injEq]
  constructor
  · rintro ⟨⟨k, b⟩, hmem, rfl, rfl⟩
    exact hmem
  · intro h
    exact ⟨(key, a), h, rfl, rfl⟩

end Groups

/-! ### Tables of cells -/

/-- Cells by symbol. Of several entries for a symbol the last one counts. -/
abbrev CellTable := List (String × List Coord)

namespace CellTable

/-- The cells of a symbol in a table. -/
def cells? (table : CellTable) (symbol : String) : Option (List Coord) :=
  (table.reverse.find? fun entry => entry.1 == symbol).map Prod.snd

end CellTable

end GridRules
