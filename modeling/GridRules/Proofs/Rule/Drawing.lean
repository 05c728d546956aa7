import GridRules.Rule.Drawing
import Mathlib.Data.List.Basic

/-!
# Drawings

A drawing has as many rows as it is high. Joined by line feeds, and with one more line feed at the
end, its rows are lines that all end in a line feed.
-/

namespace GridRules

open Program

/-- Lines with a line feed behind each. -/
def endedLines (lines : List (List Char)) : List Char :=
  lines.flatMap fun line => line ++ ['\n']

theorem endedLines_eq_unlines {lines : List (List Char)} (h : lines ≠ []) :
    endedLines lines = Text.unlines lines ++ ['\n'] := by
  induction lines with
  | nil => exact absurd rfl h
  | cons line lines ih =>
      cases lines with
      | nil => simp [endedLines, Text.unlines]
      | cons next rest =>
          have hrest := ih (by simp)
          simp only [endedLines, List.flatMap_cons] at hrest ⊢
          rw [hrest]
          simp [Text.unlines]

variable {tests : List (String × Test)} {blank : String} {height width : Int}

theorem length_of_drawRows {count : Nat} {row : Int} {lines : List (List Char)}
    (h : drawRows tests blank height width count row = .ok lines) : lines.length = count := by
  induction count generalizing row lines with
  | zero =>
      obtain rfl := Except.ok.inj h
      rfl
  | succ count ih =>
      rw [drawRows] at h
      split at h
      · cases h
      · split at h
        · cases h
        · next hrest =>
            obtain rfl := Except.ok.inj h
            simp [ih hrest]

/-- The drawing of rules whose conditions are read. -/
theorem draw_of_tests {rules : List Rule} {table : CellTable}
    (h : Rule.tests table rules = .ok tests) :
    Rule.draw rules height width table blank =
      match drawRows tests blank height width height.toNat 0 with
      | .error fault => .error (.unfinished (.evaluation fault))
      | .ok rows => .ok (String.ofList (Text.unlines rows)) := by
  cases hdraw : drawRows tests blank height width height.toNat 0 <;> simp [Rule.draw, h, hdraw]

/-! ### Tests that know the symbol of a cell -/

/-- The tests of rules are the tests of each rule with its symbol. -/
theorem mem_tests_iff {rules : List Rule} {table : CellTable}
    (h : Rule.tests table rules = .ok tests)
    {symbol : String} {test : Test} :
    (symbol, test) ∈ tests ↔ ∃ rule ∈ rules, rule.symbol = symbol ∧ rule.test table = .ok test := by
  induction rules generalizing tests with
  | nil =>
      obtain rfl := Except.ok.inj h
      simp
  | cons rule rules ih =>
      rw [Rule.tests] at h
      split at h
      · cases h
      · next first hfirst =>
          split at h
          · cases h
          · next rest hrest =>
              obtain rfl := Except.ok.inj h
              rw [List.mem_cons, ih hrest, List.exists_mem_cons_iff, hfirst]
              simp [eq_comm]

/-- Rules whose conditions can each be read can be read together. -/
theorem exists_tests {rules : List Rule} {table : CellTable}
    (h : ∀ rule ∈ rules, ∃ test, rule.test table = .ok test) :
    ∃ tests, Rule.tests table rules = .ok tests := by
  induction rules with
  | nil => exact ⟨[], rfl⟩
  | cons rule rules ih =>
      obtain ⟨test, htest⟩ := h rule (by simp)
      obtain ⟨tests, htests⟩ := ih fun rule hrule => h rule (by simp [hrule])
      exact ⟨(rule.symbol, test) :: tests, by simp [Rule.tests, htest, htests]⟩

/-- Every test holds on the cell exactly if its symbol is that of the cell, and the symbol of the
cell has a test. -/
structure Knows (tests : List (String × Test)) (height width : Int) (cell : Coord)
    (glyph : Option Char) : Prop where
  holds : ∀ symbol test, (symbol, test) ∈ tests → ∃ c, symbol = String.singleton c ∧
    test.holds cell height width = .ok (decide (glyph = some c))
  covers : ∀ c, glyph = some c → ∃ test, (String.singleton c, test) ∈ tests

/-- Such tests draw the symbol of the cell, in whatever order they stand. -/
theorem Knows.drawCell_eq {cell : Coord} {glyph : Option Char}
    (h : Knows tests height width cell glyph) (blank : String) :
    drawCell blank height width cell tests = .ok ((glyph.map String.singleton).getD blank) := by
  induction tests with
  | nil =>
      cases glyph with
      | none => rfl
      | some c =>
          obtain ⟨test, htest⟩ := h.covers c rfl
          cases htest
  | cons entry tests ih =>
      obtain ⟨symbol, test⟩ := entry
      obtain ⟨c, rfl, hholds⟩ := h.holds symbol test (by simp)
      rw [drawCell, hholds]
      by_cases hc : glyph = some c
      · simp [hc]
      · simp only [hc, decide_false]
        refine ih ⟨fun other test hmem => h.holds other test (by simp [hmem]), fun d hd => ?_⟩
        obtain ⟨test', hmem⟩ := h.covers d hd
        rcases List.mem_cons.1 hmem with heq | hmem
        · have hsymbol : d = c := String.singleton_inj.1 (Prod.mk.inj heq).1
          exact absurd (hsymbol ▸ hd) hc
        · exact ⟨test', hmem⟩

/-! ### Drawings of rows of items -/

/-- A row is drawn item by item. -/
theorem drawRow_of_items {ι : Type} (text : ι → String) {row : Int} (items : List ι) (col : Nat)
    (h : ∀ i (hi : i < items.length),
      drawCell blank height width ⟨row, (col + i : Nat)⟩ tests = .ok (text items[i])) :
    drawRow tests blank height width row items.length col =
      .ok (items.flatMap fun item => (text item).toList) := by
  induction items generalizing col with
  | nil => rfl
  | cons item items ih =>
      have hfirst := h 0 (by simp)
      have hrest := ih (col + 1) (fun i hi => by
        have hnext := h (i + 1) (by simpa using hi)
        rw [show col + (i + 1) = col + 1 + i by omega] at hnext
        exact hnext)
      simp only [Nat.add_zero, List.getElem_cons_zero] at hfirst
      rw [List.length_cons, drawRow, hfirst]
      push_cast at hrest
      simp [hrest]

/-- A drawing is drawn row by row. -/
theorem drawRows_of_items {ι : Type} (line : ι → List Char) (items : List ι) (row : Nat)
    (h : ∀ i (hi : i < items.length),
      drawRow tests blank height width ((row + i : Nat) : Int) width.toNat 0 =
        .ok (line items[i])) :
    drawRows tests blank height width items.length row = .ok (items.map line) := by
  induction items generalizing row with
  | nil => rfl
  | cons item items ih =>
      have hfirst := h 0 (by simp)
      have hrest := ih (row + 1) (fun i hi => by
        have hnext := h (i + 1) (by simpa using hi)
        rw [show row + (i + 1) = row + 1 + i by omega] at hnext
        exact hnext)
      simp only [Nat.add_zero, List.getElem_cons_zero] at hfirst
      rw [List.length_cons, drawRows, hfirst]
      push_cast at hrest
      simp [hrest]

end GridRules
