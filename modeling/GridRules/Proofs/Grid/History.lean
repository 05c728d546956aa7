import GridRules.Proofs.Grid.Writing
import Mathlib.Data.List.DropRight

/-!
# Grids over a history of calls

After any sequence of writes and clearings, what a cell holds is settled by the writes to this cell
since the last clearing. The last erasure among them sets a bar, the stroke number `-1` if there is
none; of the later symbols whose strokes reach the bar the cell holds the one with the greatest
stroke number, the latest among equals.
-/

namespace GridRules

namespace Grid

/-- A call that may change a grid. -/
inductive Call where
  | write (place : Coord) (symbol : Option String) (stroke : Int)
  | clear
deriving DecidableEq, Repr

/-- The grid after a call. A write that ends in a fault leaves the grid as it is. -/
def after (grid : Grid) : Call → Grid
  | .write place symbol stroke =>
    match grid.write place symbol stroke with
    | .ok (next, _) => next
    | .error _ => grid
  | .clear => grid.clear

/-- The grid after calls made one after the other. -/
def afterAll (grid : Grid) (calls : List Call) : Grid :=
  calls.foldl after grid

/-- What a call writes to a place: nothing, if it names another one or if its symbol is a text that
is not one character. -/
def Call.writeTo? (place : Coord) : Call → Option Cell
  | .write target none stroke => if target = place then some ⟨none, stroke⟩ else none
  | .write target (some text) stroke =>
    if target = place then (singleCharacter? text).map fun c => ⟨some c, stroke⟩ else none
  | .clear => none

/-- What was written to a place since the last clearing, in the order of the calls. -/
def writesTo (place : Coord) (calls : List Call) : List Cell :=
  (calls.rtakeWhile fun call => call ≠ .clear).filterMap (Call.writeTo? place)

end Grid

namespace Cell

/-- The stroke number of the last erasure among some writes, `-1` if there is none. -/
def erasureStroke (writes : List Cell) : Int :=
  (((writes.filter fun write => write.symbol.isNone).getLast?).map Cell.stroke).getD (-1)

/-- The writes after the last erasure. -/
def sinceErasure (writes : List Cell) : List Cell :=
  writes.rtakeWhile fun write => write.symbol.isSome

/-- What a cell holds after symbols were written to it, if strokes under a bar do not count: the
symbol with the greatest stroke number, the latest among equals, and nothing if none reaches the
bar. -/
inductive Prevails (bar : Int) : List Cell → Cell → Prop
  | nothing {writes : List Cell} (h : ∀ write ∈ writes, write.stroke < bar) :
      Prevails bar writes ⟨none, bar⟩
  | greatest {earlier later : List Cell} {cell : Cell} (hbar : bar ≤ cell.stroke)
      (hearlier : ∀ write ∈ earlier, write.stroke ≤ cell.stroke)
      (hlater : ∀ write ∈ later, write.stroke < cell.stroke) :
      Prevails bar (earlier ++ cell :: later) cell

/-- What a cell holds after some writes to it. -/
def Settles (writes : List Cell) (cell : Cell) : Prop :=
  Prevails (erasureStroke writes) (sinceErasure writes) cell

variable {bar : Int} {writes : List Cell} {cell other write : Cell}

theorem Prevails.bar_le (h : Prevails bar writes cell) : bar ≤ cell.stroke := by
  cases h with
  | nothing h => exact le_refl bar
  | greatest hbar => exact hbar

theorem Prevails.stroke_le (h : Prevails bar writes cell) (hwrite : write ∈ writes) :
    write.stroke ≤ cell.stroke := by
  cases h with
  | nothing hbelow => exact (hbelow write hwrite).le
  | greatest _ hearlier hlater =>
      rcases List.mem_append.1 hwrite with hwrite | hwrite
      · exact hearlier write hwrite
      · rcases List.mem_cons.1 hwrite with rfl | hwrite
        · exact le_refl _
        · exact (hlater write hwrite).le

/-! ### One outcome -/

/-- No write after the prevailing one has reached its stroke number, so that a second prevailing one
cannot come later. -/
theorem Prevails.eq_of_suffix {earlier later skipped rest : List Cell}
    (hlater : ∀ write ∈ later, write.stroke < cell.stroke)
    (hearlier : ∀ write ∈ earlier ++ skipped, write.stroke ≤ other.stroke)
    (h : cell :: later = skipped ++ other :: rest) : other = cell := by
  cases skipped with
  | nil => exact (List.cons.inj h).1.symm
  | cons first skipped =>
      obtain ⟨rfl, rfl⟩ := List.cons.inj h
      have hle : cell.stroke ≤ other.stroke := hearlier cell (by simp)
      have hlt : other.stroke < cell.stroke := hlater other (by simp)
      exact absurd hle hlt.not_ge

/-- Writes settle on one outcome only. -/
theorem Prevails.unique (h : Prevails bar writes cell) (hother : Prevails bar writes other) :
    other = cell := by
  generalize hwrites : writes = all at hother
  cases h with
  | nothing hbelow =>
      cases hother with
      | nothing _ => rfl
      | @greatest earlier later _ hbar _ _ =>
          have hlt : other.stroke < bar := hbelow other (by simp [hwrites])
          exact absurd hbar hlt.not_ge
  | @greatest earlier later _ hbar hearlier hlater =>
      cases hother with
      | nothing hbelow =>
          have hlt : cell.stroke < bar := hbelow cell (by simp [← hwrites])
          exact absurd hbar hlt.not_ge
      | @greatest earlier' later' _ _ hearlier' hlater' =>
          rcases List.append_eq_append_iff.1 hwrites with ⟨skipped, rfl, heq⟩ | ⟨skipped, rfl, heq⟩
          · exact eq_of_suffix hlater hearlier' heq
          · exact (eq_of_suffix hlater' hearlier heq).symm

/-! ### Writes one after the other -/

theorem overwrite_erasure (cell : Cell) (stroke : Int) :
    cell.overwrite ⟨none, stroke⟩ = ⟨none, stroke⟩ := by
  simp [overwrite, Grid.lands]

theorem overwrite_symbol (cell : Cell) (symbol : Char) (stroke : Int) :
    cell.overwrite ⟨some symbol, stroke⟩ =
      if cell.stroke ≤ stroke then ⟨some symbol, stroke⟩ else cell := by
  simp [overwrite, Grid.lands]

theorem erasureStroke_erasure (writes : List Cell) (stroke : Int) :
    erasureStroke (writes ++ [⟨none, stroke⟩]) = stroke := by
  simp [erasureStroke]

theorem erasureStroke_symbol (writes : List Cell) (symbol : Char) (stroke : Int) :
    erasureStroke (writes ++ [⟨some symbol, stroke⟩]) = erasureStroke writes := by
  simp [erasureStroke]

theorem sinceErasure_erasure (writes : List Cell) (stroke : Int) :
    sinceErasure (writes ++ [⟨none, stroke⟩]) = [] := by
  simp [sinceErasure]

theorem sinceErasure_symbol (writes : List Cell) (symbol : Char) (stroke : Int) :
    sinceErasure (writes ++ [⟨some symbol, stroke⟩]) =
      sinceErasure writes ++ [⟨some symbol, stroke⟩] := by
  simp [sinceErasure]

/-- A further symbol takes over if its stroke number is not smaller. -/
theorem Prevails.snoc (h : Prevails bar writes cell) (symbol : Char) (stroke : Int) :
    Prevails bar (writes ++ [⟨some symbol, stroke⟩]) (cell.overwrite ⟨some symbol, stroke⟩) := by
  rw [overwrite_symbol]
  split
  · next hle =>
    exact .greatest (h.bar_le.trans hle) (fun _ hwrite => (h.stroke_le hwrite).trans hle) (by simp)
  · next hle =>
    have hlt : stroke < cell.stroke := not_le.1 hle
    cases h with
    | nothing hbelow =>
        exact .nothing (List.forall_mem_append.2 ⟨hbelow, List.forall_mem_singleton.2 hlt⟩)
    | greatest hbar hearlier hlater =>
        rw [List.append_assoc, List.cons_append]
        exact .greatest hbar hearlier
          (List.forall_mem_append.2 ⟨hlater, List.forall_mem_singleton.2 hlt⟩)

theorem settles_nil : Settles [] {} :=
  .nothing (by simp [sinceErasure])

/-- An erasure sets the bar to its own stroke number; a symbol leaves the bar where it is. -/
theorem Settles.snoc (h : Settles writes cell) (write : Cell) :
    Settles (writes ++ [write]) (cell.overwrite write) := by
  obtain ⟨symbol, stroke⟩ := write
  unfold Settles
  cases symbol with
  | none =>
      rw [erasureStroke_erasure, sinceErasure_erasure, overwrite_erasure]
      exact .nothing (by simp)
  | some symbol =>
      rw [erasureStroke_symbol, sinceErasure_symbol]
      exact Prevails.snoc h symbol stroke

/-- What a cell holds, write after write, is what its writes settle on. -/
theorem settles_foldl (writes : List Cell) : Settles writes (writes.foldl overwrite {}) := by
  induction writes using List.reverseRecOn with
  | nil => exact settles_nil
  | append_singleton writes write ih =>
      rw [List.foldl_append]
      exact ih.snoc write

end Cell

namespace Grid

variable {grid : Grid} {place : Coord}

/-! ### Calls one after the other -/

theorem writesTo_clear (place : Coord) (calls : List Call) :
    writesTo place (calls ++ [.clear]) = [] := by
  simp [writesTo]

theorem writesTo_snoc {call : Call} (h : call ≠ .clear) (place : Coord) (calls : List Call) :
    writesTo place (calls ++ [call]) = writesTo place calls ++ (call.writeTo? place).toList := by
  unfold writesTo
  rw [List.rtakeWhile_concat_pos _ _ _ (by simp [h]), List.filterMap_append]
  cases hwrite : call.writeTo? place <;> simp [hwrite]

theorem afterAll_snoc (grid : Grid) (calls : List Call) (call : Call) :
    grid.afterAll (calls ++ [call]) = (grid.afterAll calls).after call := by
  simp [afterAll]

theorem after_write_of_ok {symbol : Option String} {stroke : Int} {result : Grid × Bool}
    (h : grid.write place symbol stroke = .ok result) :
    grid.after (.write place symbol stroke) = result.1 := by
  simp [after, h]

theorem after_write_of_error {symbol : Option String} {stroke : Int} {fault : GridFault}
    (h : grid.write place symbol stroke = .error fault) :
    grid.after (.write place symbol stroke) = grid := by
  simp [after, h]

/-- A write leaves the grid alone or puts a symbol or nothing on a cell. -/
theorem after_write_eq (grid : Grid) (place : Coord) (symbol : Option String) (stroke : Int) :
    grid.after (.write place symbol stroke) = grid ∨
      ∃ glyph, grid.after (.write place symbol stroke) = (grid.put place glyph stroke).1 := by
  cases h : grid.write place symbol stroke with
  | error fault => exact .inl (after_write_of_error h)
  | ok result =>
      rw [after_write_of_ok h]
      rcases write_eq_ok h with rfl | ⟨glyph, rfl⟩
      · exact .inl rfl
      · exact .inr ⟨glyph, rfl⟩

theorem inside_after (grid : Grid) (call : Call) : (grid.after call).inside = grid.inside := by
  cases call with
  | clear => rfl
  | write place symbol stroke =>
      rcases after_write_eq grid place symbol stroke with h | ⟨glyph, h⟩
      · rw [h]
      · rw [h, inside_put]

/-- A write leaves every cell that it does not name as it is. -/
theorem cell?_after_of_ne {other : Coord} (h : other ≠ place) (symbol : Option String)
    (stroke : Int) : (grid.after (.write place symbol stroke)).cell? other = grid.cell? other := by
  rcases after_write_eq grid place symbol stroke with heq | ⟨glyph, heq⟩
  · rw [heq]
  · rw [heq, cell?_put_of_ne h]

/-- No call changes the size of a grid. -/
theorem inside_afterAll (grid : Grid) (calls : List Call) :
    (grid.afterAll calls).inside = grid.inside := by
  induction calls using List.reverseRecOn with
  | nil => rfl
  | append_singleton calls call ih => rw [afterAll_snoc, inside_after, ih]

/-- A write acts on the cell that it names, and only there. -/
theorem cell?_after {call : Call} (h : call ≠ .clear) {cell : Cell}
    (hcell : grid.cell? place = some cell) :
    (grid.after call).cell? place =
      some ((call.writeTo? place).toList.foldl Cell.overwrite cell) := by
  cases call with
  | clear => exact absurd rfl h
  | write target symbol stroke =>
      by_cases htarget : target = place
      · subst htarget
        have hinside : grid.inside target = true := inside_of_cell? hcell
        cases symbol with
        | none =>
            rw [after_write_of_ok (by rw [write, if_pos hinside])]
            simpa [Call.writeTo?] using cell?_put_self hcell none stroke
        | some text =>
            cases hc : singleCharacter? text with
            | none =>
                rw [after_write_of_error (by rw [write, if_pos hinside, hc])]
                simpa [Call.writeTo?, hc] using hcell
            | some c =>
                rw [after_write_of_ok (by rw [write, if_pos hinside, hc])]
                simpa [Call.writeTo?, hc] using cell?_put_self hcell (some c) stroke
      · rw [cell?_after_of_ne (Ne.symm htarget), hcell]
        cases symbol <;> simp [Call.writeTo?, htarget]

/-- What a cell of a fresh grid holds after some calls. -/
theorem cell?_afterAll (hstart : grid.cell? place = some {}) (calls : List Call) :
    (grid.afterAll calls).cell? place =
      some ((writesTo place calls).foldl Cell.overwrite {}) := by
  induction calls using List.reverseRecOn with
  | nil => exact hstart
  | append_singleton calls call ih =>
      rw [afterAll_snoc]
      by_cases hcall : call = .clear
      · subst hcall
        rw [writesTo_clear]
        exact cell?_clear (inside_of_cell? ih)
      · rw [writesTo_snoc hcall, List.foldl_append]
        exact cell?_after hcall ih

/-! ### Grids made from a size -/

/-- A coordinate lies in an area of the given size. -/
def Within (height width : Int) (place : Coord) : Prop :=
  (0 ≤ place.row ∧ place.row < height) ∧ 0 ≤ place.col ∧ place.col < width

/-- What a write to a grid of the given size does. Its reply says whether it landed, which it does
unless the stroke number of a symbol is smaller than that of the cell. -/
structure WritesByStroke (height width : Int) (grid : Grid) (place : Coord)
    (symbol : Option String) (stroke : Int) : Prop where
  reply : Within height width place → (∀ text ∈ symbol, text.length = 1) →
    ∃ cell landed, grid.cell? place = some cell ∧
      grid.write place symbol stroke = .ok (grid.after (.write place symbol stroke), landed) ∧
      (landed = true ↔ symbol = none ∨ cell.stroke ≤ stroke) ∧
      (landed = false → grid.after (.write place symbol stroke) = grid)
  fault : Within height width place → ∀ text, symbol = some text → text.length ≠ 1 →
    ∃ fault, grid.write place symbol stroke = .error fault ∧
      fault.failure.category = .validation ∧ fault.failure.code = some "INVALID_SYMBOL" ∧
      grid.after (.write place symbol stroke) = grid
  outside : ¬Within height width place →
    grid.write place symbol stroke = .ok (grid, false) ∧
      grid.after (.write place symbol stroke) = grid
  others : ∀ other, other ≠ place →
    (grid.after (.write place symbol stroke)).cell? other = grid.cell? other

theorem inside_ofSize {height width : Int} (h : Grid.ofSize height width = .ok grid) :
    grid.inside place = true ↔ Within height width place := by
  obtain ⟨-, hheight, hwidth, rfl⟩ := ofSize_eq_ok h
  have hrows : (height.toNat : Int) = height := Int.toNat_of_nonneg (by omega)
  have hcolumns : (width.toNat : Int) = width := Int.toNat_of_nonneg (by omega)
  rw [inside_iff, Within]
  simp only [blank, hrows, hcolumns]

theorem cell?_ofSize {height width : Int} (h : Grid.ofSize height width = .ok grid)
    (hinside : grid.inside place = true) : grid.cell? place = some {} := by
  have hcleared : grid.clear = grid := by
    obtain ⟨-, _, _, rfl⟩ := ofSize_eq_ok h
    rfl
  rw [← hcleared]
  exact cell?_clear hinside

theorem writesByStroke {height width : Int}
    (hinside : ∀ place, grid.inside place = true ↔ Within height width place) (place : Coord)
    (symbol : Option String) (stroke : Int) :
    WritesByStroke height width grid place symbol stroke where
  reply := by
    intro hwithin hsymbol
    have hplace := (hinside place).2 hwithin
    obtain ⟨cell, hcell⟩ := exists_cell?_of_inside hplace
    obtain ⟨glyph, hglyph, hwrite⟩ := write_of_length_eq_one hplace hsymbol stroke
    refine ⟨cell, lands cell glyph stroke, hcell, ?_⟩
    rw [after_write_of_ok hwrite, hwrite, lands_iff, hglyph]
    cases hlands : lands cell glyph stroke with
    | false => simp [put_of_not_lands hcell hlands]
    | true => simp [put_of_lands hcell hlands]
  fault := by
    rintro hwithin text rfl htext
    have hwrite := write_of_length_ne_one ((hinside place).2 hwithin) htext stroke
    exact ⟨_, hwrite, rfl, rfl, after_write_of_error hwrite⟩
  outside := by
    intro hwithin
    have hwrite := write_of_not_inside (fun h => hwithin ((hinside place).1 h)) symbol stroke
    exact ⟨hwrite, after_write_of_ok hwrite⟩
  others := fun _ hother => cell?_after_of_ne hother symbol stroke

/-- A grid made from a size, after any calls: each of its cells holds what the writes to it since
the last clearing settle on, and the next write goes by its stroke number. -/
theorem ofSize_history {height width : Int} {start : Grid}
    (h : Grid.ofSize height width = .ok start) (calls : List Call) :
    (∀ place, Within height width place → ∃ cell,
      (start.afterAll calls).cell? place = some cell ∧
        ∀ other, Cell.Settles (writesTo place calls) other ↔ other = cell) ∧
    ∀ place symbol stroke,
      WritesByStroke height width (start.afterAll calls) place symbol stroke := by
  constructor
  · intro place hwithin
    have hstart : start.cell? place = some {} := cell?_ofSize h ((inside_ofSize h).2 hwithin)
    refine ⟨_, cell?_afterAll hstart calls, fun other => ⟨?_, ?_⟩⟩
    · exact fun hother => (Cell.settles_foldl _).unique hother
    · rintro rfl
      exact Cell.settles_foldl _
  · apply writesByStroke
    intro place
    rw [inside_afterAll]
    exact inside_ofSize h

/-- An erasure with a low stroke number lets later symbols with low stroke numbers in. -/
theorem ofSize_history_erased :
    ∃ start calls, Grid.ofSize 2 2 = .ok start ∧
      calls = [.write ⟨0, 1⟩ (some "a") 5, .write ⟨0, 1⟩ none 1, .write ⟨0, 1⟩ (some "b") 3,
        .write ⟨1, 1⟩ (some "c") 9, .write ⟨0, 1⟩ (some "dd") 7, .write ⟨0, 1⟩ (some "e") 2] ∧
      (start.afterAll calls).cell? ⟨0, 1⟩ = some ⟨some 'b', 3⟩ := by
  obtain ⟨start, hstart⟩ : ∃ start, Grid.ofSize 2 2 = .ok start := ⟨_, rfl⟩
  refine ⟨start, _, hstart, rfl, ?_⟩
  obtain ⟨hcells, -⟩ := ofSize_history hstart _
  obtain ⟨cell, hcell, hsettles⟩ := hcells ⟨0, 1⟩ (by simp [Within])
  rw [hcell, ← (hsettles ⟨some 'b', 3⟩).1]
  -- Only the two symbols after the erasure count.
  exact @Cell.Prevails.greatest _ [] [⟨some 'e', 2⟩] _ (by decide) (by decide) (by decide)

end Grid

end GridRules
