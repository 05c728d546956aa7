import GridRules.Proofs.Grid.Symbols

/-!
# Canonical texts of grids

Drawn with one character in place of missing symbols, a grid has a character for every cell, row by
row. If that character and the line ends occur among none of its symbols, the text is read back as a
grid of the same size with the same symbols.
-/

namespace GridRules

/-- The character drawn on a cell. -/
def Cell.glyph (blank : Char) (cell : Cell) : Char :=
  cell.symbol.getD blank

namespace Grid

variable {grid : Grid} {blank : Char}

/-! ### Drawn rows -/

theorem drawnRows_singleton (grid : Grid) (blank : Char) :
    grid.drawnRows [blank] =
      grid.cells.toList.map fun row => row.toList.map (Cell.glyph blank) := by
  have hcell (cell : Cell) :
      (cell.symbol.map fun c => [c]).getD [blank] = [cell.glyph blank] := by
    cases h : cell.symbol <;> simp [Cell.glyph, h]
  simp only [drawnRows, hcell, List.map_eq_flatMap]

theorem toList_render (grid : Grid) (blank : Char) :
    (grid.render (String.singleton blank)).toList = Text.unlines (grid.drawnRows [blank]) := by
  simp [render]

theorem length_drawnRows (grid : Grid) (blank : Char) :
    (grid.drawnRows [blank]).length = grid.height := by
  simp [drawnRows_singleton]

theorem drawnRows_ne_nil (grid : Grid) (blank : Char) : grid.drawnRows [blank] ≠ [] := by
  have hpos := grid.height_pos
  rw [← length_drawnRows grid blank] at hpos
  exact List.ne_nil_of_length_pos hpos

theorem getElem_drawnRows {r : Nat} (hr : r < grid.height)
    (hr' : r < (grid.drawnRows [blank]).length) :
    (grid.drawnRows [blank])[r] = grid.cells[r].toList.map (Cell.glyph blank) := by
  simp [drawnRows_singleton]

theorem length_of_mem_drawnRows {line : List Char} (h : line ∈ grid.drawnRows [blank]) :
    line.length = grid.width := by
  rw [drawnRows_singleton] at h
  obtain ⟨row, -, rfl⟩ := List.mem_map.1 h
  simp

/-- A drawn character is the blank one or the symbol of a cell. -/
theorem eq_blank_or_symbol?_of_mem_drawnRows {line : List Char}
    (h : line ∈ grid.drawnRows [blank]) {c : Char} (hc : c ∈ line) :
    c = blank ∨ ∃ place, grid.symbol? place = some c := by
  obtain ⟨r, hr, rfl⟩ := List.getElem_of_mem h
  have hheight : r < grid.height := by rwa [length_drawnRows] at hr
  rw [getElem_drawnRows hheight] at hc
  obtain ⟨i, hi, rfl⟩ := List.getElem_of_mem hc
  have hwidth : i < grid.width := by simpa using hi
  rw [List.getElem_map, Vector.getElem_toList]
  cases hsymbol : grid.cells[r][i].symbol with
  | none => exact .inl (by simp [Cell.glyph, hsymbol])
  | some symbol =>
      refine .inr ⟨Coord.ofNat r i, ?_⟩
      rw [symbol?_ofNat hheight hwidth, hsymbol]
      simp [Cell.glyph, hsymbol]

theorem longest_drawnRows (grid : Grid) (blank : Char) :
    longest (grid.drawnRows [blank]) = grid.width := by
  apply le_antisymm
  · exact longest_le_iff.2 fun line hline => (length_of_mem_drawnRows hline).le
  · obtain ⟨line, hline⟩ := List.exists_mem_of_ne_nil _ (drawnRows_ne_nil grid blank)
    rw [← length_of_mem_drawnRows hline]
    exact longest_le_iff.1 le_rfl line hline

/-- The last place of a grid. -/
def lastPlace (grid : Grid) : Coord :=
  Coord.ofNat (grid.height - 1) (grid.width - 1)

/-- A drawn grid ends with what is drawn on its last cell. -/
theorem getLast?_render (grid : Grid) (blank : Char) :
    (grid.render (String.singleton blank)).toList.getLast? =
      some ((grid.symbol? grid.lastPlace).getD blank) := by
  have hr : grid.height - 1 < grid.height := Nat.sub_one_lt_of_lt grid.height_pos
  have hc : grid.width - 1 < grid.width := Nat.sub_one_lt_of_lt grid.width_pos
  have hlast : (grid.drawnRows [blank]).getLast? =
      some (grid.cells[grid.height - 1].toList.map (Cell.glyph blank)) := by
    rw [List.getLast?_eq_getElem?, length_drawnRows, ← getElem_drawnRows hr (by
      rwa [length_drawnRows]), List.getElem?_eq_getElem]
  have hne : grid.cells[grid.height - 1].toList.map (Cell.glyph blank) ≠ [] := by
    apply List.ne_nil_of_length_pos
    simpa using grid.width_pos
  rw [toList_render, Text.getLast?_unlines hlast hne, lastPlace, symbol?_ofNat hr hc,
    List.getLast?_eq_getElem?]
  simp [Cell.glyph, hc]

/-! ### Grids of lines -/

/-- The symbols of the grid that lines draw. -/
theorem symbol?_of_ofLines {lines : List (List Char)} {blank : Option Char}
    (h : ofLines lines blank = .ok grid) {r c : Nat} (hr : r < lines.length)
    (hc : c < longest lines) :
    grid.symbol? (Coord.ofNat r c) = (lines[r][c]?).bind fun symbol =>
      (drawnCell blank symbol).symbol := by
  obtain ⟨hheight, hwidth, -⟩ := ofLines_eq_ok h
  rw [symbol?_ofNat (by rwa [hheight]) (by rwa [hwidth])]
  unfold ofLines at h
  split at h
  · obtain rfl := Except.ok.inj h
    cases hsymbol : lines[r][c]? <;> simp [drawnRow, hsymbol]
  · cases h

/-- The grid that lines draw shows them padded to the longest one, with one character where they
have the blank one. -/
theorem drawnRows_of_ofLines {lines : List (List Char)} {blank : Char}
    (h : ofLines lines (some blank) = .ok grid) (shown : Char) :
    grid.drawnRows [shown] = lines.map fun line =>
      (line.map fun c => if c = blank then shown else c) ++
        List.replicate (longest lines - line.length) shown := by
  have hglyph (c : Char) :
      (drawnCell (some blank) c).glyph shown = if c = blank then shown else c := by
    rw [drawnCell]
    by_cases hc : c = blank <;> simp [hc, Cell.glyph]
  have hrow (line : List Char) (hline : line ∈ lines) :
      (drawnRow (some blank) (longest lines) line).toList.map (Cell.glyph shown) =
        (line.map fun c => if c = blank then shown else c) ++
          List.replicate (longest lines - line.length) shown := by
    have hlength : line.length ≤ longest lines := longest_le_iff.1 le_rfl line hline
    apply List.ext_getElem
    · simp only [List.length_map, Vector.length_toList, List.length_append, List.length_replicate]
      omega
    · intro i hi hi'
      by_cases hlt : i < line.length
      · simp [drawnRow, hlt, hglyph]
      · simp [drawnRow, hlt, List.getElem_append, Cell.glyph]
  rw [drawnRows_singleton]
  unfold ofLines at h
  split at h
  · obtain rfl := Except.ok.inj h
    simp only [Vector.toList_mk, List.map_map]
    exact List.map_congr_left hrow
  · cases h

/-- A symbol other than the blank character is read as it is drawn, and so is a missing one. -/
theorem symbol_drawnCell_glyph {cell : Cell} (h : cell.symbol ≠ some blank) :
    (drawnCell (some blank) (cell.glyph blank)).symbol = cell.symbol := by
  cases hsymbol : cell.symbol with
  | none => simp [Cell.glyph, drawnCell, hsymbol]
  | some symbol =>
      rw [hsymbol] at h
      simp [Cell.glyph, drawnCell, hsymbol, h]

theorem symbol?_of_not_holds {place : Coord} (h : ¬Mask.Holds grid.height grid.width place) :
    grid.symbol? place = none :=
  Option.eq_none_iff_forall_ne_some.2 fun _ hsymbol => h (holds_of_symbol? hsymbol)

/-- A grid is found again in its rows, if the blank character is none of its symbols. -/
theorem ofLines_drawnRows (h : ∀ place, grid.symbol? place ≠ some blank) :
    ∃ copy, ofLines (grid.drawnRows [blank]) (some blank) = .ok copy ∧
      copy.height = grid.height ∧ copy.width = grid.width ∧
      ∀ place, copy.symbol? place = grid.symbol? place := by
  have hpos : 0 < (grid.drawnRows [blank]).length ∧ 0 < longest (grid.drawnRows [blank]) := by
    rw [length_drawnRows, longest_drawnRows]
    exact ⟨grid.height_pos, grid.width_pos⟩
  obtain ⟨copy, hcopy⟩ : ∃ copy, ofLines (grid.drawnRows [blank]) (some blank) = .ok copy :=
    ⟨_, dif_pos hpos⟩
  obtain ⟨hheight, hwidth, -⟩ := ofLines_eq_ok hcopy
  rw [length_drawnRows] at hheight
  rw [longest_drawnRows] at hwidth
  refine ⟨copy, hcopy, hheight, hwidth, ?_⟩
  intro place
  by_cases hplace : Mask.Holds grid.height grid.width place
  · obtain ⟨r, c, rfl⟩ := hplace.exists_ofNat
    have hcell : grid.cells[(r : Nat)][(c : Nat)].symbol ≠ some blank := by
      rw [← symbol?_ofNat r.2 c.2]
      exact h _
    rw [symbol?_of_ofLines hcopy (by simp [length_drawnRows]) (by simp [longest_drawnRows]),
      getElem_drawnRows r.2, symbol?_ofNat r.2 c.2]
    simpa using symbol_drawnCell_glyph hcell
  · have hcopy : ¬Mask.Holds copy.height copy.width place := by rwa [hheight, hwidth]
    rw [symbol?_of_not_holds hplace, symbol?_of_not_holds hcopy]

/-! ### Texts of grids -/

theorem exists_getLast?_drawnRows (grid : Grid) (blank : Char) :
    ∃ line ∈ grid.drawnRows [blank], (grid.drawnRows [blank]).getLast? = some line ∧ line ≠ [] := by
  obtain ⟨line, hline⟩ := Option.isSome_iff_exists.1
    (List.getLast?_isSome.2 (drawnRows_ne_nil grid blank))
  have hmem := List.mem_of_getLast? hline
  refine ⟨line, hmem, hline, List.ne_nil_of_length_pos ?_⟩
  rw [length_of_mem_drawnRows hmem]
  exact grid.width_pos

/-- The text of a grid, with or without a line feed behind it, has the drawn rows as its lines, if
no line end is drawn. -/
theorem lines_render {ending : String} (hending : ending ∈ ["", "\n"])
    (hdrawn : ∀ line ∈ grid.drawnRows [blank], '\n' ∉ line ∧ '\r' ∉ line) :
    Text.lines (Text.dropFinalNewline (Text.dropCarriageReturns
        (grid.render (String.singleton blank) ++ ending).toList)) = grid.drawnRows [blank] := by
  have hreturn : '\r' ∉ Text.unlines (grid.drawnRows [blank]) := by
    intro hmem
    rcases Text.mem_unlines hmem with hfeed | ⟨line, hline, hc⟩
    · exact absurd hfeed (by decide)
    · exact (hdrawn line hline).2 hc
  have hlines : Text.lines (Text.unlines (grid.drawnRows [blank])) = grid.drawnRows [blank] :=
    Text.lines_unlines (drawnRows_ne_nil grid blank) fun line hline => (hdrawn line hline).1
  rw [String.toList_append, toList_render]
  rcases List.mem_pair.1 hending with rfl | rfl
  · obtain ⟨line, hline, hlast, hne⟩ := exists_getLast?_drawnRows grid blank
    have hend : (Text.unlines (grid.drawnRows [blank])).getLast? ≠ some '\n' := by
      rw [Text.getLast?_unlines hlast hne]
      exact fun hfeed => (hdrawn line hline).1 (List.mem_of_getLast? hfeed)
    rw [show ("" : String).toList = [] from rfl, List.append_nil,
      Text.dropCarriageReturns_of_notMem hreturn, Text.dropFinalNewline_of_getLast?_ne hend, hlines]
  · rw [show ("\n" : String).toList = ['\n'] from rfl,
      Text.dropCarriageReturns_of_notMem (by simp [hreturn]), Text.dropFinalNewline_append, hlines]

/-- A grid drawn with a blank character that is neither a line end nor one of its symbols, none of
which is a line end, is read back with the same size and the same symbols. A line feed behind the
text makes no difference. -/
theorem ofText_render (grid : Grid) {blank : Char} (hblank : blank ≠ '\n' ∧ blank ≠ '\r')
    (hsymbols : ∀ place symbol, grid.symbol? place = some symbol →
      symbol ≠ '\n' ∧ symbol ≠ '\r' ∧ symbol ≠ blank)
    {ending : String} (hending : ending ∈ ["", "\n"]) :
    ∃ copy, ofText (grid.render (String.singleton blank) ++ ending) (some blank) = .ok copy ∧
      copy.height = grid.height ∧ copy.width = grid.width ∧
      ∀ place, copy.symbol? place = grid.symbol? place := by
  have hdrawn : ∀ line ∈ grid.drawnRows [blank], '\n' ∉ line ∧ '\r' ∉ line := by
    intro line hline
    have hends {c : Char} (hc : c ∈ line) : c ≠ '\n' ∧ c ≠ '\r' := by
      rcases eq_blank_or_symbol?_of_mem_drawnRows hline hc with rfl | ⟨place, hplace⟩
      · exact hblank
      · exact ⟨(hsymbols place c hplace).1, (hsymbols place c hplace).2.1⟩
    exact ⟨fun hc => (hends hc).1 rfl, fun hc => (hends hc).2 rfl⟩
  rw [ofText, lines_render hending hdrawn]
  exact ofLines_drawnRows fun place hplace => (hsymbols place blank hplace).2.2 rfl

/-- A grid of one star, whose last row and last column are empty, is read back from its text. -/
theorem ofText_render_star :
    ∃ start grid copy, Grid.ofSize 2 3 = .ok start ∧
      start.write ⟨0, 1⟩ (some "*") 0 = .ok (grid, true) ∧ grid.render "." = ".*.\n..." ∧
      Grid.ofText ".*.\n...\n" (some '.') = .ok copy ∧ copy.height = 2 ∧ copy.width = 3 ∧
      ∀ place, copy.symbol? place = grid.symbol? place := by
  have hstart : Grid.ofSize 2 3 = .ok _ := rfl
  obtain ⟨grid, hgrid⟩ : ∃ grid : Grid,
      grid = ((blank 2 3 (by decide) (by decide)).put ⟨0, 1⟩ (some '*') 0).1 := ⟨_, rfl⟩
  have hsymbols : ∀ place symbol, grid.symbol? place = some symbol →
      symbol ≠ '\n' ∧ symbol ≠ '\r' ∧ symbol ≠ '.' := by
    have hall : ∀ entry ∈ grid.occupied, entry.2 ≠ '\n' ∧ entry.2 ≠ '\r' ∧ entry.2 ≠ '.' := by
      rw [hgrid]
      decide
    exact fun place symbol hsymbol => hall (place, symbol) (mem_occupied.2 hsymbol)
  obtain ⟨copy, hcopy, hheight, hwidth, hsame⟩ :=
    ofText_render grid (show '.' ≠ '\n' ∧ '.' ≠ '\r' by decide) hsymbols
      (show "\n" ∈ ["", "\n"] by decide)
  subst hgrid
  exact ⟨_, _, copy, hstart, rfl, rfl, hcopy, hheight, hwidth, hsame⟩

end Grid

end GridRules
