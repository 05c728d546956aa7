import GridRules.Pattern
import GridRules.Proofs.Grid.Reading
import GridRules.Proofs.Workspace

/-!
# Patterns read from files

A file gives a grid if it can be read, one of its lines has a character, and the grid is within the
bounds of the settings. The text of the grid is the rectangle of the lines.
-/

namespace GridRules

/-! ### Grids of lines -/

namespace Grid

variable {lines : List (List Char)}

theorem ofLines_of_empty (h : ∀ line ∈ lines, line = []) (blank : Option Char) :
    ofLines lines blank = .error .emptyPattern := by
  have hlongest : longest lines ≤ 0 := by
    rw [longest_le_iff]
    intro line hline
    rw [h line hline, List.length_nil]
  exact dif_neg fun hpos => absurd hpos.2 (by omega)

theorem exists_ofLines (h : ¬ ∀ line ∈ lines, line = []) (blank : Option Char) :
    ∃ grid, ofLines lines blank = .ok grid := by
  obtain ⟨line, hrest⟩ := not_forall.1 h
  obtain ⟨hline, hne⟩ := Classical.not_imp.1 hrest
  have hlength : line.length ≤ longest lines := longest_le_iff.1 le_rfl line hline
  have hpos : 0 < line.length := List.length_pos_iff.2 hne
  exact ⟨_, dif_pos ⟨List.length_pos_of_mem hline, by omega⟩⟩

/-- The rectangle of lines: each is padded with spaces to the longest one, and a space stands in the
place of the blank character. -/
def rectangle (blank : Char) (lines : List (List Char)) : List Char :=
  Text.unlines (lines.map fun line =>
    (line.map fun c => if c = blank then ' ' else c) ++
      List.replicate (longest lines - line.length) ' ')

/-- The text of a grid is the rectangle of its lines. -/
theorem toList_render_of_ofLines {blank : Char} {grid : Grid}
    (h : ofLines lines (some blank) = .ok grid) : grid.render.toList = rectangle blank lines := by
  rw [rectangle, ← drawnRows_of_ofLines h ' ', ← toList_render]
  rfl

/-- A rectangle of lines without line feeds does not end in a line feed. -/
theorem getLast?_rectangle_ne {blank : Char} {grid : Grid}
    (h : ofLines lines (some blank) = .ok grid) (hlines : ∀ line ∈ lines, '\n' ∉ line) :
    (rectangle blank lines).getLast? ≠ some '\n' := by
  have hdrawn : ∀ row ∈ grid.drawnRows [' '], '\n' ∉ row := by
    rw [drawnRows_of_ofLines h ' ']
    intro row hrow
    obtain ⟨line, hline, rfl⟩ := List.mem_map.1 hrow
    have hfeed := hlines line hline
    intro hmem
    rcases List.mem_append.1 hmem with hmem | hmem
    · obtain ⟨c, hc, heq⟩ := List.mem_map.1 hmem
      split at heq
      · cases heq
      · exact hfeed (heq ▸ hc)
    · cases List.eq_of_mem_replicate hmem
  obtain ⟨row, hrow, hlast, hne⟩ := exists_getLast?_drawnRows grid ' '
  rw [← toList_render_of_ofLines h, show grid.render = grid.render (String.singleton ' ') from rfl,
    toList_render, Text.getLast?_unlines hlast hne]
  exact fun hfeed => hdrawn row hrow (List.mem_of_getLast? hfeed)

end Grid

/-! ### Grids of files -/

/-- The lines of a pattern that was read. A line feed at its end does not begin another one. -/
def patternLines (text : String) : List (List Char) :=
  Text.lines (Text.dropFinalNewline text.toList)

theorem newline_notMem_of_mem_patternLines {text : String} {line : List Char}
    (h : line ∈ patternLines text) : '\n' ∉ line :=
  Text.newline_notMem_of_mem_lines h

/-- There are more lines than a bound, or one is longer than a bound. -/
def IsTooLarge (maxHeight maxWidth : Int) (lines : List (List Char)) : Prop :=
  maxHeight < lines.length ∨ maxWidth < Grid.longest lines

instance (maxHeight maxWidth : Int) (lines : List (List Char)) :
    Decidable (IsTooLarge maxHeight maxWidth lines) :=
  inferInstanceAs (Decidable (_ ∨ _))

namespace Settings

variable {settings : Settings} {maxHeight maxWidth : Int}

theorem blank_of_value {blank : Char}
    (h : settings.value .blankGlyph = .text (String.singleton blank)) :
    settings.blank = some blank := by
  rw [Settings.blank, h]
  simp [Grid.singleCharacter?]

theorem bounded_of_ofLines (hheight : settings.value .maxHeight = .int maxHeight)
    (hwidth : settings.value .maxWidth = .int maxWidth) {lines : List (List Char)}
    {blank : Option Char} {grid : Grid} (h : Grid.ofLines lines blank = .ok grid) :
    settings.bounded grid =
      if IsTooLarge maxHeight maxWidth lines then
        .error (.tooLarge lines.length (Grid.longest lines) (.int maxHeight) (.int maxWidth))
      else .ok grid := by
  have hexceeds (length : Nat) (bound : Int) :
      exceeds? length (.int bound) = some (decide (bound < length)) := by
    rw [exceeds?, isAtLeast?, Option.map_some, ← decide_not]
    simp only [not_le]
  obtain ⟨hrows, hcols, -⟩ := Grid.ofLines_eq_ok h
  rw [bounded, hheight, hwidth, hexceeds, hexceeds, hrows, hcols]
  by_cases hhigh : maxHeight < lines.length
  · simp [IsTooLarge, hhigh]
  · by_cases hwide : maxWidth < Grid.longest lines <;> simp [IsTooLarge, hhigh, hwide]

end Settings

namespace Workspace

variable {workspace : Workspace} {name text : String} {fault : FileFault}

theorem readText_of_read (hname : name ≠ inputName)
    (hread : workspace.read (Path.ofText name) = .ok text) :
    workspace.readText name = .ok (text, workspace) := by
  rw [readText, if_neg hname, hread]

theorem readText_of_error (hname : name ≠ inputName)
    (hread : workspace.read (Path.ofText name) = .error fault) :
    workspace.readText name = .error (.unreadable name fault) := by
  rw [readText, if_neg hname, hread]

variable {settings : Settings}

theorem pattern_of_error (hname : name ≠ inputName)
    (hread : workspace.read (Path.ofText name) = .error fault) :
    workspace.pattern settings name = .error (.unreadable name fault) := by
  rw [pattern, readText_of_error hname hread]
  rfl

section Bounds

variable {blank : Char} {maxHeight maxWidth : Int} (hname : name ≠ inputName)
  (hglyph : settings.value .blankGlyph = .text (String.singleton blank))
  (hheight : settings.value .maxHeight = .int maxHeight)
  (hwidth : settings.value .maxWidth = .int maxWidth)
  (hread : workspace.read (Path.ofText name) = .ok text)

include hname hglyph hread

/-- The grid of a file that can be read is that of its lines. -/
theorem pattern_of_read :
    workspace.pattern settings name =
      match Grid.ofLines (patternLines text) (some blank) with
      | .error fault => .error (.noGrid fault)
      | .ok grid => (settings.bounded grid).map fun grid => (grid, workspace) := by
  have htext : Grid.ofText text settings.blank = Grid.ofLines (patternLines text) (some blank) := by
    rw [Grid.ofText, Settings.blank_of_value hglyph,
      Text.dropCarriageReturns_of_notMem (carriageReturn_notMem_of_read hread), patternLines]
  simp only [pattern, readText_of_read hname hread, bind, Except.bind, htext]
  cases Grid.ofLines (patternLines text) (some blank) with
  | error fault => rfl
  | ok grid =>
      simp only [Except.mapError]
      cases settings.bounded grid <;> rfl

theorem pattern_of_empty (hempty : ∀ line ∈ patternLines text, line = []) :
    workspace.pattern settings name = .error (.noGrid .emptyPattern) := by
  rw [pattern_of_read hname hglyph hread, Grid.ofLines_of_empty hempty]

include hheight hwidth

theorem pattern_of_tooLarge (hempty : ¬ ∀ line ∈ patternLines text, line = [])
    (hlarge : IsTooLarge maxHeight maxWidth (patternLines text)) :
    workspace.pattern settings name =
      .error (.tooLarge (patternLines text).length (Grid.longest (patternLines text))
        (.int maxHeight) (.int maxWidth)) := by
  obtain ⟨grid, hgrid⟩ := Grid.exists_ofLines hempty (some blank)
  rw [pattern_of_read hname hglyph hread, hgrid]
  dsimp only
  rw [Settings.bounded_of_ofLines hheight hwidth hgrid, if_pos hlarge]
  rfl

theorem exists_pattern (hempty : ¬ ∀ line ∈ patternLines text, line = [])
    (hfits : ¬ IsTooLarge maxHeight maxWidth (patternLines text)) :
    ∃ grid, Grid.ofLines (patternLines text) (some blank) = .ok grid ∧
      workspace.pattern settings name = .ok (grid, workspace) := by
  obtain ⟨grid, hgrid⟩ := Grid.exists_ofLines hempty (some blank)
  refine ⟨grid, hgrid, ?_⟩
  rw [pattern_of_read hname hglyph hread, hgrid]
  dsimp only
  rw [Settings.bounded_of_ofLines hheight hwidth hgrid, if_neg hfits]
  rfl

end Bounds

end Workspace

end GridRules
