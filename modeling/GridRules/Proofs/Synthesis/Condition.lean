import GridRules.Proofs.Grouping
import GridRules.Proofs.Outcome
import GridRules.Proofs.Program.Evaluation
import GridRules.Proofs.Program.ExprText
import GridRules.Synthesis.Condition

/-!
# Conditions that list cells

In every layout the condition that a cell is one of some listed cells is an expression that decides
just that.
-/

namespace GridRules

open Program

/-- The text is an expression of a level that decides a property of the cell whose row and column
the variables hold. -/
def Tells (level : Nat) (text : String) (p : Coord → Prop) : Prop :=
  ∃ e, Writes level text.toList e ∧ ∀ (env : Env) (cell : Coord),
    env.get? "r" = some cell.row → env.get? "c" = some cell.col → Decides env e (p cell)

/-- The coordinates of a cell have decimal texts that can be read. -/
def Coord.IsShort (cell : Coord) : Prop :=
  cell.row.natAbs < Text.leastLong ∧ cell.col.natAbs < Text.leastLong

variable {p q : Coord → Prop}

theorem Tells.looser {level tight : Nat} {text : String} (h : Tells tight text p)
    (hle : level ≤ tight) (htight : tight ≤ 7) : Tells level text p := by
  obtain ⟨e, hwrites, hdecides⟩ := h
  exact ⟨e, hwrites.looser hle htight, hdecides⟩

theorem Tells.congr {level : Nat} {text : String} (h : Tells level text p)
    (hpq : ∀ cell, p cell ↔ q cell) : Tells level text q := by
  obtain ⟨e, hwrites, hdecides⟩ := h
  exact ⟨e, hwrites, fun env cell hr hc => (hdecides env cell hr hc).congr (hpq cell)⟩

/-! ### Alternatives -/

/-- The text joins alternatives. -/
def JoinsAlternatives (separator : String) : Prop :=
  ∃ rest, separator.toList = ' ' :: rest ∧ Closed (' ' :: rest) [symbol "||"]

theorem joinsAlternatives_bar : JoinsAlternatives " || " :=
  ⟨"|| ".toList, rfl, closed_operator .or⟩

theorem Tells.or {text text' separator : String} (h : Tells 1 text p) (h' : Tells 2 text' q)
    (hseparator : JoinsAlternatives separator) :
    Tells 1 (text ++ separator ++ text') fun cell => p cell ∨ q cell := by
  obtain ⟨e, hwrites, hdecides⟩ := h
  obtain ⟨e', hwrites', hdecides'⟩ := h'
  obtain ⟨rest, htext, hclosed⟩ := hseparator
  refine ⟨.binary .or e e', ?_, fun env cell hr hc => (hdecides env cell hr hc).or
    (hdecides' env cell hr hc)⟩
  have hbinary : Writes 1 _ _ := hwrites.binary .or hclosed hwrites'
  simpa [htext] using hbinary

section Joined

variable {ι : Type} {p : ι → Coord → Prop} {separator : String} {items : List ι}
  {texts : List String}

/-- Joined alternatives hold where one of them does. The text is joined from the right, and the
expression from the left, so the alternatives before the joined ones are part of the induction. -/
theorem Tells.or_joined (hseparator : JoinsAlternatives separator)
    (h : List.Forall₂ (fun i text => Tells 2 text (p i)) items texts) {earlier : String}
    (hearlier : Tells 1 earlier q) (hne : items ≠ []) :
    Tells 1 (earlier ++ separator ++ Synthesis.joined separator texts)
      fun cell => q cell ∨ ∃ i ∈ items, p i cell := by
  induction h generalizing earlier q with
  | nil => exact absurd rfl hne
  | @cons i text items texts htext hrest ih =>
      have hfirst := hearlier.or htext hseparator
      cases hrest with
      | nil => simpa [Synthesis.joined] using hfirst
      | cons _ _ =>
          have hothers := ih hfirst (by simp)
          simpa [Synthesis.joined, or_assoc, String.append_assoc] using hothers

theorem tells_joined (hseparator : JoinsAlternatives separator)
    (h : List.Forall₂ (fun i text => Tells 2 text (p i)) items texts) (hne : items ≠ []) :
    Tells 1 (Synthesis.joined separator texts) fun cell => ∃ i ∈ items, p i cell := by
  cases h with
  | nil => exact absurd rfl hne
  | @cons i text items texts htext hrest =>
      have hfirst := htext.looser (by decide : 1 ≤ 2) (by decide)
      cases hrest with
      | nil => simpa [Synthesis.joined] using hfirst
      | @cons j next items texts hnext hrest =>
          have hothers := hfirst.or_joined hseparator (.cons hnext hrest) (by simp)
          simpa [Synthesis.joined] using hothers

end Joined

/-! ### Cells, rows and lists of cells -/

theorem closed_isEqual {name : String} (h : name ∈ ["r", "c"]) :
    Closed (name ++ "==").toList [⟨.name, name⟩, symbol "=="] := by
  intro rest vs hrest
  have hequal : Lexed ('=' :: '=' :: rest) (symbol "==" :: vs) :=
    .cons (show piece? '=' ('=' :: rest) = some ⟨some .operator, ['=', '='], rest⟩ from rfl) hrest
  simp only [List.mem_cons, List.not_mem_nil, or_false] at h
  rcases h with rfl | rfl
  · exact .cons (piece?_name (c := 'r') (by decide) (by decide +kernel) _) hequal
  · exact .cons (piece?_name (c := 'c') (by decide) (by decide +kernel) _) hequal

/-- A comparison without blanks. -/
theorem writes_isEqual (name : String) (hname : name ∈ ["r", "c"]) {n : Int}
    (h : n.natAbs < Text.leastLong) :
    Writes 3 (name ++ "==" ++ toString n).toList (.binary .equal (.var name) (.ofInt n)) := by
  obtain ⟨ws, hopen, hderives, hshort⟩ := writes_ofInt h
  have hvariable := derives_variable (List.mem_of_mem_take
    (show name ∈ ["r", "c", "H", "W"].take 2 from hname))
  refine ⟨_, ?_, .binary .equal rfl (hvariable.looser (by decide) le_rfl)
    (hderives.looser (by decide) le_rfl), ?_⟩
  · rw [String.toList_append]
    exact (closed_isEqual hname).append_open hopen
  · simpa [Lexeme.IsShort, symbol] using hshort

theorem tells_row {n : Int} (h : n.natAbs < Text.leastLong) :
    Tells 3 ("r==" ++ toString n) fun cell => cell.row = n :=
  ⟨_, writes_isEqual "r" (by decide) h, fun env _ hr _ =>
    decides_equal (by simp [hr]) (Expr.eval_ofInt env n)⟩

theorem tells_col {n : Int} (h : n.natAbs < Text.leastLong) :
    Tells 3 ("c==" ++ toString n) fun cell => cell.col = n :=
  ⟨_, writes_isEqual "c" (by decide) h, fun env _ _ hc =>
    decides_equal (by simp [hc]) (Expr.eval_ofInt env n)⟩

theorem Tells.and {text text' : String} (h : Tells 2 text p) (h' : Tells 3 text' q) :
    Tells 2 (text ++ " && " ++ text') fun cell => p cell ∧ q cell := by
  obtain ⟨e, hwrites, hdecides⟩ := h
  obtain ⟨e', hwrites', hdecides'⟩ := h'
  exact ⟨_, hwrites.operator .and hwrites' (by decide), fun env cell hr hc =>
    (hdecides env cell hr hc).and (hdecides' env cell hr hc)⟩

theorem Tells.parentheses {text : String} (h : Tells 1 text p) :
    Tells 7 ("(" ++ text ++ ")") p := by
  obtain ⟨e, hwrites, hdecides⟩ := h
  refine ⟨e, ?_, hdecides⟩
  simpa using hwrites.parentheses

theorem number_of_short {n : Int} (h : n.natAbs < Text.leastLong) :
    Synthesis.number n = .ok (toString n) := by
  unfold Synthesis.number
  rw [Text.wholeNumberText?_of_lt h]

/-- The condition that a cell is the given one. -/
theorem exists_cellTerm {place : Coord} (h : place.IsShort) :
    ∃ text, Synthesis.cellTerm place = .ok text ∧ Tells 7 text fun cell => cell = place := by
  have hrow := (tells_row h.1).looser (by decide : 2 ≤ 3) (by decide)
  have hterm := ((hrow.and (tells_col h.2)).looser (by decide : 1 ≤ 2) (by decide)).parentheses
  refine ⟨"(r==" ++ toString place.row ++ " && c==" ++ toString place.col ++ ")", ?_, ?_⟩
  · rw [Synthesis.cellTerm, number_of_short h.1, number_of_short h.2]
    rfl
  · rw [show "(r==" = "(" ++ "r==" from rfl, show " && c==" = " && " ++ "c==" from rfl]
    simp only [String.append_assoc, -String.reduceAppend] at hterm ⊢
    exact hterm.congr fun cell => Coord.ext_iff.symm

theorem exists_columnTerm {column : Int} (h : column.natAbs < Text.leastLong) :
    ∃ text, Synthesis.columnTerm column = .ok text ∧
      Tells 2 text fun cell => cell.col = column := by
  refine ⟨"c==" ++ toString column, ?_, (tells_col h).looser (by decide) (by decide)⟩
  rw [Synthesis.columnTerm, number_of_short h]
  rfl

/-- The condition that a cell lies in a row, in one of some columns. -/
theorem exists_rowTerm {row : Int} {columns : List Int}
    (h : ∀ column ∈ columns, Coord.IsShort ⟨row, column⟩) (hne : columns ≠ []) :
    ∃ text, Synthesis.rowTerm row columns = .ok text ∧
      Tells 7 text fun cell => cell.row = row ∧ cell.col ∈ columns := by
  have hrow : row.natAbs < Text.leastLong := by
    obtain ⟨column, hcolumn⟩ := List.exists_mem_of_ne_nil columns hne
    exact (h column hcolumn).1
  unfold Synthesis.rowTerm
  split
  · next column =>
      obtain ⟨text, htext, htells⟩ := exists_cellTerm (h column (by simp))
      exact ⟨text, htext, htells.congr fun cell => by simp [Coord.ext_iff]⟩
  · obtain ⟨terms, hterms, htells⟩ :=
      exists_mapM fun column hcolumn => exists_columnTerm (h column hcolumn).2
    have hcolumns := (tells_joined joinsAlternatives_bar htells hne).parentheses
    have hand := ((tells_row hrow).looser (by decide : 2 ≤ 3) (by decide)).and
      (hcolumns.looser (by decide : 3 ≤ 7) le_rfl)
    have hterm := (hand.looser (by decide : 1 ≤ 2) (by decide)).parentheses
    refine ⟨"(r==" ++ toString row ++ " && (" ++ Synthesis.joined " || " terms ++ "))", ?_, ?_⟩
    · rw [hterms, number_of_short hrow]
      rfl
    · rw [show "(r==" = "(" ++ "r==" from rfl, show " && (" = " && " ++ "(" from rfl,
        show "))" = ")" ++ ")" from rfl]
      simp only [String.append_assoc, -String.reduceAppend] at hterm ⊢
      exact hterm.congr fun cell => by simp

/-! ### Layouts -/

/-- The text is an indentation. -/
def Indents (text : String) : Prop :=
  ∀ c ∈ text.toList, Text.isBlank c = true

theorem Indents.repeated {step : String} (h : Indents step) (count : Nat) :
    Indents (Value.repeated step count) := by
  induction count with
  | zero => simp [Indents, Value.repeated]
  | succ count ih =>
      rw [Indents, Value.repeated, String.toList_append]
      exact List.forall_mem_append.2 ⟨ih, h⟩

/-- The thresholds are whole numbers, and the steps of indentation are blank texts. -/
structure Layout.IsPlain (layout : Layout) : Prop where
  grouping : ∃ n : Int, layout.groupingThreshold = .int n
  wrap : ∃ n : Int, layout.wrapThreshold = .int n
  indent : ∃ step, layout.indent = .text step ∧ Indents step

section Plain

variable {layout : Layout} (hlayout : layout.IsPlain)

include hlayout

theorem exists_indentation (level : Nat) :
    ∃ indent, layout.indentation level = .ok indent ∧ Indents indent := by
  obtain ⟨step, hstep, hblank⟩ := hlayout.indent
  exact ⟨_, by rw [Layout.indentation, hstep]; rfl, hblank.repeated level⟩

/-- The text between alternatives on lines of their own joins alternatives. -/
theorem exists_lineJoiner :
    ∃ joiner, layout.lineJoiner = .ok joiner ∧ JoinsAlternatives joiner := by
  obtain ⟨step, hstep, hindents⟩ := hlayout.indent
  have hspace : Closed [' '] [] := closed_of_blank (List.forall_mem_singleton.2 (by decide))
  have hbar : Closed ['|', '|'] [symbol "||"] := closed_of_piece? fun _ => rfl
  have hline : Closed ('\n' :: (Value.repeated step 4).toList) [] :=
    closed_of_blank (List.forall_mem_cons.2 ⟨by decide, hindents.repeated 4⟩)
  refine ⟨_, by rw [Layout.lineJoiner, hstep], '|' :: '|' :: '\n' :: (Value.repeated step 4).toList,
    ?_, ?_⟩
  · rw [String.toList_append]
    rfl
  · simpa using (hspace.append hbar).append hline

theorem exists_gathers (count : Nat) : ∃ gathers, layout.gathers count = .ok gathers := by
  obtain ⟨n, hn⟩ := hlayout.grouping
  exact ⟨_, by rw [Layout.gathers, hn]⟩

theorem exists_keepsLine (count : Nat) : ∃ keeps, layout.keepsLine count = .ok keeps := by
  obtain ⟨n, hn⟩ := hlayout.wrap
  exact ⟨_, by rw [Layout.keepsLine, hn]⟩

end Plain

/-! ### Lists of cells -/

section Cells

variable {cells : List Coord} (h : ∀ cell ∈ cells, cell.IsShort)

include h

/-- The rows of some cells hold just these cells. -/
theorem exists_rowTerms (hne : cells ≠ []) :
    ∃ terms, Synthesis.rowTerms cells = .ok terms ∧ ∀ separator, JoinsAlternatives separator →
      Tells 1 (Synthesis.joined separator terms) fun cell => cell ∈ cells := by
  let keyed := cells.map fun cell => (cell.row, cell.col)
  have hmem (row col : Int) : (row, col) ∈ keyed ↔ ⟨row, col⟩ ∈ cells := by
    constructor
    · intro hkey
      obtain ⟨cell, hcell, heq⟩ := List.mem_map.1 hkey
      obtain ⟨rfl, rfl⟩ := Prod.mk.inj heq
      exact hcell
    · exact fun hcell => List.mem_map_of_mem (f := fun cell => (cell.row, cell.col)) hcell
  have hrow (entry) (hentry : entry ∈ grouped keyed) :
      ∃ text, Synthesis.rowTerm entry.1 entry.2 = .ok text ∧
        Tells 2 text fun cell => cell.row = entry.1 ∧ cell.col ∈ entry.2 := by
    have hshort (column) (hcolumn : column ∈ entry.2) : Coord.IsShort ⟨entry.1, column⟩ :=
      h _ ((hmem _ _).1 (mem_of_mem_grouped hentry hcolumn))
    obtain ⟨text, htext, htells⟩ := exists_rowTerm hshort (ne_nil_of_mem_grouped hentry)
    exact ⟨text, htext, htells.looser (by decide) le_rfl⟩
  have hgroups : grouped keyed ≠ [] := by
    obtain ⟨cell, hcell⟩ := List.exists_mem_of_ne_nil cells hne
    obtain ⟨group, hgroup, -⟩ := exists_mem_grouped.2 ((hmem cell.row cell.col).2 hcell)
    exact List.ne_nil_of_mem hgroup
  obtain ⟨terms, hterms, htells⟩ := exists_mapM hrow
  refine ⟨terms, hterms, fun separator hseparator => ?_⟩
  refine (tells_joined hseparator htells hgroups).congr ?_
  intro cell
  calc (∃ entry ∈ grouped keyed, cell.row = entry.1 ∧ cell.col ∈ entry.2)
      ↔ ∃ group, (cell.row, group) ∈ grouped keyed ∧ cell.col ∈ group := by
        constructor
        · rintro ⟨⟨row, group⟩, hentry, rfl, hcol⟩
          exact ⟨group, hentry, hcol⟩
        · rintro ⟨group, hentry, hcol⟩
          exact ⟨_, hentry, rfl, hcol⟩
    _ ↔ (cell.row, cell.col) ∈ keyed := exists_mem_grouped
    _ ↔ cell ∈ cells := hmem _ _

theorem exists_cellTerms (hne : cells ≠ []) :
    ∃ terms, cells.mapM Synthesis.cellTerm = .ok terms ∧ ∀ separator, JoinsAlternatives separator →
      Tells 1 (Synthesis.joined separator terms) fun cell => cell ∈ cells := by
  have hterm (place) (hplace : place ∈ cells) : ∃ text, Synthesis.cellTerm place = .ok text ∧
      Tells 2 text fun cell => cell = place := by
    obtain ⟨text, htext, htells⟩ := exists_cellTerm (h place hplace)
    exact ⟨text, htext, htells.looser (by decide) le_rfl⟩
  obtain ⟨terms, hterms, htells⟩ := exists_mapM hterm
  exact ⟨terms, hterms, fun separator hseparator =>
    (tells_joined hseparator htells hne).congr fun cell => by simp⟩

/-- In every plain layout some cells have a condition, which decides whether a cell is one of
them. -/
theorem exists_cellsCondition {layout : Layout} (hlayout : layout.IsPlain) :
    ∃ text, Synthesis.cellsCondition layout cells = .ok text ∧
      Tells 1 text fun cell => cell ∈ cells := by
  rw [Synthesis.cellsCondition]
  by_cases hempty : cells = []
  · subst hempty
    have hfront : frontLexemes? 1 "false".toList = some ([⟨.name, "false"⟩], []) := by
      decide +kernel
    refine ⟨"false", rfl, .truth false, writes_of_frontLexemes? hfront (by decide)
      ((Derives.name "false").looser (by decide) le_rfl) (by decide), fun env cell _ _ => ?_⟩
    exact ⟨false, rfl, by simp⟩
  · rw [if_neg (mt List.isEmpty_iff.1 hempty)]
    obtain ⟨joiner, hjoiner, hjoins⟩ := exists_lineJoiner hlayout
    obtain ⟨gathers, hgathers⟩ := exists_gathers hlayout cells.length
    rw [hjoiner, ok_bind, hgathers, ok_bind]
    cases gathers with
    | true =>
        obtain ⟨terms, hterms, htells⟩ := exists_rowTerms h hempty
        exact ⟨_, by rw [if_pos rfl, hterms]; rfl, htells joiner hjoins⟩
    | false =>
        obtain ⟨terms, hterms, htells⟩ := exists_cellTerms h hempty
        obtain ⟨keeps, hkeeps⟩ := exists_keepsLine hlayout cells.length
        refine ⟨_, by rw [if_neg Bool.false_ne_true, hterms, ok_bind, hkeeps]; rfl, ?_⟩
        cases keeps with
        | true => exact htells _ joinsAlternatives_bar
        | false => exact htells _ hjoins

end Cells

/-! ### Coordinates with too many digits -/

/-- A coordinate with too many digits has no text. -/
theorem number_of_long {n : Int} (h : Text.leastLong ≤ n.natAbs) :
    Synthesis.number n = .error .longNumber := by
  unfold Synthesis.number
  rw [Text.wholeNumberText?_of_le h]

end GridRules
