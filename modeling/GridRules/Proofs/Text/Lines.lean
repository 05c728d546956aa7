import GridRules.Text.Lines
import Mathlib.Data.List.Basic

/-!
# Lines put together and taken apart

Lines without line feeds are found again in the text that they make up, with or without a line feed
at its end.
-/

namespace GridRules.Text

/-! ### Lines of a text put together -/

theorem splitOn_of_notMem {separator : Char} {text : List Char} (h : separator ∉ text) :
    splitOn separator text = [text] := by
  induction text with
  | nil => rfl
  | cons c rest ih =>
      have hc : c ≠ separator := fun hc => h (by simp [hc])
      have hrest : separator ∉ rest := fun hmem => h (by simp [hmem])
      simp [splitOn, ih hrest, hc]

/-- The first separator ends the first piece. -/
theorem splitOn_append {separator : Char} {front : List Char} (h : separator ∉ front)
    (rest : List Char) :
    splitOn separator (front ++ separator :: rest) = front :: splitOn separator rest := by
  induction front with
  | nil =>
      rw [List.nil_append, splitOn]
      split
      · next hnil => exact absurd hnil (splitOn_ne_nil separator rest)
      · next piece pieces hpieces => simp [hpieces]
  | cons c front ih =>
      have hc : c ≠ separator := fun hc => h (by simp [hc])
      have hfront : separator ∉ front := fun hmem => h (by simp [hmem])
      simp [splitOn, ih hfront, hc]

/-- Two texts are equal if they are up to their first separators and behind them. -/
theorem append_separator_inj {separator : Char} {front other rest others : List Char}
    (hfront : separator ∉ front) (hother : separator ∉ other)
    (h : front ++ separator :: rest = other ++ separator :: others) :
    front = other ∧ rest = others := by
  have hpieces := congrArg (splitOn separator) h
  rw [splitOn_append hfront, splitOn_append hother] at hpieces
  obtain ⟨rfl, -⟩ := List.cons.inj hpieces
  exact ⟨rfl, by simpa using h⟩

/-- Lines without line feeds are the lines of the text that they make up. -/
theorem lines_unlines {rows : List (List Char)} (hne : rows ≠ [])
    (h : ∀ row ∈ rows, '\n' ∉ row) : lines (unlines rows) = rows := by
  induction rows with
  | nil => exact absurd rfl hne
  | cons row rest ih =>
      have hrow : '\n' ∉ row := h row (by simp)
      cases rest with
      | nil => exact splitOn_of_notMem hrow
      | cons next rest =>
          rw [unlines_cons row (by simp), lines, splitOn_append hrow]
          exact congrArg (row :: ·) (ih (by simp) fun other hother => h other (by simp [hother]))

theorem unlines_eq_intercalate (rows : List (List Char)) :
    unlines rows = ['\n'].intercalate rows := by
  induction rows with
  | nil => rfl
  | cons row rest ih =>
      cases rest with
      | nil => simp [unlines]
      | cons next rest =>
          rw [unlines_cons row (by simp), ih, List.intercalate_cons_cons]
          simp

/-- Texts of one line are the lines of the text in which line feeds join them. -/
theorem lines_intercalate {pieces : List String} (hne : pieces ≠ [])
    (h : ∀ piece ∈ pieces, '\n' ∉ piece.toList) :
    lines ("\n".intercalate pieces).toList = pieces.map String.toList := by
  rw [String.toList_intercalate, show "\n".toList = ['\n'] from rfl, ← unlines_eq_intercalate]
  exact lines_unlines (by simpa using hne) (by simpa using h)

/-- A character of a text that lines make up is a line feed or belongs to one of the lines. -/
theorem mem_unlines {c : Char} {rows : List (List Char)} (h : c ∈ unlines rows) :
    c = '\n' ∨ ∃ row ∈ rows, c ∈ row := by
  induction rows with
  | nil => simp [unlines] at h
  | cons row rest ih =>
      by_cases hrest : rest = []
      · subst hrest
        exact .inr ⟨row, by simp, h⟩
      · rw [unlines_cons row hrest, List.mem_append, List.mem_cons] at h
        rcases h with h | rfl | h
        · exact .inr ⟨row, by simp, h⟩
        · exact .inl rfl
        · rcases ih h with hfeed | ⟨other, hother, hc⟩
          · exact .inl hfeed
          · exact .inr ⟨other, by simp [hother], hc⟩

/-- A text that lines make up ends as the last line does, unless that line is empty. -/
theorem getLast?_unlines {rows : List (List Char)} {last : List Char}
    (hlast : rows.getLast? = some last) (hne : last ≠ []) :
    (unlines rows).getLast? = last.getLast? := by
  induction rows with
  | nil => cases hlast
  | cons row rest ih =>
      cases rest with
      | nil =>
          obtain rfl : row = last := by simpa using hlast
          rfl
      | cons next rest =>
          have htail := ih (by simpa [List.getLast?_cons] using hlast)
          have hend : last.getLast? ≠ none := by simpa using hne
          rw [unlines_cons row (by simp), List.getLast?_append, List.getLast?_cons, htail]
          cases hc : last.getLast? with
          | none => exact absurd hc hend
          | some c => rfl

/-! ### Line ends -/

theorem dropCarriageReturns_of_notMem {text : List Char} (h : '\r' ∉ text) :
    dropCarriageReturns text = text := by
  fun_induction dropCarriageReturns text with
  | case1 => rfl
  | case2 rest _ => exact absurd (List.mem_cons_self) h
  | case3 c rest _ ih => rw [ih fun hmem => h (List.mem_cons_of_mem c hmem)]

theorem universalNewlines_of_notMem {text : List Char} (h : '\r' ∉ text) :
    universalNewlines text = text := by
  fun_induction universalNewlines text with
  | case1 => rfl
  | case2 rest _ => exact absurd List.mem_cons_self h
  | case3 rest _ _ => exact absurd List.mem_cons_self h
  | case4 c rest _ _ ih => rw [ih fun hmem => h (List.mem_cons_of_mem c hmem)]

theorem dropFinalNewline_append (text : List Char) : dropFinalNewline (text ++ ['\n']) = text := by
  simp [dropFinalNewline]

theorem dropFinalNewline_of_getLast?_ne {text : List Char} (h : text.getLast? ≠ some '\n') :
    dropFinalNewline text = text :=
  if_neg h

/-- Without one line feed at its end a text is another one exactly if it has a line feed behind that
one, or is that one and does not end in a line feed. -/
theorem dropFinalNewline_eq_iff {text other : List Char} :
    dropFinalNewline text = other ↔
      text = other ++ ['\n'] ∨ text = other ∧ other.getLast? ≠ some '\n' := by
  constructor
  · rintro rfl
    by_cases h : text.getLast? = some '\n'
    · obtain ⟨front, rfl⟩ := List.getLast?_eq_some_iff.1 h
      exact .inl (by rw [dropFinalNewline_append])
    · exact .inr (by rw [dropFinalNewline_of_getLast?_ne h]; exact ⟨rfl, h⟩)
  · rintro (rfl | ⟨rfl, h⟩)
    · exact dropFinalNewline_append other
    · exact dropFinalNewline_of_getLast?_ne h

/-! ### Characters of lines -/

/-- A character of a piece is one of the text, but not the separator. -/
theorem mem_of_mem_splitOn {separator c : Char} {text piece : List Char}
    (h : piece ∈ splitOn separator text) (hc : c ∈ piece) : c ∈ text ∧ c ≠ separator := by
  induction text generalizing piece with
  | nil =>
      obtain rfl := List.mem_singleton.1 h
      cases hc
  | cons d rest ih =>
      have hrest {other : List Char} (hother : other ∈ splitOn separator rest) (hmem : c ∈ other) :
          c ∈ d :: rest ∧ c ≠ separator :=
        ⟨List.mem_cons_of_mem d (ih hother hmem).1, (ih hother hmem).2⟩
      rw [splitOn] at h
      split at h
      · next hnil => exact absurd hnil (splitOn_ne_nil separator rest)
      · next first pieces hpieces =>
          rw [hpieces] at hrest
          split at h
          · rcases List.mem_cons.1 h with rfl | h
            · cases hc
            · exact hrest h hc
          · next hd =>
              rcases List.mem_cons.1 h with rfl | h
              · rcases List.mem_cons.1 hc with rfl | hc
                · exact ⟨List.mem_cons_self, by simpa using hd⟩
                · exact hrest List.mem_cons_self hc
              · exact hrest (List.mem_cons_of_mem first h) hc

theorem newline_notMem_of_mem_lines {text line : List Char} (h : line ∈ lines text) :
    '\n' ∉ line :=
  fun hmem => (mem_of_mem_splitOn h hmem).2 rfl

theorem carriageReturn_notMem_universalNewlines (text : List Char) :
    '\r' ∉ universalNewlines text := by
  fun_induction universalNewlines text with
  | case1 => simp
  | case2 rest ih => simp [ih]
  | case3 rest _ ih => simp [ih]
  | case4 c rest hpair hreturn ih =>
      intro hmem
      rcases List.mem_cons.1 hmem with hc | hrest
      · exact hreturn hc.symm
      · exact ih hrest

end GridRules.Text
