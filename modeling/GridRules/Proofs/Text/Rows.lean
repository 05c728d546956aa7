import GridRules.Proofs.Text.Lines
import Mathlib.Data.List.Infix

/-!
# The rows of a text

What the rows of a text are is said here by how they make it up. Carriage returns before line feeds
are dropped: the pieces of the text between these pairs are joined by line feeds alone. One line
feed at the end is dropped too, and the rest is the rows with line feeds between them. Every text
has rows in this sense, and no others than the lines that it is taken apart into.
-/

namespace GridRules.Text

/-- The second text is the first one with a line feed alone in place of each pair of a carriage
return and a line feed. -/
def DropsReturns (text plain : List Char) : Prop :=
  ∃ pieces, (∀ piece ∈ pieces, ¬ ['\r', '\n'] <:+: piece) ∧
    text = ['\r', '\n'].intercalate pieces ∧ plain = ['\n'].intercalate pieces

/-- Rows without line feeds make up a text but for carriage returns before line feeds and one line
feed at the end. -/
def HasRows (text : List Char) (rows : List (List Char)) : Prop :=
  ∃ plain, DropsReturns text plain ∧ rows ≠ [] ∧ (∀ row ∈ rows, '\n' ∉ row) ∧
    (plain = ['\n'].intercalate rows ++ ['\n'] ∨
      plain = ['\n'].intercalate rows ∧ plain.getLast? ≠ some '\n')

/-! ### Carriage returns -/

/-- A piece without the pair stays as it is, unless the pair is completed by what follows it. -/
theorem dropCarriageReturns_append {piece rest : List Char} (h : ¬ ['\r', '\n'] <:+: piece)
    (hrest : rest.head? ≠ some '\n') :
    dropCarriageReturns (piece ++ rest) = piece ++ dropCarriageReturns rest := by
  induction piece with
  | nil => rfl
  | cons c piece ih =>
      rw [List.infix_cons_iff, not_or] at h
      have hpair : ∀ tail, c = '\r' → piece ++ rest = '\n' :: tail → False := by
        rintro tail rfl htail
        cases piece with
        | nil => exact hrest (by simp [show rest = '\n' :: tail from htail])
        | cons d piece =>
            obtain ⟨rfl, -⟩ := List.cons.inj htail
            exact h.1 ⟨piece, rfl⟩
      rw [List.cons_append, dropCarriageReturns.eq_3 c _ hpair, ih h.2, List.cons_append]

theorem dropCarriageReturns_intercalate {pieces : List (List Char)}
    (h : ∀ piece ∈ pieces, ¬ ['\r', '\n'] <:+: piece) :
    dropCarriageReturns (['\r', '\n'].intercalate pieces) = ['\n'].intercalate pieces := by
  induction pieces with
  | nil => rfl
  | cons piece pieces ih =>
      obtain ⟨hpiece, hpieces⟩ := List.forall_mem_cons.1 h
      cases pieces with
      | nil =>
          have hlast := @dropCarriageReturns_append piece [] hpiece (by simp)
          simpa [dropCarriageReturns] using hlast
      | cons next pieces =>
          rw [List.intercalate_cons_cons, List.intercalate_cons_cons, ← ih hpieces,
            List.append_assoc, List.append_assoc, dropCarriageReturns_append hpiece (by simp)]
          rfl

theorem intercalate_cons_head (separator : List Char) (c : Char) (piece : List Char)
    (pieces : List (List Char)) : separator.intercalate ((c :: piece) :: pieces) =
      c :: separator.intercalate (piece :: pieces) := by
  cases pieces <;> simp [List.intercalate_cons_cons]

/-- Every text falls into pieces between the pairs. -/
theorem exists_pieces (text : List Char) :
    ∃ first others, (∀ piece ∈ first :: others, ¬ ['\r', '\n'] <:+: piece) ∧
      text = ['\r', '\n'].intercalate (first :: others) := by
  fun_induction dropCarriageReturns text with
  | case1 => exact ⟨[], [], by simp, rfl⟩
  | case2 rest ih =>
      obtain ⟨first, others, hpieces, rfl⟩ := ih
      exact ⟨[], first :: others, List.forall_mem_cons.2 ⟨by simp, hpieces⟩,
        by simp [List.intercalate_cons_cons]⟩
  | case3 c rest hpair ih =>
      obtain ⟨first, others, hpieces, rfl⟩ := ih
      obtain ⟨hfirst, hothers⟩ := List.forall_mem_cons.1 hpieces
      refine ⟨c :: first, others, List.forall_mem_cons.2 ⟨?_, hothers⟩,
        (intercalate_cons_head ..).symm⟩
      rw [List.infix_cons_iff, not_or]
      refine ⟨?_, hfirst⟩
      rintro ⟨tail, htail⟩
      obtain ⟨rfl, rfl⟩ : '\r' = c ∧ '\n' :: tail = first := by simpa using htail
      exact hpair _ rfl (intercalate_cons_head ..)

theorem dropsReturns_iff {text plain : List Char} :
    DropsReturns text plain ↔ plain = dropCarriageReturns text := by
  constructor
  · rintro ⟨pieces, hpieces, rfl, rfl⟩
    exact (dropCarriageReturns_intercalate hpieces).symm
  · rintro rfl
    obtain ⟨first, others, hpieces, htext⟩ := exists_pieces text
    refine ⟨first :: others, hpieces, htext, ?_⟩
    rw [htext, dropCarriageReturns_intercalate hpieces]

/-! ### Rows -/

/-- The rows of a text are its lines. -/
theorem hasRows_iff {text : List Char} {rows : List (List Char)} :
    HasRows text rows ↔ rows = lines (dropFinalNewline (dropCarriageReturns text)) := by
  have hends (plain : List Char) : (plain = ['\n'].intercalate rows ++ ['\n'] ∨
      plain = ['\n'].intercalate rows ∧ plain.getLast? ≠ some '\n') ↔
        dropFinalNewline plain = unlines rows := by
    rw [dropFinalNewline_eq_iff, unlines_eq_intercalate]
    exact or_congr_right (and_congr_right fun h => by rw [h])
  simp only [HasRows, dropsReturns_iff, exists_eq_left, hends]
  constructor
  · rintro ⟨hne, hfeed, hrows⟩
    rw [hrows, lines_unlines hne hfeed]
  · rintro rfl
    exact ⟨splitOn_ne_nil _ _, fun row hrow => newline_notMem_of_mem_lines hrow,
      (unlines_lines _).symm⟩

end GridRules.Text
