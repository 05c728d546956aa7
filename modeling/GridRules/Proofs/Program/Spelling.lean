import GridRules.Proofs.Program.Lexeme
import Mathlib.Data.List.Chain
import Mathlib.Data.List.Find
import Mathlib.Data.List.TakeWhile

/-!
# Texts put together

A closed text has its lexemes whatever follows it. An open one ends in a word, a number or an
operator that the next character could go on with; it keeps its lexemes before a blank, a closing
parenthesis or a semicolon. Texts that are put together from closed and open ones are read part by
part.
-/

namespace GridRules.Program

/-- The characters that end whatever stands before them. -/
def isEnd (c : Char) : Bool :=
  c == ' ' || c == '\n' || c == ')' || c == ';'

/-- Nothing goes on at the front of the text. -/
def Ends (text : List Char) : Prop :=
  ∀ c ∈ text.head?, isEnd c = true

/-- The text has the given lexemes whatever follows it. -/
def Closed (text : List Char) (ws : List Lexeme) : Prop :=
  ∀ rest vs, Lexed rest vs → Lexed (text ++ rest) (ws ++ vs)

/-- The text has the given lexemes if what follows it does not go on with it. -/
def Open (text : List Char) (ws : List Lexeme) : Prop :=
  ∀ rest vs, Ends rest → Lexed rest vs → Lexed (text ++ rest) (ws ++ vs)

theorem eq_of_isEnd {c : Char} (h : isEnd c = true) :
    c = ' ' ∨ c = '\n' ∨ c = ')' ∨ c = ';' := by
  simpa [isEnd, or_assoc] using h

theorem Ends.append {text : List Char} (h : Ends text) (hne : text ≠ []) (rest : List Char) :
    Ends (text ++ rest) := by
  cases text with
  | nil => exact absurd rfl hne
  | cons c text => simpa [Ends] using h

theorem Closed.isOpen {text : List Char} {ws : List Lexeme} (h : Closed text ws) :
    Open text ws :=
  fun rest vs _ hrest => h rest vs hrest

theorem Closed.lexed {text : List Char} {ws : List Lexeme} (h : Closed text ws) :
    Lexed text ws := by
  simpa using h [] [] .nil

theorem Open.lexed {text : List Char} {ws : List Lexeme} (h : Open text ws) : Lexed text ws := by
  simpa using h [] [] (by simp [Ends]) .nil

theorem Closed.append {a b : List Char} {ws vs : List Lexeme} (ha : Closed a ws)
    (hb : Closed b vs) : Closed (a ++ b) (ws ++ vs) := by
  intro rest us hrest
  simpa using ha _ _ (hb rest us hrest)

theorem Closed.append_open {a b : List Char} {ws vs : List Lexeme} (ha : Closed a ws)
    (hb : Open b vs) : Open (a ++ b) (ws ++ vs) := by
  intro rest us hends hrest
  simpa using ha _ _ (hb rest us hends hrest)

theorem Open.append_closed {a b : List Char} {ws vs : List Lexeme} (ha : Open a ws)
    (hb : Closed b vs) (hends : Ends b) (hne : b ≠ []) : Closed (a ++ b) (ws ++ vs) := by
  intro rest us hrest
  simpa using ha _ _ (hends.append hne rest) (hb rest us hrest)

theorem Open.append {a b : List Char} {ws vs : List Lexeme} (ha : Open a ws)
    (hb : Open b vs) (hends : Ends b) (hne : b ≠ []) : Open (a ++ b) (ws ++ vs) := by
  intro rest us hrestEnds hrest
  simpa using ha _ _ (hends.append hne rest) (hb rest us hrestEnds hrest)

/-! ### Layout -/

/-- A blank before a text does not change its lexemes. -/
theorem Lexed.blank_cons {c : Char} {text : List Char} {ws : List Lexeme}
    (hc : Text.isBlank c = true) (h : Lexed text ws) : Lexed (c :: text) ws := by
  have hpiece : piece? c text =
      some ⟨none, c :: text.takeWhile Text.isBlank, text.dropWhile Text.isBlank⟩ := by
    simp [piece?, hc]
  refine @Lexed.cons c text _ ws hpiece ?_
  cases h with
  | nil => exact .nil
  | @cons d rest piece ws hd htail =>
      by_cases hblank : Text.isBlank d = true
      · rw [piece?, if_pos hblank] at hd
        obtain rfl := Option.some.inj hd
        simpa [hblank, Piece.lexemes] using htail
      · rw [List.dropWhile_cons_of_neg hblank]
        exact .cons hd htail

theorem closed_of_blank {text : List Char} (h : ∀ c ∈ text, Text.isBlank c = true) :
    Closed text [] := by
  intro rest vs hrest
  induction text with
  | nil => exact hrest
  | cons c text ih =>
      exact Lexed.blank_cons (h c (by simp)) (ih fun d hd => h d (by simp [hd]))

theorem piece?_of_remark? {c : Char} {text lexeme rest : List Char} (hc : c = '/' ∨ c = '#')
    (h : remark? (c :: text) = some (lexeme, rest)) :
    piece? c text = some ⟨none, lexeme, rest⟩ := by
  have hclass : Text.isBlank c = false ∧ Text.isDigit c = false ∧ Text.isNameStart c = false := by
    rcases hc with rfl | rfl <;> decide
  simp [piece?, hclass, h]

/-- A remark up to the end of a line, with that end, is layout. -/
theorem closed_of_remark? {c : Char} {text : List Char} (hc : c = '/' ∨ c = '#')
    (h : ∀ rest, remark? (c :: text ++ '\n' :: rest) = some (c :: text, '\n' :: rest)) :
    Closed (c :: text ++ ['\n']) [] := by
  intro rest vs hrest
  have hpiece := piece?_of_remark? hc (h rest)
  have htail : Lexed ('\n' :: rest) vs := Lexed.blank_cons (by decide) hrest
  simpa [Piece.lexemes] using Lexed.cons hpiece htail

theorem takeWhile_line {body : List Char} (h : '\n' ∉ body) (rest : List Char) :
    (body ++ '\n' :: rest).takeWhile (· != '\n') = body ∧
      (body ++ '\n' :: rest).dropWhile (· != '\n') = '\n' :: rest := by
  have hbody : ∀ c ∈ body, (c != '\n') = true := by
    intro c hc
    simpa using ne_of_mem_of_not_mem hc h
  simp [List.takeWhile_append_of_pos hbody, List.dropWhile_append_of_pos hbody]

/-- A comment up to the end of a line is layout. -/
theorem closed_lineComment {body : List Char} (h : '\n' ∉ body) :
    Closed ('/' :: '/' :: body ++ ['\n']) [] := by
  refine closed_of_remark? (.inl rfl) ?_
  intro rest
  simp [remark?, takeWhile_line h]

/-- A directive is layout. -/
theorem closed_directive {body : List Char} (h : '\n' ∉ body) :
    Closed ('#' :: body ++ ['\n']) [] := by
  refine closed_of_remark? (.inr rfl) ?_
  intro rest
  simp [remark?, takeWhile_line h]

/-! ### Words and numbers -/

theorem isWord_of_isEnd {c : Char} (h : isEnd c = true) : Text.isWord c = false := by
  rcases eq_of_isEnd h with rfl | rfl | rfl | rfl <;> decide +kernel

theorem isDigit_of_isEnd {c : Char} (h : isEnd c = true) : Text.isDigit c = false := by
  rcases eq_of_isEnd h with rfl | rfl | rfl | rfl <;> decide

/-- A name of one letter ends before whatever is no part of a word. -/
theorem piece?_name {c d : Char}
    (hc : Text.isBlank c = false ∧ Text.isDigit c = false ∧ Text.isNameStart c = true)
    (hd : Text.isWord d = false) (rest : List Char) :
    piece? c (d :: rest) = some ⟨some .name, [c], d :: rest⟩ := by
  obtain ⟨hblank, hdigit, hname⟩ := hc
  rw [piece?, if_neg (by simp [hblank]), if_neg (by simp [hdigit]), if_pos hname]
  simp [hd]

theorem takeWhile_append_of_ends {p : Char → Bool} (text : List Char) {rest : List Char}
    (h : ∀ c ∈ rest.head?, p c = false) :
    (text ++ rest).takeWhile p = text.takeWhile p ∧
      (text ++ rest).dropWhile p = text.dropWhile p ++ rest := by
  have hstop : rest.takeWhile p = [] ∧ rest.dropWhile p = rest := by
    cases rest with
    | nil => simp
    | cons c rest => simp [h c (by simp)]
  induction text with
  | nil => simpa using hstop
  | cons c text ih =>
      by_cases hc : p c = true
      · simp [hc, ih]
      · simp [hc]

/-! ### Any text without line comments -/

theorem throughClosing?_append_right {text lexeme rest : List Char} (more : List Char)
    (h : throughClosing? text = some (lexeme, rest)) :
    throughClosing? (text ++ more) = some (lexeme, rest ++ more) := by
  fun_induction throughClosing? text generalizing lexeme rest with
  | case1 => cases h
  | case2 tail =>
      obtain ⟨rfl, rfl⟩ : ['*', '/'] = lexeme ∧ tail = rest := by simpa using h
      rfl
  | case3 c tail hne ih =>
      obtain ⟨⟨found, left⟩, hfound, heq⟩ := Option.map_eq_some_iff.1 h
      obtain ⟨rfl, rfl⟩ : c :: found = lexeme ∧ left = rest := by simpa using heq
      have hne' : ∀ tail', c = '*' → tail ++ more = '/' :: tail' → False := by
        intro tail' hc htail
        cases tail with
        | nil => simp [throughClosing?] at hfound
        | cons d tail =>
            obtain ⟨rfl, -⟩ := List.cons.inj htail
            exact hne tail hc rfl
      rw [List.cons_append, throughClosing?.eq_3 _ _ hne', ih hfound]
      rfl

theorem characterLiteral?_append_right {text lexeme rest : List Char} (more : List Char)
    (h : characterLiteral? text = some (lexeme, rest)) :
    characterLiteral? (text ++ more) = some (lexeme, rest ++ more) := by
  unfold characterLiteral? at h
  split at h
  · obtain ⟨rfl, rfl⟩ : _ = lexeme ∧ _ = rest := by simpa using h
    rfl
  · next c tail hescape =>
      split at h
      · cases h
      · next hplain =>
          obtain ⟨rfl, rfl⟩ : _ = lexeme ∧ _ = rest := by simpa using h
          have hquote : c ≠ '\\' := fun hc => hplain (.inl hc)
          rw [List.cons_append, List.cons_append, List.cons_append, characterLiteral?.eq_2,
            if_neg hplain]
          simp [hquote]
  · cases h

theorem characterLiteral?_of_ne {c : Char} (hc : c ≠ '\'') (text : List Char) :
    characterLiteral? (c :: text) = none := by
  unfold characterLiteral?
  split
  · next heq => exact absurd (List.cons.inj heq).1 hc
  · next heq => exact absurd (List.cons.inj heq).1 hc
  · rfl

/-- An operator has one or two characters, and the second one ends nothing. -/
theorem toList_of_mem_operators {operator : String} (h : operator ∈ operators) :
    (∃ c, operator.toList = [c]) ∨ ∃ c d, operator.toList = [c, d] ∧ isEnd d = false := by
  have hall : ∀ operator ∈ operators, operator.toList.length ≤ 2 ∧ operator.toList ≠ [] ∧
      operator.toList.tail.all fun d => !isEnd d := by decide +kernel
  obtain ⟨hlength, hne, htail⟩ := hall operator h
  match operator.toList, hlength, hne, htail with
  | [c], _, _, _ => exact .inl ⟨c, rfl⟩
  | [c, d], _, _, htail => exact .inr ⟨c, d, rfl, by simpa using htail⟩

theorem isPrefixOf_append_of_ends {operator : String} (h : operator ∈ operators) (c : Char)
    (text : List Char) {rest : List Char} (hrest : Ends rest) :
    operator.toList.isPrefixOf (c :: text ++ rest) = operator.toList.isPrefixOf (c :: text) := by
  rcases toList_of_mem_operators h with ⟨a, ha⟩ | ⟨a, b, hab, hb⟩
  · simp [ha, List.isPrefixOf]
  · cases text with
    | cons d text => simp [hab, List.isPrefixOf]
    | nil =>
        cases rest with
        | nil => simp
        | cons d rest =>
            have hne : b ≠ d := by
              rintro rfl
              simp [hrest b (by simp)] at hb
            simp [hab, hne, List.isPrefixOf]

theorem operator?_append_right {c : Char} {text lexeme rest more : List Char}
    (h : operator? (c :: text) = some (lexeme, rest)) (hmore : Ends more) :
    operator? (c :: text ++ more) = some (lexeme, rest ++ more) := by
  obtain ⟨operator, hfind, heq⟩ := Option.map_eq_some_iff.1 h
  obtain ⟨rfl, rfl⟩ : operator.toList = lexeme ∧ (c :: text).drop operator.length = rest := by
    simpa using heq
  have hfind' : operators.find? (fun operator => operator.toList.isPrefixOf (c :: text ++ more)) =
      some operator := by
    rw [← hfind]
    exact List.find?_congr fun _ hmem => isPrefixOf_append_of_ends hmem c text hmore
  have hfront := List.find?_some hfind
  have hprefix := List.isPrefixOf_iff_prefix.1 hfront
  have hlength : operator.length ≤ (c :: text).length := by
    simpa [← String.length_toList] using hprefix.length_le
  rw [operator?, hfind', Option.map_some, List.drop_append_of_le_length hlength]

theorem ne_quote_of_operator? {c : Char} {text lexeme rest : List Char}
    (h : operator? (c :: text) = some (lexeme, rest)) : c ≠ '\'' := by
  have hmem := mem_operators_of_operator? h
  obtain ⟨hne, happend⟩ := operator?_append h
  cases lexeme with
  | nil => exact absurd rfl hne
  | cons d lexeme =>
      obtain rfl := (List.cons.inj happend).1
      exact fun hquote => ofList_notMem_operators lexeme (.inr (.inr hquote)) hmem

theorem remark?_of_ne {c : Char} (hslash : c ≠ '/') (hdirective : c ≠ '#') (text : List Char) :
    remark? (c :: text) = none := by
  unfold remark?
  split
  · next heq => exact absurd (List.cons.inj heq).1 hslash
  · next heq => exact absurd (List.cons.inj heq).1 hslash
  · next heq => exact absurd (List.cons.inj heq).1 hdirective
  · rfl

theorem remark?_slash_of_ne {text : List Char} (h : ∀ d ∈ text.head?, d ≠ '/' ∧ d ≠ '*') :
    remark? ('/' :: text) = none := by
  unfold remark?
  split
  · next heq => simp [(List.cons.inj heq).2] at h
  · next heq => simp [(List.cons.inj heq).2] at h
  · next heq => cases (List.cons.inj heq).1
  · rfl

/-- Where no remark begins, none begins before an end, if no slash comes before a star. -/
theorem remark?_append_of_none {c : Char} {text more : List Char}
    (h : remark? (c :: text) = none) (hmore : Ends more)
    (hstar : c = '/' → text.head? ≠ some '*') : remark? (c :: text ++ more) = none := by
  by_cases hdirective : c = '#'
  · simp [hdirective, remark?] at h
  · by_cases hslash : c = '/'
    · subst hslash
      refine remark?_slash_of_ne fun d hd => ?_
      cases text with
      | nil => rcases eq_of_isEnd (hmore d hd) with rfl | rfl | rfl | rfl <;> decide
      | cons e text =>
          obtain rfl : e = d := by simpa using hd
          refine ⟨?_, by simpa using hstar rfl⟩
          rintro rfl
          simp [remark?] at h
    · exact remark?_of_ne hslash hdirective _

theorem remark?_append_of_some {c : Char} {text lexeme rest : List Char} (more : List Char)
    (h : remark? (c :: text) = some (lexeme, rest)) (hline : ¬ ['/', '/'] <+: c :: text)
    (hdirective : c ≠ '#') : remark? (c :: text ++ more) = some (lexeme, rest ++ more) := by
  unfold remark? at h
  split at h
  · next tail heq => exact absurd ⟨tail, heq.symm⟩ hline
  · next tail heq =>
      obtain ⟨rfl, rfl⟩ := List.cons.inj heq
      obtain ⟨⟨found, left⟩, hfound, heq⟩ := Option.map_eq_some_iff.1 h
      obtain ⟨rfl, rfl⟩ : '/' :: '*' :: found = lexeme ∧ left = rest := by simpa using heq
      simp [remark?, throughClosing?_append_right more hfound]
  · next heq => exact absurd (List.cons.inj heq).1 hdirective
  · cases h

/-- The piece at the front of a text stays the same before an end, if it is neither blank nor a
remark up to the end of a line and no slash without remark comes before a star. -/
theorem piece?_append_right {c : Char} {text more : List Char} {piece : Piece}
    (h : piece? c text = some piece) (hmore : Ends more) (hblank : Text.isBlank c = false)
    (hline : ¬ ['/', '/'] <+: c :: text) (hdirective : c ≠ '#')
    (hstar : c = '/' → text.head? = some '*' → remark? (c :: text) ≠ none) :
    piece? c (text ++ more) = some { piece with rest := piece.rest ++ more } := by
  have hdigit := takeWhile_append_of_ends text fun d hd => isDigit_of_isEnd (hmore d hd)
  have hword := takeWhile_append_of_ends text fun d hd => isWord_of_isEnd (hmore d hd)
  unfold piece? at h ⊢
  rw [if_neg (by simp [hblank])] at h ⊢
  split at h
  · next hc =>
      obtain rfl := Option.some.inj h
      rw [if_pos hc, hdigit.1, hdigit.2]
  · next hc =>
      rw [if_neg hc]
      split at h
      · next hc =>
          obtain rfl := Option.some.inj h
          rw [if_pos hc, hword.1, hword.2]
      · next hc =>
          rw [if_neg hc]
          split at h
          · next hremark =>
              obtain rfl := Option.some.inj h
              rw [← List.cons_append, remark?_append_of_some more hremark hline hdirective]
          · next hremark =>
              rw [← List.cons_append, remark?_append_of_none hremark hmore
                fun hc hhead => hstar hc hhead hremark]
              split at h
              · next hliteral =>
                  obtain rfl := Option.some.inj h
                  simp only [characterLiteral?_append_right more hliteral]
              · next hliteral =>
                  obtain ⟨⟨lexeme, rest⟩, hoperator, rfl⟩ := Option.map_eq_some_iff.1 h
                  have hquote := ne_quote_of_operator? hoperator
                  simp only [List.cons_append, characterLiteral?_of_ne hquote]
                  rw [← List.cons_append, operator?_append_right hoperator hmore]
                  rfl

theorem piece?_slash {text : List Char} (h : remark? ('/' :: '*' :: text) = none) :
    piece? '/' ('*' :: text) = some ⟨some .operator, ['/'], '*' :: text⟩ := by
  rw [piece?, if_neg (by decide), if_neg (by decide), if_neg (by decide), h,
    characterLiteral?_of_ne (by decide)]
  rfl

theorem Lexed.head?_of_star {text : List Char} {ws : List Lexeme} (h : Lexed ('*' :: text) ws) :
    ws.head? = some (symbol "*") := by
  cases h with
  | cons hpiece _ =>
      obtain rfl := Option.some.inj ((show piece? '*' text = some _ from rfl).symm.trans hpiece)
      rfl

/-- A text without comments to the end of a line and without directives keeps its lexemes before an
end, unless a slash stands before a star. -/
theorem Lexed.isOpen {text : List Char} {ws : List Lexeme} (h : Lexed text ws)
    (hline : ¬ ['/', '/'] <:+: text) (hdirective : '#' ∉ text)
    (hchain : ws.IsChain fun v w => ¬ opensComment v w) : Open text ws := by
  intro rest vs hends hrest
  induction h with
  | nil => exact hrest
  | @cons c text piece ws hpiece htail ih =>
      have happend := (piece?_append hpiece).2
      have hsuffix : piece.rest <:+ c :: text := ⟨piece.lexeme, happend⟩
      have ih := ih (fun hslashes => hline (hslashes.trans hsuffix.isInfix))
        (fun hmem => hdirective (hsuffix.subset hmem)) hchain.right_of_append
      by_cases hblank : Text.isBlank c = true
      · rw [piece?, if_pos hblank] at hpiece
        obtain rfl := Option.some.inj hpiece
        have hcopy : Closed (c :: text.takeWhile Text.isBlank) [] := by
          refine closed_of_blank ?_
          simpa [hblank] using fun d hd => List.mem_takeWhile_imp hd
        have := hcopy _ _ ih
        simpa [Piece.lexemes, ← List.append_assoc] using this
      · have hstar : c = '/' → text.head? = some '*' → remark? (c :: text) ≠ none := by
          rintro rfl hhead hremark
          obtain ⟨tail, rfl⟩ : ∃ tail, text = '*' :: tail := List.head?_eq_some_iff.1 hhead
          obtain rfl := Option.some.inj ((piece?_slash hremark).symm.trans hpiece)
          obtain ⟨ws, rfl⟩ := List.head?_eq_some_iff.1 htail.head?_of_star
          simp [Piece.lexemes, opensComment, symbol] at hchain
        have hfront : ¬ ['/', '/'] <+: c :: text := fun hfront => hline hfront.isInfix
        have hc : c ≠ '#' := by
          rintro rfl
          simp at hdirective
        have hmore := piece?_append_right hpiece hends (by simpa using hblank) hfront hc hstar
        simpa [Piece.lexemes] using Lexed.cons hmore ih

/-! ### Fixed texts -/

/-- The lexemes of a text without comments and directives, found piece by piece. -/
theorem open_of_frontLexemes? {count : Nat} {text : List Char} {ws : List Lexeme}
    (h : frontLexemes? count text = some (ws, []))
    (hplain : ¬ ['/', '/'] <:+: text ∧ '#' ∉ text ∧ ws.IsChain fun v w => ¬ opensComment v w) :
    Open text ws :=
  (lexed_of_frontLexemes? h).isOpen hplain.1 hplain.2.1 hplain.2.2

/-- An open text is closed by a blank. -/
theorem Open.closed_blank {text : List Char} {ws : List Lexeme} (h : Open text ws) {c : Char}
    (hend : isEnd c = true) (hc : Text.isBlank c = true) : Closed (text ++ [c]) ws := by
  have hblank : Closed [c] [] := closed_of_blank (by simpa using hc)
  simpa using h.append_closed hblank (by simpa [Ends] using hend) (by simp)

end GridRules.Program
