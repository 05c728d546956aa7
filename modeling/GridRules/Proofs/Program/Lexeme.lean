import GridRules.Program.Token

/-!
# Lexemes

What a reader of program text sees of a token is its kind and its text, not its place. The lexemes
of a text are found piece by piece, and they do not depend on what stands before the text, which
only moves their places. A text that keeps its lexemes whatever follows it can be put together with
others.
-/

namespace GridRules.Program

/-- A token without its place. -/
structure Lexeme where
  kind : TokenKind
  text : String
deriving DecidableEq, Repr

/-- The lexeme of an operator or a bracket. -/
def symbol (text : String) : Lexeme :=
  ⟨.operator, text⟩

/-- The lexeme of a name or a keyword. -/
def word (text : String) : Lexeme :=
  ⟨.name, text⟩

/-- The lexemes between which a comment would begin if nothing stood between them. -/
def opensComment (v w : Lexeme) : Prop :=
  v = symbol "/" ∧ w = symbol "*"

instance (v w : Lexeme) : Decidable (opensComment v w) :=
  inferInstanceAs (Decidable (v = symbol "/" ∧ w = symbol "*"))

/-- What a reader sees of a token. -/
def Token.lexeme (token : Token) : Lexeme :=
  ⟨token.kind, token.text⟩

/-- The lexemes of a piece: one, or none if the piece is layout. -/
def Piece.lexemes (piece : Piece) : List Lexeme :=
  match piece.kind with
  | none => []
  | some kind => [⟨kind, String.ofList piece.lexeme⟩]

/-- A text falls into pieces with the given lexemes. -/
inductive Lexed : List Char → List Lexeme → Prop
  | nil : Lexed [] []
  | cons {c text piece ws} (h : piece? c text = some piece) (tail : Lexed piece.rest ws) :
      Lexed (c :: text) (piece.lexemes ++ ws)

theorem Piece.map_lexeme_tokens (piece : Piece) (offset : Nat) :
    (piece.tokens offset).map Token.lexeme = piece.lexemes := by
  cases h : piece.kind <;> simp [Piece.tokens, Piece.lexemes, Token.lexeme, h]

theorem Piece.reverse_tokens (piece : Piece) (offset : Nat) :
    (piece.tokens offset).reverse = piece.tokens offset := by
  cases h : piece.kind <;> simp [Piece.tokens, h]

/-- A piece at the front of a text is taken off first. -/
theorem tokensFrom_cons {c : Char} {text : List Char} {piece : Piece}
    (h : piece? c text = some piece) (offset : Nat) (earlier : List Token) :
    tokensFrom offset earlier (c :: text) =
      tokensFrom (offset + piece.lexeme.length) (piece.tokens offset ++ earlier) piece.rest := by
  rw [tokensFrom]
  split
  · next hnone => simp [h] at hnone
  · next other hother =>
      obtain rfl : piece = other := Option.some.inj (h.symm.trans hother)
      rfl

/-- Splitting finds the lexemes of a text, whatever was found before it. -/
theorem lexed_of_tokensFrom (text : List Char) (offset : Nat) (earlier tokens : List Token)
    (h : tokensFrom offset earlier text = .ok tokens) :
    ∃ later, tokens = earlier.reverse ++ later ∧ Lexed text (later.map Token.lexeme) := by
  fun_induction tokensFrom offset earlier text with
  | case1 => exact ⟨[], by simpa using h.symm, .nil⟩
  | case2 => cases h
  | case3 offset earlier c text piece hpiece _ ih =>
      obtain ⟨later, rfl, hlater⟩ := ih h
      refine ⟨piece.tokens offset ++ later, ?_, ?_⟩
      · simp [Piece.reverse_tokens]
      · rw [List.map_append, Piece.map_lexeme_tokens]
        exact .cons hpiece hlater

/-- A text that has lexemes is split into tokens. -/
theorem tokensFrom_of_lexed {text : List Char} {ws : List Lexeme} (h : Lexed text ws)
    (offset : Nat) (earlier : List Token) :
    ∃ later, tokensFrom offset earlier text = .ok (earlier.reverse ++ later) ∧
      later.map Token.lexeme = ws := by
  induction h generalizing offset earlier with
  | nil => exact ⟨[], by simp [tokensFrom], rfl⟩
  | @cons c text piece ws hpiece _ ih =>
      obtain ⟨later, heq, rfl⟩ := ih (offset + piece.lexeme.length)
        (piece.tokens offset ++ earlier)
      refine ⟨piece.tokens offset ++ later, ?_, by simp [Piece.map_lexeme_tokens]⟩
      rw [tokensFrom_cons hpiece]
      simpa [Piece.reverse_tokens] using heq

theorem lexed_of_tokenize {source : String} {tokens : List Token}
    (h : tokenize source = .ok tokens) : Lexed source.toList (tokens.map Token.lexeme) := by
  obtain ⟨later, rfl, hlater⟩ := lexed_of_tokensFrom _ _ _ _ h
  simpa using hlater

theorem tokenize_of_lexed {source : String} {ws : List Lexeme} (h : Lexed source.toList ws) :
    ∃ tokens, tokenize source = .ok tokens ∧ tokens.map Token.lexeme = ws := by
  obtain ⟨later, heq, hws⟩ := tokensFrom_of_lexed h 0 []
  exact ⟨later, heq, hws⟩

/-! ### Places -/

/-- The token at a place further on. -/
def Token.shift (count : Nat) (token : Token) : Token :=
  { token with offset := count + token.offset }

theorem Piece.map_shift_tokens (piece : Piece) (count offset : Nat) :
    (piece.tokens offset).map (Token.shift count) = piece.tokens (count + offset) := by
  cases h : piece.kind <;> simp [Piece.tokens, Token.shift, h]

/-- What is found in a text depends on what stands before it in the places only. -/
theorem tokensFrom_shift (text : List Char) (offset : Nat) (earlier tokens : List Token)
    (h : tokensFrom offset earlier text = .ok tokens) :
    ∃ later, tokens = earlier.reverse ++ later ∧ ∀ count others,
      tokensFrom (count + offset) others text =
        .ok (others.reverse ++ later.map (Token.shift count)) := by
  fun_induction tokensFrom offset earlier text with
  | case1 => exact ⟨[], by simpa using h.symm, by simp [tokensFrom]⟩
  | case2 => cases h
  | case3 offset earlier c text piece hpiece _ ih =>
      obtain ⟨later, rfl, hlater⟩ := ih h
      refine ⟨piece.tokens offset ++ later, by simp [Piece.reverse_tokens], ?_⟩
      intro count others
      -- The same piece is found, whatever stands before the text.
      rw [tokensFrom_cons hpiece, Nat.add_assoc, hlater]
      simp [Piece.reverse_tokens, Piece.map_shift_tokens]

/-- A token at the front of a text comes before the tokens of the rest, which are further on by its
length. -/
theorem tokenize_append_of_piece? {c : Char} {text : List Char} {kind : TokenKind} {rest : String}
    {tokens : List Token}
    (hpiece : piece? c (text ++ rest.toList) = some ⟨some kind, c :: text, rest.toList⟩)
    (h : tokenize rest = .ok tokens) :
    tokenize (String.ofList (c :: text) ++ rest) =
      .ok (⟨kind, String.ofList (c :: text), 0⟩ ::
        tokens.map (Token.shift (String.ofList (c :: text)).length)) := by
  obtain ⟨later, rfl, hlater⟩ := tokensFrom_shift _ _ _ _ h
  have hrest := hlater (c :: text).length [⟨kind, String.ofList (c :: text), 0⟩]
  rw [String.length_ofList, tokenize, String.toList_append, String.toList_ofList, List.cons_append,
    tokensFrom_cons hpiece, Nat.zero_add]
  exact hrest

/-! ### Kinds and texts -/

/-- The names that mean something to a reader of programs. -/
def keywords : List String :=
  ["using", "namespace", "std", "int", "main", "for", "if", "else", "cout", "endl", "return"]

/-- What a text of a certain kind looks like: operators and keywords are told by their texts, and a
character literal has one character, or one behind a backslash, between its quotes. -/
structure Lexeme.IsProper (w : Lexeme) : Prop where
  operator : w.kind = .operator ↔ w.text ∈ operators
  keyword : w.text ∈ keywords → w.kind = .name
  literal : w.kind = .character → ∃ c,
    w.text.toList = ['\'', '\\', c, '\''] ∨ w.text.toList = ['\'', c, '\''] ∧ c ≠ '\\'

/-- Operators and keywords are told by their texts. -/
def Lexeme.IsReserved (w : Lexeme) : Prop :=
  w.kind = .operator ∧ w.text ∈ operators ∨ w.kind = .name ∧ w.text ∈ keywords

instance (w : Lexeme) : Decidable w.IsReserved :=
  inferInstanceAs (Decidable (_ ∨ _))

theorem symbol_isReserved {text : String} (h : text ∈ operators) : (symbol text).IsReserved :=
  .inl ⟨rfl, h⟩

/-- A token with the text of an operator or a keyword is this operator or this keyword. -/
theorem Token.lexeme_of_isReserved {token : Token} {w : Lexeme} (hw : w.IsReserved)
    (hproper : token.lexeme.IsProper) (htext : token.text = w.text) : token.lexeme = w := by
  have hkind : token.kind = w.kind := by
    rw [Lexeme.IsReserved, ← htext] at hw
    rcases hw with ⟨hkind, hmem⟩ | ⟨hkind, hmem⟩
    · exact (hproper.operator.2 hmem).trans hkind.symm
    · exact (hproper.keyword hmem).trans hkind.symm
  rw [Token.lexeme, hkind, htext]

/-- No operator begins like a number, a name or a character literal. -/
theorem ofList_notMem_operators {c : Char} (text : List Char)
    (h : Text.isDigit c = true ∨ Text.isNameStart c = true ∨ c = '\'') :
    String.ofList (c :: text) ∉ operators := by
  have hheads : ∀ operator ∈ operators, operator.toList.head?.all fun d =>
      !Text.isDigit d && !Text.isNameStart d && d != '\'' := by decide +kernel
  intro hmem
  obtain ⟨⟨hdigit, hname⟩, hquote⟩ : (Text.isDigit c = false ∧ Text.isNameStart c = false) ∧
      c ≠ '\'' := by simpa using hheads _ hmem
  simp [hdigit, hname, hquote] at h

/-- No keyword begins like a number or a character literal. -/
theorem ofList_notMem_keywords {c : Char} (text : List Char)
    (h : Text.isDigit c = true ∨ c = '\'') : String.ofList (c :: text) ∉ keywords := by
  have hheads : ∀ keyword ∈ keywords, keyword.toList.head?.all fun d =>
      !Text.isDigit d && d != '\'' := by decide +kernel
  intro hmem
  obtain ⟨hdigit, hquote⟩ : Text.isDigit c = false ∧ c ≠ '\'' := by simpa using hheads _ hmem
  simp [hdigit, hquote] at h

/-- A character literal at the front of a text has one of two forms. -/
theorem eq_of_characterLiteral? {text lexeme rest : List Char}
    (h : characterLiteral? text = some (lexeme, rest)) :
    ∃ c, lexeme = ['\'', '\\', c, '\''] ∨ lexeme = ['\'', c, '\''] ∧ c ≠ '\\' := by
  unfold characterLiteral? at h
  split at h
  · obtain ⟨rfl, -⟩ : _ = lexeme ∧ _ = rest := by simpa using h
    exact ⟨_, .inl rfl⟩
  · split at h
    · cases h
    · next hplain =>
        obtain ⟨rfl, -⟩ : _ = lexeme ∧ _ = rest := by simpa using h
        exact ⟨_, .inr ⟨rfl, fun hc => hplain (.inl hc)⟩⟩
  · cases h

theorem mem_operators_of_operator? {text lexeme rest : List Char}
    (h : operator? text = some (lexeme, rest)) : String.ofList lexeme ∈ operators := by
  obtain ⟨operator, hfind, heq⟩ := Option.map_eq_some_iff.1 h
  obtain ⟨rfl, -⟩ : operator.toList = lexeme ∧ text.drop operator.length = rest := by
    simpa using heq
  simpa using List.mem_of_find?_eq_some hfind

theorem Lexeme.isProper_number {c : Char} (hc : Text.isDigit c = true) (text : List Char) :
    Lexeme.IsProper ⟨.number, String.ofList (c :: text)⟩ where
  operator := iff_of_false (by simp) (ofList_notMem_operators text (.inl hc))
  keyword := fun hmem => absurd hmem (ofList_notMem_keywords text (.inl hc))
  literal := by simp

theorem Lexeme.isProper_name {c : Char} (hc : Text.isNameStart c = true) (text : List Char) :
    Lexeme.IsProper ⟨.name, String.ofList (c :: text)⟩ where
  operator := iff_of_false (by simp) (ofList_notMem_operators text (.inr (.inl hc)))
  keyword := fun _ => rfl
  literal := by simp

theorem Lexeme.isProper_literal {lexeme : List Char} {c : Char}
    (h : lexeme = ['\'', '\\', c, '\''] ∨ lexeme = ['\'', c, '\''] ∧ c ≠ '\\') :
    Lexeme.IsProper ⟨.character, String.ofList lexeme⟩ := by
  obtain ⟨body, hbody⟩ : ∃ body, lexeme = '\'' :: body := by
    rcases h with rfl | ⟨rfl, -⟩
    · exact ⟨_, rfl⟩
    · exact ⟨_, rfl⟩
  refine ⟨iff_of_false (by simp) ?_, fun hmem => ?_, fun _ => ⟨c, by simpa using h⟩⟩
  · rw [hbody]
    exact ofList_notMem_operators body (.inr (.inr rfl))
  · rw [hbody] at hmem
    exact absurd hmem (ofList_notMem_keywords body (.inr rfl))

theorem Lexeme.isProper_operator {text : String} (h : text ∈ operators) :
    (symbol text).IsProper where
  operator := iff_of_true rfl h
  keyword := fun hmem => absurd h ((by decide : ∀ keyword ∈ keywords, keyword ∉ operators) _ hmem)
  literal := by simp [symbol]

/-- The piece at the front of a text, by what it is. -/
inductive IsFront (c : Char) (text : List Char) : Piece → Prop
  | blank (h : Text.isBlank c = true) :
      IsFront c text ⟨none, c :: text.takeWhile Text.isBlank, text.dropWhile Text.isBlank⟩
  | number (h : Text.isDigit c = true) :
      IsFront c text ⟨some .number, c :: text.takeWhile Text.isDigit, text.dropWhile Text.isDigit⟩
  | name (h : Text.isNameStart c = true) :
      IsFront c text ⟨some .name, c :: text.takeWhile Text.isWord, text.dropWhile Text.isWord⟩
  | remark {lexeme rest} (h : remark? (c :: text) = some (lexeme, rest)) :
      IsFront c text ⟨none, lexeme, rest⟩
  | literal {lexeme rest} (h : characterLiteral? (c :: text) = some (lexeme, rest)) :
      IsFront c text ⟨some .character, lexeme, rest⟩
  | operator {lexeme rest} (h : operator? (c :: text) = some (lexeme, rest)) :
      IsFront c text ⟨some .operator, lexeme, rest⟩

theorem isFront_of_piece? {c : Char} {text : List Char} {piece : Piece}
    (h : piece? c text = some piece) : IsFront c text piece := by
  unfold piece? at h
  split at h
  · next hblank =>
      obtain rfl := Option.some.inj h
      exact .blank hblank
  · split at h
    · next hdigit =>
        obtain rfl := Option.some.inj h
        exact .number hdigit
    · split at h
      · next hname =>
          obtain rfl := Option.some.inj h
          exact .name hname
      · split at h
        · next hremark =>
            obtain rfl := Option.some.inj h
            exact .remark hremark
        · split at h
          · next hliteral =>
              obtain rfl := Option.some.inj h
              exact .literal hliteral
          · obtain ⟨⟨lexeme, rest⟩, hoperator, rfl⟩ := Option.map_eq_some_iff.1 h
            exact .operator hoperator

theorem Piece.isProper_of_mem {c : Char} {text : List Char} {piece : Piece}
    (h : piece? c text = some piece) {w : Lexeme} (hw : w ∈ piece.lexemes) : w.IsProper := by
  cases isFront_of_piece? h with
  | blank | remark => simp [Piece.lexemes] at hw
  | number hdigit =>
      obtain rfl := List.mem_singleton.1 hw
      exact Lexeme.isProper_number hdigit _
  | name hname =>
      obtain rfl := List.mem_singleton.1 hw
      exact Lexeme.isProper_name hname _
  | literal hliteral =>
      obtain rfl := List.mem_singleton.1 hw
      obtain ⟨c, hc⟩ := eq_of_characterLiteral? hliteral
      exact Lexeme.isProper_literal hc
  | operator hoperator =>
      obtain rfl := List.mem_singleton.1 hw
      exact Lexeme.isProper_operator (mem_operators_of_operator? hoperator)

theorem Lexed.isProper {text : List Char} {ws : List Lexeme} (h : Lexed text ws) :
    ∀ w ∈ ws, w.IsProper := by
  induction h with
  | nil => simp
  | cons hpiece _ ih =>
      intro w hw
      rcases List.mem_append.1 hw with hw | hw
      · exact Piece.isProper_of_mem hpiece hw
      · exact ih w hw

/-! ### Fixed texts -/

/-- The lexemes of at most `count` pieces at the front of a text, and what follows these. -/
def frontLexemes? : (count : Nat) → List Char → Option (List Lexeme × List Char)
  | _, [] => some ([], [])
  | 0, text => some ([], text)
  | count + 1, c :: text =>
    match piece? c text with
    | none => none
    | some piece =>
      (frontLexemes? count piece.rest).map fun found => (piece.lexemes ++ found.1, found.2)

theorem lexed_of_frontLexemes? {count : Nat} {text : List Char} {ws : List Lexeme}
    (h : frontLexemes? count text = some (ws, [])) : Lexed text ws := by
  fun_induction frontLexemes? count text generalizing ws with
  | case1 =>
      obtain rfl : [] = ws := by simpa using h
      exact .nil
  | case2 => simp_all
  | case3 => cases h
  | case4 count c text piece hpiece ih =>
      obtain ⟨⟨vs, rest⟩, hfound, heq⟩ := Option.map_eq_some_iff.1 h
      obtain ⟨rfl, rfl⟩ : piece.lexemes ++ vs = ws ∧ rest = [] := by simpa using heq
      exact .cons hpiece (ih hfound)

end GridRules.Program
