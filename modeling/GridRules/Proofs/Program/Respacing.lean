import GridRules.Proofs.Program.Places
import GridRules.Proofs.Program.Segmentation
import GridRules.Proofs.Program.Spelling

/-!
# Layout means nothing

The text of a token is read as the same token again before a blank. The texts of any tokens, with a
single space between each two of them, therefore have the same tokens apart from their places, and
whatever reads programs or expressions does not tell the two texts apart.
-/

namespace GridRules.Program

/-! ### Single tokens -/

/-- An operator is the first one in the list that a text of the same characters begins with. -/
theorem operator?_of_ends {c : Char} {text rest : List Char}
    (hmem : String.ofList (c :: text) ∈ operators) (hends : Ends rest) :
    operator? (c :: text ++ rest) = some (c :: text, rest) := by
  have hself : ∀ operator ∈ operators, operator? operator.toList = some (operator.toList, []) := by
    decide +kernel
  have hfound := hself _ hmem
  rw [String.toList_ofList] at hfound
  simpa using operator?_append_right hfound hends

/-- No operator begins with a blank, and none becomes a remark before an end. -/
theorem not_layout_of_mem_operators {c : Char} {text rest : List Char}
    (hmem : String.ofList (c :: text) ∈ operators) (hends : Ends rest) :
    Text.isBlank c = false ∧ remark? (c :: text ++ rest) = none := by
  have hall : ∀ operator ∈ operators, operator.toList.head?.any Text.isBlank = false ∧
      remark? operator.toList = none ∧ ¬ ['/', '*'] <+: operator.toList := by decide +kernel
  obtain ⟨hblank, hremark, hstar⟩ := hall _ hmem
  simp only [String.toList_ofList] at hblank hremark hstar
  refine ⟨by simpa using hblank, remark?_append_of_none hremark hends ?_⟩
  rintro rfl hhead
  obtain ⟨tail, rfl⟩ := List.head?_eq_some_iff.1 hhead
  simp at hstar

theorem takeWhile_of_ends {p : Char → Bool} {text rest : List Char}
    (h : ∀ c ∈ text, p c = true) (hrest : ∀ c ∈ rest.head?, p c = false) :
    (text ++ rest).takeWhile p = text ∧ (text ++ rest).dropWhile p = rest := by
  obtain ⟨htake, hdrop⟩ := takeWhile_append_of_ends text hrest
  rw [htake, hdrop, List.takeWhile_eq_self_iff.2 h, List.dropWhile_eq_nil_iff.2 h]
  exact ⟨rfl, rfl⟩

/-- The text of a token is read as this token before an end. -/
theorem piece?_of_isTokenText {kind : TokenKind} {c : Char} {text rest : List Char}
    (h : IsTokenText kind (c :: text)) (hends : Ends rest) :
    piece? c (text ++ rest) = some ⟨some kind, c :: text, rest⟩ := by
  have hdigit := fun d hd => isDigit_of_isEnd (hends d hd)
  have hword := fun d hd => isWord_of_isEnd (hends d hd)
  cases h with
  | escaped d => rfl
  | plain hplain =>
      obtain ⟨hslash, hquote, hnewline⟩ := hplain
      rw [piece?, if_neg (by decide), if_neg (by decide), if_neg (by decide),
        remark?_of_ne (by decide) (by decide)]
      simp [characterLiteral?, hslash, hquote, hnewline]
  | number _ hdigits =>
      obtain ⟨hc, htext⟩ := List.forall_mem_cons.1 hdigits
      have hblank : Text.isBlank c = false := by
        by_contra hblank
        simp [Text.isDigit_of_isBlank (by simpa using hblank)] at hc
      obtain ⟨htake, hdrop⟩ := takeWhile_of_ends htext hdigit
      simp [piece?, hblank, hc, htake, hdrop]
  | name hname hwords =>
      obtain ⟨htake, hdrop⟩ := takeWhile_of_ends hwords hword
      simp [piece?, hname, Text.isBlank_of_isNameStart hname, Text.isDigit_of_isNameStart hname,
        htake, hdrop]
  | operator hmem =>
      obtain ⟨hblank, hremark⟩ := not_layout_of_mem_operators hmem hends
      have hplain := mt (ofList_notMem_operators text) (not_not_intro hmem)
      simp only [not_or, Bool.not_eq_true] at hplain
      obtain ⟨hc, hname, hquote⟩ := hplain
      rw [List.cons_append] at hremark
      have hoperator := operator?_of_ends hmem hends
      rw [List.cons_append] at hoperator
      simp [piece?, hblank, hc, hname, hremark, characterLiteral?_of_ne hquote, hoperator]

theorem Lexeme.open_of_isTokenText {w : Lexeme} (h : IsTokenText w.kind w.text.toList) :
    Open w.text.toList [w] := by
  obtain ⟨c, text, htext⟩ := List.exists_cons_of_ne_nil h.ne_nil
  intro rest vs hends hrest
  rw [htext] at h ⊢
  have hw : Piece.lexemes ⟨some w.kind, c :: text, rest⟩ = [w] := by
    rw [Piece.lexemes, ← htext, String.ofList_toList]
  rw [← hw]
  exact Lexed.cons (piece?_of_isTokenText h hends) hrest

/-- Every token of a text has the form of its kind. -/
theorem Lexed.isTokenText {text : List Char} {ws : List Lexeme} (h : Lexed text ws) :
    ∀ w ∈ ws, IsTokenText w.kind w.text.toList := by
  induction h with
  | nil => simp
  | @cons c text piece ws hpiece _ ih =>
      intro w hw
      rcases List.mem_append.1 hw with hw | hw
      · cases hkind : piece.kind with
        | none => simp [Piece.lexemes, hkind] at hw
        | some kind =>
            obtain rfl : w = ⟨kind, String.ofList piece.lexeme⟩ := by
              simpa [Piece.lexemes, hkind] using hw
            simpa using (isTokenFront_of_piece? hpiece hkind).form
      · exact ih w hw

/-! ### Sequences -/

/-- The texts of tokens with a single space between each two of them. -/
def spaced (tokens : List Token) : String :=
  String.intercalate " " (tokens.map Token.text)

/-- Texts of tokens with a blank between each two of them keep their tokens. -/
theorem open_intercalate {ws : List Lexeme} (h : ∀ w ∈ ws, IsTokenText w.kind w.text.toList) :
    Open ([' '].intercalate (ws.map fun w => w.text.toList)) ws := by
  induction ws with
  | nil => exact fun rest vs _ hrest => hrest
  | cons w ws ih =>
      obtain ⟨hw, hws⟩ := List.forall_mem_cons.1 h
      cases ws with
      | nil => simpa using Lexeme.open_of_isTokenText hw
      | cons v ws =>
          have hfirst : Closed (w.text.toList ++ [' ']) [w] :=
            (Lexeme.open_of_isTokenText hw).closed_blank (by decide) (by decide)
          simpa [List.intercalate_cons_cons] using hfirst.append_open (ih hws)

/-- Comments, directives and layout mean nothing: a text that has tokens can be replaced by their
texts with single spaces between them. These have the same tokens apart from their places, they
write the same expression and the same program, or are refused with the same report, and what
running and evaluating give is the same. -/
theorem tokenize_spaced {source : String} {tokens : List Token} (h : tokenize source = .ok tokens) :
    (∃ others, tokenize (spaced tokens) = .ok others ∧
      others.map Token.lexeme = tokens.map Token.lexeme) ∧
    Agree Eq (Expr.ofText source) (Expr.ofText (spaced tokens)) ∧
    Agree Eq (ofText source) (ofText (spaced tokens)) ∧
    (∀ row col height width value, evaluate source row col height width = .ok value ↔
      evaluate (spaced tokens) row col height width = .ok value) ∧
    ∀ limit output, interpret source limit = .ok output ↔
      interpret (spaced tokens) limit = .ok output := by
  have hforms := (lexed_of_tokenize h).isTokenText
  have hspaced : Lexed (spaced tokens).toList (tokens.map Token.lexeme) := by
    rw [spaced, String.toList_intercalate]
    simpa [Function.comp_def, Token.lexeme] using (open_intercalate hforms).lexed
  obtain ⟨others, hothers, hlexemes⟩ := tokenize_of_lexed hspaced
  have hexpr := Expr.agree_ofText h hothers hlexemes.symm
  have hprogram := agree_ofText h hothers hlexemes.symm
  exact ⟨⟨others, hothers, hlexemes⟩, hexpr, hprogram, evaluate_of_agree hexpr,
    interpret_of_agree hprogram⟩

/-- A comment between tokens and one behind them leave nothing in the spaced text. -/
theorem tokenize_spaced_comment :
    ∃ tokens, tokenize "r/*row*/<H/2//half\n" = .ok tokens ∧ spaced tokens = "r < H / 2" ∧
      Agree Eq (Expr.ofText "r/*row*/<H/2//half\n") (Expr.ofText "r < H / 2") := by
  have hlexed : Lexed "r/*row*/<H/2//half\n".toList
      [word "r", symbol "<", word "H", symbol "/", ⟨.number, "2"⟩] :=
    @lexed_of_frontLexemes? 9 _ _ (by decide +kernel)
  obtain ⟨tokens, htokens, hlexemes⟩ := tokenize_of_lexed hlexed
  have hspaced : spaced tokens = "r < H / 2" := by
    have htexts := congrArg (List.map Lexeme.text) hlexemes
    rw [List.map_map, show Lexeme.text ∘ Token.lexeme = Token.text from rfl] at htexts
    rw [spaced, htexts]
    decide +kernel
  refine ⟨tokens, htokens, hspaced, ?_⟩
  rw [← hspaced]
  exact (tokenize_spaced htokens).2.1

end GridRules.Program
