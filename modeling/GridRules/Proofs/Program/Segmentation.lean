import GridRules.Proofs.Program.Spelling
import GridRules.Proofs.Text.Word

/-!
# Splitting loses nothing

What layout is and what the text of a token looks like is said here without the order in which a
reader of program text tries the forms. The tokens that are found and the layout between them make
up the text, and where splitting stops at a character, no form of either begins.
-/

namespace GridRules.Program

/-! ### Layout -/

/-- A run of blanks, a comment or a directive, before the given rest of the text. -/
inductive IsLayoutPiece (rest : List Char) : List Char → Prop
  | blanks {run} (hne : run ≠ []) (h : ∀ c ∈ run, Text.isBlank c = true) : IsLayoutPiece rest run
  | lineComment {body} (h : '\n' ∉ body) (hend : ∀ c ∈ rest.head?, c = '\n') :
      IsLayoutPiece rest ('/' :: '/' :: body)
  | closedComment {body} (h : ¬ ['*', '/'] <:+: body) :
      IsLayoutPiece rest ('/' :: '*' :: (body ++ ['*', '/']))
  | directive {body} (h : '\n' ∉ body) (hend : ∀ c ∈ rest.head?, c = '\n') :
      IsLayoutPiece rest ('#' :: body)

/-- Any number of blanks, comments and directives, one after the other. -/
inductive IsLayout (rest : List Char) : List Char → Prop
  | nil : IsLayout rest []
  | cons {front text} (h : IsLayoutPiece (text ++ rest) front) (tail : IsLayout rest text) :
      IsLayout rest (front ++ text)

/-- Layout begins at the front of the text. -/
def LayoutStarts (text : List Char) : Prop :=
  ∃ front rest, text = front ++ rest ∧ IsLayoutPiece rest front

theorem head?_dropWhile {p : Char → Bool} {text : List Char} {d : Char}
    (h : d ∈ (text.dropWhile p).head?) : p d = false := by
  have hnot := List.head?_dropWhile_not p text
  rw [Option.mem_def.1 h] at hnot
  exact hnot

theorem takeWhile_ne_newline (text : List Char) :
    '\n' ∉ text.takeWhile (· != '\n') ∧ ∀ c ∈ (text.dropWhile (· != '\n')).head?, c = '\n' :=
  ⟨fun hmem => by simpa using List.mem_takeWhile_imp hmem,
    fun c hc => by simpa using head?_dropWhile hc⟩

theorem eq_of_throughClosing? {text lexeme rest : List Char}
    (h : throughClosing? text = some (lexeme, rest)) :
    ∃ body, lexeme = body ++ ['*', '/'] ∧ ¬ ['*', '/'] <:+: body := by
  fun_induction throughClosing? text generalizing lexeme rest with
  | case1 => cases h
  | case2 tail =>
      obtain ⟨rfl, -⟩ : ['*', '/'] = lexeme ∧ tail = rest := by simpa using h
      exact ⟨[], rfl, by simp⟩
  | case3 c tail hne ih =>
      obtain ⟨⟨found, left⟩, hfound, heq⟩ := Option.map_eq_some_iff.1 h
      obtain ⟨rfl, rfl⟩ : c :: found = lexeme ∧ left = rest := by simpa using heq
      obtain ⟨body, rfl, hbody⟩ := ih hfound
      refine ⟨c :: body, rfl, fun hinner => ?_⟩
      rcases List.infix_cons_iff.1 hinner with ⟨after, hhead⟩ | hinner
      · obtain ⟨rfl, rfl⟩ : '*' = c ∧ '/' :: after = body := by simpa using hhead
        exact hne _ rfl (throughClosing?_append hfound).symm
      · exact hbody hinner

theorem throughClosing?_isSome (body rest : List Char) :
    (throughClosing? (body ++ '*' :: '/' :: rest)).isSome = true := by
  induction body with
  | nil => rfl
  | cons c body ih =>
      unfold throughClosing?
      split
      · next heq => cases heq
      · rfl
      · next heq =>
          obtain ⟨-, rfl⟩ := List.cons.inj heq
          simpa using ih

theorem isLayoutPiece_of_remark? {text lexeme rest : List Char}
    (h : remark? text = some (lexeme, rest)) : IsLayoutPiece rest lexeme := by
  unfold remark? at h
  split at h
  · next tail =>
      obtain ⟨rfl, rfl⟩ : _ = lexeme ∧ _ = rest := by simpa using h
      have ⟨hline, hend⟩ := takeWhile_ne_newline tail
      exact .lineComment hline hend
  · next tail =>
      obtain ⟨⟨found, left⟩, hfound, heq⟩ := Option.map_eq_some_iff.1 h
      obtain ⟨rfl, rfl⟩ : '/' :: '*' :: found = lexeme ∧ left = rest := by simpa using heq
      obtain ⟨body, rfl, hbody⟩ := eq_of_throughClosing? hfound
      exact .closedComment hbody
  · next tail =>
      obtain ⟨rfl, rfl⟩ : _ = lexeme ∧ _ = rest := by simpa using h
      have ⟨hline, hend⟩ := takeWhile_ne_newline tail
      exact .directive hline hend
  · cases h

/-- Layout begins at a blank and at what is a comment or a directive, and nowhere else. -/
theorem not_layoutStarts {c : Char} {text : List Char} (hblank : Text.isBlank c = false)
    (hremark : remark? (c :: text) = none) : ¬ LayoutStarts (c :: text) := by
  rintro ⟨front, rest, happend, hpiece⟩
  cases hpiece with
  | @blanks run hne hrun =>
      obtain ⟨d, run, rfl⟩ := List.exists_cons_of_ne_nil hne
      obtain ⟨rfl, -⟩ := List.cons.inj happend
      simp [hblank] at hrun
  | lineComment | directive => simp [happend, remark?] at hremark
  | @closedComment body =>
      have hsome := throughClosing?_isSome body rest
      rw [happend] at hremark
      simp [remark?] at hremark
      simp [hremark] at hsome

/-! ### Tokens -/

/-- What the text of a token of each kind looks like. -/
inductive IsTokenText : TokenKind → List Char → Prop
  | escaped (c : Char) : IsTokenText .character ['\'', '\\', c, '\'']
  | plain {c} (h : c ≠ '\\' ∧ c ≠ '\'' ∧ c ≠ '\n') : IsTokenText .character ['\'', c, '\'']
  | number {digits} (hne : digits ≠ []) (h : ∀ c ∈ digits, Text.isDigit c = true) :
      IsTokenText .number digits
  | name {c text} (hc : Text.isNameStart c = true) (h : ∀ d ∈ text, Text.isWord d = true) :
      IsTokenText .name (c :: text)
  | operator {text} (h : String.ofList text ∈ operators) : IsTokenText .operator text

/-- A token of some kind begins at the front of the text. -/
def TokenStarts (text : List Char) : Prop :=
  ∃ kind front, front <+: text ∧ IsTokenText kind front

/-- The kind of the tokens that begin with the given character. -/
def leadKind (c : Char) : TokenKind :=
  if Text.isDigit c then .number
  else if Text.isNameStart c then .name
  else if c = '\'' then .character
  else .operator

/-- The first character of a token tells its kind. -/
theorem IsTokenText.leadKind_eq {kind : TokenKind} {c : Char} {text : List Char}
    (h : IsTokenText kind (c :: text)) : leadKind c = kind := by
  cases h with
  | escaped | plain => decide
  | number _ hdigits => simp [leadKind, hdigits c (by simp)]
  | name hname => simp [leadKind, hname, Text.isDigit_of_isNameStart hname]
  | operator hmem =>
      have hplain := mt (ofList_notMem_operators text) (not_not_intro hmem)
      simp only [not_or, Bool.not_eq_true] at hplain
      simp [leadKind, hplain]

theorem IsTokenText.ne_nil {kind : TokenKind} {text : List Char} (h : IsTokenText kind text) :
    text ≠ [] := by
  cases h with
  | escaped | plain | name => simp
  | number hne => exact hne
  | operator hmem => simpa using toList_ne_nil_of_mem_operators hmem

theorem takeWhile_longest {p : Char → Bool} {front text : List Char} (hhead : front <+: text)
    (h : ∀ c ∈ front, p c = true) : front.length ≤ (text.takeWhile p).length := by
  obtain ⟨rest, rfl⟩ := hhead
  rw [List.takeWhile_append_of_pos h, List.length_append]
  omega

theorem characterLiteral?_of_front {front text : List Char} (hhead : front <+: text)
    (h : IsTokenText .character front) :
    ∃ rest, characterLiteral? text = some (front, rest) := by
  obtain ⟨rest, rfl⟩ := hhead
  cases h with
  | escaped c => exact ⟨rest, rfl⟩
  | plain hplain =>
      obtain ⟨hslash, hquote, hnewline⟩ := hplain
      exact ⟨rest, by simp [characterLiteral?, hslash, hquote, hnewline]⟩

theorem isTokenText_of_characterLiteral? {text lexeme rest : List Char}
    (h : characterLiteral? text = some (lexeme, rest)) : IsTokenText .character lexeme := by
  unfold characterLiteral? at h
  split at h
  · obtain ⟨rfl, -⟩ : _ = lexeme ∧ _ = rest := by simpa using h
    exact .escaped _
  · split at h
    · cases h
    · next hplain =>
        obtain ⟨rfl, -⟩ : _ = lexeme ∧ _ = rest := by simpa using h
        exact .plain (by simpa using hplain)
  · cases h

/-- No operator begins with one that stands before it in the list. -/
theorem operators_pairwise :
    operators.Pairwise fun a b => ¬ a.toList <+: b.toList := by
  decide +kernel

/-- The operator that is found is the longest one at the front of the text. -/
theorem operator?_of_front {front text : List Char} (hhead : front <+: text)
    (hmem : String.ofList front ∈ operators) :
    ∃ lexeme rest, operator? text = some (lexeme, rest) ∧ front.length ≤ lexeme.length := by
  have hfront : (String.ofList front).toList.isPrefixOf text = true :=
    List.isPrefixOf_iff_prefix.2 (by simpa using hhead)
  obtain ⟨found, hfind⟩ : ∃ found, operators.find? (·.toList.isPrefixOf text) = some found :=
    Option.isSome_iff_exists.1 (List.find?_isSome.2 ⟨_, hmem, hfront⟩)
  refine ⟨found.toList, text.drop found.length, by rw [operator?, hfind]; rfl, ?_⟩
  obtain ⟨hfound, before, after, hsplit, hbefore⟩ := List.find?_eq_some_iff_append.1 hfind
  have hfound := List.isPrefixOf_iff_prefix.1 hfound
  -- An operator before the one found is not at the front; one after it is no longer than it.
  rw [hsplit, List.mem_append, List.mem_cons] at hmem
  rcases hmem with hmem | heq | hmem
  · have hnot := hbefore _ hmem
    rw [hfront] at hnot
    cases hnot
  · simp [← heq]
  · have hpairwise := operators_pairwise
    rw [hsplit, List.pairwise_append, List.pairwise_cons] at hpairwise
    have hapart : ¬ found.toList <+: front := by simpa using hpairwise.2.1.1 _ hmem
    by_contra hlonger
    exact hapart (List.prefix_of_prefix_length_le hfound hhead (by omega))

/-- No token begins where no reader of tokens finds one. -/
theorem not_tokenStarts {c : Char} {text : List Char} (hdigit : Text.isDigit c = false)
    (hname : Text.isNameStart c = false) (hliteral : characterLiteral? (c :: text) = none)
    (hoperator : operator? (c :: text) = none) : ¬ TokenStarts (c :: text) := by
  rintro ⟨kind, front, hhead, hform⟩
  obtain ⟨d, front, rfl⟩ := List.exists_cons_of_ne_nil hform.ne_nil
  obtain rfl : d = c := (List.cons_prefix_cons.1 hhead).1
  cases kind with
  | character =>
      obtain ⟨rest, hfound⟩ := characterLiteral?_of_front hhead hform
      simp [hliteral] at hfound
  | operator =>
      cases hform with
      | operator hmem =>
          obtain ⟨lexeme, rest, hfound, -⟩ := operator?_of_front hhead hmem
          simp [hoperator] at hfound
  | number | name =>
      have hlead := hform.leadKind_eq
      simp [leadKind, hdigit, hname] at hlead
      split at hlead <;> cases hlead

/-- The token text at the front of a text: no longer one begins there, of whatever kind, and no
layout does. -/
structure IsTokenFront (kind : TokenKind) (lexeme text : List Char) : Prop where
  front : lexeme <+: text
  form : IsTokenText kind lexeme
  longest : ∀ other longer, longer <+: text → IsTokenText other longer →
    longer.length ≤ lexeme.length
  noLayout : ¬ LayoutStarts text

/-- Token texts at one place are of one kind, so the longest of this kind is the longest. -/
theorem IsTokenFront.of_longest {kind : TokenKind} {lexeme text : List Char}
    (hfront : lexeme <+: text) (hform : IsTokenText kind lexeme)
    (hlongest : ∀ longer, longer <+: text → IsTokenText kind longer →
      longer.length ≤ lexeme.length)
    (hlayout : ¬ LayoutStarts text) : IsTokenFront kind lexeme text where
  front := hfront
  form := hform
  noLayout := hlayout
  longest other longer hlonger hother := by
    obtain ⟨c, lexeme, rfl⟩ := List.exists_cons_of_ne_nil hform.ne_nil
    obtain ⟨d, longer, rfl⟩ := List.exists_cons_of_ne_nil hother.ne_nil
    obtain ⟨rest, rfl⟩ := hfront
    obtain rfl : d = c := (List.cons_prefix_cons.1 hlonger).1
    obtain rfl : other = kind := hother.leadKind_eq.symm.trans hform.leadKind_eq
    exact hlongest _ hlonger hother

/-! ### Pieces -/

theorem isLayoutPiece_of_piece? {c : Char} {text : List Char} {piece : Piece}
    (h : piece? c text = some piece) (hkind : piece.kind = none) :
    IsLayoutPiece piece.rest piece.lexeme := by
  cases isFront_of_piece? h with
  | blank hblank =>
      refine .blanks (by simp) ?_
      simpa [hblank] using fun d hd => List.mem_takeWhile_imp hd
  | remark hremark => exact isLayoutPiece_of_remark? hremark
  | number | name | literal | operator => cases hkind

/-- No layout begins where a piece that is found is a token. -/
theorem not_layoutStarts_of_piece? {c : Char} {text : List Char}
    (h : ∀ piece, piece? c text = some piece → piece.kind ≠ none) :
    ¬ LayoutStarts (c :: text) := by
  have hblank : Text.isBlank c = false := by
    by_contra hblank
    exact h _ (by rw [piece?, if_pos (by simpa using hblank)]) rfl
  have hremark : remark? (c :: text) = none := by
    by_contra hremark
    obtain ⟨⟨lexeme, rest⟩, hfound⟩ := Option.ne_none_iff_exists'.1 hremark
    have hlead : c = '/' ∨ c = '#' := by
      by_contra hlead
      obtain ⟨hslash, hdirective⟩ := not_or.1 hlead
      exact hremark (remark?_of_ne hslash hdirective text)
    exact h _ (piece?_of_remark? hlead hfound) rfl
  exact not_layoutStarts hblank hremark

theorem isTokenFront_of_piece? {c : Char} {text : List Char} {piece : Piece} {kind : TokenKind}
    (h : piece? c text = some piece) (hkind : piece.kind = some kind) :
    IsTokenFront kind piece.lexeme (c :: text) := by
  have hfront : piece.lexeme <+: c :: text := ⟨piece.rest, (piece?_append h).2⟩
  have hlayout : ¬ LayoutStarts (c :: text) := by
    refine not_layoutStarts_of_piece? fun other hother => ?_
    obtain rfl : other = piece := Option.some.inj (hother.symm.trans h)
    simp [hkind]
  cases isFront_of_piece? h with
  | blank | remark => cases hkind
  | number hdigit =>
      obtain rfl := Option.some.inj hkind
      refine .of_longest hfront (.number (by simp) ?_) ?_ hlayout
      · simpa [hdigit] using fun d hd => List.mem_takeWhile_imp hd
      · intro longer hlonger hform
        cases hform with
        | number _ hdigits => simpa [hdigit] using takeWhile_longest hlonger hdigits
  | name hname =>
      obtain rfl := Option.some.inj hkind
      refine .of_longest hfront (.name hname fun d hd => List.mem_takeWhile_imp hd) ?_ hlayout
      intro longer hlonger hform
      cases hform with
      | @name d longer hd hword =>
          have hwords : ∀ e ∈ d :: longer, Text.isWord e = true :=
            List.forall_mem_cons.2 ⟨Text.isWord_of_isNameStart hd, hword⟩
          simpa [Text.isWord_of_isNameStart hname] using takeWhile_longest hlonger hwords
  | literal hliteral =>
      obtain rfl := Option.some.inj hkind
      refine .of_longest hfront (isTokenText_of_characterLiteral? hliteral) ?_ hlayout
      intro longer hlonger hform
      obtain ⟨rest, hfound⟩ := characterLiteral?_of_front hlonger hform
      simp [hliteral] at hfound
      simp [hfound]
  | operator hoperator =>
      obtain rfl := Option.some.inj hkind
      refine .of_longest hfront (.operator (mem_operators_of_operator? hoperator)) ?_ hlayout
      intro longer hlonger hform
      cases hform with
      | operator hmem =>
          obtain ⟨found, rest, hfound, hlength⟩ := operator?_of_front hlonger hmem
          simp [hoperator] at hfound
          simpa [hfound] using hlength

/-- Where no piece is found, neither layout nor a token begins. -/
theorem not_starts_of_piece? {c : Char} {text : List Char} (h : piece? c text = none) :
    ¬ LayoutStarts (c :: text) ∧ ¬ TokenStarts (c :: text) := by
  refine ⟨not_layoutStarts_of_piece? (by simp [h]), ?_⟩
  unfold piece? at h
  split_ifs at h with hblank hdigit hname
  split at h
  · cases h
  · split at h
    · cases h
    · next hliteral =>
        exact not_tokenStarts (by simpa using hdigit) (by simpa using hname) hliteral
          (by simpa using h)

/-! ### Texts -/

/-- The place behind a token. -/
def Token.stop (token : Token) : Nat :=
  token.offset + token.text.length

/-- The stretches before, between and after the tokens of a text, each by its two ends. -/
def gaps (start : Nat) (tokens : List Token) (stop : Nat) : List (Nat × Nat) :=
  (start :: tokens.map Token.stop).zip (tokens.map Token.offset ++ [stop])

/-- The tokens, one behind the other, and the layout in the gaps make up the text between two
places. -/
structure Segments (source : List Char) (start : Nat) (tokens : List Token) (stop : Nat) :
    Prop where
  increasing : (tokens.map Token.offset).Pairwise (· < ·)
  apart : tokens.Pairwise fun a b => a.stop ≤ b.offset
  inside : start ≤ stop ∧ stop ≤ source.length ∧
    ∀ token ∈ tokens, start ≤ token.offset ∧ token.stop ≤ stop
  slice : ∀ token ∈ tokens, source.extract token.offset token.stop = token.text.toList
  token : ∀ token ∈ tokens,
    IsTokenFront token.kind token.text.toList (source.drop token.offset)
  layout : ∀ gap ∈ gaps start tokens stop,
    IsLayout (source.drop gap.2) (source.extract gap.1 gap.2)

variable {source : List Char} {start stop : Nat} {tokens : List Token}

theorem drop_add_length {front rest : List Char} (h : source.drop start = front ++ rest) :
    source.drop (start + front.length) = rest := by
  rw [← List.drop_drop, h, List.drop_left]

theorem extract_append {front rest : List Char} (h : source.drop start = front ++ rest)
    (hle : start + front.length ≤ stop) :
    source.extract start stop = front ++ source.extract (start + front.length) stop := by
  have hstop : stop - start = front.length + (stop - (start + front.length)) := by omega
  simp only [List.extract_eq_take_drop, drop_add_length h]
  rw [h, hstop, List.take_length_add_append]

/-- Layout grows at its front by a piece. -/
theorem isLayout_extract {front rest : List Char} (h : source.drop start = front ++ rest)
    (hpiece : IsLayoutPiece rest front) (hle : start + front.length ≤ stop)
    (hlayout : IsLayout (source.drop stop) (source.extract (start + front.length) stop)) :
    IsLayout (source.drop stop) (source.extract start stop) := by
  have hrest : source.extract (start + front.length) stop ++ source.drop stop = rest := by
    rw [List.extract_eq_take_drop, ← drop_add_length h]
    conv_rhs => rw [← List.take_append_drop (stop - (start + front.length))
      (source.drop (start + front.length))]
    rw [List.drop_drop, Nat.add_sub_of_le hle]
  rw [extract_append h hle]
  exact .cons (by rwa [hrest]) hlayout

theorem Segments.nil (h : start ≤ source.length) : Segments source start [] start where
  increasing := .nil
  apart := .nil
  inside := ⟨le_rfl, h, by simp⟩
  slice := by simp
  token := by simp
  layout := by simpa [gaps] using IsLayout.nil

/-- What stands between two places is still made up of the same tokens with a piece of layout
before it. -/
theorem Segments.layout_append {front rest : List Char} (hdrop : source.drop start = front ++ rest)
    (hpiece : IsLayoutPiece rest front)
    (h : Segments source (start + front.length) tokens stop) :
    Segments source start tokens stop where
  increasing := h.increasing
  apart := h.apart
  inside := by
    obtain ⟨hstart, hstop, htokens⟩ := h.inside
    exact ⟨by omega, hstop, fun token hmem => ⟨by have := htokens token hmem; omega,
      (htokens token hmem).2⟩⟩
  slice := h.slice
  token := h.token
  layout := by
    have hlayout := h.layout
    cases tokens with
    | nil =>
        simp only [gaps, List.map_nil, List.nil_append, List.zip_cons_cons, List.zip_nil_right,
          List.mem_singleton, forall_eq] at hlayout ⊢
        exact isLayout_extract hdrop hpiece h.inside.1 hlayout
    | cons token tokens =>
        simp only [gaps, List.map_cons, List.cons_append, List.zip_cons_cons,
          List.forall_mem_cons] at hlayout ⊢
        have hle := (h.inside.2.2 token (by simp)).1
        exact ⟨isLayout_extract hdrop hpiece hle hlayout.1, hlayout.2⟩

theorem IsTokenFront.offset_lt_stop {token : Token} {text : List Char}
    (h : IsTokenFront token.kind token.text.toList text) : token.offset < token.stop := by
  have hpos := List.length_pos_iff.2 h.form.ne_nil
  rw [String.length_toList] at hpos
  rw [Token.stop]
  omega

theorem IsTokenFront.slice {token : Token}
    (h : IsTokenFront token.kind token.text.toList (source.drop token.offset)) :
    source.extract token.offset token.stop = token.text.toList := by
  obtain ⟨rest, hrest⟩ := h.front
  rw [List.extract_eq_take_drop, Token.stop, Nat.add_sub_cancel_left, ← hrest,
    ← String.length_toList, List.take_left]

/-- A token stands before what is made up of tokens and layout. -/
theorem Segments.token_append {token : Token}
    (hfront : IsTokenFront token.kind token.text.toList (source.drop token.offset))
    (h : Segments source token.stop tokens stop) :
    Segments source token.offset (token :: tokens) stop where
  increasing := by
    refine List.pairwise_cons.2 ⟨fun offset hmem => ?_, h.increasing⟩
    obtain ⟨other, hother, rfl⟩ := List.mem_map.1 hmem
    exact hfront.offset_lt_stop.trans_le (h.inside.2.2 other hother).1
  apart := List.pairwise_cons.2 ⟨fun other hmem => (h.inside.2.2 other hmem).1, h.apart⟩
  inside := by
    have hlt := hfront.offset_lt_stop
    obtain ⟨hstart, hstop, htokens⟩ := h.inside
    refine ⟨by omega, hstop, List.forall_mem_cons.2 ⟨⟨le_rfl, hstart⟩, fun other hmem => ?_⟩⟩
    have hother := htokens other hmem
    exact ⟨by omega, hother.2⟩
  slice := List.forall_mem_cons.2 ⟨hfront.slice, h.slice⟩
  token := List.forall_mem_cons.2 ⟨hfront, h.token⟩
  layout := by
    simp only [gaps, List.map_cons, List.cons_append, List.zip_cons_cons, List.forall_mem_cons]
    exact ⟨by simpa using IsLayout.nil, h.layout⟩

/-- A piece at the front of the text comes before what follows it is made up of. -/
theorem Segments.piece_append {c : Char} {text : List Char} {piece : Piece}
    (hdrop : source.drop start = c :: text) (hpiece : piece? c text = some piece)
    (h : Segments source (start + piece.lexeme.length) tokens stop) :
    Segments source start (piece.tokens start ++ tokens) stop := by
  have happend := (piece?_append hpiece).2
  cases hkind : piece.kind with
  | none =>
      rw [Piece.tokens, hkind]
      exact h.layout_append (hdrop.trans happend.symm) (isLayoutPiece_of_piece? hpiece hkind)
  | some kind =>
      have hfront := isTokenFront_of_piece? hpiece hkind
      rw [Piece.tokens, hkind]
      exact @Segments.token_append _ _ _ ⟨kind, String.ofList piece.lexeme, start⟩
        (by simpa [hdrop] using hfront) (by simpa [Token.stop] using h)

/-- Splitting from `start` on stops at a character where neither layout nor a token begins, and what
stands before it is made up of both. -/
def StopsAt (source : List Char) (start : Nat) (c : Char) (offset : Nat) : Prop :=
  source[offset]? = some c ∧ (∃ tokens, Segments source start tokens offset) ∧
    ¬ LayoutStarts (source.drop offset) ∧ ¬ TokenStarts (source.drop offset)

theorem StopsAt.piece_append {c d : Char} {text : List Char} {piece : Piece} {offset : Nat}
    (hdrop : source.drop start = c :: text) (hpiece : piece? c text = some piece)
    (h : StopsAt source (start + piece.lexeme.length) d offset) :
    StopsAt source start d offset := by
  obtain ⟨hd, ⟨tokens, htokens⟩, hstarts⟩ := h
  exact ⟨hd, ⟨_, htokens.piece_append hdrop hpiece⟩, hstarts⟩

/-- The pieces that are taken off the front of a text one after the other make it up. -/
theorem tokensFrom_segments (source : List Char) (offset : Nat) (earlier : List Token)
    (text : List Char) (hle : offset ≤ source.length) (hdrop : source.drop offset = text) :
    match tokensFrom offset earlier text with
    | .ok tokens => ∃ later, tokens = earlier.reverse ++ later ∧
        Segments source offset later source.length
    | .error fault => ∃ c place, fault = .unexpectedCharacter c place ∧
        StopsAt source offset c place := by
  fun_induction tokensFrom offset earlier text with
  | case1 offset earlier =>
      have hend : offset = source.length := by
        have := List.drop_eq_nil_iff.1 hdrop
        omega
      exact ⟨[], by simp, hend ▸ Segments.nil hle⟩
  | case2 offset earlier c text hnone =>
      have hc : source[offset]? = some c := by
        rw [← List.head?_drop, hdrop]
        rfl
      refine ⟨c, offset, rfl, hc, ⟨[], .nil hle⟩, ?_⟩
      rw [hdrop]
      exact not_starts_of_piece? hnone
  | case3 offset earlier c text piece hpiece _ ih =>
      have happend := (piece?_append hpiece).2
      have hrest := drop_add_length (hdrop.trans happend.symm)
      have hle' : offset + piece.lexeme.length ≤ source.length := by
        have hlength := congrArg List.length (hdrop.trans happend.symm)
        simp only [List.length_drop, List.length_append] at hlength
        have hpos := List.length_pos_iff.2 (piece?_append hpiece).1
        omega
      have ih := ih hle' hrest
      split at ih
      · next tokens _ =>
          obtain ⟨later, rfl, hlater⟩ := ih
          refine ⟨piece.tokens offset ++ later, by simp [Piece.reverse_tokens], ?_⟩
          exact hlater.piece_append hdrop hpiece
      · next fault _ =>
          obtain ⟨d, place, rfl, hstops⟩ := ih
          exact ⟨d, place, rfl, hstops.piece_append hdrop hpiece⟩

/-- Splitting a text into tokens loses nothing of it: the tokens with the layout between them make
it up, or they make up what stands before the character that is reported, where nothing begins. -/
theorem tokenize_lossless (source : String) :
    match tokenize source with
    | .ok tokens => Segments source.toList 0 tokens source.length
    | .error fault => ∃ c offset, fault = .unexpectedCharacter c offset ∧
        fault.failure.code = "UNEXPECTED_CHARACTER" ∧ offset < source.length ∧
        StopsAt source.toList 0 c offset := by
  have hsplit := tokensFrom_segments source.toList 0 [] source.toList (by simp) rfl
  rw [tokenize]
  split at hsplit
  · obtain ⟨later, rfl, hlater⟩ := hsplit
    rw [String.length_toList] at hlater
    exact hlater
  · obtain ⟨c, offset, rfl, hstops⟩ := hsplit
    obtain ⟨hlt, -⟩ := List.getElem?_eq_some_iff.1 hstops.1
    rw [String.length_toList] at hlt
    exact ⟨c, offset, rfl, rfl, hlt, hstops⟩

end GridRules.Program
