import GridRules.Proofs.Program.Grammar
import GridRules.Proofs.Program.Spelling
import GridRules.Proofs.Text.Decimal

/-!
# Expressions put together as texts

A text writes an expression of a level if the grammar derives its lexemes, which it keeps before an
end. Texts that write expressions are joined by operators between blanks, and put in parentheses.
-/

namespace GridRules.Program

/-- The text is an expression of a level, with its tree, and stays it before an end. -/
def Writes (level : Nat) (text : List Char) (e : Expr) : Prop :=
  ∃ ws, Open text ws ∧ Derives level ws e ∧ ∀ w ∈ ws, w.IsShort

theorem Writes.looser {level tight : Nat} {text : List Char} {e : Expr} (h : Writes tight text e)
    (hle : level ≤ tight := by decide) (htight : tight ≤ 7 := by decide) : Writes level text e := by
  obtain ⟨ws, hopen, hderives, hshort⟩ := h
  exact ⟨ws, hopen, hderives.looser hle htight, hshort⟩

/-- A text that writes an expression is read as that expression. -/
theorem Writes.ofText {source : String} {e : Expr} (h : Writes 1 source.toList e) :
    Expr.ofText source = .ok e := by
  obtain ⟨ws, hopen, hderives, hshort⟩ := h
  exact ofText_of_lexed hopen.lexed hderives hshort

/-- An expression text without comments to the end of a line and without directives can be put into
other texts. -/
theorem writes_of_ofText {source : String} {e : Expr} (h : Expr.ofText source = .ok e)
    (hline : ¬ ['/', '/'] <:+: source.toList) (hdirective : '#' ∉ source.toList) :
    Writes 1 source.toList e := by
  obtain ⟨ws, hlexed, hderives, hshort⟩ := lexed_of_ofText h
  exact ⟨ws, hlexed.isOpen hline hdirective hderives.isChain, hderives, hshort⟩

theorem writes_of_frontLexemes? {count level : Nat} {text : List Char} {ws : List Lexeme} {e : Expr}
    (h : frontLexemes? count text = some (ws, []))
    (hplain : ¬ ['/', '/'] <:+: text ∧ '#' ∉ text) (hderives : Derives level ws e)
    (hshort : ∀ w ∈ ws, w.IsShort) : Writes level text e :=
  ⟨ws, open_of_frontLexemes? h ⟨hplain.1, hplain.2, hderives.isChain⟩, hderives, hshort⟩

/-! ### Operators and parentheses -/

/-- A text that is one token whatever follows it. -/
theorem closed_of_piece? {c : Char} {text : List Char} {kind : TokenKind}
    (h : ∀ rest, piece? c (text ++ rest) = some ⟨some kind, c :: text, rest⟩) :
    Closed (c :: text) [⟨kind, String.ofList (c :: text)⟩] :=
  fun rest _ hrest => .cons (h rest) hrest

theorem closed_opening : Closed ['('] [symbol "("] :=
  closed_of_piece? fun _ => rfl

theorem closed_closing : Closed [')'] [symbol ")"] :=
  closed_of_piece? fun _ => rfl

/-- An operator between blanks. -/
theorem closed_operator (op : BinaryOperator) :
    Closed (' ' :: (op.text.toList ++ [' '])) [symbol op.text] := by
  intro rest vs hrest
  have hpiece : piece? op.text.toList.head! (op.text.toList.tail ++ ' ' :: rest) =
      some ⟨some .operator, op.text.toList, ' ' :: rest⟩ := by
    cases op <;> rfl
  have hcons : op.text.toList.head! :: op.text.toList.tail = op.text.toList := by
    cases op <;> rfl
  have htail := Lexed.cons hpiece (Lexed.blank_cons (by decide) hrest)
  rw [← List.cons_append, hcons] at htail
  have hblank := Lexed.blank_cons (c := ' ') (by decide) htail
  simpa [Piece.lexemes, symbol] using hblank

/-- Two expressions with an operator between them, behind a blank. -/
theorem Writes.binary (op : BinaryOperator) {a b separator : List Char} {left right : Expr}
    (ha : Writes op.level a left) (hseparator : Closed (' ' :: separator) [symbol op.text])
    (hb : Writes (op.level + 1) b right) :
    Writes op.level (a ++ (' ' :: separator ++ b)) (.binary op left right) := by
  obtain ⟨ws, hws, hleft, hshort⟩ := ha
  obtain ⟨vs, hvs, hright, hshort'⟩ := hb
  have hmiddle := hseparator.append_open hvs
  refine ⟨_, hws.append hmiddle (by simp [Ends, isEnd]) (by simp), .binary op rfl hleft hright, ?_⟩
  exact List.forall_mem_append.2 ⟨hshort, List.forall_mem_cons.2 ⟨symbol_isShort _, hshort'⟩⟩

/-- Two expression texts with an operator between blanks. -/
theorem Writes.operator {a b : String} {left right : Expr} {m n : Nat} (op : BinaryOperator)
    (ha : Writes m a.toList left) (hb : Writes n b.toList right)
    (hlevels : (op.level ≤ m ∧ m ≤ 7) ∧ op.level < n ∧ n ≤ 7 := by decide) :
    Writes op.level (a ++ (" " ++ op.text ++ " ") ++ b).toList (.binary op left right) := by
  obtain ⟨⟨hm, hmax⟩, hn, hmax'⟩ := hlevels
  have h := (ha.looser hm hmax).binary op (closed_operator op) (hb.looser hn hmax')
  simpa using h

theorem Writes.parentheses {text : List Char} {e : Expr} (h : Writes 1 text e) :
    Writes 7 ('(' :: text ++ [')']) e := by
  obtain ⟨ws, hws, hderives, hshort⟩ := h
  have hclosing := hws.append_closed closed_closing (by simp [Ends, isEnd]) (by simp)
  refine ⟨_, (closed_opening.append hclosing).isOpen, .parentheses hderives, ?_⟩
  have hall : ∀ w ∈ [symbol "("] ++ (ws ++ [symbol ")"]), w.IsShort :=
    List.forall_mem_append.2 ⟨by simpa using symbol_isShort "(",
      List.forall_mem_append.2 ⟨hshort, by simpa using symbol_isShort ")"⟩⟩
  simpa using hall

/-! ### Variables and numbers -/

theorem derives_variable {name : String} (h : name ∈ ["r", "c", "H", "W"]) :
    Derives 7 [⟨.name, name⟩] (.var name) := by
  have hall : ∀ name ∈ ["r", "c", "H", "W"], nameExpr name = .var name := by decide
  exact hall name h ▸ .name name

/-- The names of the variables of a cell are expressions. -/
theorem writes_variable {name : String} (h : name ∈ ["r", "c", "H", "W"]) :
    Writes 7 name.toList (.var name) := by
  have hall : ∀ name ∈ ["r", "c", "H", "W"],
      frontLexemes? 1 name.toList = some ([⟨.name, name⟩], []) ∧
        ¬ ['/', '/'] <:+: name.toList ∧ '#' ∉ name.toList := by
    decide +kernel
  obtain ⟨hfront, hplain⟩ := hall name h
  exact writes_of_frontLexemes? hfront hplain (derives_variable h) (by simp [Lexeme.IsShort])

theorem lexed_repr (n : Nat) : Lexed n.repr.toList [⟨.number, n.repr⟩] := by
  have hdigits : ∀ c ∈ n.repr.toList, c.isDigit = true := fun _ hc => Text.isDigit_of_mem_repr hc
  have hne : n.repr.toList ≠ [] := by
    simp [Nat.toList_repr]
  have heq : String.ofList n.repr.toList = n.repr := String.ofList_toList
  cases htext : n.repr.toList with
  | nil => exact absurd htext hne
  | cons c rest =>
      rw [htext] at hdigits heq
      have hrest : ∀ d ∈ rest, Text.isDigit d = true :=
        fun d hd => Text.isDigit_of_isDigit (hdigits d (.tail _ hd))
      have hpiece : piece? c rest = some ⟨some .number, c :: rest, []⟩ := by
        have hc := hdigits c (.head _)
        rw [piece?, if_neg (by simp [Text.isBlank_of_isDigit hc]),
          if_pos (Text.isDigit_of_isDigit hc), List.takeWhile_eq_self_iff.2 hrest,
          List.dropWhile_eq_nil_iff.2 hrest]
      simpa [Piece.lexemes, heq] using Lexed.cons hpiece .nil

theorem open_repr (n : Nat) : Open n.repr.toList [⟨.number, n.repr⟩] := by
  have hdigits : ∀ c ∈ n.repr.toList, c.isDigit = true := fun _ hc => Text.isDigit_of_mem_repr hc
  refine (lexed_repr n).isOpen ?_ ?_ (.singleton _)
  · intro hline
    exact absurd (hdigits '/' (hline.subset (by simp))) (by decide)
  · intro hmem
    exact absurd (hdigits '#' hmem) (by decide)

theorem derives_repr (n : Nat) : Derives 7 [⟨.number, n.repr⟩] (.number n) := by
  have hnumber := Derives.number n.repr
  rwa [Text.decimalValue_repr] at hnumber

theorem isShort_repr {n : Nat} :
    Lexeme.IsShort ⟨.number, n.repr⟩ ↔ n < Text.leastLong := by
  simpa [Lexeme.IsShort] using Text.length_repr_le_mostDigits

/-- A natural number without too many digits writes itself. -/
theorem writes_repr {n : Nat} (h : n < Text.leastLong) :
    Writes 7 n.repr.toList (.number n) :=
  ⟨_, open_repr n, derives_repr n, by simpa using isShort_repr.2 h⟩

/-- The expression that the decimal text of a whole number writes. -/
def Expr.ofInt : Int → Expr
  | .ofNat n => .number n
  | .negSucc n => .negate (.number (n + 1))

theorem Expr.eval_ofInt (env : Env) (n : Int) : (Expr.ofInt n).eval env = .ok n := by
  cases n with
  | ofNat n => rfl
  | negSucc n => rfl

/-- The lexemes of the sign of a whole number. -/
def signLexemes : Int → List Lexeme
  | .ofNat _ => []
  | .negSucc _ => [symbol "-"]

theorem isShort_of_mem_signLexemes {n : Int} {w : Lexeme} (h : w ∈ signLexemes n) : w.IsShort := by
  cases n with
  | ofNat n => cases h
  | negSucc n => exact List.mem_singleton.1 h ▸ symbol_isShort "-"

theorem open_toString (n : Int) :
    Open (toString n).toList (signLexemes n ++ [⟨.number, n.natAbs.repr⟩]) := by
  cases n with
  | ofNat n => exact open_repr n
  | negSucc n =>
      have hsign : Closed ['-'] [symbol "-"] := closed_of_piece? fun _ => rfl
      have htext : (toString (Int.negSucc n)).toList = ['-'] ++ (n + 1).repr.toList := by
        simp [toString, Int.repr]
      rw [htext]
      exact hsign.append_open (open_repr (n + 1))

/-- A whole number without too many digits writes itself. -/
theorem writes_ofInt {n : Int} (h : n.natAbs < Text.leastLong) :
    Writes 7 (toString n).toList (Expr.ofInt n) := by
  refine ⟨_, open_toString n, ?_, ?_⟩
  · cases n with
    | ofNat n => exact derives_repr n
    | negSucc n => exact .signed .negate (derives_repr (n + 1))
  · exact List.forall_mem_append.2
      ⟨fun _ => isShort_of_mem_signLexemes, by simpa using isShort_repr.2 h⟩

end GridRules.Program
