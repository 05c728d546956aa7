import GridRules.Proofs.Program.Grammar
import GridRules.Proofs.Program.Segmentation
import GridRules.Proofs.Text.Word
import GridRules.Rule.Dimension
import Mathlib.Data.List.TakeWhile

/-!
# Names in expression texts

The value of an expression depends on the variables that it mentions, and each of them is a lexeme
of the text. A number right before a name would be a part of the same word, but operands never stand
side by side; so the name of a mentioned variable stands alone in the text, whatever the comments
and the characters around it.
-/

namespace GridRules.Program

/-! ### Mentioned variables -/

/-- A variable occurs in an expression. -/
inductive Expr.Mentions (name : String) : Expr → Prop
  | var : Mentions name (.var name)
  | not {operand} (h : Mentions name operand) : Mentions name (.not operand)
  | negate {operand} (h : Mentions name operand) : Mentions name (.negate operand)
  | left {op left right} (h : Mentions name left) : Mentions name (.binary op left right)
  | right {op left right} (h : Mentions name right) : Mentions name (.binary op left right)

/-- An expression has the same value or the same fault wherever the variables that it mentions have
the same values. -/
theorem Expr.eval_congr_of_mentions {env env' : Env} (e : Expr)
    (h : ∀ name, e.Mentions name → env.get? name = env'.get? name) : e.eval env = e.eval env' := by
  induction e with
  | number n => rfl
  | truth b => rfl
  | var name => simp [h name .var]
  | not operand ih => simp [ih fun name hname => h name (.not hname)]
  | negate operand ih => simp [ih fun name hname => h name (.negate hname)]
  | binary op left right ihleft ihright =>
      have hleft := ihleft fun name hname => h name (.left hname)
      have hright := ihright fun name hname => h name (.right hname)
      simp [hleft, hright]

/-- A variable that a derived expression mentions is one of its lexemes. -/
theorem Derives.word_mem {level : Nat} {ws : List Lexeme} {e : Expr} (h : Derives level ws e)
    {name : String} (hname : e.Mentions name) : word name ∈ ws := by
  induction h with
  | tighter _ _ ih => exact ih hname
  | binary op _ _ _ ihleft ihright =>
      cases hname with
      | left hname => simp [ihleft hname]
      | right hname => simp [ihright hname]
  | signed hsign _ ih =>
      cases hsign with
      | not => cases hname with | not hname => simp [ih hname]
      | negate => cases hname with | negate hname => simp [ih hname]
      | plus => simp [ih hname]
  | number text => cases hname
  | name text =>
      unfold nameExpr at hname
      split at hname
      · cases hname
      · split at hname
        · cases hname
        · cases hname with | var => simp [word]
  | parentheses _ ih => simp [ih hname]

/-! ### Operands apart -/

/-- At least one of two lexemes is an operator or a bracket. -/
def Separated (v w : Lexeme) : Prop :=
  v.kind = .operator ∨ w.kind = .operator

/-- Operands do not stand side by side in an expression. -/
theorem Derives.isChain_separated {level : Nat} {ws : List Lexeme} {e : Expr}
    (h : Derives level ws e) : ws.IsChain Separated := by
  induction h with
  | tighter _ _ ih => exact ih
  | binary op _ _ _ ihleft ihright =>
      have hright : (symbol op.text :: _).IsChain Separated := ihright.cons fun _ _ => .inl rfl
      exact ihleft.append hright fun _ _ w hw => by
        obtain rfl : symbol op.text = w := by simpa using hw
        exact .inr rfl
  | signed _ _ ih => exact ih.cons fun _ _ => .inl rfl
  | number text => exact .singleton _
  | name text => exact .singleton _
  | parentheses _ ih =>
      have hclosing := ih.append (.singleton (symbol ")")) fun _ _ w hw => by
        obtain rfl : symbol ")" = w := by simpa using hw
        exact .inr rfl
      exact hclosing.cons fun _ _ => .inl rfl

/-! ### Ends of words -/

/-- No name behind the front goes on with a word at its end. -/
def Parted (front rest : List Char) : Prop :=
  (∀ c ∈ front.getLast?, Text.isWord c = false) ∨ ∀ d ∈ rest.head?, Text.isNameStart d = false

/-- Layout ends in a character that is no part of a word, or before the end of the line. -/
theorem IsLayoutPiece.parted {rest piece : List Char} (h : IsLayoutPiece rest piece) :
    Parted piece rest := by
  cases h with
  | blanks _ hrun =>
      exact .inl fun c hc => Text.isWord_of_isBlank (hrun c (List.mem_of_getLast? hc))
  | closedComment =>
      left
      intro c hc
      obtain rfl : '/' = c := by simpa [List.getLast?_cons] using hc
      exact Text.isWord_of_lt (by decide)
  | lineComment _ hend | directive _ hend =>
      right
      intro d hd
      obtain rfl := hend d hd
      decide

/-- Only a number can be continued by a name right behind it. -/
theorem parted_of_piece? {c : Char} {text : List Char} {piece : Piece}
    (h : piece? c text = some piece) :
    piece.kind = some .number ∨ Parted piece.lexeme piece.rest := by
  cases isFront_of_piece? h with
  | blank | remark => exact .inr (isLayoutPiece_of_piece? h rfl).parted
  | number => exact .inl rfl
  | name =>
      right
      right
      intro d hd
      rw [Bool.eq_false_iff]
      intro hname
      exact absurd (Text.isWord_of_isNameStart hname) (by simp [head?_dropWhile hd])
  | @literal lexeme rest hliteral =>
      have hquote : lexeme.getLast? = some '\'' := by
        obtain ⟨c, rfl | ⟨rfl, -⟩⟩ := eq_of_characterLiteral? hliteral <;> rfl
      right
      left
      intro d hd
      obtain rfl : '\'' = d := by simpa [hquote] using hd
      exact Text.isWord_of_lt (by decide)
  | operator hoperator =>
      have hall : ∀ operator ∈ operators, operator.toList.all fun d =>
          d.toNat < 128 && !(d.isAlphanum || d == '_') := by decide
      right
      left
      intro d hd
      have hd := List.all_eq_true.1 (hall _ (mem_operators_of_operator? hoperator)) d
        (by simpa using List.mem_of_getLast? hd)
      simp only [Bool.and_eq_true, decide_eq_true_eq, Bool.not_eq_true'] at hd
      rw [Text.isWord_of_lt hd.1, hd.2]

/-- A name starts like one, and no word character follows it. -/
theorem isNameStart_of_name {c : Char} {text : List Char} {piece : Piece}
    (h : piece? c text = some piece) (hkind : piece.kind = some .name) :
    Text.isNameStart c = true ∧ ∀ d ∈ piece.rest.head?, Text.isWord d = false := by
  cases isFront_of_piece? h with
  | name hname => exact ⟨hname, fun d => head?_dropWhile⟩
  | _ => cases hkind

/-- A text that starts like a name has a name as its first lexeme. -/
theorem Lexed.exists_name {c : Char} {text : List Char} {ws : List Lexeme}
    (h : Lexed (c :: text) ws) (hc : Text.isNameStart c = true) :
    ∃ name vs, ws = word name :: vs := by
  cases h with
  | cons hpiece htail =>
      rw [piece?, if_neg (by simp [Text.isBlank_of_isNameStart hc]),
        if_neg (by simp [Text.isDigit_of_isNameStart hc]), if_pos hc] at hpiece
      obtain rfl := Option.some.inj hpiece
      exact ⟨_, _, rfl⟩

/-! ### Letters that stand alone -/

open Dimension (standsAlone)

/-- Whether the character before a text is a word character, behind a front of the text. -/
def endsInWord (inWord : Bool) (front : List Char) : Bool :=
  (front.getLast?.map Text.isWord).getD inWord

theorem standsAlone_append (letter : Char) (inWord : Bool) (front rest : List Char)
    (h : standsAlone letter (endsInWord inWord front) rest = true) :
    standsAlone letter inWord (front ++ rest) = true := by
  induction front generalizing inWord with
  | nil => exact h
  | cons c front ih =>
      have hlast : endsInWord inWord (c :: front) = endsInWord (Text.isWord c) front := by
        cases hfront : front.getLast? <;> simp [endsInWord, List.getLast?_cons, hfront]
      rw [hlast] at h
      rw [List.cons_append, standsAlone, ih _ h, Bool.or_true]

theorem Piece.eq_of_word_mem {piece : Piece} {name : String} (h : word name ∈ piece.lexemes) :
    piece.kind = some .name ∧ piece.lexeme = name.toList := by
  unfold Piece.lexemes at h
  cases hkind : piece.kind with
  | none => simp [hkind] at h
  | some kind =>
      obtain ⟨rfl, rfl⟩ : .name = kind ∧ name = String.ofList piece.lexeme := by
        simpa [hkind, word] using h
      simp

/-- A piece before a name does not end in a word. -/
theorem isNameStart_of_endsInWord {c : Char} {text : List Char} {piece : Piece} {ws : List Lexeme}
    (hpiece : piece? c text = some piece) (htail : Lexed piece.rest ws)
    (hseparated : (piece.lexemes ++ ws).IsChain Separated) {inWord : Bool}
    (h : endsInWord inWord piece.lexeme = true) :
    ∀ d ∈ piece.rest.head?, Text.isNameStart d = false := by
  rcases parted_of_piece? hpiece with hnumber | hlast | hnone
  · intro d hd
    rw [Bool.eq_false_iff]
    intro hname
    obtain ⟨rest, hrest⟩ := List.head?_eq_some_iff.1 hd
    obtain ⟨name, vs, rfl⟩ := (hrest ▸ htail).exists_name hname
    obtain ⟨hfirst, -⟩ : Separated ⟨.number, String.ofList piece.lexeme⟩ (word name) ∧ _ := by
      simpa [Piece.lexemes, hnumber] using hseparated
    simp [Separated, word] at hfirst
  · obtain ⟨hne, -⟩ := piece?_append hpiece
    have hword := hlast _ (List.getLast?_eq_some_getLast hne)
    simp [endsInWord, List.getLast?_eq_some_getLast hne, hword] at h
  · exact hnone

/-- A name of one letter in a text without operands side by side stands alone there. The induction
is on the pieces, with the fact that no name goes on with the word before them. -/
theorem Lexed.standsAlone {letter : Char} {text : List Char} {ws : List Lexeme} (h : Lexed text ws)
    (hseparated : ws.IsChain Separated) (hmem : word (String.singleton letter) ∈ ws) {inWord : Bool}
    (hparted : inWord = true → ∀ d ∈ text.head?, Text.isNameStart d = false) :
    standsAlone letter inWord text = true := by
  induction h generalizing inWord with
  | nil => cases hmem
  | @cons c text piece ws hpiece htail ih =>
      obtain ⟨-, happend⟩ := piece?_append hpiece
      rcases List.mem_append.1 hmem with hmem | hmem
      · obtain ⟨hkind, hlexeme⟩ := Piece.eq_of_word_mem hmem
        obtain ⟨hname, hends⟩ := isNameStart_of_name hpiece hkind
        obtain ⟨rfl, rfl⟩ : letter = c ∧ piece.rest = text := by simpa [hlexeme] using happend
        have hbefore : inWord = false := by
          rw [Bool.eq_false_iff]
          intro hin
          exact absurd hname (by simp [hparted hin letter rfl])
        have hbehind : (piece.rest.head?.map Text.isWord).getD false = false := by
          cases hhead : piece.rest.head? with
          | none => rfl
          | some d => exact hends d hhead
        simp [Dimension.standsAlone, hbefore, hbehind]
      · rw [← happend]
        refine standsAlone_append letter inWord piece.lexeme piece.rest ?_
        exact ih hseparated.right_of_append hmem
          (isNameStart_of_endsInWord hpiece htail hseparated)

end GridRules.Program
