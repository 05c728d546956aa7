import GridRules.Program.Reading
import GridRules.Proofs.Program.Lexeme
import Mathlib.Data.List.Chain

/-!
# The grammar of expressions

Expressions have seven levels. On each of the first six, operators of that level join operands of
the next one from left to right; on the last one stand signs, numbers, names and parentheses. The
readers accept exactly the sequences of lexemes that the grammar derives, apart from numbers with
too many digits, and they find the tree of the derivation.
-/

namespace GridRules.Program

/-- What a name stands for in an expression. -/
def nameExpr (name : String) : Expr :=
  if name = "true" then .truth true else if name = "false" then .truth false else .var name

/-- A sign, with what it makes of the operand behind it. -/
inductive IsSign : String → (Expr → Expr) → Prop
  | not : IsSign "!" .not
  | negate : IsSign "-" .negate
  | plus : IsSign "+" id

/-- The lexemes are an expression of a level, with its tree. -/
inductive Derives : (level : Nat) → List Lexeme → Expr → Prop
  | tighter {level ws e} (hlevel : level < 7) (h : Derives (level + 1) ws e) : Derives level ws e
  | binary {level ws vs left right} (op : BinaryOperator) (hlevel : op.level = level)
      (hleft : Derives level ws left) (hright : Derives (level + 1) vs right) :
      Derives level (ws ++ symbol op.text :: vs) (.binary op left right)
  | signed {text sign ws e} (hsign : IsSign text sign) (h : Derives 7 ws e) :
      Derives 7 (symbol text :: ws) (sign e)
  | number (text : String) : Derives 7 [⟨.number, text⟩] (.number (Text.decimalValue text.toList))
  | name (text : String) : Derives 7 [⟨.name, text⟩] (nameExpr text)
  | parentheses {ws e} (h : Derives 1 ws e) : Derives 7 (symbol "(" :: ws ++ [symbol ")"]) e

/-- An expression of a level is one of every looser level. -/
theorem Derives.looser {level tight : Nat} {ws : List Lexeme} {e : Expr} (h : Derives tight ws e)
    (hle : level ≤ tight := by decide) (htight : tight ≤ 7 := by decide) : Derives level ws e := by
  induction hle using Nat.decreasingInduction with
  | self => exact h
  | of_succ level hlt ih => exact .tighter (by omega) ih

/-- A number does not have more digits than reading allows. -/
def Lexeme.IsShort (w : Lexeme) : Prop :=
  w.kind = .number → w.text.length ≤ Text.mostDigits

instance (w : Lexeme) : Decidable w.IsShort :=
  inferInstanceAs (Decidable (w.kind = .number → w.text.length ≤ Text.mostDigits))

theorem BinaryOperator.level_le (op : BinaryOperator) : op.level ≤ 6 := by
  cases op <;> decide

theorem BinaryOperator.text_mem_operators (op : BinaryOperator) : op.text ∈ operators := by
  cases op <;> decide

/-- An operator is found by its level and its text. -/
theorem operatorAt?_eq_some_iff {level : Nat} {text : String} {op : BinaryOperator} :
    operatorAt? level text = some op ↔ op.level = level ∧ op.text = text := by
  constructor
  · intro h
    have hmem := List.mem_of_find?_eq_some h
    have htext := List.find?_some h
    exact ⟨by simpa using (List.mem_filter.1 hmem).2, by simpa using htext⟩
  · rintro ⟨rfl, rfl⟩
    cases op <;> decide

/-- The tokens begin with the given lexemes, all numbers among them short, and go on with the
rest. -/
def Takes (tokens : List Token) (ws : List Lexeme) (rest : List Token) : Prop :=
  (∃ front, tokens = front ++ rest ∧ front.map Token.lexeme = ws) ∧ ∀ w ∈ ws, w.IsShort

theorem Takes.refl (tokens : List Token) : Takes tokens [] tokens :=
  ⟨⟨[], rfl, rfl⟩, by simp⟩

theorem Takes.trans {tokens middle rest : List Token} {ws vs : List Lexeme}
    (h : Takes tokens ws middle) (h' : Takes middle vs rest) : Takes tokens (ws ++ vs) rest := by
  obtain ⟨⟨front, rfl, rfl⟩, hws⟩ := h
  obtain ⟨⟨more, rfl, rfl⟩, hvs⟩ := h'
  refine ⟨⟨front ++ more, by simp, by simp⟩, ?_⟩
  intro w hw
  exact (List.mem_append.1 hw).elim (hws w) (hvs w)

theorem Takes.one {token : Token} {w : Lexeme} (hw : token.lexeme = w) (hshort : w.IsShort)
    (rest : List Token) : Takes (token :: rest) [w] rest :=
  ⟨⟨[token], rfl, by simp [hw]⟩, by simpa using hshort⟩

theorem Takes.isProper {tokens rest : List Token} {ws : List Lexeme} (h : Takes tokens ws rest)
    (hproper : ∀ token ∈ tokens, token.lexeme.IsProper) :
    ∀ token ∈ rest, token.lexeme.IsProper := by
  obtain ⟨⟨front, rfl, -⟩, -⟩ := h
  exact fun token hmem => hproper token (by simp [hmem])

theorem symbol_isShort (text : String) : (symbol text).IsShort := by
  simp [Lexeme.IsShort, symbol]

theorem Lexeme.IsReserved.isShort {w : Lexeme} (h : w.IsReserved) : w.IsShort := by
  rcases h with ⟨hkind, -⟩ | ⟨hkind, -⟩ <;> simp [Lexeme.IsShort, hkind]

/-- A token with the text of an operator or a keyword. -/
theorem Takes.reserved {token : Token} {w : Lexeme} (hw : w.IsReserved)
    (hproper : token.lexeme.IsProper) (htext : token.text = w.text) (rest : List Token) :
    Takes (token :: rest) [w] rest :=
  .one (Token.lexeme_of_isReserved hw hproper htext) hw.isShort rest

theorem IsSign.mem_operators {text : String} {sign : Expr → Expr} (h : IsSign text sign) :
    text ∈ operators := by
  cases h <;> decide

theorem readUnary_of_isSign {token : Token} {sign : Expr → Expr} (h : IsSign token.text sign)
    (rest : List Token) :
    readUnary (token :: rest) =
      match readUnary rest with
      | .error fault => .error fault
      | .ok operand =>
        .ok ⟨sign operand.value, operand.rest, Nat.lt_succ_of_lt operand.shorter⟩ := by
  rw [readUnary]
  generalize token.text = text at h
  cases readUnary rest with
  | error fault => cases h <;> rfl
  | ok operand => cases h <;> rfl

/-! ### What is read is derived -/

theorem takes_of_expect {w : Lexeme} (hw : w.IsReserved) {tokens : List Token}
    {parsed : Parsed Unit tokens} (h : expect w.text tokens = .ok parsed)
    (hproper : ∀ token ∈ tokens, token.lexeme.IsProper) : Takes tokens [w] parsed.rest := by
  cases tokens with
  | nil => cases h
  | cons token rest =>
      rw [expect] at h
      split at h
      · next htext =>
          obtain rfl := Except.ok.inj h
          exact .reserved hw (hproper token (by simp)) htext rest
      · cases h

mutual

theorem derives_of_readLevel {level : Nat} {tokens : List Token} {parsed : Parsed Expr tokens}
    (h : readLevel level tokens = .ok parsed) (hlevel : level ≤ 7)
    (hproper : ∀ token ∈ tokens, token.lexeme.IsProper) :
    ∃ ws, Takes tokens ws parsed.rest ∧ Derives level ws parsed.value := by
  rw [readLevel] at h
  split at h
  · next hlt =>
      split at h
      · cases h
      · next first hfirst =>
          have := first.shorter
          split at h
          · cases h
          · next chain hchain =>
              obtain rfl := Except.ok.inj h
              obtain ⟨ws, htakes, hderives⟩ := derives_of_readLevel hfirst (by omega) hproper
              obtain ⟨vs, htakes', hderives'⟩ := derives_of_readOperands hchain hlt
                (htakes.isProper hproper) (.tighter hlt hderives)
              exact ⟨ws ++ vs, htakes.trans htakes', hderives'⟩
  · next hnlt =>
      obtain rfl : level = 7 := by omega
      exact derives_of_readUnary h hproper
termination_by (tokens.length, 8 - min level 7)

theorem derives_of_readOperands {level : Nat} {left : Expr} {tokens : List Token}
    {chain : Continued Expr tokens} (h : readOperands level left tokens = .ok chain)
    (hlevel : level < 7) (hproper : ∀ token ∈ tokens, token.lexeme.IsProper) {ws : List Lexeme}
    (hleft : Derives level ws left) :
    ∃ vs, Takes tokens vs chain.rest ∧ Derives level (ws ++ vs) chain.value := by
  match tokens, chain, h, hproper with
  | [], _, h, _ =>
      rw [readOperands] at h
      obtain rfl := Except.ok.inj h
      exact ⟨[], .refl _, by simpa using hleft⟩
  | token :: rest, chain, h, hproper =>
      rw [readOperands] at h
      split at h
      · obtain rfl := Except.ok.inj h
        exact ⟨[], .refl _, by simpa using hleft⟩
      · next op hop =>
          obtain ⟨hop, htext⟩ := operatorAt?_eq_some_iff.1 hop
          have hone : Takes (token :: rest) [symbol op.text] rest :=
            .reserved (symbol_isReserved op.text_mem_operators) (hproper token (by simp)) htext.symm
              rest
          split at h
          · cases h
          · next right hright =>
              have := right.shorter
              split at h
              · cases h
              · next others hothers =>
                  obtain rfl := Except.ok.inj h
                  have hrest := hone.isProper hproper
                  obtain ⟨us, htakes, hderives⟩ :=
                    derives_of_readLevel hright (by omega) hrest
                  obtain ⟨vs, htakes', hderives'⟩ := derives_of_readOperands hothers hlevel
                    (htakes.isProper hrest) (.binary op hop hleft hderives)
                  exact ⟨_, (hone.trans htakes).trans htakes', by simpa using hderives'⟩
termination_by (tokens.length, 8)

theorem derives_of_readUnary {tokens : List Token} {parsed : Parsed Expr tokens}
    (h : readUnary tokens = .ok parsed) (hproper : ∀ token ∈ tokens, token.lexeme.IsProper) :
    ∃ ws, Takes tokens ws parsed.rest ∧ Derives 7 ws parsed.value := by
  match tokens, parsed, h, hproper with
  | [], _, h, _ => rw [readUnary] at h; cases h
  | token :: rest, parsed, h, hproper =>
      have hone (text : String) (htext : token.text = text) (hmem : text ∈ operators) :
          Takes (token :: rest) [symbol text] rest :=
        .reserved (symbol_isReserved hmem) (hproper token (by simp)) htext rest
      by_cases hsign : ∃ sign, IsSign token.text sign
      · obtain ⟨sign, hsign⟩ := hsign
        rw [readUnary_of_isSign hsign] at h
        split at h
        · cases h
        · next operand hoperand =>
            obtain rfl := Except.ok.inj h
            have hone := hone _ rfl hsign.mem_operators
            obtain ⟨ws, htakes, hderives⟩ :=
              derives_of_readUnary hoperand (hone.isProper hproper)
            exact ⟨_, hone.trans htakes, .signed hsign hderives⟩
      have hnone {text sign} (hsign' : IsSign text sign) : token.text ≠ text := by
        rintro rfl
        exact hsign ⟨sign, hsign'⟩
      rw [readUnary, if_neg (hnone .not), if_neg (hnone .negate), if_neg (hnone .plus)] at h
      split at h
      · next hkind =>
          split at h
          · next hlength =>
              obtain rfl := Except.ok.inj h
              exact ⟨_, .one (by simp [Token.lexeme, hkind]) (fun _ => hlength) rest,
                .number token.text⟩
          · cases h
      split at h
      · next hkind =>
          obtain rfl := Except.ok.inj h
          exact ⟨_, .one (by simp [Token.lexeme, hkind]) (by simp [Lexeme.IsShort]) rest,
            .name token.text⟩
      split at h
      · next htext =>
          split at h
          · cases h
          · next inner hinner =>
              split at h
              · cases h
              · next closing hclosing =>
                  obtain rfl := Except.ok.inj h
                  have hone := hone _ htext (by decide)
                  have hrest := hone.isProper hproper
                  obtain ⟨ws, htakes, hderives⟩ := derives_of_readLevel hinner (by omega) hrest
                  have hlast := takes_of_expect (w := symbol ")") (by decide) hclosing
                    (htakes.isProper hrest)
                  exact ⟨_, (hone.trans htakes).trans hlast, .parentheses hderives⟩
      · cases h
termination_by (tokens.length, 0)

end

/-! ### What is derived is read -/

/-- What a reader took and what follows it. -/
def Parsed.front {α : Type} {tokens : List Token} (parsed : Parsed α tokens) : α × List Token :=
  (parsed.value, parsed.rest)

/-- What a reader of a possibly empty part took and what follows it. -/
def Continued.front {α : Type} {tokens : List Token} (continued : Continued α tokens) :
    α × List Token :=
  (continued.value, continued.rest)

theorem Takes.split {tokens rest : List Token} {ws vs : List Lexeme}
    (h : Takes tokens (ws ++ vs) rest) :
    ∃ middle, Takes tokens ws middle ∧ Takes middle vs rest := by
  obtain ⟨⟨front, rfl, hfront⟩, hshort⟩ := h
  obtain ⟨a, b, rfl, ha, hb⟩ := List.map_eq_append_iff.1 hfront
  exact ⟨b ++ rest, ⟨⟨a, by simp, ha⟩, fun w hw => hshort w (by simp [hw])⟩,
    ⟨b, rfl, hb⟩, fun w hw => hshort w (by simp [hw])⟩

theorem Takes.cons_inv {tokens rest : List Token} {w : Lexeme} {ws : List Lexeme}
    (h : Takes tokens (w :: ws) rest) :
    ∃ token middle, tokens = token :: middle ∧ token.lexeme = w ∧ Takes middle ws rest := by
  obtain ⟨⟨front, rfl, hfront⟩, hshort⟩ := h
  obtain ⟨token, more, rfl, hw, hmore⟩ := List.map_eq_cons_iff.1 hfront
  exact ⟨token, more ++ rest, by simp, hw, ⟨more, rfl, hmore⟩,
    fun v hv => hshort v (by simp [hv])⟩

theorem Takes.nil_inv {tokens rest : List Token} (h : Takes tokens [] rest) : tokens = rest := by
  obtain ⟨⟨front, rfl, hfront⟩, -⟩ := h
  simp [List.map_eq_nil_iff.1 hfront]

theorem text_of_lexeme {token : Token} {w : Lexeme} (h : token.lexeme = w) :
    token.text = w.text :=
  h ▸ rfl

theorem kind_of_lexeme {token : Token} {w : Lexeme} (h : token.lexeme = w) :
    token.kind = w.kind :=
  h ▸ rfl

theorem Parsed.of_map_front {α : Type} {tokens rest : List Token} {value : α}
    {result : Except SyntaxFault (Parsed α tokens)}
    (h : result.map Parsed.front = .ok (value, rest)) :
    ∃ shorter, result = .ok ⟨value, rest, shorter⟩ := by
  cases result with
  | error fault => cases h
  | ok parsed =>
      obtain ⟨rfl, rfl⟩ := Prod.mk.inj (Except.ok.inj h)
      exact ⟨parsed.shorter, rfl⟩

theorem expect_of_takes {text : String} {tokens rest : List Token}
    (h : Takes tokens [symbol text] rest) :
    (expect text tokens).map Parsed.front = .ok ((), rest) := by
  obtain ⟨token, middle, rfl, htoken, hmiddle⟩ := h.cons_inv
  obtain rfl := hmiddle.nil_inv
  rw [expect, if_pos (by simpa [symbol] using text_of_lexeme htoken)]
  rfl

/-- The operand loop of a level stops before whatever is no operator of that level. -/
theorem readOperands_of_stop {level : Nat} (left : Expr) {rest : List Token}
    (h : ∀ token ∈ rest.head?, ∀ op : BinaryOperator, op.level = level → op.text ≠ token.text) :
    (readOperands level left rest).map Continued.front = .ok (left, rest) := by
  cases rest with
  | nil => rw [readOperands]; rfl
  | cons token rest =>
      have hnone : operatorAt? level token.text = none := by
        rw [Option.eq_none_iff_forall_ne_some]
        intro op hop
        obtain ⟨hlevel, htext⟩ := operatorAt?_eq_some_iff.1 hop
        exact h token rfl op hlevel htext
      rw [readOperands]
      split
      · rfl
      · next op hop => simp [hnone] at hop

/-- A level goes on with its operators behind its first operand. -/
theorem readLevel_of_first {level : Nat} {tokens rest : List Token} {first : Expr}
    (hlevel : level < 7)
    (h : (readLevel (level + 1) tokens).map Parsed.front = .ok (first, rest)) :
    (readLevel level tokens).map Parsed.front =
      (readOperands level first rest).map Continued.front := by
  obtain ⟨_, hfirst⟩ := Parsed.of_map_front h
  rw [readLevel, if_pos hlevel, hfirst]
  dsimp only
  cases readOperands level first rest <;> rfl

/-- The operand loop of a level goes on behind an operator of that level and its right operand. -/
theorem readOperands_of_right {op : BinaryOperator} {left right : Expr} {token : Token}
    {tokens rest : List Token} (htext : token.text = op.text)
    (h : (readLevel (op.level + 1) tokens).map Parsed.front = .ok (right, rest)) :
    (readOperands op.level left (token :: tokens)).map Continued.front =
      (readOperands op.level (.binary op left right) rest).map Continued.front := by
  obtain ⟨_, hright⟩ := Parsed.of_map_front h
  have hop : operatorAt? op.level token.text = some op :=
    operatorAt?_eq_some_iff.2 ⟨rfl, htext.symm⟩
  rw [readOperands]
  split
  · next hnone => simp [hop] at hnone
  · next other hother =>
      obtain rfl : op = other := Option.some.inj (hop.symm.trans hother)
      rw [hright]
      dsimp only
      cases readOperands op.level (.binary op left right) rest <;> rfl

/-- No operator of a higher level stands at the front of the tokens. -/
def StopsAbove (level : Nat) (tokens : List Token) : Prop :=
  ∀ token ∈ tokens.head?, ∀ op : BinaryOperator, level < op.level → op.text ≠ token.text

/-- Reading the lexemes as an expression of a level leaves the operand loop of that level with the
tree of the expression, wherever no operator of a higher level follows. -/
def ReadsAs (level : Nat) (ws : List Lexeme) (e : Expr) : Prop :=
  ∀ tokens rest, Takes tokens ws rest → (∀ w ∈ ws, w.IsProper) → StopsAbove level rest →
    (readLevel level tokens).map Parsed.front = (readOperands level e rest).map Continued.front

theorem ReadsAs.stops {level : Nat} {ws : List Lexeme} {e : Expr} (h : ReadsAs level ws e)
    {tokens rest : List Token} (htakes : Takes tokens ws rest) (hproper : ∀ w ∈ ws, w.IsProper)
    {lower : Nat} (hlower : lower < level) (hstop : StopsAbove lower rest) :
    (readLevel level tokens).map Parsed.front = .ok (e, rest) := by
  rw [h tokens rest htakes hproper fun token hmem op hop => hstop token hmem op (by omega)]
  exact readOperands_of_stop e fun token hmem op hop => hstop token hmem op (by omega)

theorem ReadsAs.of_readUnary {ws : List Lexeme} {e : Expr}
    (h : ∀ tokens rest, Takes tokens ws rest → (∀ w ∈ ws, w.IsProper) →
      (readUnary tokens).map Parsed.front = .ok (e, rest)) : ReadsAs 7 ws e := by
  intro tokens rest htakes hproper _
  rw [readLevel, if_neg (by omega), h tokens rest htakes hproper]
  exact (readOperands_of_stop e fun _ _ op hop => by have := op.level_le; omega).symm

theorem ReadsAs.readUnary {ws : List Lexeme} {e : Expr} (h : ReadsAs 7 ws e)
    {tokens rest : List Token} (htakes : Takes tokens ws rest)
    (hproper : ∀ w ∈ ws, w.IsProper) : (readUnary tokens).map Parsed.front = .ok (e, rest) := by
  have hstops := h.stops htakes hproper (show 6 < 7 by omega)
    fun _ _ op hop => by have := op.level_le; omega
  rwa [readLevel, if_neg (by omega)] at hstops

theorem BinaryOperator.text_injective {op other : BinaryOperator} (h : op.text = other.text) :
    op = other := by
  have hfind (op : BinaryOperator) :
      ([1, 2, 3, 4, 5, 6].flatMap operatorsAt).find? (·.text == op.text) = some op := by
    cases op <;> decide
  have hop := hfind op
  rw [h] at hop
  exact Option.some.inj (hop.symm.trans (hfind other))

/-- No sign stands where the text is none of an operator. -/
theorem text_ne_of_isProper {token : Token} {w : Lexeme} (hw : token.lexeme = w)
    (hproper : w.IsProper) (hkind : w.kind ≠ .operator) {text : String} (hmem : text ∈ operators) :
    token.text ≠ text := by
  rintro rfl
  rw [text_of_lexeme hw] at hmem
  exact hkind (hproper.operator.2 hmem)

theorem readUnary_number {text : String} {token : Token} (htoken : token.lexeme = ⟨.number, text⟩)
    (hproper : Lexeme.IsProper ⟨.number, text⟩) (hshort : text.length ≤ Text.mostDigits)
    (rest : List Token) :
    (readUnary (token :: rest)).map Parsed.front =
      .ok (.number (Text.decimalValue text.toList), rest) := by
  have hne (sign : String) (hmem : sign ∈ operators) : token.text ≠ sign :=
    text_ne_of_isProper htoken hproper (by simp) hmem
  obtain rfl : token.text = text := text_of_lexeme htoken
  rw [readUnary, if_neg (hne _ (by decide)), if_neg (hne _ (by decide)),
    if_neg (hne _ (by decide)), if_pos (kind_of_lexeme htoken), if_pos hshort]
  rfl

theorem readUnary_name {text : String} {token : Token} (htoken : token.lexeme = ⟨.name, text⟩)
    (hproper : Lexeme.IsProper ⟨.name, text⟩) (rest : List Token) :
    (readUnary (token :: rest)).map Parsed.front = .ok (nameExpr text, rest) := by
  have hne (sign : String) (hmem : sign ∈ operators) : token.text ≠ sign :=
    text_ne_of_isProper htoken hproper (by simp) hmem
  have hkind : token.kind = .name := kind_of_lexeme htoken
  obtain rfl : token.text = text := text_of_lexeme htoken
  rw [readUnary, if_neg (hne _ (by decide)), if_neg (hne _ (by decide)),
    if_neg (hne _ (by decide)), if_neg (by simp [hkind]), if_pos hkind]
  rfl

theorem readUnary_parentheses {token : Token} {tokens middle rest : List Token} {e : Expr}
    (htoken : token.lexeme = symbol "(")
    (hinner : (readLevel 1 tokens).map Parsed.front = .ok (e, middle))
    (hclosing : (expect ")" middle).map Parsed.front = .ok ((), rest)) :
    (readUnary (token :: tokens)).map Parsed.front = .ok (e, rest) := by
  obtain ⟨_, hinner⟩ := Parsed.of_map_front hinner
  obtain ⟨_, hclosing⟩ := Parsed.of_map_front hclosing
  have htext : token.text = "(" := text_of_lexeme htoken
  have hkind : token.kind = .operator := kind_of_lexeme htoken
  rw [readUnary, htext, hkind, hinner]
  dsimp only
  rw [hclosing]
  rfl

/-- No operator stands at a closing parenthesis or a semicolon. -/
theorem stopsAbove_of_closing {token : Token} (htext : token.text ∈ [")", ";"]) (level : Nat)
    (rest : List Token) : StopsAbove level (token :: rest) := by
  intro other hother op _ heq
  obtain rfl : token = other := by simpa using hother
  rw [← heq] at htext
  revert htext
  cases op <;> decide

/-- What the grammar derives is read, with the tree of the derivation. -/
theorem readsAs_of_derives {level : Nat} {ws : List Lexeme} {e : Expr} (h : Derives level ws e) :
    ReadsAs level ws e := by
  induction h with
  | tighter hlevel _ ih =>
      intro tokens rest htakes hproper hstop
      exact readLevel_of_first hlevel (ih.stops htakes hproper (by omega) hstop)
  | @binary level ws vs left right op hlevel _ _ ihleft ihright =>
      subst hlevel
      intro tokens rest htakes hproper hstop
      obtain ⟨middle, hws, hvs⟩ := htakes.split
      obtain ⟨token, middle, rfl, htoken, hvs⟩ := hvs.cons_inv
      have htext := text_of_lexeme htoken
      rw [ihleft tokens _ hws (fun w hw => hproper w (by simp [hw])) ?_]
      · refine readOperands_of_right htext ?_
        exact ihright.stops hvs (fun w hw => hproper w (by simp [hw])) (by omega) hstop
      · intro other hother op' hop' heq
        obtain rfl : token = other := by simpa using hother
        obtain rfl := BinaryOperator.text_injective (heq.trans htext)
        omega
  | signed hsign _ ih =>
      refine .of_readUnary ?_
      intro tokens rest htakes hproper
      obtain ⟨token, middle, rfl, htoken, hmiddle⟩ := htakes.cons_inv
      obtain rfl := text_of_lexeme htoken
      have hread := ih.readUnary hmiddle fun w hw => hproper w (by simp [hw])
      obtain ⟨_, hoperand⟩ := Parsed.of_map_front hread
      rw [readUnary_of_isSign hsign, hoperand]
      rfl
  | number text =>
      refine .of_readUnary ?_
      intro tokens rest htakes hproper
      have hshort := htakes.2 ⟨.number, text⟩ (by simp) rfl
      obtain ⟨token, middle, rfl, htoken, htakes⟩ := htakes.cons_inv
      obtain rfl := htakes.nil_inv
      exact readUnary_number htoken (hproper _ (by simp)) hshort _
  | name text =>
      refine .of_readUnary ?_
      intro tokens rest htakes hproper
      obtain ⟨token, middle, rfl, htoken, htakes⟩ := htakes.cons_inv
      obtain rfl := htakes.nil_inv
      exact readUnary_name htoken (hproper _ (by simp)) _
  | @parentheses ws e _ ih =>
      refine .of_readUnary ?_
      intro tokens rest htakes hproper
      obtain ⟨middle, hinner, hclosing⟩ := htakes.split
      obtain ⟨token, tokens, rfl, htoken, hinner⟩ := hinner.cons_inv
      have hclosing' := expect_of_takes hclosing
      obtain ⟨last, middle, rfl, hlast, -⟩ := hclosing.cons_inv
      refine readUnary_parentheses htoken ?_ hclosing'
      exact ih.stops hinner (fun w hw => hproper w (by simp [hw])) (show 0 < 1 by omega)
        (stopsAbove_of_closing (by simp [text_of_lexeme hlast, symbol]) 0 middle)

/-! ### Expression texts -/

/-- A text is an expression exactly if the grammar derives its lexemes and its numbers are short. -/
theorem ofText_eq_ok_iff {source : String} {tokens : List Token}
    (htokens : tokenize source = .ok tokens) {e : Expr} :
    Expr.ofText source = .ok e ↔
      Derives 1 (tokens.map Token.lexeme) e ∧ ∀ token ∈ tokens, token.lexeme.IsShort := by
  have hproper : ∀ token ∈ tokens, token.lexeme.IsProper := fun token hmem =>
    (lexed_of_tokenize htokens).isProper _ (List.mem_map_of_mem hmem)
  rw [Expr.ofText, htokens]
  dsimp only [readExpr]
  constructor
  · intro h
    split at h
    · cases h
    · next parsed hparsed =>
        split at h
        · next hrest =>
            obtain rfl := Except.ok.inj h
            obtain ⟨ws, ⟨⟨front, hfront, rfl⟩, hshort⟩, hderives⟩ :=
              derives_of_readLevel hparsed (by omega) hproper
            rw [List.isEmpty_iff.1 hrest, List.append_nil] at hfront
            subst hfront
            exact ⟨hderives, fun token hmem => hshort _ (List.mem_map_of_mem hmem)⟩
        · cases h
  · rintro ⟨hderives, hshort⟩
    have htakes : Takes tokens (tokens.map Token.lexeme) [] :=
      ⟨⟨tokens, by simp, rfl⟩, by simpa using hshort⟩
    have hread := (readsAs_of_derives hderives).stops htakes (by simpa using hproper)
      (show 0 < 1 by omega) (by simp [StopsAbove])
    obtain ⟨_, hread⟩ := Parsed.of_map_front hread
    rw [hread]
    rfl

/-- A text is an expression if its lexemes are derived and its numbers are short. -/
theorem ofText_of_lexed {source : String} {ws : List Lexeme} {e : Expr}
    (hlexed : Lexed source.toList ws) (hderives : Derives 1 ws e)
    (hshort : ∀ w ∈ ws, w.IsShort) : Expr.ofText source = .ok e := by
  obtain ⟨tokens, htokens, rfl⟩ := tokenize_of_lexed hlexed
  exact (ofText_eq_ok_iff htokens).2 ⟨hderives, by simpa using hshort⟩

/-- The lexemes of an expression text are derived and its numbers are short. -/
theorem lexed_of_ofText {source : String} {e : Expr} (h : Expr.ofText source = .ok e) :
    ∃ ws, Lexed source.toList ws ∧ Derives 1 ws e ∧ ∀ w ∈ ws, w.IsShort := by
  cases htokens : tokenize source with
  | error fault => simp [Expr.ofText, htokens] at h
  | ok tokens =>
      obtain ⟨hderives, hshort⟩ := (ofText_eq_ok_iff htokens).1 h
      exact ⟨_, lexed_of_tokenize htokens, hderives, by simpa using hshort⟩

/-! ### The ends of an expression -/

/-- An expression neither begins with a star nor ends with a slash. -/
theorem Derives.ends {level : Nat} {ws : List Lexeme} {e : Expr} (h : Derives level ws e) :
    (∃ w, ws.head? = some w ∧ w ≠ symbol "*") ∧ ∃ w, ws.getLast? = some w ∧ w ≠ symbol "/" := by
  induction h with
  | tighter _ _ ih => exact ih
  | @binary level ws vs left right op _ _ _ ihleft ihright =>
      obtain ⟨⟨w, hw, hstar⟩, -⟩ := ihleft
      obtain ⟨-, v, hv, hslash⟩ := ihright
      exact ⟨⟨w, by simp [hw], hstar⟩, v, by simp [List.getLast?_cons, hv], hslash⟩
  | signed hsign _ ih =>
      obtain ⟨-, v, hv, hslash⟩ := ih
      exact ⟨⟨_, rfl, by cases hsign <;> decide⟩, v, by simp [List.getLast?_cons, hv], hslash⟩
  | number text => exact ⟨⟨_, rfl, by simp [symbol]⟩, _, rfl, by simp [symbol]⟩
  | name text => exact ⟨⟨_, rfl, by simp [symbol]⟩, _, rfl, by simp [symbol]⟩
  | @parentheses ws e _ _ =>
      exact ⟨⟨symbol "(", rfl, by decide⟩, symbol ")", by simp [List.getLast?_cons], by decide⟩

/-- Whatever stands before an expression opens no comment with its first lexeme. -/
theorem Derives.isChain_cons {level : Nat} {ws : List Lexeme} {e : Expr} (h : Derives level ws e)
    (hchain : ws.IsChain fun v w => ¬ opensComment v w) (v : Lexeme) :
    (v :: ws).IsChain fun v w => ¬ opensComment v w := by
  obtain ⟨⟨w, hw, hstar⟩, -⟩ := h.ends
  refine hchain.cons fun y hy hopens => hstar ?_
  obtain rfl : w = y := Option.some.inj (hw.symm.trans hy)
  exact hopens.2

/-- Whatever stands behind an expression opens no comment with its last lexeme. -/
theorem Derives.isChain_append {level : Nat} {ws vs : List Lexeme} {e : Expr}
    (h : Derives level ws e) (hws : ws.IsChain fun v w => ¬ opensComment v w)
    (hvs : vs.IsChain fun v w => ¬ opensComment v w) :
    (ws ++ vs).IsChain fun v w => ¬ opensComment v w := by
  obtain ⟨-, v, hv, hslash⟩ := h.ends
  refine hws.append hvs fun x hx y _ hopens => hslash ?_
  obtain rfl : v = x := Option.some.inj (hv.symm.trans hx)
  exact hopens.1

/-- No slash stands before a star in an expression. -/
theorem Derives.isChain {level : Nat} {ws : List Lexeme} {e : Expr} (h : Derives level ws e) :
    ws.IsChain fun v w => ¬ opensComment v w := by
  induction h with
  | tighter _ _ ih => exact ih
  | binary op _ hleft hright ihleft ihright =>
      exact hleft.isChain_append ihleft (hright.isChain_cons ihright _)
  | signed _ h ih => exact h.isChain_cons ih _
  | number text => exact .singleton _
  | name text => exact .singleton _
  | parentheses h ih =>
      refine (h.isChain_append ih (.singleton _)).cons ?_
      intro y _ hopens
      exact absurd hopens.1 (by decide)

end GridRules.Program
