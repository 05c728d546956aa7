import GridRules.Proofs.Program.Grammar
import Mathlib.Data.List.TakeWhile

/-!
# The meaning of expressions

The rules say which value or fault an expression has, operand by operand: operands are evaluated
from left to right, a disjunction or a conjunction leaves its right operand alone if the left one
decides it, truth is one or zero, and division goes toward zero. Evaluation follows these rules, and
so a text has the meaning of its derivation.
-/

namespace GridRules.Program

/-- The division of `a` by `b` has the given quotient and remainder. The remainder is smaller than
the divisor and does not lie on the other side of zero than the dividend. -/
structure IsDivision (a b quotient remainder : Int) : Prop where
  eq : a = b * quotient + remainder
  small : remainder.natAbs < b.natAbs
  side : 0 ≤ a ∧ 0 ≤ remainder ∨ a ≤ 0 ∧ remainder ≤ 0

/-- What an operator makes of the values of both its operands. -/
inductive Computes : BinaryOperator → Int → Int → Except EvalFault Int → Prop
  | equal (a b : Int) : Computes .equal a b (.ok (truthValue (decide (a = b))))
  | different (a b : Int) : Computes .different a b (.ok (truthValue (decide (a ≠ b))))
  | less (a b : Int) : Computes .less a b (.ok (truthValue (decide (a < b))))
  | atMost (a b : Int) : Computes .atMost a b (.ok (truthValue (decide (a ≤ b))))
  | greater (a b : Int) : Computes .greater a b (.ok (truthValue (decide (a > b))))
  | atLeast (a b : Int) : Computes .atLeast a b (.ok (truthValue (decide (a ≥ b))))
  | plus (a b : Int) : Computes .plus a b (.ok (a + b))
  | minus (a b : Int) : Computes .minus a b (.ok (a - b))
  | times (a b : Int) : Computes .times a b (.ok (a * b))
  | divide {a b quotient remainder : Int} (h : IsDivision a b quotient remainder) :
      Computes .divide a b (.ok quotient)
  | remainder {a b quotient remainder : Int} (h : IsDivision a b quotient remainder) :
      Computes .remainder a b (.ok remainder)
  | divideByZero (a : Int) : Computes .divide a 0 (.error .divisionByZero)
  | remainderByZero (a : Int) : Computes .remainder a 0 (.error .divisionByZero)

/-- The right operand of an operator counts behind a left one with the given value. -/
def NeedsRight (op : BinaryOperator) (left : Int) : Prop :=
  (op = .and → left ≠ 0) ∧ (op = .or → left = 0)

/-- An expression has a value or a fault. -/
inductive Evaluates (env : Env) : Expr → Except EvalFault Int → Prop
  | number (n : Nat) : Evaluates env (.number n) (.ok n)
  | truth (b : Bool) : Evaluates env (.truth b) (.ok (truthValue b))
  | bound {name value} (h : env.get? name = some value) : Evaluates env (.var name) (.ok value)
  | unbound {name} (h : env.get? name = none) :
      Evaluates env (.var name) (.error (.undefinedVariable name))
  | not {e a} (h : Evaluates env e (.ok a)) :
      Evaluates env (.not e) (.ok (truthValue (decide (a = 0))))
  | negate {e a} (h : Evaluates env e (.ok a)) : Evaluates env (.negate e) (.ok (-a))
  | notFault {e fault} (h : Evaluates env e (.error fault)) :
      Evaluates env (.not e) (.error fault)
  | negateFault {e fault} (h : Evaluates env e (.error fault)) :
      Evaluates env (.negate e) (.error fault)
  | leftFault {op left right fault} (h : Evaluates env left (.error fault)) :
      Evaluates env (.binary op left right) (.error fault)
  | andFalse {left right} (h : Evaluates env left (.ok 0)) :
      Evaluates env (.binary .and left right) (.ok 0)
  | orTrue {left right a} (h : Evaluates env left (.ok a)) (ha : a ≠ 0) :
      Evaluates env (.binary .or left right) (.ok 1)
  | rightFault {op left right a fault} (hleft : Evaluates env left (.ok a))
      (ha : NeedsRight op a) (hright : Evaluates env right (.error fault)) :
      Evaluates env (.binary op left right) (.error fault)
  | and {left right a b} (hleft : Evaluates env left (.ok a)) (ha : a ≠ 0)
      (hright : Evaluates env right (.ok b)) :
      Evaluates env (.binary .and left right) (.ok (truthValue (decide (b ≠ 0))))
  | or {left right b} (hleft : Evaluates env left (.ok 0))
      (hright : Evaluates env right (.ok b)) :
      Evaluates env (.binary .or left right) (.ok (truthValue (decide (b ≠ 0))))
  | compute {op left right a b outcome} (hleft : Evaluates env left (.ok a))
      (hright : Evaluates env right (.ok b)) (h : Computes op a b outcome) :
      Evaluates env (.binary op left right) outcome

/-! ### Division -/

theorem isDivision_tdiv (a : Int) {b : Int} (hb : b ≠ 0) :
    IsDivision a b (a.tdiv b) (a.tmod b) := by
  rcases Int.le_total 0 a with ha | ha
  · obtain ⟨heq, hside, hsmall⟩ := (Int.tdiv_tmod_unique ha hb).1 ⟨rfl, rfl⟩
    exact ⟨by omega, by omega, .inl ⟨ha, hside⟩⟩
  · obtain ⟨heq, hsmall, hside⟩ := (Int.tdiv_tmod_unique' ha hb).1 ⟨rfl, rfl⟩
    exact ⟨by omega, by omega, .inr ⟨ha, hside⟩⟩

theorem IsDivision.ne_zero {a b quotient remainder : Int} (h : IsDivision a b quotient remainder) :
    b ≠ 0 := by
  rintro rfl
  exact absurd h.small (by simp)

theorem IsDivision.unique {a b quotient remainder : Int} (h : IsDivision a b quotient remainder) :
    a.tdiv b = quotient ∧ a.tmod b = remainder := by
  have hsmall := h.small
  rcases h.side with ⟨ha, hside⟩ | ⟨ha, hside⟩
  · exact (Int.tdiv_tmod_unique ha h.ne_zero).2 ⟨by rw [h.eq]; omega, hside, by omega⟩
  · exact (Int.tdiv_tmod_unique' ha h.ne_zero).2 ⟨by rw [h.eq]; omega, by omega, hside⟩

/-! ### Evaluation follows the rules -/

theorem computes_apply {op : BinaryOperator} (hor : op ≠ .or) (hand : op ≠ .and) (a b : Int) :
    Computes op a b (op.apply a b) := by
  cases op with
  | or => exact absurd rfl hor
  | and => exact absurd rfl hand
  | equal => exact .equal a b
  | different =>
      have h := Computes.different a b
      simpa [BinaryOperator.apply, bne, BEq.beq] using h
  | less => exact .less a b
  | atMost => exact .atMost a b
  | greater => exact .greater a b
  | atLeast => exact .atLeast a b
  | plus => exact .plus a b
  | minus => exact .minus a b
  | times => exact .times a b
  | divide =>
      by_cases hb : b = 0
      · subst hb
        exact .divideByZero a
      · simpa [BinaryOperator.apply, truncatedQuotient_of_ne_zero a hb] using
          Computes.divide (isDivision_tdiv a hb)
  | remainder =>
      by_cases hb : b = 0
      · subst hb
        exact .remainderByZero a
      · simpa [BinaryOperator.apply, truncatedRemainder_of_ne_zero a hb] using
          Computes.remainder (isDivision_tdiv a hb)

theorem Computes.eq_apply {op : BinaryOperator} {a b : Int} {outcome : Except EvalFault Int}
    (h : Computes op a b outcome) : op.apply a b = outcome := by
  cases h with
  | divide h =>
      simp [BinaryOperator.apply, truncatedQuotient_of_ne_zero a h.ne_zero, h.unique.1]
  | remainder h =>
      simp [BinaryOperator.apply, truncatedRemainder_of_ne_zero a h.ne_zero, h.unique.2]
  | different a b => simp [BinaryOperator.apply, bne, BEq.beq]
  | divideByZero | remainderByZero => rfl
  | _ => rfl

theorem Computes.decidedBy?_eq {op : BinaryOperator} {a b : Int} {outcome : Except EvalFault Int}
    (h : Computes op a b outcome) : op.decidedBy? a = none := by
  cases h <;> rfl

theorem needsRight_of_decidedBy? {op : BinaryOperator} {a : Int} (h : op.decidedBy? a = none) :
    NeedsRight op a := by
  cases op <;> simp_all [NeedsRight, BinaryOperator.decidedBy?]

theorem NeedsRight.decidedBy?_eq {op : BinaryOperator} {a : Int} (h : NeedsRight op a) :
    op.decidedBy? a = none := by
  cases op <;> simp_all [NeedsRight, BinaryOperator.decidedBy?]

/-- The value that a left operand decides is that of the rules. -/
theorem evaluates_of_decidedBy? {env : Env} {op : BinaryOperator} {left right : Expr} {a : Int}
    {b : Bool} (hleft : Evaluates env left (.ok a)) (h : op.decidedBy? a = some b) :
    Evaluates env (.binary op left right) (.ok (truthValue b)) := by
  cases op with
  | or =>
      obtain ⟨ha, rfl⟩ : a ≠ 0 ∧ b = true := by simpa [BinaryOperator.decidedBy?, eq_comm] using h
      exact .orTrue hleft ha
  | and =>
      obtain ⟨rfl, rfl⟩ : a = 0 ∧ b = false := by simpa [BinaryOperator.decidedBy?, eq_comm] using h
      exact .andFalse hleft
  | _ => cases h

/-- The value of both operands together is that of the rules. -/
theorem evaluates_of_apply {env : Env} {op : BinaryOperator} {left right : Expr} {a b : Int}
    (hleft : Evaluates env left (.ok a)) (hright : Evaluates env right (.ok b))
    (h : op.decidedBy? a = none) : Evaluates env (.binary op left right) (op.apply a b) := by
  by_cases hor : op = .or
  · subst hor
    obtain rfl : a = 0 := (needsRight_of_decidedBy? h).2 rfl
    simpa [BinaryOperator.apply, bne, BEq.beq] using Evaluates.or hleft hright
  · by_cases hand : op = .and
    · subst hand
      have ha : a ≠ 0 := (needsRight_of_decidedBy? h).1 rfl
      simpa [BinaryOperator.apply, bne, BEq.beq, ha] using Evaluates.and hleft ha hright
    · exact .compute hleft hright (computes_apply hor hand a b)

/-- What evaluation finds follows from the rules. -/
theorem evaluates_eval (env : Env) (e : Expr) : Evaluates env e (e.eval env) := by
  induction e with
  | number n => exact .number n
  | truth b => exact .truth b
  | var name =>
      rw [Expr.eval]
      split
      · next h => exact .bound h
      · next h => exact .unbound h
  | not operand ih =>
      rw [Expr.eval]
      split
      · next h => exact .notFault (h ▸ ih)
      · next h => exact .not (h ▸ ih)
  | negate operand ih =>
      rw [Expr.eval]
      split
      · next h => exact .negateFault (h ▸ ih)
      · next h => exact .negate (h ▸ ih)
  | binary op left right ihleft ihright =>
      rw [Expr.eval]
      split
      · next h => exact .leftFault (h ▸ ihleft)
      · next a ha =>
          rw [ha] at ihleft
          split
          · next b hb => exact evaluates_of_decidedBy? ihleft hb
          · next hnone =>
              split
              · next hb =>
                  exact .rightFault ihleft (needsRight_of_decidedBy? hnone) (hb ▸ ihright)
              · next b hb => exact evaluates_of_apply ihleft (hb ▸ ihright) hnone

/-- The rules leave no choice: what follows from them is what evaluation finds. -/
theorem Evaluates.eval_eq {env : Env} {e : Expr} {outcome : Except EvalFault Int}
    (h : Evaluates env e outcome) : e.eval env = outcome := by
  induction h with
  | number n => rfl
  | truth b => rfl
  | bound h => simp [h]
  | unbound h => simp [h]
  | not _ ih => simp [ih, BEq.beq]
  | negate _ ih => simp [ih]
  | notFault _ ih => simp [ih]
  | negateFault _ ih => simp [ih]
  | leftFault _ ih => simp [ih]
  | andFalse _ ih => simp [ih, BinaryOperator.decidedBy?, truthValue]
  | orTrue _ ha ih => simp [ih, ha, BinaryOperator.decidedBy?, truthValue]
  | rightFault _ ha _ ihleft ihright => simp [ihleft, ihright, ha.decidedBy?_eq]
  | and _ ha _ ihleft ihright =>
      simp [ihleft, ihright, ha, BinaryOperator.decidedBy?, BinaryOperator.apply, bne,
        BEq.beq]
  | or _ _ ihleft ihright =>
      simp [ihleft, ihright, BinaryOperator.decidedBy?, BinaryOperator.apply, bne,
        BEq.beq]
  | compute _ _ h ihleft ihright =>
      simp [ihleft, ihright, h.decidedBy?_eq, h.eq_apply]

theorem eval_eq_iff {env : Env} {e : Expr} {outcome : Except EvalFault Int} :
    e.eval env = outcome ↔ Evaluates env e outcome :=
  ⟨fun h => h ▸ evaluates_eval env e, Evaluates.eval_eq⟩

/-! ### Operators -/

section Operators

variable {env : Env} {left right : Expr} {a b : Int}

theorem eval_decided (op : BinaryOperator) {decision : Bool} (hleft : left.eval env = .ok a)
    (h : op.decidedBy? a = some decision) :
    Expr.eval env (.binary op left right) = .ok (truthValue decision) := by
  simp [hleft, h]

theorem eval_operator (op : BinaryOperator) (hleft : left.eval env = .ok a)
    (hright : right.eval env = .ok b) (h : op.decidedBy? a = none) :
    Expr.eval env (.binary op left right) = op.apply a b := by
  simp [hleft, hright, h]

theorem eval_plus (hleft : left.eval env = .ok a) (hright : right.eval env = .ok b) :
    Expr.eval env (.binary .plus left right) = .ok (a + b) :=
  eval_operator .plus hleft hright rfl

theorem eval_minus (hleft : left.eval env = .ok a) (hright : right.eval env = .ok b) :
    Expr.eval env (.binary .minus left right) = .ok (a - b) :=
  eval_operator .minus hleft hright rfl

theorem eval_divide (hleft : left.eval env = .ok a) (hright : right.eval env = .ok b)
    (hb : b ≠ 0) : Expr.eval env (.binary .divide left right) = .ok (a.tdiv b) := by
  rw [eval_operator .divide hleft hright rfl]
  exact truncatedQuotient_of_ne_zero a hb

theorem eval_remainder (hleft : left.eval env = .ok a) (hright : right.eval env = .ok b)
    (hb : b ≠ 0) : Expr.eval env (.binary .remainder left right) = .ok (a.tmod b) := by
  rw [eval_operator .remainder hleft hright rfl]
  exact truncatedRemainder_of_ne_zero a hb

end Operators

/-! ### Conditions -/

/-- In the given variables the expression has the value one if `p` holds, and else zero. -/
def Decides (env : Env) (e : Expr) (p : Prop) : Prop :=
  ∃ b, e.eval env = .ok (truthValue b) ∧ (b = true ↔ p)

variable {env : Env} {left right : Expr} {p q : Prop} {a b : Int}

theorem Decides.congr (h : Decides env left p) (hpq : p ↔ q) : Decides env left q := by
  obtain ⟨b, heval, hb⟩ := h
  exact ⟨b, heval, hb.trans hpq⟩

/-- A condition has a value, which is not zero exactly if it holds. -/
theorem Decides.exists_value (h : Decides env left p) :
    ∃ value, left.eval env = .ok value ∧ (value ≠ 0 ↔ p) := by
  obtain ⟨b, heval, hb⟩ := h
  refine ⟨truthValue b, heval, Iff.trans ?_ hb⟩
  cases b <;> simp [truthValue]

theorem Decides.and (h : Decides env left p) (h' : Decides env right q) :
    Decides env (.binary .and left right) (p ∧ q) := by
  obtain ⟨a, hleft, ha⟩ := h
  obtain ⟨b, hright, hb⟩ := h'
  refine ⟨a && b, ?_, by simp [← ha, ← hb]⟩
  cases a with
  | false => exact eval_decided .and hleft rfl
  | true =>
      rw [eval_operator .and hleft hright rfl]
      cases b <;> rfl

theorem Decides.or (h : Decides env left p) (h' : Decides env right q) :
    Decides env (.binary .or left right) (p ∨ q) := by
  obtain ⟨a, hleft, ha⟩ := h
  obtain ⟨b, hright, hb⟩ := h'
  refine ⟨a || b, ?_, by simp [← ha, ← hb]⟩
  cases a with
  | true => exact eval_decided .or hleft rfl
  | false =>
      rw [eval_operator .or hleft hright rfl]
      cases b <;> rfl

theorem decides_equal (hleft : left.eval env = .ok a) (hright : right.eval env = .ok b) :
    Decides env (.binary .equal left right) (a = b) :=
  ⟨decide (a = b), eval_operator .equal hleft hright rfl, by simp⟩

theorem decides_less (hleft : left.eval env = .ok a) (hright : right.eval env = .ok b) :
    Decides env (.binary .less left right) (a < b) :=
  ⟨decide (a < b), eval_operator .less hleft hright rfl, by simp⟩

theorem decides_atLeast (hleft : left.eval env = .ok a) (hright : right.eval env = .ok b) :
    Decides env (.binary .atLeast left right) (b ≤ a) :=
  ⟨decide (b ≤ a), eval_operator .atLeast hleft hright rfl, by simp⟩

/-! ### The meaning of a text -/

/-- A text that splits into tokens is an expression exactly if the grammar derives its tokens, all
numbers having at most the readable number of digits; then in all variables it has the value or the
fault that the rules give to the tree of any derivation. -/
theorem ofText_meaning {source : String} {tokens : List Token}
    (htokens : tokenize source = .ok tokens) :
    ((∃ e, Expr.ofText source = .ok e) ↔
      (∃ tree, Derives 1 (tokens.map Token.lexeme) tree) ∧
        ∀ token ∈ tokens, token.lexeme.IsShort) ∧
    ∀ e tree, Expr.ofText source = .ok e → Derives 1 (tokens.map Token.lexeme) tree →
      ∀ env outcome, e.eval env = outcome ↔ Evaluates env tree outcome := by
  constructor
  · constructor
    · rintro ⟨e, h⟩
      obtain ⟨hderives, hshort⟩ := (ofText_eq_ok_iff htokens).1 h
      exact ⟨⟨e, hderives⟩, hshort⟩
    · rintro ⟨⟨tree, hderives⟩, hshort⟩
      exact ⟨tree, (ofText_eq_ok_iff htokens).2 ⟨hderives, hshort⟩⟩
  · intro e tree h hderives env outcome
    have hshort := ((ofText_eq_ok_iff htokens).1 h).2
    have htree := (ofText_eq_ok_iff htokens).2 ⟨hderives, hshort⟩
    obtain rfl : e = tree := Except.ok.inj (h.symm.trans htree)
    exact eval_eq_iff

/-- The text `r-1-c` takes one from the row and then the column from that. -/
theorem ofText_meaning_chain :
    ∃ e, Expr.ofText "r-1-c" = .ok e ∧ ∀ env outcome, e.eval env = outcome ↔
      Evaluates env (.binary .minus (.binary .minus (.var "r") (.number 1)) (.var "c"))
        outcome := by
  have hfront : frontLexemes? 5 "r-1-c".toList =
      some ([⟨.name, "r"⟩, symbol "-", ⟨.number, "1"⟩, symbol "-", ⟨.name, "c"⟩], []) := by
    decide +kernel
  obtain ⟨tokens, htokens, hws⟩ := tokenize_of_lexed (lexed_of_frontLexemes? hfront)
  have hderives : Derives 1 (tokens.map Token.lexeme)
      (.binary .minus (.binary .minus (.var "r") (.number 1)) (.var "c")) := by
    rw [hws]
    have hrow : Derives 5 [⟨.name, "r"⟩] (.var "r") :=
      (Derives.name "r").looser
    have hone : Derives 6 [⟨.number, "1"⟩] (.number 1) := .tighter (by decide) (.number "1")
    have hcol : Derives 6 [⟨.name, "c"⟩] (.var "c") := .tighter (by decide) (.name "c")
    exact (Derives.binary .minus rfl (.binary .minus rfl hrow hone) hcol).looser
  have hshort : ∀ token ∈ tokens, token.lexeme.IsShort := by
    have hall : ∀ w ∈ tokens.map Token.lexeme, w.IsShort := by
      rw [hws]
      decide
    simpa using hall
  obtain ⟨haccepts, hmeaning⟩ := ofText_meaning htokens
  obtain ⟨e, he⟩ := haccepts.2 ⟨⟨_, hderives⟩, hshort⟩
  exact ⟨e, he, hmeaning e _ he hderives⟩

/-- An exclamation mark before one digit too many. -/
def longText : String :=
  String.ofList ('!' :: '1' :: List.replicate Text.mostDigits '1')

/-- A number with one digit too many is derived but is not an expression. -/
theorem ofText_longText_refused :
    ∃ tokens, tokenize longText = .ok tokens ∧
      (∃ tree, Derives 1 (tokens.map Token.lexeme) tree) ∧ ∀ e, Expr.ofText longText ≠ .ok e := by
  have hdigits : ∀ c ∈ List.replicate Text.mostDigits '1', Text.isDigit c = true := by
    intro c hc
    rw [List.eq_of_mem_replicate hc]
    decide
  have hnumber : piece? '1' (List.replicate Text.mostDigits '1') =
      some ⟨some .number, '1' :: List.replicate Text.mostDigits '1', []⟩ := by
    rw [piece?, if_neg (by decide), if_pos (by decide), List.takeWhile_eq_self_iff.2 hdigits,
      List.dropWhile_eq_nil_iff.2 hdigits]
  have hsign (text : List Char) : piece? '!' ('1' :: text) =
      some ⟨some .operator, ['!'], '1' :: text⟩ := rfl
  have hlexed : Lexed longText.toList
      [symbol "!", ⟨.number, String.ofList ('1' :: List.replicate Text.mostDigits '1')⟩] := by
    rw [longText, String.toList_ofList]
    exact .cons (hsign _) (.cons hnumber .nil)
  obtain ⟨tokens, htokens, hws⟩ := tokenize_of_lexed hlexed
  refine ⟨tokens, htokens, ?_, ?_⟩
  · rw [hws]
    exact ⟨_, (Derives.signed .not (.number _)).looser⟩
  · intro e he
    have hshort := ((ofText_eq_ok_iff htokens).1 he).2
    have hall : ∀ w ∈ tokens.map Token.lexeme, w.IsShort := by simpa using hshort
    rw [hws] at hall
    have hlength := hall _ (.tail _ (.head _)) rfl
    rw [String.length_ofList, List.length_cons, List.length_replicate] at hlength
    omega

end GridRules.Program
