import GridRules.Program.Interpreter
import GridRules.Proofs.Program.Lexeme

/-!
# Reading does not depend on places

Two sequences of tokens with the same kinds and texts are read alike: what is found in one is found
in the other, with rests that again have the same kinds and texts, and where reading one of them
fails, reading the other fails with a report that differs at most in the place.
-/

namespace GridRules.Program

/-- Faults of which the same is reported, apart from the place, which the details give. -/
def SyntaxFault.Alike (fault other : SyntaxFault) : Prop :=
  { fault.failure with details := [] } = { other.failure with details := [] }

/-- Results of readings are alike if both are faults of which the same is reported or both are
related values. -/
inductive Agree {A B : Type} (related : A → B → Prop) :
    Except SyntaxFault A → Except SyntaxFault B → Prop
  | error {fault other} (h : fault.Alike other) : Agree related (.error fault) (.error other)
  | ok {value other} (h : related value other) : Agree related (.ok value) (.ok other)

/-- The same value, before rests with the same lexemes. -/
def Parsed.Alike {A : Type} {tokens others : List Token} (parsed : Parsed A tokens)
    (other : Parsed A others) : Prop :=
  parsed.value = other.value ∧ parsed.rest.map Token.lexeme = other.rest.map Token.lexeme

@[inherit_doc Parsed.Alike]
def Continued.Alike {A : Type} {tokens others : List Token} (continued : Continued A tokens)
    (other : Continued A others) : Prop :=
  continued.value = other.value ∧
    continued.rest.map Token.lexeme = other.rest.map Token.lexeme

/-- Where results are alike, whatever is done with them is done with two faults or with two related
values. -/
@[elab_as_elim]
theorem Agree.step {A B : Type} {related : A → B → Prop} {first : Except SyntaxFault A}
    {second : Except SyntaxFault B} {motive : Except SyntaxFault A → Except SyntaxFault B → Prop}
    (h : Agree related first second)
    (error : ∀ fault other, fault.Alike other → motive (.error fault) (.error other))
    (ok : ∀ value other, related value other → motive (.ok value) (.ok other)) :
    motive first second := by
  cases h with
  | error halike => exact error _ _ halike
  | ok hrelated => exact ok _ _ hrelated

variable {tokens others : List Token}

theorem agree_unexpected {A B : Type} {R : A → B → Prop} (expected : Expectation)
    (h : tokens.map Token.lexeme = others.map Token.lexeme) :
    Agree R (unexpected expected tokens) (unexpected expected others) := by
  refine .error ?_
  have htexts : tokens.head?.map Token.text = others.head?.map Token.text := by
    simpa [Function.comp_def, Token.lexeme] using congrArg (·.head?.map Lexeme.text) h
  simp [SyntaxFault.Alike, SyntaxFault.failure, htexts]

/-- The first tokens of sequences with the same lexemes. -/
theorem cons_of_map_lexeme {token : Token} {rest : List Token}
    (h : (token :: rest).map Token.lexeme = others.map Token.lexeme) :
    ∃ other more, others = other :: more ∧ token.kind = other.kind ∧ token.text = other.text ∧
      rest.map Token.lexeme = more.map Token.lexeme := by
  obtain ⟨other, more, rfl, hlexeme, hmore⟩ := List.map_eq_cons_iff.1 h.symm
  have ⟨hkind, htext⟩ := Lexeme.mk.inj hlexeme
  exact ⟨other, more, rfl, hkind.symm, htext.symm, hmore.symm⟩

theorem startsWith_congr (text : String) (h : tokens.map Token.lexeme = others.map Token.lexeme) :
    startsWith text tokens = startsWith text others := by
  cases tokens with
  | nil =>
      obtain rfl := List.map_eq_nil_iff.1 h.symm
      rfl
  | cons token rest =>
      obtain ⟨other, more, rfl, -, htext, -⟩ := cons_of_map_lexeme h
      simp [startsWith, htext]

theorem agree_expect (text : String) (h : tokens.map Token.lexeme = others.map Token.lexeme) :
    Agree Parsed.Alike (expect text tokens) (expect text others) := by
  cases tokens with
  | nil =>
      obtain rfl := List.map_eq_nil_iff.1 h.symm
      exact agree_unexpected _ rfl
  | cons token rest =>
      obtain ⟨other, more, rfl, -, htext, hmore⟩ := cons_of_map_lexeme h
      rw [expect, expect, htext]
      split
      · exact .ok ⟨rfl, hmore⟩
      · exact agree_unexpected _ h

theorem agree_expectAll (texts : List String)
    (h : tokens.map Token.lexeme = others.map Token.lexeme) :
    Agree Continued.Alike (expectAll texts tokens) (expectAll texts others) := by
  induction texts generalizing tokens others with
  | nil => exact .ok ⟨rfl, h⟩
  | cons text texts ih =>
      rw [expectAll, expectAll]
      refine Agree.step (agree_expect text h) (fun _ _ => .error) fun first second hfirst => ?_
      dsimp only
      exact Agree.step (ih hfirst.2) (fun _ _ => .error) fun later last hlater =>
        .ok ⟨rfl, hlater.2⟩

theorem agree_expectName (h : tokens.map Token.lexeme = others.map Token.lexeme) :
    Agree Parsed.Alike (expectName tokens) (expectName others) := by
  cases tokens with
  | nil =>
      obtain rfl := List.map_eq_nil_iff.1 h.symm
      exact agree_unexpected _ rfl
  | cons token rest =>
      obtain ⟨other, more, rfl, hkind, htext, hmore⟩ := cons_of_map_lexeme h
      rw [expectName, expectName, hkind]
      split
      · exact .ok ⟨htext, hmore⟩
      · exact agree_unexpected _ h

/-! ### Expressions -/

mutual

theorem agree_readLevel (level : Nat) {tokens others : List Token}
    (h : tokens.map Token.lexeme = others.map Token.lexeme) :
    Agree Parsed.Alike (readLevel level tokens) (readLevel level others) := by
  unfold readLevel
  split
  · refine Agree.step (agree_readLevel (level + 1) h) (fun _ _ => .error) ?_
    rintro first second ⟨hvalue, hrest⟩
    have := first.shorter
    dsimp only
    rw [hvalue]
    exact Agree.step (agree_readOperands level second.value hrest) (fun _ _ => .error)
      fun chain other hchain => .ok hchain
  · exact agree_readUnary h
termination_by (tokens.length, 8 - min level 7)

theorem agree_readOperands (level : Nat) (left : Expr) {tokens others : List Token}
    (h : tokens.map Token.lexeme = others.map Token.lexeme) :
    Agree Continued.Alike (readOperands level left tokens) (readOperands level left others) := by
  match tokens, h with
  | [], h =>
      obtain rfl := List.map_eq_nil_iff.1 h.symm
      rw [readOperands]
      exact .ok ⟨rfl, rfl⟩
  | token :: rest, h =>
      obtain ⟨other, more, rfl, -, htext, hmore⟩ := cons_of_map_lexeme h
      unfold readOperands
      rw [htext]
      split
      · exact .ok ⟨rfl, h⟩
      · next op _ =>
          refine Agree.step (agree_readLevel (level + 1) hmore) (fun _ _ => .error) ?_
          rintro right second ⟨hvalue, hrest⟩
          have := right.shorter
          dsimp only
          rw [hvalue]
          exact Agree.step (agree_readOperands level (.binary op left second.value) hrest)
            (fun _ _ => .error) fun chain other hchain => .ok hchain
termination_by (tokens.length, 8)

theorem agree_readUnary {tokens others : List Token}
    (h : tokens.map Token.lexeme = others.map Token.lexeme) :
    Agree Parsed.Alike (readUnary tokens) (readUnary others) := by
  match tokens, h with
  | [], h =>
      obtain rfl := List.map_eq_nil_iff.1 h.symm
      rw [readUnary]
      exact agree_unexpected _ rfl
  | token :: rest, h =>
      obtain ⟨other, more, rfl, hkind, htext, hmore⟩ := cons_of_map_lexeme h
      unfold readUnary
      rw [hkind, htext]
      split
      · refine Agree.step (agree_readUnary hmore) (fun _ _ => .error) ?_
        rintro operand second ⟨hvalue, hrest⟩
        exact .ok ⟨congrArg Expr.not hvalue, hrest⟩
      split
      · refine Agree.step (agree_readUnary hmore) (fun _ _ => .error) ?_
        rintro operand second ⟨hvalue, hrest⟩
        exact .ok ⟨congrArg Expr.negate hvalue, hrest⟩
      split
      · exact Agree.step (agree_readUnary hmore) (fun _ _ => .error)
          fun operand second hoperand => .ok hoperand
      split
      · split
        · exact .ok ⟨rfl, hmore⟩
        · exact .error rfl
      split
      · exact .ok ⟨rfl, hmore⟩
      split
      · refine Agree.step (agree_readLevel 1 hmore) (fun _ _ => .error) ?_
        rintro inner second ⟨hvalue, hrest⟩
        dsimp only
        refine Agree.step (agree_expect ")" hrest) (fun _ _ => .error) ?_
        rintro closing last ⟨-, hlast⟩
        exact .ok ⟨hvalue, hlast⟩
      · exact agree_unexpected _ h
termination_by (tokens.length, 0)

end

/-- Sequences with the same lexemes are read as the same expression. -/
theorem agree_readExpr (h : tokens.map Token.lexeme = others.map Token.lexeme) :
    Agree Parsed.Alike (readExpr tokens) (readExpr others) :=
  agree_readLevel 1 h

theorem agree_readExprThen (text : String) (h : tokens.map Token.lexeme = others.map Token.lexeme) :
    Agree Parsed.Alike (readExprThen text tokens) (readExprThen text others) := by
  unfold readExprThen
  refine Agree.step (agree_readExpr h) (fun _ _ => .error) ?_
  rintro parsed second ⟨hvalue, hrest⟩
  dsimp only
  refine Agree.step (agree_expect text hrest) (fun _ _ => .error) ?_
  rintro closing last ⟨-, hlast⟩
  exact .ok ⟨hvalue, hlast⟩

/-! ### Print statements -/

theorem agree_skipQualifier (h : tokens.map Token.lexeme = others.map Token.lexeme) :
    Agree Continued.Alike (skipQualifier tokens) (skipQualifier others) := by
  unfold skipQualifier
  rw [startsWith_congr "std" h]
  split
  · exact agree_expectAll _ h
  · exact .ok ⟨rfl, h⟩

theorem agree_readGlyph (h : tokens.map Token.lexeme = others.map Token.lexeme) :
    Agree Parsed.Alike (readGlyph tokens) (readGlyph others) := by
  cases tokens with
  | nil =>
      obtain rfl := List.map_eq_nil_iff.1 h.symm
      exact agree_unexpected _ rfl
  | cons token rest =>
      obtain ⟨other, more, rfl, hkind, htext, hmore⟩ := cons_of_map_lexeme h
      rw [readGlyph, readGlyph, hkind, htext]
      split
      · split
        · exact .error rfl
        · exact .ok ⟨rfl, hmore⟩
      · refine Agree.step (agree_skipQualifier h) (fun _ _ => .error) ?_
        rintro qualified second ⟨-, hrest⟩
        dsimp only
        refine Agree.step (agree_expect "endl" hrest) (fun _ _ _ => agree_unexpected _ hrest) ?_
        rintro parsed last ⟨-, hlast⟩
        exact .ok ⟨rfl, hlast⟩

theorem agree_readGlyphs (earlier : List Char) {tokens others : List Token}
    (h : tokens.map Token.lexeme = others.map Token.lexeme) :
    Agree Continued.Alike (readGlyphs earlier tokens) (readGlyphs earlier others) := by
  match tokens, h with
  | [], h =>
      obtain rfl := List.map_eq_nil_iff.1 h.symm
      rw [readGlyphs]
      exact .ok ⟨rfl, rfl⟩
  | token :: rest, h =>
      obtain ⟨other, more, rfl, -, htext, hmore⟩ := cons_of_map_lexeme h
      unfold readGlyphs
      rw [htext]
      split
      · refine Agree.step (agree_readGlyph hmore) (fun _ _ => .error) ?_
        rintro glyph second ⟨hvalue, hrest⟩
        have := glyph.shorter
        dsimp only
        rw [hvalue]
        exact Agree.step (agree_readGlyphs (second.value :: earlier) hrest) (fun _ _ => .error)
          fun glyphs last hglyphs => .ok hglyphs
      · exact .ok ⟨rfl, h⟩
termination_by tokens.length

theorem agree_readPrint (h : tokens.map Token.lexeme = others.map Token.lexeme) :
    Agree Parsed.Alike (readPrint tokens) (readPrint others) := by
  unfold readPrint
  refine Agree.step (agree_skipQualifier h) (fun _ _ => .error) ?_
  rintro qualified second ⟨-, hqualified⟩
  dsimp only
  refine Agree.step (agree_expect "cout" hqualified) (fun _ _ => .error) ?_
  rintro stream third ⟨-, hstream⟩
  dsimp only
  refine Agree.step (agree_readGlyphs [] hstream) (fun _ _ => .error) ?_
  rintro glyphs fourth ⟨hvalue, hglyphs⟩
  dsimp only
  rw [hvalue]
  split
  · exact agree_unexpected _ hglyphs
  · refine Agree.step (agree_expect ";" hglyphs) (fun _ _ => .error) ?_
    rintro closing last ⟨-, hlast⟩
    exact .ok ⟨rfl, hlast⟩

/-! ### Other statements -/

theorem agree_readBinding (h : tokens.map Token.lexeme = others.map Token.lexeme) :
    Agree Parsed.Alike (readBinding tokens) (readBinding others) := by
  unfold readBinding
  refine Agree.step (agree_expectName h) (fun _ _ => .error) ?_
  rintro name second ⟨hname, hrest⟩
  dsimp only
  refine Agree.step (agree_expect "=" hrest) (fun _ _ => .error) ?_
  rintro equals third ⟨-, hequals⟩
  dsimp only
  refine Agree.step (agree_readExprThen ";" hequals) (fun _ _ => .error) ?_
  rintro value last ⟨hvalue, hlast⟩
  exact .ok ⟨Prod.ext hname hvalue, hlast⟩

theorem agree_readIncrement (h : tokens.map Token.lexeme = others.map Token.lexeme) :
    Agree Parsed.Alike (readIncrement tokens) (readIncrement others) := by
  unfold readIncrement
  rw [startsWith_congr "++" h]
  split
  · refine Agree.step (agree_expect "++" h) (fun _ _ => .error) ?_
    rintro operator second ⟨-, hrest⟩
    dsimp only
    exact Agree.step (agree_expectName hrest) (fun _ _ => .error) fun name last hname => .ok hname
  · refine Agree.step (agree_expectName h) (fun _ _ => .error) ?_
    rintro name second ⟨hname, hrest⟩
    dsimp only
    refine Agree.step (agree_expect "++" hrest) (fun _ _ => .error) ?_
    rintro operator last ⟨-, hlast⟩
    exact .ok ⟨hname, hlast⟩

theorem agree_readLoopHead (h : tokens.map Token.lexeme = others.map Token.lexeme) :
    Agree Continued.Alike (readLoopHead tokens) (readLoopHead others) := by
  unfold readLoopHead
  refine Agree.step (agree_expectAll ["(", "int"] h) (fun _ _ => .error) ?_
  rintro opening second ⟨-, hopening⟩
  dsimp only
  refine Agree.step (agree_readBinding hopening) (fun _ _ => .error) ?_
  rintro binding third ⟨hbinding, hrest⟩
  dsimp only
  refine Agree.step (agree_readExprThen ";" hrest) (fun _ _ => .error) ?_
  rintro condition fourth ⟨hcondition, hrest⟩
  dsimp only
  refine Agree.step (agree_readIncrement hrest) (fun _ _ => .error) ?_
  rintro increment fifth ⟨hincrement, hrest⟩
  dsimp only
  rw [hincrement, hbinding]
  split
  · refine Agree.step (agree_expect ")" hrest) (fun _ _ => .error) ?_
    rintro closing last ⟨-, hlast⟩
    exact .ok ⟨by simp [hcondition], hlast⟩
  · exact agree_unexpected _ hrest

theorem agree_readCondition (h : tokens.map Token.lexeme = others.map Token.lexeme) :
    Agree Parsed.Alike (readCondition tokens) (readCondition others) := by
  unfold readCondition
  refine Agree.step (agree_expect "(" h) (fun _ _ => .error) ?_
  rintro opening second ⟨-, hopening⟩
  dsimp only
  exact Agree.step (agree_readExprThen ")" hopening) (fun _ _ => .error)
    fun condition last hcondition => .ok hcondition

mutual

theorem agree_readStatement {tokens others : List Token}
    (h : tokens.map Token.lexeme = others.map Token.lexeme) :
    Agree Parsed.Alike (readStatement tokens) (readStatement others) := by
  match tokens, h with
  | [], h =>
      obtain rfl := List.map_eq_nil_iff.1 h.symm
      rw [readStatement]
      exact agree_unexpected _ rfl
  | token :: rest, h =>
      obtain ⟨other, more, rfl, -, htext, hmore⟩ := cons_of_map_lexeme h
      unfold readStatement
      rw [htext]
      split
      · refine Agree.step (agree_readBinding hmore) (fun _ _ => .error) ?_
        rintro binding second ⟨hvalue, hrest⟩
        exact .ok ⟨by simp [hvalue], hrest⟩
      split
      · refine Agree.step (agree_readLoopHead hmore) (fun _ _ => .error) ?_
        rintro head second ⟨hhead, hrest⟩
        have := head.noLonger
        dsimp only
        refine Agree.step (agree_readBody hrest) (fun _ _ => .error) ?_
        rintro body last ⟨hbody, hlast⟩
        exact .ok ⟨by simp [hhead, hbody], hlast⟩
      split
      · refine Agree.step (agree_readChain [] hmore) (fun _ _ => .error) ?_
        rintro chain second ⟨hchain, hrest⟩
        exact .ok ⟨by simp [hchain], hrest⟩
      split
      · exact agree_readPrint h
      split
      · refine Agree.step (agree_readExprThen ";" hmore) (fun _ _ => .error) ?_
        rintro status second ⟨hstatus, hrest⟩
        exact .ok ⟨congrArg Statement.exit hstatus, hrest⟩
      · exact agree_unexpected _ h
termination_by (tokens.length, 0)

theorem agree_readBody {tokens others : List Token}
    (h : tokens.map Token.lexeme = others.map Token.lexeme) :
    Agree Parsed.Alike (readBody tokens) (readBody others) := by
  unfold readBody
  rw [startsWith_congr "\x7b" h]
  split
  · exact agree_readBlock h
  · refine Agree.step (agree_readStatement h) (fun _ _ => .error) ?_
    rintro statement second ⟨hvalue, hrest⟩
    exact .ok ⟨by simp [hvalue], hrest⟩
termination_by (tokens.length, 2)

theorem agree_readBlock {tokens others : List Token}
    (h : tokens.map Token.lexeme = others.map Token.lexeme) :
    Agree Parsed.Alike (readBlock tokens) (readBlock others) := by
  unfold readBlock
  refine Agree.step (agree_expect "\x7b" h) (fun _ _ => .error) ?_
  rintro opening second ⟨-, hopening⟩
  have := opening.shorter
  dsimp only
  exact Agree.step (agree_readStatements [] hopening) (fun _ _ => .error)
    fun block last hblock => .ok hblock
termination_by (tokens.length, 1)

theorem agree_readStatements (earlier : List Statement) {tokens others : List Token}
    (h : tokens.map Token.lexeme = others.map Token.lexeme) :
    Agree Parsed.Alike (readStatements earlier tokens) (readStatements earlier others) := by
  match tokens, h with
  | [], h =>
      obtain rfl := List.map_eq_nil_iff.1 h.symm
      rw [readStatements]
      exact agree_unexpected _ rfl
  | token :: rest, h =>
      obtain ⟨other, more, rfl, -, htext, hmore⟩ := cons_of_map_lexeme h
      unfold readStatements
      rw [htext]
      split
      · exact .ok ⟨rfl, hmore⟩
      · refine Agree.step (agree_readStatement h) (fun _ _ => .error) ?_
        rintro statement second ⟨hvalue, hrest⟩
        have := statement.shorter
        dsimp only
        rw [hvalue]
        exact Agree.step (agree_readStatements (second.value :: earlier) hrest)
          (fun _ _ => .error) fun block last hblock => .ok hblock
termination_by (tokens.length, 1)

theorem agree_readChain (earlier : List (Expr × List Statement)) {tokens others : List Token}
    (h : tokens.map Token.lexeme = others.map Token.lexeme) :
    Agree Parsed.Alike (readChain earlier tokens) (readChain earlier others) := by
  unfold readChain
  refine Agree.step (agree_readCondition h) (fun _ _ => .error) ?_
  rintro condition second ⟨hcondition, hrest⟩
  have := condition.shorter
  dsimp only
  refine Agree.step (agree_readBody hrest) (fun _ _ => .error) ?_
  rintro body third ⟨hbody, hrest⟩
  have := body.shorter
  dsimp only
  rw [hcondition, hbody, startsWith_congr "else" hrest]
  split
  · refine Agree.step (agree_expect "else" hrest) (fun _ _ => .error) ?_
    rintro alternative fourth ⟨-, hrest⟩
    have := alternative.shorter
    dsimp only
    rw [startsWith_congr "if" hrest]
    split
    · refine Agree.step (agree_expect "if" hrest) (fun _ _ => .error) ?_
      rintro keyword fifth ⟨-, hrest⟩
      have := keyword.shorter
      dsimp only
      exact Agree.step (agree_readChain _ hrest) (fun _ _ => .error)
        fun chain last hchain => .ok hchain
    · refine Agree.step (agree_readBody hrest) (fun _ _ => .error) ?_
      rintro otherwise last ⟨hvalue, hlast⟩
      exact .ok ⟨by simp [hvalue], hlast⟩
  · exact .ok ⟨rfl, hrest⟩
termination_by (tokens.length, 3)

end

/-! ### Programs -/

theorem agree_skipUsing (h : tokens.map Token.lexeme = others.map Token.lexeme) :
    Agree Continued.Alike (skipUsing tokens) (skipUsing others) := by
  unfold skipUsing
  rw [startsWith_congr "using" h]
  split
  · exact agree_expectAll _ h
  · exact .ok ⟨rfl, h⟩

/-- At the end of a reading, where nothing may follow. -/
theorem agree_end {A : Type} (expected : Expectation) (value : A)
    (h : tokens.map Token.lexeme = others.map Token.lexeme) :
    Agree Eq (if tokens.isEmpty then .ok value else unexpected expected tokens)
      (if others.isEmpty then .ok value else unexpected expected others) := by
  have hempty : tokens.isEmpty = others.isEmpty := by
    simpa using congrArg List.isEmpty h
  rw [hempty]
  split
  · exact .ok rfl
  · exact agree_unexpected _ h

/-- Sequences with the same lexemes are read as the same program. -/
theorem agree_ofTokens (h : tokens.map Token.lexeme = others.map Token.lexeme) :
    Agree Eq (ofTokens tokens) (ofTokens others) := by
  unfold ofTokens
  refine Agree.step (agree_skipUsing h) (fun _ _ => .error) ?_
  rintro opening second ⟨-, hopening⟩
  dsimp only
  refine Agree.step (agree_expectAll ["int", "main", "(", ")"] hopening) (fun _ _ => .error) ?_
  rintro head third ⟨-, hhead⟩
  dsimp only
  refine Agree.step (agree_readBlock hhead) (fun _ _ => .error) ?_
  rintro body last ⟨hbody, hlast⟩
  dsimp only
  rw [hbody]
  exact agree_end _ _ hlast

variable {source other : String}

/-- Texts with tokens of the same kinds and texts write the same expression. -/
theorem Expr.agree_ofText (hsource : tokenize source = .ok tokens)
    (hother : tokenize other = .ok others)
    (h : tokens.map Token.lexeme = others.map Token.lexeme) :
    Agree Eq (Expr.ofText source) (Expr.ofText other) := by
  rw [Expr.ofText, Expr.ofText, hsource, hother]
  dsimp only
  refine Agree.step (agree_readExpr h) (fun _ _ => .error) ?_
  rintro parsed second ⟨hvalue, hrest⟩
  dsimp only
  rw [hvalue]
  exact agree_end _ _ hrest

/-- Texts with tokens of the same kinds and texts write the same program. -/
theorem agree_ofText (hsource : tokenize source = .ok tokens)
    (hother : tokenize other = .ok others)
    (h : tokens.map Token.lexeme = others.map Token.lexeme) :
    Agree Eq (ofText source) (ofText other) := by
  rw [ofText, ofText, hsource, hother]
  exact agree_ofTokens h

theorem interpret_of_agree (h : Agree Eq (ofText source) (ofText other)) (limit : Int)
    (output : String) :
    interpret source limit = .ok output ↔ interpret other limit = .ok output := by
  rw [interpret, interpret]
  refine Agree.step h (by simp) ?_
  rintro statements _ rfl
  exact Iff.rfl

theorem evaluate_of_agree (h : Agree Eq (Expr.ofText source) (Expr.ofText other))
    (row col height width value : Int) :
    evaluate source row col height width = .ok value ↔
      evaluate other row col height width = .ok value := by
  rw [evaluate, evaluate]
  refine Agree.step h (by simp) ?_
  rintro expr _ rfl
  exact Iff.rfl

end GridRules.Program
