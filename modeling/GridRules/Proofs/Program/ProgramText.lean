import GridRules.Proofs.Program.ExprText
import GridRules.Proofs.Program.Reading

/-!
# Program texts

What the readers of statements accept is derived by the grammar, with the tree that they find. So a
text is a program exactly if the grammar derives its lexemes and its numbers are short.
-/

namespace GridRules.Program

/-- All tokens have the kinds that their texts have in program text. -/
def AllProper (tokens : List Token) : Prop :=
  ∀ token ∈ tokens, token.lexeme.IsProper

/-! ### Fixed tokens, names and expressions -/

theorem takes_of_expectAll (ws : List Lexeme) (hws : ∀ w ∈ ws, w.IsReserved) {tokens : List Token}
    {taken : Continued Unit tokens} (h : expectAll (ws.map Lexeme.text) tokens = .ok taken)
    (hproper : AllProper tokens) : Takes tokens ws taken.rest := by
  induction ws generalizing tokens with
  | nil =>
      obtain rfl := Except.ok.inj h
      exact .refl tokens
  | cons w ws ih =>
      rw [List.map_cons, expectAll] at h
      split at h
      · cases h
      rename_i first hfirst
      split at h
      · cases h
      rename_i others hothers
      obtain rfl := Except.ok.inj h
      have hw := takes_of_expect (hws w (by simp)) hfirst hproper
      exact hw.trans (ih (fun v hv => hws v (by simp [hv])) hothers (hw.isProper hproper))

theorem takes_of_expectName {tokens : List Token} {parsed : Parsed String tokens}
    (h : expectName tokens = .ok parsed) : Takes tokens [word parsed.value] parsed.rest := by
  cases tokens with
  | nil => cases h
  | cons token rest =>
      rw [expectName] at h
      split at h
      · next hkind =>
          obtain rfl := Except.ok.inj h
          exact .one (by rw [Token.lexeme, hkind, word]) (by simp [Lexeme.IsShort, word]) rest
      · cases h

/-- A reader of an optional part takes it or nothing. -/
theorem exists_optional {read : (tokens : List Token) → Except SyntaxFault (Continued Unit tokens)}
    (w : Lexeme) (ws : List Lexeme) (hws : ∀ v ∈ w :: ws, v.IsReserved)
    (hread : ∀ tokens, read tokens = if startsWith w.text tokens then
      expectAll ((w :: ws).map Lexeme.text) tokens else .ok ⟨(), tokens, le_rfl⟩)
    {tokens : List Token} {taken : Continued Unit tokens} (h : read tokens = .ok taken)
    (hproper : AllProper tokens) :
    ∃ us, Takes tokens us taken.rest ∧ IsOptional (w :: ws) us := by
  rw [hread] at h
  split at h
  · exact ⟨w :: ws, takes_of_expectAll _ hws h hproper, .present⟩
  · obtain rfl := Except.ok.inj h
    exact ⟨[], .refl tokens, .absent⟩

theorem derives_of_readExprThen {w : Lexeme} (hw : w.IsReserved) {tokens : List Token}
    {parsed : Parsed Expr tokens} (h : readExprThen w.text tokens = .ok parsed)
    (hproper : AllProper tokens) :
    ∃ ws, Takes tokens (ws ++ [w]) parsed.rest ∧ Derives 1 ws parsed.value := by
  rw [readExprThen, readExpr] at h
  split at h
  · cases h
  rename_i e he
  split at h
  · cases h
  rename_i closing hclosing
  obtain rfl := Except.ok.inj h
  obtain ⟨ws, htakes, hderives⟩ := derives_of_readLevel he (by omega) hproper
  exact ⟨ws, htakes.trans (takes_of_expect hw hclosing (htakes.isProper hproper)), hderives⟩

theorem derives_of_readCondition {tokens : List Token} {parsed : Parsed Expr tokens}
    (h : readCondition tokens = .ok parsed) (hproper : AllProper tokens) :
    ∃ ws, Takes tokens (parenthesized ws) parsed.rest ∧ Derives 1 ws parsed.value := by
  rw [readCondition] at h
  split at h
  · cases h
  rename_i opening hopening
  split at h
  · cases h
  rename_i condition hcondition
  obtain rfl := Except.ok.inj h
  have hfirst := takes_of_expect (w := symbol "(") (by decide) hopening hproper
  obtain ⟨ws, htakes, hderives⟩ := derives_of_readExprThen (w := symbol ")") (by decide)
    hcondition (hfirst.isProper hproper)
  exact ⟨ws, hfirst.trans htakes, hderives⟩

theorem derives_of_readBinding {tokens : List Token} {parsed : Parsed (String × Expr) tokens}
    (h : readBinding tokens = .ok parsed) (hproper : AllProper tokens) :
    ∃ ws, Takes tokens (binding parsed.value.1 ws) parsed.rest ∧
      Derives 1 ws parsed.value.2 := by
  rw [readBinding] at h
  split at h
  · cases h
  rename_i name hname
  split at h
  · cases h
  rename_i equals hequals
  split at h
  · cases h
  rename_i value hvalue
  obtain rfl := Except.ok.inj h
  have hname := takes_of_expectName hname
  have hproper := hname.isProper hproper
  have hequals := takes_of_expect (w := symbol "=") (by decide) hequals hproper
  obtain ⟨ws, htakes, hderives⟩ := derives_of_readExprThen (w := symbol ";") (by decide) hvalue
    (hequals.isProper hproper)
  exact ⟨ws, hname.trans (hequals.trans htakes), hderives⟩

theorem increments_of_readIncrement {tokens : List Token} {parsed : Parsed String tokens}
    (h : readIncrement tokens = .ok parsed) (hproper : AllProper tokens) :
    ∃ ws, Takes tokens ws parsed.rest ∧ Increments parsed.value ws := by
  rw [readIncrement] at h
  split at h
  · split at h
    · cases h
    rename_i operator hoperator
    split at h
    · cases h
    rename_i name hname
    obtain rfl := Except.ok.inj h
    have hoperator := takes_of_expect (w := symbol "++") (by decide) hoperator hproper
    exact ⟨_, hoperator.trans (takes_of_expectName hname), .before⟩
  · split at h
    · cases h
    rename_i name hname
    split at h
    · cases h
    rename_i operator hoperator
    obtain rfl := Except.ok.inj h
    have hname := takes_of_expectName hname
    have hoperator := takes_of_expect (w := symbol "++") (by decide) hoperator
      (hname.isProper hproper)
    exact ⟨_, hname.trans hoperator, .behind⟩

theorem derives_of_readLoopHead {tokens : List Token} {head : Continued LoopHead tokens}
    (h : readLoopHead tokens = .ok head) (hproper : AllProper tokens) :
    ∃ ws vs us, Takes tokens (loopHead head.value.counter ws vs us) head.rest ∧
      Derives 1 ws head.value.start ∧ Derives 1 vs head.value.condition ∧
      Increments head.value.counter us := by
  rw [readLoopHead] at h
  split at h
  · cases h
  rename_i opening hopening
  split at h
  · cases h
  rename_i start hstart
  split at h
  · cases h
  rename_i condition hcondition
  split at h
  · cases h
  rename_i increment hincrement
  split at h
  · rename_i hcounter
    split at h
    · cases h
    rename_i closing hclosing
    obtain rfl := Except.ok.inj h
    have hopening := takes_of_expectAll [symbol "(", word "int"] (by decide) hopening hproper
    have hproper := hopening.isProper hproper
    obtain ⟨ws, hws, hstart⟩ := derives_of_readBinding hstart hproper
    have hproper := hws.isProper hproper
    obtain ⟨vs, hvs, hcondition⟩ := derives_of_readExprThen (w := symbol ";") (by decide)
      hcondition hproper
    have hproper := hvs.isProper hproper
    obtain ⟨us, hus, hincrement⟩ := increments_of_readIncrement hincrement hproper
    have hclosing := takes_of_expect (w := symbol ")") (by decide) hclosing
      (hus.isProper hproper)
    exact ⟨ws, vs, us, hopening.trans (hws.trans (hvs.trans (hus.trans hclosing))), hstart,
      hcondition, hcounter ▸ hincrement⟩
  · cases h

/-! ### Print statements -/

theorem isGlyph_of_decodeLiteral {text : String} (hproper : Lexeme.IsProper ⟨.character, text⟩)
    {glyph : Char} (h : decodeLiteral text = .ok glyph) : IsGlyph [⟨.character, text⟩] glyph := by
  obtain ⟨c, htext | ⟨htext, hc⟩⟩ := hproper.literal rfl
  · rw [decodeLiteral_escaped htext] at h
    split at h
    · rename_i found hfound
      obtain rfl := Except.ok.inj h
      exact .escaped htext (unescape?_eq_some_iff.1 hfound)
    · cases h
  · rw [decodeLiteral_plain htext hc] at h
    obtain rfl := Except.ok.inj h
    exact .plain htext hc

theorem isGlyph_of_readGlyph {tokens : List Token} {parsed : Parsed Char tokens}
    (h : readGlyph tokens = .ok parsed) (hproper : AllProper tokens) :
    ∃ ws, Takes tokens ws parsed.rest ∧ IsGlyph ws parsed.value := by
  cases tokens with
  | nil => cases h
  | cons token rest =>
      rw [readGlyph] at h
      split at h
      · rename_i hkind
        split at h
        · cases h
        rename_i glyph hglyph
        obtain rfl := Except.ok.inj h
        have htoken : token.lexeme = ⟨.character, token.text⟩ := by rw [Token.lexeme, hkind]
        have hliteral := isGlyph_of_decodeLiteral (htoken ▸ hproper token (by simp)) hglyph
        exact ⟨_, .one htoken (by simp [Lexeme.IsShort]) rest, hliteral⟩
      · split at h
        · cases h
        rename_i qualified hqualified
        split at h
        · cases h
        rename_i stream hstream
        obtain rfl := Except.ok.inj h
        obtain ⟨qs, hqs, hoptional⟩ := exists_optional (word "std") [symbol "::"] (by decide)
          (fun _ => rfl) hqualified hproper
        have hstream := takes_of_expect (w := word "endl") (by decide) hstream
          (hqs.isProper hproper)
        exact ⟨_, hqs.trans hstream, .endLine hoptional⟩

theorem insertions_of_readGlyphs {earlier : List Char} {tokens : List Token}
    {taken : Continued (List Char) tokens} (h : readGlyphs earlier tokens = .ok taken)
    (hproper : AllProper tokens) :
    ∃ ws glyphs, Takes tokens ws taken.rest ∧ Insertions ws glyphs ∧
      taken.value = earlier.reverse ++ glyphs := by
  fun_induction readGlyphs earlier tokens with
  | case1 earlier =>
      obtain rfl := Except.ok.inj h
      exact ⟨[], [], .refl _, .nil, by simp⟩
  | case2 => cases h
  | case3 => cases h
  | case4 earlier token rest htext glyph hglyph _ others hothers ih =>
      obtain rfl := Except.ok.inj h
      have hoperator : Takes (token :: rest) [symbol "<<"] rest :=
        .reserved (by decide) (hproper token (by simp)) htext rest
      have hproper := hoperator.isProper hproper
      obtain ⟨ws, hws, hfirst⟩ := isGlyph_of_readGlyph hglyph hproper
      obtain ⟨vs, glyphs, hvs, hrest, hvalue⟩ := ih hothers (hws.isProper hproper)
      refine ⟨_, glyph.value :: glyphs, hoperator.trans (hws.trans hvs), .cons hfirst hrest, ?_⟩
      rw [hvalue]
      simp
  | case5 earlier token rest =>
      obtain rfl := Except.ok.inj h
      exact ⟨[], [], .refl _, .nil, by simp⟩

theorem forms_of_readPrint {tokens : List Token} {parsed : Parsed Statement tokens}
    (h : readPrint tokens = .ok parsed) (hproper : AllProper tokens) :
    ∃ ws, Takes tokens ws parsed.rest ∧ Forms (.statement false parsed.value) ws := by
  rw [readPrint] at h
  split at h
  · cases h
  rename_i qualified hqualified
  split at h
  · cases h
  rename_i stream hstream
  split at h
  · cases h
  rename_i glyphs hglyphs
  split at h
  · cases h
  rename_i hne
  split at h
  · cases h
  rename_i closing hclosing
  obtain rfl := Except.ok.inj h
  obtain ⟨qs, hqs, hoptional⟩ := exists_optional (word "std") [symbol "::"] (by decide)
    (fun _ => rfl) hqualified hproper
  have hproper := hqs.isProper hproper
  have hstream := takes_of_expect (w := word "cout") (by decide) hstream hproper
  have hproper := hstream.isProper hproper
  obtain ⟨ws, shown, hws, hinsertions, hvalue⟩ := insertions_of_readGlyphs hglyphs hproper
  have hclosing := takes_of_expect (w := symbol ";") (by decide) hclosing (hws.isProper hproper)
  obtain rfl : glyphs.value = shown := by simpa using hvalue
  exact ⟨_, hqs.trans (hstream.trans (hws.trans hclosing)),
    .print hoptional hinsertions (by simpa using hne)⟩

/-! ### Statements -/

/-- A phrase stands in front of the tokens that follow it, and no alternative of it follows. -/
def Finds (tokens rest : List Token) (phrase : Bool → Phrase) : Prop :=
  ∃ isOpen ws, Takes tokens ws rest ∧ Forms (phrase isOpen) ws ∧ EndsBefore isOpen rest

/-- A phrase that leaves nothing open may be followed by anything. -/
theorem finds_of_closed {tokens rest : List Token} {phrase : Bool → Phrase} {ws : List Lexeme}
    (htakes : Takes tokens ws rest) (hforms : Forms (phrase false) ws) :
    Finds tokens rest phrase :=
  ⟨false, ws, htakes, hforms, by simp [EndsBefore]⟩

/-- A phrase in front of an alternative leaves nothing open. -/
theorem Finds.closed {tokens rest : List Token} {phrase : Bool → Phrase}
    (h : Finds tokens rest phrase) (hstart : startsWith "else" rest = true) :
    ∃ ws, Takes tokens ws rest ∧ Forms (phrase false) ws := by
  obtain ⟨isOpen, ws, htakes, hforms, hends⟩ := h
  cases isOpen with
  | false => exact ⟨ws, htakes, hforms⟩
  | true => exact absurd hstart (by simp [hends rfl])

theorem head?_ne_of_startsWith {tokens rest : List Token} {ws : List Lexeme} {text : String}
    (h : Takes tokens ws rest) (hstart : startsWith text tokens = false) :
    ws.head? ≠ some (word text) := by
  cases ws with
  | nil => simp
  | cons w ws =>
      obtain ⟨token, more, rfl, htoken, -⟩ := h.cons_inv
      have htext : token.text ≠ text := by simpa [startsWith_cons] using hstart
      intro heq
      obtain rfl := Option.some.inj heq
      exact htext (text_of_lexeme htoken)

section Keyword

variable {token : Token} {rest : List Token} (hproper : AllProper (token :: rest))

include hproper

theorem takes_keyword {text : String} (htext : token.text = text) (hmem : text ∈ keywords) :
    Takes (token :: rest) [word text] rest :=
  .reserved (.inr ⟨rfl, hmem⟩) (hproper token (by simp)) htext rest

theorem finds_declare (htext : token.text = "int") {declared : Parsed (String × Expr) rest}
    (h : readBinding rest = .ok declared) :
    Finds (token :: rest) declared.rest
      (.statement · (.declare declared.value.1 declared.value.2)) := by
  have hkeyword := takes_keyword hproper htext (by decide)
  obtain ⟨ws, hws, hderives⟩ := derives_of_readBinding h (hkeyword.isProper hproper)
  exact finds_of_closed (hkeyword.trans hws) (.declare hderives)

theorem finds_exit (htext : token.text = "return") {status : Parsed Expr rest}
    (h : readExprThen ";" rest = .ok status) :
    Finds (token :: rest) status.rest (.statement · (.exit status.value)) := by
  have hkeyword := takes_keyword hproper htext (by decide)
  obtain ⟨ws, hws, hderives⟩ := derives_of_readExprThen (w := symbol ";") (by decide) h
    (hkeyword.isProper hproper)
  exact finds_of_closed (hkeyword.trans hws) (.exit hderives)

/-- A loop leaves open what its body leaves open. -/
theorem finds_loop (htext : token.text = "for") {head : Continued LoopHead rest}
    (h : readLoopHead rest = .ok head) {after : List Token} {body : List Statement}
    (hbody : AllProper head.rest → Finds head.rest after (.body · body)) :
    Finds (token :: rest) after
      (.statement · (.loop head.value.counter head.value.start head.value.condition body)) := by
  have hkeyword := takes_keyword hproper htext (by decide)
  have hproper := hkeyword.isProper hproper
  obtain ⟨ws, vs, us, htakes, hstart, hcondition, hincrement⟩ := derives_of_readLoopHead h hproper
  obtain ⟨isOpen, bs, hbs, hforms, hends⟩ := hbody (htakes.isProper hproper)
  exact ⟨isOpen, _, hkeyword.trans (htakes.trans hbs),
    .loop hstart hcondition hincrement hforms, hends⟩

theorem finds_choose (htext : token.text = "if") {after : List Token}
    {branches : List (Expr × List Statement)} {otherwise : List Statement}
    (h : AllProper rest → Finds rest after (.chain · branches otherwise)) :
    Finds (token :: rest) after (.statement · (.choose branches otherwise)) := by
  have hkeyword := takes_keyword hproper htext (by decide)
  obtain ⟨isOpen, ws, hws, hforms, hends⟩ := h (hkeyword.isProper hproper)
  exact ⟨isOpen, _, hkeyword.trans hws, .choose hforms, hends⟩

end Keyword

section Chain

variable {tokens first second third rest : List Token} {ws bs : List Lexeme} {condition : Expr}
  {body otherwise : List Statement} {branches : List (Expr × List Statement)}
  (hcondition : Takes tokens (parenthesized ws) first) (hderives : Derives 1 ws condition)

include hcondition hderives

/-- A condition without an alternative leaves itself open. -/
theorem finds_branch (hbody : Finds first rest (.body · body))
    (helse : startsWith "else" rest = false) :
    Finds tokens rest (.chain · [(condition, body)] []) := by
  obtain ⟨isOpen, bs, hbs, hforms, -⟩ := hbody
  exact ⟨true, _, hcondition.trans hbs, .branch hderives hforms, fun _ => helse⟩

variable (hbody : Takes first bs second) (hforms : Forms (.body false body) bs)

include hbody hforms

theorem finds_otherwise (helse : Takes second [word "else"] third)
    (hif : startsWith "if" third = false) (hotherwise : Finds third rest (.body · otherwise)) :
    Finds tokens rest (.chain · [(condition, body)] otherwise) := by
  obtain ⟨isOpen, os, hos, hlast, hends⟩ := hotherwise
  exact ⟨isOpen, _, hcondition.trans (hbody.trans (helse.trans hos)),
    .otherwise hderives hforms hlast (head?_ne_of_startsWith hos hif), hends⟩

theorem finds_next (hkeywords : Takes second [word "else", word "if"] third)
    (hnext : Finds third rest (.chain · branches otherwise)) :
    Finds tokens rest (.chain · ((condition, body) :: branches) otherwise) := by
  obtain ⟨isOpen, cs, hcs, hothers, hends⟩ := hnext
  exact ⟨isOpen, _, hcondition.trans (hbody.trans (hkeywords.trans hcs)),
    .next hderives hforms hothers, hends⟩

end Chain

mutual

theorem finds_of_readStatement {tokens : List Token} {parsed : Parsed Statement tokens}
    (h : readStatement tokens = .ok parsed) (hproper : AllProper tokens) :
    Finds tokens parsed.rest (.statement · parsed.value) := by
  match tokens, parsed, h, hproper with
  | [], _, h, _ => rw [readStatement] at h; cases h
  | token :: rest, parsed, h, hproper =>
      rw [readStatement] at h
      split at h
      · rename_i htext
        split at h
        · cases h
        rename_i declared hdeclared
        obtain rfl := Except.ok.inj h
        exact finds_declare hproper htext hdeclared
      split at h
      · rename_i htext
        split at h
        · cases h
        rename_i head hhead
        have := head.noLonger
        split at h
        · cases h
        rename_i body hbody
        obtain rfl := Except.ok.inj h
        exact finds_loop hproper htext hhead fun hproper => finds_of_readBody hbody hproper
      split at h
      · rename_i htext
        split at h
        · cases h
        rename_i chain hchain
        obtain rfl := Except.ok.inj h
        refine finds_choose hproper htext fun hproper => ?_
        obtain ⟨branches, hbranches, hfinds⟩ := finds_of_readChain hchain hproper
        obtain rfl : chain.value.1 = branches := by simpa using hbranches
        exact hfinds
      split at h
      · obtain ⟨ws, hws, hforms⟩ := forms_of_readPrint h hproper
        exact finds_of_closed hws hforms
      split at h
      · rename_i htext
        split at h
        · cases h
        rename_i status hstatus
        obtain rfl := Except.ok.inj h
        exact finds_exit hproper htext hstatus
      · cases h
termination_by (tokens.length, 0)

theorem finds_of_readBody {tokens : List Token} {parsed : Parsed (List Statement) tokens}
    (h : readBody tokens = .ok parsed) (hproper : AllProper tokens) :
    Finds tokens parsed.rest (.body · parsed.value) := by
  rw [readBody] at h
  split at h
  · obtain ⟨ws, hws, hforms⟩ := forms_of_readBlock h hproper
    exact finds_of_closed hws (.block hforms)
  · split at h
    · cases h
    rename_i statement hstatement
    obtain rfl := Except.ok.inj h
    obtain ⟨isOpen, ws, hws, hforms, hends⟩ := finds_of_readStatement hstatement hproper
    exact ⟨isOpen, ws, hws, .single hforms, hends⟩
termination_by (tokens.length, 2)

theorem forms_of_readBlock {tokens : List Token} {parsed : Parsed (List Statement) tokens}
    (h : readBlock tokens = .ok parsed) (hproper : AllProper tokens) :
    ∃ ws, Takes tokens (braced ws) parsed.rest ∧ Forms (.statements parsed.value) ws := by
  rw [readBlock] at h
  split at h
  · cases h
  rename_i opening hopening
  have := opening.shorter
  split at h
  · cases h
  rename_i block hblock
  obtain rfl := Except.ok.inj h
  have hopening := takes_of_expect (w := symbol "\x7b") (by decide) hopening hproper
  obtain ⟨ws, statements, hws, hforms, hvalue⟩ :=
    forms_of_readStatements hblock (hopening.isProper hproper)
  obtain rfl : block.value = statements := by simpa using hvalue
  exact ⟨ws, hopening.trans hws, hforms⟩
termination_by (tokens.length, 1)

theorem forms_of_readStatements {earlier : List Statement} {tokens : List Token}
    {parsed : Parsed (List Statement) tokens} (h : readStatements earlier tokens = .ok parsed)
    (hproper : AllProper tokens) :
    ∃ ws statements, Takes tokens (ws ++ [symbol "\x7d"]) parsed.rest ∧
      Forms (.statements statements) ws ∧ parsed.value = earlier.reverse ++ statements := by
  match tokens, parsed, h, hproper with
  | [], _, h, _ => rw [readStatements] at h; cases h
  | token :: rest, parsed, h, hproper =>
      rw [readStatements] at h
      split at h
      · rename_i htext
        obtain rfl := Except.ok.inj h
        have hclosing : Takes (token :: rest) [symbol "\x7d"] rest :=
          .reserved (by decide) (hproper token (by simp)) htext rest
        exact ⟨[], [], hclosing, .nil, by simp⟩
      · split at h
        · cases h
        rename_i statement hstatement
        have := statement.shorter
        split at h
        · cases h
        rename_i others hothers
        obtain rfl := Except.ok.inj h
        obtain ⟨isOpen, ws, hws, hfirst, -⟩ := finds_of_readStatement hstatement hproper
        obtain ⟨vs, statements, hvs, hrest, hvalue⟩ :=
          forms_of_readStatements hothers (hws.isProper hproper)
        refine ⟨ws ++ vs, statement.value :: statements, ?_, .cons hfirst hrest, ?_⟩
        · rw [List.append_assoc]
          exact hws.trans hvs
        · rw [hvalue]
          simp
termination_by (tokens.length, 1)

theorem finds_of_readChain {earlier : List (Expr × List Statement)} {tokens : List Token}
    {parsed : Parsed Chain tokens} (h : readChain earlier tokens = .ok parsed)
    (hproper : AllProper tokens) :
    ∃ branches, parsed.value.1 = earlier.reverse ++ branches ∧
      Finds tokens parsed.rest (.chain · branches parsed.value.2) := by
  rw [readChain] at h
  split at h
  · cases h
  rename_i condition hcondition
  have := condition.shorter
  split at h
  · cases h
  rename_i body hbody
  have := body.shorter
  obtain ⟨ws, hws, hderives⟩ := derives_of_readCondition hcondition hproper
  have hbody := finds_of_readBody hbody (hws.isProper hproper)
  dsimp only at h
  split at h
  · rename_i hstart
    obtain ⟨bs, hbs, hforms⟩ := hbody.closed hstart
    have hproper := hbs.isProper (hws.isProper hproper)
    split at h
    · cases h
    rename_i alternative halternative
    have := alternative.shorter
    have halternative := takes_of_expect (w := word "else") (by decide) halternative hproper
    have hproper := halternative.isProper hproper
    split at h
    · split at h
      · cases h
      rename_i keyword hkeyword
      have := keyword.shorter
      split at h
      · cases h
      rename_i chain hchain
      obtain rfl := Except.ok.inj h
      have hkeyword := takes_of_expect (w := word "if") (by decide) hkeyword hproper
      obtain ⟨branches, hbranches, hnext⟩ :=
        finds_of_readChain hchain (hkeyword.isProper hproper)
      exact ⟨(condition.value, body.value) :: branches, by simp [hbranches],
        finds_next hws hderives hbs hforms (halternative.trans hkeyword) hnext⟩
    · rename_i hif
      split at h
      · cases h
      rename_i otherwise hotherwise
      obtain rfl := Except.ok.inj h
      have hotherwise := finds_of_readBody hotherwise hproper
      exact ⟨[(condition.value, body.value)], by simp,
        finds_otherwise hws hderives hbs hforms halternative (by simpa using hif) hotherwise⟩
  · rename_i helse
    obtain rfl := Except.ok.inj h
    exact ⟨[(condition.value, body.value)], by simp,
      finds_branch hws hderives hbody (by simpa using helse)⟩
termination_by (tokens.length, 3)

end

/-! ### Programs -/

theorem isProgram_of_ofTokens {tokens : List Token} {statements : List Statement}
    (h : ofTokens tokens = .ok statements) (hproper : AllProper tokens) :
    ∃ ws, Takes tokens ws [] ∧ IsProgram ws statements := by
  rw [ofTokens] at h
  split at h
  · cases h
  rename_i opening hopening
  split at h
  · cases h
  rename_i head hhead
  split at h
  · cases h
  rename_i body hbody
  split at h
  · rename_i hrest
    obtain rfl := Except.ok.inj h
    obtain ⟨us, hus, husing⟩ := exists_optional (word "using")
      [word "namespace", word "std", symbol ";"] (by decide) (fun _ => rfl) hopening hproper
    have hproper := hus.isProper hproper
    have hhead := takes_of_expectAll mainHead (by decide) hhead hproper
    obtain ⟨ws, hws, hforms⟩ := forms_of_readBlock hbody (hhead.isProper hproper)
    rw [List.isEmpty_iff.1 hrest] at hws
    exact ⟨_, hus.trans (hhead.trans hws), .intro husing hforms⟩
  · cases h

theorem allProper_of_tokenize {source : String} {tokens : List Token}
    (htokens : tokenize source = .ok tokens) : AllProper tokens := fun _ hmem =>
  (lexed_of_tokenize htokens).isProper _ (List.mem_map_of_mem hmem)

theorem isProgram_of_ofText {source : String} {tokens : List Token} {statements : List Statement}
    (htokens : tokenize source = .ok tokens) (h : ofText source = .ok statements) :
    IsProgram (tokens.map Token.lexeme) statements ∧ ∀ token ∈ tokens, token.lexeme.IsShort := by
  rw [ofText, htokens] at h
  obtain ⟨ws, ⟨⟨front, hfront, rfl⟩, hshort⟩, hprogram⟩ :=
    isProgram_of_ofTokens h (allProper_of_tokenize htokens)
  obtain rfl : tokens = front := by simpa using hfront
  exact ⟨hprogram, fun token hmem => hshort _ (List.mem_map_of_mem hmem)⟩

/-- A number in a text that is a program has not too many digits. -/
theorem lt_leastLong_of_ofText {source : String} {ws : List Lexeme} {statements : List Statement}
    {n : Nat} (hlexed : Lexed source.toList ws) (hmem : ⟨.number, n.repr⟩ ∈ ws)
    (h : ofText source = .ok statements) : n < Text.leastLong := by
  obtain ⟨tokens, htokens, rfl⟩ := tokenize_of_lexed hlexed
  have hshort := (isProgram_of_ofText htokens h).2
  exact isShort_repr.1 (List.forall_mem_map.2 hshort _ hmem)

/-- A text that splits into tokens is a program with certain statements exactly if the grammar
derives its tokens with these statements as tree, all numbers having at most the readable number of
digits. -/
theorem ofText_iff_isProgram {source : String} {tokens : List Token}
    (htokens : tokenize source = .ok tokens) (statements : List Statement) :
    ofText source = .ok statements ↔
      IsProgram (tokens.map Token.lexeme) statements ∧ ∀ token ∈ tokens, token.lexeme.IsShort := by
  constructor
  · exact isProgram_of_ofText htokens
  · rintro ⟨hprogram, hshort⟩
    rw [ofText, htokens]
    exact ofTokens_of_isProgram hprogram ⟨⟨⟨tokens, by simp, rfl⟩, List.forall_mem_map.2 hshort⟩,
      List.forall_mem_map.2 (allProper_of_tokenize htokens)⟩

/-- An alternative behind two conditions belongs to the second one. -/
theorem ofText_iff_isProgram_nested :
    ofText "int main(){if(a)if(b)return 1;else return 2;}" =
      .ok [.choose [(.var "a", [.choose [(.var "b", [.exit (.number 1)])] [.exit (.number 2)]])]
        []] := by
  have hfront : frontLexemes? 30 "int main(){if(a)if(b)return 1;else return 2;}".toList =
      some (mainHead ++ braced ([word "if"] ++ (parenthesized [word "a"] ++ ([word "if"] ++
        (parenthesized [word "b"] ++ ([word "return"] ++ ([⟨.number, "1"⟩] ++ [symbol ";"]) ++
          ([word "else"] ++ ([word "return"] ++ ([⟨.number, "2"⟩] ++ [symbol ";"])))))))), []) := by
    decide +kernel
  obtain ⟨tokens, htokens, hws⟩ := tokenize_of_lexed (lexed_of_frontLexemes? hfront)
  have ha : Derives 1 [word "a"] (.var "a") := (Derives.name "a").looser
  have hb : Derives 1 [word "b"] (.var "b") := (Derives.name "b").looser
  have hone : Derives 1 [⟨.number, "1"⟩] (.number 1) := (Derives.number "1").looser
  have htwo : Derives 1 [⟨.number, "2"⟩] (.number 2) := (Derives.number "2").looser
  have hinner := Forms.otherwise hb (.single (.exit hone)) (.single (.exit htwo)) (by decide)
  have houter := Forms.choose (.branch ha (.single (.choose hinner)))
  have hprogram := IsProgram.intro .absent houter.one
  have hshort : ∀ w ∈ tokens.map Token.lexeme, w.IsShort := by
    rw [hws]
    decide
  refine (ofText_iff_isProgram htokens _).2 ⟨?_, List.forall_mem_map.1 hshort⟩
  rw [hws]
  exact hprogram

/-- The end of the last statement of a block. -/
theorem closed_blockEnd : Closed [';', '\x7d'] [symbol ";", symbol "\x7d"] := by
  have hsemicolon : Closed [';'] [symbol ";"] := closed_of_piece? fun _ => rfl
  have hbrace : Closed ['\x7d'] [symbol "\x7d"] := closed_of_piece? fun _ => rfl
  exact hsemicolon.append hbrace

/-- A program that returns a number. -/
def returnProgram (n : Nat) : String :=
  "int main()\x7breturn" ++ " " ++ n.repr ++ ";\x7d"

theorem lexed_returnProgram (n : Nat) : Lexed (returnProgram n).toList
    (mainHead ++ braced ([word "return"] ++ ([⟨.number, n.repr⟩] ++ [symbol ";"]))) := by
  have hfront : frontLexemes? 8 "int main()\x7breturn".toList =
      some (mainHead ++ [symbol "\x7b", word "return"], []) := by decide +kernel
  have hstart := (open_of_frontLexemes? hfront (by decide +kernel)).closed_blank
    (show isEnd ' ' = true by decide) (by decide)
  have hend := (open_repr n).append_closed closed_blockEnd (by simp [Ends, isEnd]) (by simp)
  unfold returnProgram
  simpa [braced] using (hstart.append hend).lexed

theorem isProgram_returnProgram (n : Nat) : IsProgram
    (mainHead ++ braced ([word "return"] ++ ([⟨.number, n.repr⟩] ++ [symbol ";"])))
    [.exit (.number n)] :=
  .intro .absent (Forms.exit (derives_repr n).looser).one

/-- A number with one digit too many may stand in a derived program, which is refused. -/
theorem ofText_returnProgram_refused :
    ∃ tokens, tokenize (returnProgram Text.leastLong) = .ok tokens ∧
      (∃ statements, IsProgram (tokens.map Token.lexeme) statements) ∧
      ∀ statements, ofText (returnProgram Text.leastLong) ≠ .ok statements := by
  obtain ⟨tokens, htokens, hws⟩ := tokenize_of_lexed (lexed_returnProgram Text.leastLong)
  refine ⟨tokens, htokens, ⟨_, hws ▸ isProgram_returnProgram Text.leastLong⟩, ?_⟩
  intro statements h
  have hlt : Text.leastLong < Text.leastLong :=
    lt_leastLong_of_ofText (lexed_returnProgram _) (by simp [braced]) h
  exact lt_irrefl _ hlt

end GridRules.Program
