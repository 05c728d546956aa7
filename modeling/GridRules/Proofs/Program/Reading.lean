import GridRules.Proofs.Program.StatementGrammar

/-!
# Reading what is written

Each reader of statements takes the lexemes of its statement off the front of the tokens, whatever
follows them. Sequences of statements are read part by part.
-/

namespace GridRules.Program

/-- The tokens begin with the given lexemes as they occur in texts, and go on with the rest. -/
def Begins (tokens : List Token) (ws : List Lexeme) (rest : List Token) : Prop :=
  Takes tokens ws rest ∧ ∀ w ∈ ws, w.IsProper

theorem Begins.split {tokens rest : List Token} {ws vs : List Lexeme}
    (h : Begins tokens (ws ++ vs) rest) :
    ∃ middle, Begins tokens ws middle ∧ Begins middle vs rest := by
  obtain ⟨htakes, hproper⟩ := h
  obtain ⟨middle, hws, hvs⟩ := htakes.split
  exact ⟨middle, ⟨hws, fun w hw => hproper w (by simp [hw])⟩,
    ⟨hvs, fun w hw => hproper w (by simp [hw])⟩⟩

theorem Begins.cons_inv {tokens rest : List Token} {w : Lexeme} {ws : List Lexeme}
    (h : Begins tokens (w :: ws) rest) :
    ∃ token middle, tokens = token :: middle ∧ token.lexeme = w ∧ Begins middle ws rest := by
  obtain ⟨htakes, hproper⟩ := h
  obtain ⟨token, middle, htokens, htoken, hws⟩ := htakes.cons_inv
  exact ⟨token, middle, htokens, htoken, hws, fun w hw => hproper w (by simp [hw])⟩

theorem Begins.nil_inv {tokens rest : List Token} (h : Begins tokens [] rest) : tokens = rest :=
  h.1.nil_inv

/-- A reader takes the lexemes off the front of any tokens and finds the value. -/
def Reads {α : Type} (read : (tokens : List Token) → Except SyntaxFault (Parsed α tokens))
    (ws : List Lexeme) (value : α) : Prop :=
  ∀ tokens rest, Begins tokens ws rest → (read tokens).map Parsed.front = .ok (value, rest)

/-- A reader of a possibly empty part takes the lexemes off the front of any tokens. -/
def ReadsOn {α : Type} (read : (tokens : List Token) → Except SyntaxFault (Continued α tokens))
    (ws : List Lexeme) (value : α) : Prop :=
  ∀ tokens rest, Begins tokens ws rest → (read tokens).map Continued.front = .ok (value, rest)

theorem Continued.of_map_front {α : Type} {tokens rest : List Token} {value : α}
    {result : Except SyntaxFault (Continued α tokens)}
    (h : result.map Continued.front = .ok (value, rest)) :
    ∃ noLonger, result = .ok ⟨value, rest, noLonger⟩ := by
  cases result with
  | error fault => cases h
  | ok continued =>
      obtain ⟨rfl, rfl⟩ := Prod.mk.inj (Except.ok.inj h)
      exact ⟨continued.noLonger, rfl⟩

/-! ### Fixed tokens and names -/

theorem reads_expect (text : String) {w : Lexeme} (h : w.text = text) :
    Reads (expect text) [w] () := by
  intro tokens rest hbegins
  obtain ⟨token, middle, rfl, htoken, hmiddle⟩ := hbegins.cons_inv
  obtain rfl := hmiddle.nil_inv
  rw [expect, if_pos ((text_of_lexeme htoken).trans h)]
  rfl

theorem readsOn_expectAll {ws : List Lexeme} (texts : List String)
    (h : ws.map Lexeme.text = texts) : ReadsOn (expectAll texts) ws () := by
  subst h
  induction ws with
  | nil =>
      intro tokens rest h
      obtain rfl := h.nil_inv
      rfl
  | cons w ws ih =>
      intro tokens rest h
      obtain ⟨middle, hw, hws⟩ := (show Begins tokens ([w] ++ ws) rest from h).split
      obtain ⟨_, hfirst⟩ := Parsed.of_map_front (reads_expect w.text rfl _ _ hw)
      obtain ⟨_, hothers⟩ := Continued.of_map_front (ih middle rest hws)
      rw [List.map_cons, expectAll, hfirst]
      dsimp only
      rw [hothers]
      rfl

theorem reads_expectName (name : String) : Reads expectName [word name] name := by
  intro tokens rest h
  obtain ⟨token, middle, rfl, htoken, hmiddle⟩ := h.cons_inv
  obtain rfl := hmiddle.nil_inv
  obtain rfl : token.text = name := text_of_lexeme htoken
  rw [expectName, if_pos (show token.kind = .name from kind_of_lexeme htoken)]
  rfl

theorem startsWith_cons (text : String) (token : Token) (rest : List Token) :
    startsWith text (token :: rest) = (token.text == text) :=
  rfl

theorem Begins.startsWith {tokens rest : List Token} {w : Lexeme} {ws : List Lexeme}
    (h : Begins tokens (w :: ws) rest) (text : String) :
    startsWith text tokens = (w.text == text) := by
  obtain ⟨token, _, rfl, htoken, -⟩ := h.cons_inv
  rw [startsWith_cons, text_of_lexeme htoken]

/-- A reader of an optional part takes it if it is there. -/
theorem readsOn_optional (read : (tokens : List Token) → Except SyntaxFault (Continued Unit tokens))
    (w : Lexeme) {ws us : List Lexeme}
    (hread : ∀ tokens, read tokens = if startsWith w.text tokens then
      expectAll ((w :: ws).map Lexeme.text) tokens else .ok ⟨(), tokens, le_rfl⟩)
    (h : IsOptional (w :: ws) us) {tokens rest : List Token} (hbegins : Begins tokens us rest)
    (hrest : startsWith w.text rest = false) :
    (read tokens).map Continued.front = .ok ((), rest) := by
  rw [hread]
  cases h with
  | absent =>
      obtain rfl := hbegins.nil_inv
      rw [if_neg (by simp [hrest])]
      rfl
  | present =>
      rw [if_pos (by simp [hbegins.startsWith])]
      exact readsOn_expectAll _ rfl _ _ hbegins

/-! ### Expressions -/

theorem reads_readExprThen {ws : List Lexeme} {e : Expr} (h : Derives 1 ws e) {closing : String}
    (hclosing : closing ∈ [")", ";"]) :
    Reads (readExprThen closing) (ws ++ [symbol closing]) e := by
  intro tokens rest hbegins
  obtain ⟨middle, hws, hlast⟩ := hbegins.split
  have hexpect := reads_expect closing rfl middle rest hlast
  obtain ⟨token, after, rfl, htoken, -⟩ := hlast.cons_inv
  have htext : token.text = closing := text_of_lexeme htoken
  have hstop := stopsAbove_of_closing (htext.symm ▸ hclosing) 0 after
  obtain ⟨_, hexpr⟩ := Parsed.of_map_front
    ((readsAs_of_derives h).stops hws.1 hws.2 (by omega : 0 < 1) hstop)
  obtain ⟨_, hexpect⟩ := Parsed.of_map_front hexpect
  rw [readExprThen, readExpr, hexpr]
  dsimp only
  rw [hexpect]
  rfl

theorem reads_readCondition {ws : List Lexeme} {e : Expr} (h : Derives 1 ws e) :
    Reads readCondition (parenthesized ws) e := by
  intro tokens rest hbegins
  obtain ⟨middle, hopening, hws⟩ := hbegins.split
  obtain ⟨_, hopening⟩ := Parsed.of_map_front (reads_expect "(" rfl _ _ hopening)
  obtain ⟨_, hcondition⟩ := Parsed.of_map_front (reads_readExprThen h (by decide) _ _ hws)
  rw [readCondition, hopening]
  dsimp only
  rw [hcondition]
  rfl

theorem reads_readBinding (name : String) {ws : List Lexeme} {e : Expr} (h : Derives 1 ws e) :
    Reads readBinding (binding name ws) (name, e) := by
  intro tokens rest hbegins
  obtain ⟨middle, hname, hbegins⟩ := hbegins.split
  obtain ⟨after, hequals, hws⟩ := hbegins.split
  obtain ⟨_, hname⟩ := Parsed.of_map_front (reads_expectName name _ _ hname)
  obtain ⟨_, hequals⟩ := Parsed.of_map_front (reads_expect "=" rfl _ _ hequals)
  obtain ⟨_, hvalue⟩ := Parsed.of_map_front (reads_readExprThen h (by decide) _ _ hws)
  rw [readBinding, hname]
  dsimp only
  rw [hequals]
  dsimp only
  rw [hvalue]
  rfl

/-- A counter is incremented by an operator before or behind its name, which is no operator. -/
theorem reads_readIncrement {counter : String} {ws : List Lexeme} (h : Increments counter ws) :
    Reads readIncrement ws counter := by
  intro tokens rest hbegins
  cases h with
  | behind =>
      obtain ⟨middle, hname, hoperator⟩ := hbegins.split
      have hproper : (word counter).IsProper := hname.2 _ (by simp)
      have hne : counter ≠ "++" := by
        rintro rfl
        exact absurd (hproper.operator.2 (by decide)) (by decide)
      have hstart : startsWith "++" tokens = false := by
        rw [hname.startsWith]
        simpa [word] using hne
      obtain ⟨_, hname⟩ := Parsed.of_map_front (reads_expectName counter _ _ hname)
      obtain ⟨_, hoperator⟩ := Parsed.of_map_front (reads_expect "++" rfl _ _ hoperator)
      rw [readIncrement, if_neg (by simp [hstart]), hname]
      dsimp only
      rw [hoperator]
      rfl
  | before =>
      obtain ⟨middle, hoperator, hname⟩ := hbegins.split
      have hstart : startsWith "++" tokens = true := by
        rw [hoperator.startsWith]
        rfl
      obtain ⟨_, hname⟩ := Parsed.of_map_front (reads_expectName counter _ _ hname)
      obtain ⟨_, hoperator⟩ := Parsed.of_map_front (reads_expect "++" rfl _ _ hoperator)
      rw [readIncrement, if_pos hstart, hoperator]
      dsimp only
      rw [hname]
      rfl

theorem readsOn_readLoopHead {counter : String} {ws vs us : List Lexeme} {start condition : Expr}
    (hstart : Derives 1 ws start) (hcondition : Derives 1 vs condition)
    (hincrement : Increments counter us) :
    ReadsOn readLoopHead (loopHead counter ws vs us) ⟨counter, start, condition⟩ := by
  intro tokens rest hbegins
  obtain ⟨first, hopening, hbegins⟩ := hbegins.split
  obtain ⟨second, hbinding, hbegins⟩ := hbegins.split
  obtain ⟨third, hvs, hbegins⟩ := hbegins.split
  obtain ⟨fourth, hus, hclosing⟩ := hbegins.split
  obtain ⟨_, hopening⟩ := Continued.of_map_front
    (readsOn_expectAll ["(", "int"] rfl _ _ hopening)
  obtain ⟨_, hbinding⟩ := Parsed.of_map_front (reads_readBinding counter hstart _ _ hbinding)
  obtain ⟨_, hvs⟩ := Parsed.of_map_front (reads_readExprThen hcondition (by decide) _ _ hvs)
  obtain ⟨_, hus⟩ := Parsed.of_map_front (reads_readIncrement hincrement _ _ hus)
  obtain ⟨_, hclosing⟩ := Parsed.of_map_front (reads_expect ")" rfl _ _ hclosing)
  rw [readLoopHead, hopening]
  dsimp only
  rw [hbinding]
  dsimp only
  rw [hvs]
  dsimp only
  rw [hus]
  dsimp only
  rw [if_pos rfl, hclosing]
  rfl

/-! ### Print statements -/

theorem unescape?_eq_some_iff {c glyph : Char} :
    unescape? c = some glyph ↔ (c, glyph) ∈ letters := by
  unfold unescape?
  split <;> simp_all [letters, eq_comm]

theorem decodeLiteral_plain {text : String} {c : Char} (htext : text.toList = ['\'', c, '\''])
    (hc : c ≠ '\\') : decodeLiteral text = .ok c := by
  rw [decodeLiteral, htext]
  split <;> simp_all

theorem decodeLiteral_escaped {text : String} {c : Char}
    (htext : text.toList = ['\'', '\\', c, '\'']) :
    decodeLiteral text =
      match unescape? c with
      | some glyph => .ok glyph
      | none => .error (.unsupportedEscape text) := by
  rw [decodeLiteral, htext]
  rfl

/-- A character literal is read as the character that it is decoded as. -/
theorem reads_readGlyph_literal {text : String} {glyph : Char}
    (h : decodeLiteral text = .ok glyph) : Reads readGlyph [⟨.character, text⟩] glyph := by
  intro tokens rest hbegins
  obtain ⟨token, middle, rfl, htoken, hmiddle⟩ := hbegins.cons_inv
  obtain rfl := hmiddle.nil_inv
  obtain rfl : token.text = text := text_of_lexeme htoken
  rw [readGlyph, if_pos (show token.kind = .character from kind_of_lexeme htoken), h]
  rfl

theorem reads_readGlyph {ws : List Lexeme} {glyph : Char} (h : IsGlyph ws glyph) :
    Reads readGlyph ws glyph := by
  cases h with
  | plain htext hc => exact reads_readGlyph_literal (decodeLiteral_plain htext hc)
  | escaped htext hc =>
      refine reads_readGlyph_literal ?_
      rw [decodeLiteral_escaped htext, unescape?_eq_some_iff.2 hc]
  | endLine hqualifier =>
      intro tokens rest hbegins
      obtain ⟨middle, hqs, hendl⟩ := hbegins.split
      have hskip := readsOn_optional skipQualifier (word "std") (fun _ => rfl)
        hqualifier hqs (hendl.startsWith _)
      obtain ⟨_, hskip⟩ := Continued.of_map_front hskip
      obtain ⟨_, hendl⟩ := Parsed.of_map_front (reads_expect "endl" rfl _ _ hendl)
      obtain ⟨token, more, rfl, hkind⟩ :
          ∃ token more, tokens = token :: more ∧ token.kind = .name := by
        cases hqualifier with
        | absent =>
            obtain ⟨token, more, htokens, htoken, -⟩ := hbegins.cons_inv
            exact ⟨token, more, htokens, kind_of_lexeme htoken⟩
        | present =>
            obtain ⟨token, more, htokens, htoken, -⟩ := hbegins.cons_inv
            exact ⟨token, more, htokens, kind_of_lexeme htoken⟩
      rw [readGlyph, if_neg (by simp [hkind]), hskip]
      dsimp only
      rw [hendl]
      rfl

/-- The glyphs of a print statement are read up to what is no insertion operator. -/
theorem readGlyphs_of_insertions {ws : List Lexeme} {glyphs : List Char}
    (h : Insertions ws glyphs) (earlier : List Char) {tokens rest : List Token}
    (hbegins : Begins tokens ws rest) (hstop : startsWith "<<" rest = false) :
    (readGlyphs earlier tokens).map Continued.front = .ok (earlier.reverse ++ glyphs, rest) := by
  induction h generalizing earlier tokens with
  | nil =>
      obtain rfl := hbegins.nil_inv
      cases tokens with
      | nil => simp [readGlyphs, Except.map, Continued.front]
      | cons token rest =>
          have htext : token.text ≠ "<<" := by simpa [startsWith_cons] using hstop
          simp [readGlyphs, htext, Except.map, Continued.front]
  | @cons ws vs glyph glyphs hglyph _ ih =>
      obtain ⟨middle, hoperator, hbegins⟩ := hbegins.split
      obtain ⟨after, hws, hothers⟩ := hbegins.split
      obtain ⟨token, tokens, rfl, htoken, hafter⟩ := hoperator.cons_inv
      obtain rfl := hafter.nil_inv
      obtain ⟨_, hws⟩ := Parsed.of_map_front (reads_readGlyph hglyph _ _ hws)
      obtain ⟨_, hothers⟩ := Continued.of_map_front (ih (glyph :: earlier) hothers)
      rw [readGlyphs, if_pos (show token.text = "<<" from text_of_lexeme htoken), hws]
      dsimp only
      rw [hothers]
      simp [Except.map, Continued.front]

/-- A print statement of at least one glyph. -/
theorem reads_readPrint {qs ws : List Lexeme} {glyphs : List Char} (hqs : IsOptional qualifier qs)
    (h : Insertions ws glyphs) (hne : glyphs ≠ []) :
    Reads readPrint (qs ++ ([word "cout"] ++ (ws ++ [symbol ";"]))) (.print glyphs) := by
  intro tokens rest hbegins
  obtain ⟨first, hqualifier, hbegins⟩ := hbegins.split
  obtain ⟨second, hstream, hbegins⟩ := hbegins.split
  obtain ⟨third, hglyphs, hclosing⟩ := hbegins.split
  have hskip := readsOn_optional skipQualifier (word "std") (fun _ => rfl)
    hqs hqualifier (hstream.startsWith _)
  have hread := readGlyphs_of_insertions h [] hglyphs (hclosing.startsWith _)
  obtain ⟨_, hskip⟩ := Continued.of_map_front hskip
  obtain ⟨_, hstream⟩ := Parsed.of_map_front (reads_expect "cout" rfl _ _ hstream)
  obtain ⟨_, hread⟩ := Continued.of_map_front hread
  obtain ⟨_, hclosing⟩ := Parsed.of_map_front (reads_expect ";" rfl _ _ hclosing)
  rw [readPrint, hskip]
  dsimp only
  rw [hstream]
  dsimp only
  rw [hread]
  dsimp only
  rw [if_neg (by simpa using hne), hclosing]
  rfl

/-! ### Simple statements -/

/-- A statement begins with its keyword. -/
theorem Begins.keyword {tokens rest : List Token} {text : String} {ws : List Lexeme}
    (h : Begins tokens ([word text] ++ ws) rest) :
    ∃ token more, tokens = token :: more ∧ token.text = text ∧ Begins more ws rest := by
  obtain ⟨token, more, rfl, htoken, hmore⟩ := h.cons_inv
  exact ⟨token, more, rfl, text_of_lexeme htoken, hmore⟩

theorem reads_declare (name : String) {ws : List Lexeme} {e : Expr} (h : Derives 1 ws e) :
    Reads readStatement ([word "int"] ++ binding name ws) (.declare name e) := by
  intro tokens rest hbegins
  obtain ⟨token, more, rfl, htext, hbinding⟩ := hbegins.keyword
  obtain ⟨_, hbinding⟩ := Parsed.of_map_front (reads_readBinding name h _ _ hbinding)
  rw [readStatement, if_pos htext, hbinding]
  rfl

theorem reads_exit {ws : List Lexeme} {e : Expr} (h : Derives 1 ws e) :
    Reads readStatement ([word "return"] ++ (ws ++ [symbol ";"])) (.exit e) := by
  intro tokens rest hbegins
  obtain ⟨token, more, rfl, htext, hstatus⟩ := hbegins.keyword
  obtain ⟨_, hstatus⟩ := Parsed.of_map_front (reads_readExprThen h (by decide) _ _ hstatus)
  rw [readStatement, htext, hstatus]
  rfl

theorem reads_print {qs ws : List Lexeme} {glyphs : List Char} (hqs : IsOptional qualifier qs)
    (h : Insertions ws glyphs) (hne : glyphs ≠ []) :
    Reads readStatement (qs ++ ([word "cout"] ++ (ws ++ [symbol ";"]))) (.print glyphs) := by
  intro tokens rest hbegins
  obtain ⟨_, hprint⟩ := Parsed.of_map_front (reads_readPrint hqs h hne _ _ hbegins)
  obtain ⟨token, more, rfl, htext⟩ :
      ∃ token more, tokens = token :: more ∧ (token.text = "cout" ∨ token.text = "std") := by
    cases hqs with
    | absent =>
        obtain ⟨token, more, rfl, htext, -⟩ := hbegins.keyword
        exact ⟨token, more, rfl, .inl htext⟩
    | present =>
        obtain ⟨token, more, rfl, htoken, -⟩ := hbegins.cons_inv
        exact ⟨token, more, rfl, .inr (text_of_lexeme htoken)⟩
  rcases htext with htext | htext
  · rw [readStatement, htext, hprint]
    rfl
  · rw [readStatement, htext, hprint]
    rfl

/-! ### Phrases -/

/-- What follows an open phrase is no alternative of it. -/
def EndsBefore (isOpen : Bool) (rest : List Token) : Prop :=
  isOpen = true → startsWith "else" rest = false

/-- A reader takes the lexemes of a phrase off the front of any tokens that end it, and finds the
value. -/
def ReadsPhrase {α : Type} (isOpen : Bool)
    (read : (tokens : List Token) → Except SyntaxFault (Parsed α tokens)) (ws : List Lexeme)
    (value : α) : Prop :=
  ∀ tokens rest, Begins tokens ws rest → EndsBefore isOpen rest →
    (read tokens).map Parsed.front = .ok (value, rest)

/-- The lexemes are statements: reading them leaves the reader of a block behind them. -/
def ReadsAll (ws : List Lexeme) (statements : List Statement) : Prop :=
  ∀ earlier tokens rest, Begins tokens ws rest → startsWith "else" rest = false →
    (readStatements earlier tokens).map Parsed.front =
      (readStatements (statements.reverse ++ earlier) rest).map Parsed.front

/-- The reader for its kind of phrase takes the lexemes and finds the tree. -/
def Phrase.IsRead : Phrase → List Lexeme → Prop
  | .statement isOpen tree, ws => ReadsPhrase isOpen readStatement ws tree
  | .statements trees, ws => ReadsAll ws trees
  | .body isOpen trees, ws => ReadsPhrase isOpen readBody ws trees
  | .chain isOpen branches otherwise, ws => ∀ earlier,
    ReadsPhrase isOpen (readChain earlier) ws (earlier.reverse ++ branches, otherwise)

theorem Reads.readsPhrase {α : Type} {isOpen : Bool}
    {read : (tokens : List Token) → Except SyntaxFault (Parsed α tokens)} {ws : List Lexeme}
    {value : α} (h : Reads read ws value) : ReadsPhrase isOpen read ws value :=
  fun tokens rest hbegins _ => h tokens rest hbegins

theorem readsAll_nil : ReadsAll [] [] := by
  intro earlier tokens rest hbegins _
  obtain rfl := hbegins.nil_inv
  rfl

/-- No statement begins like an alternative. -/
theorem Forms.startsWith_else {statements : List Statement} {ws : List Lexeme}
    (h : Forms (.statements statements) ws) {tokens rest : List Token}
    (hbegins : Begins tokens ws rest) (hrest : startsWith "else" rest = false) :
    startsWith "else" tokens = false := by
  cases h with
  | nil =>
      obtain rfl := hbegins.nil_inv
      exact hrest
  | cons hfirst =>
      obtain ⟨w, vs, rfl, hw⟩ := hfirst.exists_start
      rw [List.cons_append] at hbegins
      rw [hbegins.startsWith]
      have hall : ∀ text ∈ statementStarts, (text == "else") = false := by decide
      exact hall _ hw

theorem ReadsAll.cons {isOpen : Bool} {first : Statement} {others : List Statement}
    {ws vs : List Lexeme} (hfirst : Forms (.statement isOpen first) ws)
    (h : ReadsPhrase isOpen readStatement ws first) (hothers : Forms (.statements others) vs)
    (h' : ReadsAll vs others) : ReadsAll (ws ++ vs) (first :: others) := by
  intro earlier tokens rest hbegins hrest
  obtain ⟨middle, hws, hvs⟩ := hbegins.split
  obtain ⟨_, hstatement⟩ := Parsed.of_map_front
    (h tokens middle hws fun _ => hothers.startsWith_else hvs hrest)
  obtain ⟨w, ws, rfl, hw⟩ := hfirst.exists_start
  obtain ⟨token, more, rfl, htoken, -⟩ := hws.cons_inv
  have hbrace : token.text ≠ "\x7d" := by
    have hall : ∀ text ∈ statementStarts, text ≠ "\x7d" := by decide
    rw [text_of_lexeme htoken]
    exact hall _ hw
  have hreverse : (first :: others).reverse ++ earlier = others.reverse ++ first :: earlier := by
    simp
  rw [readStatements, if_neg hbrace, hstatement, hreverse,
    ← h' (first :: earlier) middle rest hvs hrest]
  dsimp only
  cases readStatements (first :: earlier) middle <;> rfl

/-- Statements between braces. -/
theorem ReadsAll.reads_readBlock {ws : List Lexeme} {statements : List Statement}
    (h : ReadsAll ws statements) : Reads readBlock (braced ws) statements := by
  intro tokens rest hbegins
  obtain ⟨first, hopening, hbegins⟩ := hbegins.split
  obtain ⟨second, hws, hclosing⟩ := hbegins.split
  obtain ⟨_, hopening⟩ := Parsed.of_map_front (reads_expect "\x7b" rfl _ _ hopening)
  have hall := h [] first _ hws (hclosing.startsWith _)
  obtain ⟨token, after, rfl, htoken, hafter⟩ := hclosing.cons_inv
  obtain rfl := hafter.nil_inv
  rw [readStatements.eq_2, if_pos (show token.text = "\x7d" from text_of_lexeme htoken)] at hall
  obtain ⟨_, hall⟩ := Parsed.of_map_front (hall.trans rfl)
  rw [readBlock, hopening]
  dsimp only
  rw [hall]
  simp [Except.map, Parsed.front]

theorem ReadsAll.readsPhrase_block {ws : List Lexeme} {statements : List Statement}
    (h : ReadsAll ws statements) : ReadsPhrase false readBody (braced ws) statements := by
  intro tokens rest hbegins _
  have hstart : startsWith "\x7b" tokens = true := hbegins.startsWith _
  rw [readBody, if_pos hstart]
  exact h.reads_readBlock tokens rest hbegins

theorem readsPhrase_single {isOpen : Bool} {statement : Statement} {ws : List Lexeme}
    (hforms : Forms (.statement isOpen statement) ws)
    (h : ReadsPhrase isOpen readStatement ws statement) :
    ReadsPhrase isOpen readBody ws [statement] := by
  intro tokens rest hbegins hrest
  obtain ⟨_, hstatement⟩ := Parsed.of_map_front (h tokens rest hbegins hrest)
  obtain ⟨w, ws, rfl, hw⟩ := hforms.exists_start
  have hbrace : startsWith "\x7b" tokens = false := by
    have hall : ∀ text ∈ statementStarts, (text == "\x7b") = false := by decide
    rw [hbegins.startsWith]
    exact hall _ hw
  rw [readBody, if_neg (by simp [hbrace]), hstatement]
  rfl

theorem readsPhrase_loop {counter : String} {isOpen : Bool} {ws vs us bs : List Lexeme}
    {start condition : Expr} {body : List Statement} (hstart : Derives 1 ws start)
    (hcondition : Derives 1 vs condition) (hincrement : Increments counter us)
    (hbody : ReadsPhrase isOpen readBody bs body) :
    ReadsPhrase isOpen readStatement ([word "for"] ++ (loopHead counter ws vs us ++ bs))
      (.loop counter start condition body) := by
  intro tokens rest hbegins hrest
  obtain ⟨token, more, rfl, htext, hbegins⟩ := hbegins.keyword
  obtain ⟨after, hhead, hbs⟩ := hbegins.split
  obtain ⟨_, hhead⟩ := Continued.of_map_front
    (readsOn_readLoopHead hstart hcondition hincrement _ _ hhead)
  obtain ⟨_, hbs⟩ := Parsed.of_map_front (hbody _ _ hbs hrest)
  rw [readStatement, htext, hhead]
  dsimp only
  rw [hbs]
  rfl

theorem readsPhrase_choose {isOpen : Bool} {ws : List Lexeme}
    {branches : List (Expr × List Statement)} {otherwise : List Statement}
    (h : ReadsPhrase isOpen (readChain []) ws (branches, otherwise)) :
    ReadsPhrase isOpen readStatement ([word "if"] ++ ws) (.choose branches otherwise) := by
  intro tokens rest hbegins hrest
  obtain ⟨token, more, rfl, htext, hws⟩ := hbegins.keyword
  obtain ⟨_, hws⟩ := Parsed.of_map_front (h _ _ hws hrest)
  rw [readStatement, htext, hws]
  rfl

/-! ### Chains of alternatives -/

theorem startsWith_if_of_begins {tokens rest : List Token} {ws : List Lexeme}
    (h : Begins tokens ws rest) (hne : ws ≠ []) (hif : ws.head? ≠ some (word "if")) :
    startsWith "if" tokens = false := by
  obtain ⟨w, ws, rfl⟩ := List.exists_cons_of_ne_nil hne
  rw [h.startsWith, beq_eq_false_iff_ne]
  intro htext
  have hkind : w.kind = .name := (h.2 w (by simp)).keyword (by rw [htext]; decide)
  refine hif ?_
  rw [List.head?_cons, word, ← hkind, ← htext]

section Chain

variable {isOpen : Bool} {ws bs : List Lexeme} {condition : Expr} {body : List Statement}
  (hcondition : Derives 1 ws condition)

include hcondition

/-- A chain without alternative ends behind its branch. -/
theorem readsPhrase_branch (hbody : ReadsPhrase isOpen readBody bs body)
    (earlier : List (Expr × List Statement)) :
    ReadsPhrase true (readChain earlier) (parenthesized ws ++ bs)
      (earlier.reverse ++ [(condition, body)], []) := by
  intro tokens rest hbegins hrest
  obtain ⟨middle, hws, hbs⟩ := hbegins.split
  obtain ⟨_, hws⟩ := Parsed.of_map_front (reads_readCondition hcondition _ _ hws)
  obtain ⟨_, hbs⟩ := Parsed.of_map_front (hbody _ _ hbs fun _ => hrest rfl)
  rw [readChain, hws]
  dsimp only
  rw [hbs]
  dsimp only
  rw [if_neg (by simp [hrest rfl])]
  simp [Except.map, Parsed.front]

/-- A chain goes on behind a branch and the keyword of an alternative. -/
theorem readChain_of_else (hbody : ReadsPhrase false readBody bs body)
    (earlier : List (Expr × List Statement)) {tokens middle after rest : List Token}
    (hws : Begins tokens (parenthesized ws) middle) (hbs : Begins middle bs after)
    (helse : Begins after [word "else"] rest) :
    (readChain earlier tokens).map Parsed.front =
      if startsWith "if" rest then
        match expect "if" rest with
        | .error fault => .error fault
        | .ok keyword =>
          (readChain ((condition, body) :: earlier) keyword.rest).map Parsed.front
      else
        match readBody rest with
        | .error fault => .error fault
        | .ok otherwise =>
          .ok ((((condition, body) :: earlier).reverse, otherwise.value), otherwise.rest) := by
  have hstart : startsWith "else" after = true := helse.startsWith _
  obtain ⟨_, hws⟩ := Parsed.of_map_front (reads_readCondition hcondition _ _ hws)
  obtain ⟨_, hbs⟩ := Parsed.of_map_front (hbody _ _ hbs (by simp [EndsBefore]))
  obtain ⟨_, helse⟩ := Parsed.of_map_front (reads_expect "else" rfl _ _ helse)
  rw [readChain, hws]
  dsimp only
  rw [hbs]
  dsimp only
  rw [if_pos hstart, helse]
  dsimp only
  split
  · cases expect "if" rest with
    | error fault => rfl
    | ok keyword =>
        dsimp only
        cases readChain ((condition, body) :: earlier) keyword.rest <;> rfl
  · cases readBody rest <;> rfl

/-- A chain ends with an alternative that is not a further branch. -/
theorem readsPhrase_otherwise {os : List Lexeme} {otherwise : List Statement}
    (hbody : ReadsPhrase false readBody bs body)
    (hforms : Forms (.body isOpen otherwise) os)
    (hotherwise : ReadsPhrase isOpen readBody os otherwise) (hif : os.head? ≠ some (word "if"))
    (earlier : List (Expr × List Statement)) :
    ReadsPhrase isOpen (readChain earlier) (parenthesized ws ++ (bs ++ ([word "else"] ++ os)))
      (earlier.reverse ++ [(condition, body)], otherwise) := by
  intro tokens rest hbegins hrest
  obtain ⟨first, hws, hbegins⟩ := hbegins.split
  obtain ⟨second, hbs, hbegins⟩ := hbegins.split
  obtain ⟨third, helse, hos⟩ := hbegins.split
  have hstart : startsWith "if" third = false :=
    startsWith_if_of_begins hos hforms.ne_nil_of_body hif
  obtain ⟨_, hos⟩ := Parsed.of_map_front (hotherwise _ _ hos hrest)
  rw [readChain_of_else hcondition hbody earlier hws hbs helse, if_neg (by simp [hstart]), hos]
  simp

/-- A chain goes on with a further branch. -/
theorem readsPhrase_next {cs : List Lexeme} {branches : List (Expr × List Statement)}
    {otherwise : List Statement} (hbody : ReadsPhrase false readBody bs body)
    (hnext : ∀ earlier,
      ReadsPhrase isOpen (readChain earlier) cs (earlier.reverse ++ branches, otherwise))
    (earlier : List (Expr × List Statement)) :
    ReadsPhrase isOpen (readChain earlier)
      (parenthesized ws ++ (bs ++ ([word "else", word "if"] ++ cs)))
      (earlier.reverse ++ (condition, body) :: branches, otherwise) := by
  intro tokens rest hbegins hrest
  obtain ⟨first, hws, hbegins⟩ := hbegins.split
  obtain ⟨second, hbs, hbegins⟩ := hbegins.split
  obtain ⟨third, helse, hbegins⟩ :=
    (show Begins second ([word "else"] ++ ([word "if"] ++ cs)) rest from hbegins).split
  obtain ⟨fourth, hif, hcs⟩ := hbegins.split
  have hstart : startsWith "if" third = true := hif.startsWith _
  obtain ⟨_, hif⟩ := Parsed.of_map_front (reads_expect "if" rfl _ _ hif)
  rw [readChain_of_else hcondition hbody earlier hws hbs helse, if_pos hstart, hif]
  dsimp only
  rw [hnext _ _ _ hcs hrest]
  simp

end Chain

/-- What the grammar derives is read, with the tree of the derivation. -/
theorem isRead_of_forms {phrase : Phrase} {ws : List Lexeme} (h : Forms phrase ws) :
    phrase.IsRead ws := by
  induction h with
  | declare hvalue => exact (reads_declare _ hvalue).readsPhrase
  | loop hstart hcondition hincrement _ ih =>
      exact readsPhrase_loop hstart hcondition hincrement ih
  | choose _ ih => exact readsPhrase_choose (ih [])
  | print hqualifier hglyphs hne => exact (reads_print hqualifier hglyphs hne).readsPhrase
  | exit hstatus => exact (reads_exit hstatus).readsPhrase
  | nil => exact readsAll_nil
  | cons hfirst hothers ihfirst ihothers => exact .cons hfirst ihfirst hothers ihothers
  | block _ ih => exact ih.readsPhrase_block
  | single h ih => exact readsPhrase_single h ih
  | branch hcondition _ ih => exact readsPhrase_branch hcondition ih
  | otherwise hcondition _ hotherwise hif ihbody ihotherwise =>
      exact readsPhrase_otherwise hcondition ihbody hotherwise ihotherwise hif
  | next hcondition _ _ ihbody ihnext => exact readsPhrase_next hcondition ihbody ihnext

/-! ### Programs -/

/-- Behind the head of the main function stands the block of the program. -/
theorem ofTokens_of_mainHead {us : List Lexeme} (h : IsOptional usingLine us)
    {tokens rest : List Token} (hbegins : Begins tokens (us ++ mainHead) rest) :
    ofTokens tokens =
      match readBlock rest with
      | .error fault => .error fault
      | .ok body =>
        if body.rest.isEmpty then .ok body.value else unexpected .endOfProgram body.rest := by
  obtain ⟨middle, husing, hmain⟩ := hbegins.split
  have hskip := readsOn_optional skipUsing (word "using") (fun _ => rfl) h husing
    (hmain.startsWith _)
  obtain ⟨_, hskip⟩ := Continued.of_map_front hskip
  obtain ⟨_, hmain⟩ := Continued.of_map_front
    (readsOn_expectAll ["int", "main", "(", ")"] rfl _ _ hmain)
  rw [ofTokens, hskip]
  dsimp only
  rw [hmain]
  dsimp only
  cases readBlock rest <;> rfl

/-- A program is read as the statements of its main function. -/
theorem ofTokens_of_isProgram {tokens : List Token} {ws : List Lexeme}
    {statements : List Statement} (h : IsProgram ws statements) (hbegins : Begins tokens ws []) :
    ofTokens tokens = .ok statements := by
  cases h with
  | intro husing hbody =>
      rw [← List.append_assoc] at hbegins
      obtain ⟨middle, hhead, hblock⟩ := hbegins.split
      have hread : ReadsAll _ statements := isRead_of_forms hbody
      obtain ⟨_, hblock⟩ := Parsed.of_map_front (hread.reads_readBlock _ _ hblock)
      rw [ofTokens_of_mainHead husing hhead, hblock]
      rfl

/-- A text is read as a program if its lexemes are one and its numbers are short. -/
theorem ofText_of_isProgram {source : String} {ws : List Lexeme} {statements : List Statement}
    (hlexed : Lexed source.toList ws) (hshort : ∀ w ∈ ws, w.IsShort)
    (h : IsProgram ws statements) : ofText source = .ok statements := by
  obtain ⟨tokens, htokens, rfl⟩ := tokenize_of_lexed hlexed
  rw [ofText, htokens]
  exact ofTokens_of_isProgram h ⟨⟨⟨tokens, by simp, rfl⟩, hshort⟩, hlexed.isProper⟩

end GridRules.Program
