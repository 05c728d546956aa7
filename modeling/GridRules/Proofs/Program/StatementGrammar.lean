import GridRules.Program.Expr
import GridRules.Proofs.Program.Grammar

/-!
# The grammar of programs

A program is the head of the main function and a block of statements. An alternative belongs to the
nearest condition that has none yet: a part of a program is open if an `else` right behind it would
belong to a condition at its end, and what stands before an `else` is not open.
-/

namespace GridRules.Program

/-! ### Parts of statements -/

/-- The lexemes are given ones, or none at all. -/
inductive IsOptional (ws : List Lexeme) : List Lexeme → Prop
  | absent : IsOptional ws []
  | present : IsOptional ws ws

/-- The lexemes of the name before a stream or a manipulator. -/
def qualifier : List Lexeme :=
  [word "std", symbol "::"]

/-- The letters behind a backslash, with the characters that they stand for. -/
def letters : List (Char × Char) :=
  [('n', '\n'), ('t', '\t'), ('\\', '\\'), ('\'', '\''), ('"', '"'), ('0', '\x00')]

/-- The lexemes are printed as a character. -/
inductive IsGlyph : List Lexeme → Char → Prop
  | plain {text c} (htext : text.toList = ['\'', c, '\'']) (hc : c ≠ '\\') :
      IsGlyph [⟨.character, text⟩] c
  | escaped {text c glyph} (htext : text.toList = ['\'', '\\', c, '\''])
      (hc : (c, glyph) ∈ letters) : IsGlyph [⟨.character, text⟩] glyph
  | endLine {qs} (h : IsOptional qualifier qs) :
      IsGlyph (qs ++ [word "endl"]) '\n'

/-- The lexemes are glyphs, each behind an insertion operator. -/
inductive Insertions : List Lexeme → List Char → Prop
  | nil : Insertions [] []
  | cons {ws vs glyph glyphs} (h : IsGlyph ws glyph) (hrest : Insertions vs glyphs) :
      Insertions ([symbol "<<"] ++ (ws ++ vs)) (glyph :: glyphs)

/-- The lexemes add one to a counter. -/
inductive Increments (counter : String) : List Lexeme → Prop
  | behind : Increments counter ([word counter] ++ [symbol "++"])
  | before : Increments counter ([symbol "++"] ++ [word counter])

/-- The lexemes of a declaration behind its keyword. -/
def binding (name : String) (value : List Lexeme) : List Lexeme :=
  [word name] ++ ([symbol "="] ++ (value ++ [symbol ";"]))

/-- The lexemes of the head of a loop behind its keyword. -/
def loopHead (counter : String) (start condition increment : List Lexeme) : List Lexeme :=
  [symbol "(", word "int"] ++ (binding counter start ++
    (condition ++ [symbol ";"] ++ (increment ++ [symbol ")"])))

/-- Lexemes in parentheses. -/
def parenthesized (ws : List Lexeme) : List Lexeme :=
  [symbol "("] ++ (ws ++ [symbol ")"])

/-- Lexemes in braces. -/
def braced (ws : List Lexeme) : List Lexeme :=
  [symbol "\x7b"] ++ (ws ++ [symbol "\x7d"])

/-! ### Statements -/

/-- What the grammar derives, with its tree: one statement, statements one after the other, the body
of a loop or a branch, or a chain of alternatives behind its first keyword. -/
inductive Phrase where
  | statement (isOpen : Bool) (statement : Statement)
  | statements (statements : List Statement)
  | body (isOpen : Bool) (statements : List Statement)
  | chain (isOpen : Bool) (branches : List (Expr × List Statement)) (otherwise : List Statement)

/-- The lexemes form a phrase. -/
inductive Forms : Phrase → List Lexeme → Prop
  | declare {name ws value} (hvalue : Derives 1 ws value) :
      Forms (.statement false (.declare name value)) ([word "int"] ++ binding name ws)
  | loop {counter isOpen start condition body ws vs us bs} (hstart : Derives 1 ws start)
      (hcondition : Derives 1 vs condition) (hincrement : Increments counter us)
      (hbody : Forms (.body isOpen body) bs) :
      Forms (.statement isOpen (.loop counter start condition body))
        ([word "for"] ++ (loopHead counter ws vs us ++ bs))
  | choose {isOpen branches otherwise ws} (h : Forms (.chain isOpen branches otherwise) ws) :
      Forms (.statement isOpen (.choose branches otherwise)) ([word "if"] ++ ws)
  | print {qs ws glyphs} (hqualifier : IsOptional qualifier qs)
      (hglyphs : Insertions ws glyphs) (hne : glyphs ≠ []) :
      Forms (.statement false (.print glyphs)) (qs ++ ([word "cout"] ++ (ws ++ [symbol ";"])))
  | exit {ws status} (hstatus : Derives 1 ws status) :
      Forms (.statement false (.exit status)) ([word "return"] ++ (ws ++ [symbol ";"]))
  | nil : Forms (.statements []) []
  | cons {isOpen first others ws vs} (hfirst : Forms (.statement isOpen first) ws)
      (hothers : Forms (.statements others) vs) : Forms (.statements (first :: others)) (ws ++ vs)
  | block {statements ws} (h : Forms (.statements statements) ws) :
      Forms (.body false statements) (braced ws)
  | single {isOpen statement ws} (h : Forms (.statement isOpen statement) ws) :
      Forms (.body isOpen [statement]) ws
  | branch {isOpen condition body ws bs} (hcondition : Derives 1 ws condition)
      (hbody : Forms (.body isOpen body) bs) :
      Forms (.chain true [(condition, body)] []) (parenthesized ws ++ bs)
  | otherwise {isOpen condition body otherwise ws bs os} (hcondition : Derives 1 ws condition)
      (hbody : Forms (.body false body) bs) (hotherwise : Forms (.body isOpen otherwise) os)
      (hif : os.head? ≠ some (word "if")) :
      Forms (.chain isOpen [(condition, body)] otherwise)
        (parenthesized ws ++ (bs ++ ([word "else"] ++ os)))
  | next {isOpen condition body branches otherwise ws bs cs} (hcondition : Derives 1 ws condition)
      (hbody : Forms (.body false body) bs) (hnext : Forms (.chain isOpen branches otherwise) cs) :
      Forms (.chain isOpen ((condition, body) :: branches) otherwise)
        (parenthesized ws ++ (bs ++ ([word "else", word "if"] ++ cs)))

/-- The lexemes of a line that may stand before the main function. -/
def usingLine : List Lexeme :=
  [word "using", word "namespace", word "std", symbol ";"]

/-- The lexemes of the head of the main function. -/
def mainHead : List Lexeme :=
  [word "int", word "main", symbol "(", symbol ")"]

/-- The lexemes are a program, with the statements of its main function. -/
inductive IsProgram : List Lexeme → List Statement → Prop
  | intro {us ws statements} (husing : IsOptional usingLine us)
      (hbody : Forms (.statements statements) ws) :
      IsProgram (us ++ (mainHead ++ braced ws)) statements

/-! ### Statements one after the other -/

theorem Forms.one {isOpen : Bool} {statement : Statement} {ws : List Lexeme}
    (h : Forms (.statement isOpen statement) ws) : Forms (.statements [statement]) ws := by
  simpa using Forms.cons h .nil

theorem Forms.append {first others : List Statement} {ws vs : List Lexeme}
    (h : Forms (.statements first) ws) (h' : Forms (.statements others) vs) :
    Forms (.statements (first ++ others)) (ws ++ vs) := by
  induction first generalizing ws with
  | nil =>
      cases h
      exact h'
  | cons statement first ih =>
      cases h with
      | cons hstatement hfirst =>
          rw [List.append_assoc]
          exact .cons hstatement (ih hfirst)

/-- The texts with which statements begin. -/
def statementStarts : List String :=
  ["int", "for", "if", "cout", "std", "return"]

theorem Forms.exists_start {isOpen : Bool} {statement : Statement} {ws : List Lexeme}
    (h : Forms (.statement isOpen statement) ws) :
    ∃ w vs, ws = w :: vs ∧ w.text ∈ statementStarts := by
  cases h with
  | declare => exact ⟨_, _, rfl, by decide⟩
  | loop => exact ⟨_, _, rfl, by decide⟩
  | choose => exact ⟨_, _, rfl, by decide⟩
  | print hqualifier =>
      cases hqualifier with
      | absent => exact ⟨_, _, rfl, by decide⟩
      | present => exact ⟨_, _, rfl, by decide⟩
  | exit => exact ⟨_, _, rfl, by decide⟩

theorem Forms.ne_nil_of_body {isOpen : Bool} {statements : List Statement} {ws : List Lexeme}
    (h : Forms (.body isOpen statements) ws) : ws ≠ [] := by
  cases h with
  | block => exact List.cons_ne_nil _ _
  | single h =>
      obtain ⟨w, vs, rfl, -⟩ := h.exists_start
      exact List.cons_ne_nil _ _

end GridRules.Program
