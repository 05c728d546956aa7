import GridRules.Failure
import GridRules.Text.Classes
import GridRules.Text.Quoted
import GridRules.Text.Word

/-!
# Tokens

Program text is a sequence of tokens with layout between them. Layout is blanks, comments to the end
of the line or between `/*` and `*/`, and directives from `#` to the end of the line. Reading a text
takes one piece after the other off its front; every piece has at least one character, and the
pieces joined give the text back.
-/

namespace GridRules.Program

/-- The four kinds of tokens. -/
inductive TokenKind where
  | character
  | number
  | name
  | operator
deriving DecidableEq, Repr, Inhabited

/-- A token, with the number of characters before it. -/
structure Token where
  kind : TokenKind
  text : String
  offset : Nat
deriving DecidableEq, Repr, Inhabited

/-- What a reader of program text was looking for where it found something else. -/
inductive Expectation where
  | text (text : String)
  | name
  | expression
  | statement
  | increment (counter : String)
  | glyph
  | insertion
  | endOfBlock
  | endOfProgram
  | endOfExpression
deriving DecidableEq, Repr

/-- The reasons for which a text is not a program or an expression. -/
inductive SyntaxFault where
  | unexpectedCharacter (c : Char) (offset : Nat)
  | unexpectedToken (expected : Expectation) (found : Option Token)
  | unsupportedEscape (literal : String)
  | longNumber
deriving DecidableEq, Repr

/-- The wording of an expectation that was not met. -/
def Expectation.message : Expectation → String
  | .text wanted => "Expected '" ++ wanted ++ "'"
  | .name => "Expected identifier"
  | .expression => "Expected expression"
  | .statement => "Expected statement"
  | .increment counter => "Loop must increment '" ++ counter ++ "'"
  | .glyph => "Expected character literal or endl"
  | .insertion => "Expected '<<'"
  | .endOfBlock => "Unterminated block"
  | .endOfProgram => "Unexpected text after main()"
  | .endOfExpression => "Unexpected text after expression"

/-- What is reported of a fault in program text. The end of the text has the offset `-1`. -/
def SyntaxFault.failure : SyntaxFault → Failure
  | .unexpectedCharacter c offset =>
    { category := .programText, code := "UNEXPECTED_CHARACTER",
      message := "Unexpected character " ++ Text.quoted (String.singleton c) ++ " at offset "
        ++ toString offset,
      details := [(.text "offset", .int offset)] }
  | .unexpectedToken expected found =>
    { category := .programText, code := "UNEXPECTED_TOKEN",
      message := expected.message ++ ", found "
        ++ Text.quoted ((found.map Token.text).getD "end of input"),
      details :=
        [(.text "offset", .int ((found.map fun token => (token.offset : Int)).getD (-1)))] }
  | .unsupportedEscape literal =>
    { category := .programText, code := "UNSUPPORTED_ESCAPE",
      message := "Unsupported escape sequence " ++ literal }
  | .longNumber => .plain .badValue

/-! ### Pieces -/

/-- A piece at the front of a text: layout if it has no kind, else a token; and what follows it. -/
structure Piece where
  kind : Option TokenKind
  lexeme : List Char
  rest : List Char

/-- The operators, with each one before those that it starts with. -/
def operators : List String :=
  ["<<", "::", "&&", "||", "==", "!=", "<=", ">=", "++", "-", "+", "*", "/", "%", "<", ">", "!",
    "(", ")", "\x7b", "\x7d", ";", "=", ","]

/-- The text up to and with the first `*/`, and what follows it. -/
def throughClosing? : List Char → Option (List Char × List Char)
  | [] => none
  | '*' :: '/' :: rest => some (['*', '/'], rest)
  | c :: rest => (throughClosing? rest).map fun found => (c :: found.1, found.2)

/-- A comment or a directive at the front of a text. -/
def remark? : List Char → Option (List Char × List Char)
  | '/' :: '/' :: rest =>
    some ('/' :: '/' :: rest.takeWhile (· != '\n'), rest.dropWhile (· != '\n'))
  | '/' :: '*' :: rest => (throughClosing? rest).map fun found => ('/' :: '*' :: found.1, found.2)
  | '#' :: rest => some ('#' :: rest.takeWhile (· != '\n'), rest.dropWhile (· != '\n'))
  | _ => none

/-- A character literal at the front of a text: one character, or one behind a backslash, between
single quotes. A lone character is neither a quote, nor a backslash, nor a line feed. -/
def characterLiteral? : List Char → Option (List Char × List Char)
  | '\'' :: '\\' :: c :: '\'' :: rest => some (['\'', '\\', c, '\''], rest)
  | '\'' :: c :: '\'' :: rest =>
    if c = '\\' ∨ c = '\'' ∨ c = '\n' then none else some (['\'', c, '\''], rest)
  | _ => none

/-- An operator at the front of a text. -/
def operator? (text : List Char) : Option (List Char × List Char) :=
  (operators.find? fun operator => operator.toList.isPrefixOf text).map fun operator =>
    (operator.toList, text.drop operator.length)

/-- The piece at the front of a text whose first character is `c`. -/
def piece? (c : Char) (rest : List Char) : Option Piece :=
  if Text.isBlank c then
    some ⟨none, c :: rest.takeWhile Text.isBlank, rest.dropWhile Text.isBlank⟩
  else if Text.isDigit c then
    some ⟨some .number, c :: rest.takeWhile Text.isDigit, rest.dropWhile Text.isDigit⟩
  else if Text.isNameStart c then
    some ⟨some .name, c :: rest.takeWhile Text.isWord, rest.dropWhile Text.isWord⟩
  else
    match remark? (c :: rest) with
    | some (lexeme, rest) => some ⟨none, lexeme, rest⟩
    | none =>
      match characterLiteral? (c :: rest) with
      | some (lexeme, rest) => some ⟨some .character, lexeme, rest⟩
      | none => (operator? (c :: rest)).map fun (lexeme, rest) => ⟨some .operator, lexeme, rest⟩

theorem throughClosing?_append {text lexeme rest : List Char}
    (h : throughClosing? text = some (lexeme, rest)) : lexeme ++ rest = text := by
  fun_induction throughClosing? text generalizing lexeme rest with
  | case1 => simp at h
  | case2 tail =>
      obtain ⟨rfl, rfl⟩ : ['*', '/'] = lexeme ∧ tail = rest := by simpa using h
      rfl
  | case3 c tail _ ih =>
      obtain ⟨⟨found, left⟩, hfound, heq⟩ := Option.map_eq_some_iff.1 h
      obtain ⟨rfl, rfl⟩ : c :: found = lexeme ∧ left = rest := by simpa using heq
      simp [ih hfound]

theorem remark?_append {text lexeme rest : List Char}
    (h : remark? text = some (lexeme, rest)) : lexeme ≠ [] ∧ lexeme ++ rest = text := by
  unfold remark? at h
  split at h
  · next tail =>
      obtain ⟨rfl, rfl⟩ : _ = lexeme ∧ _ = rest := by simpa using h
      simp
  · next tail =>
      obtain ⟨⟨found, left⟩, hfound, heq⟩ := Option.map_eq_some_iff.1 h
      obtain ⟨rfl, rfl⟩ : '/' :: '*' :: found = lexeme ∧ left = rest := by simpa using heq
      simp [throughClosing?_append hfound]
  · next tail =>
      obtain ⟨rfl, rfl⟩ : _ = lexeme ∧ _ = rest := by simpa using h
      simp
  · simp at h

theorem characterLiteral?_append {text lexeme rest : List Char}
    (h : characterLiteral? text = some (lexeme, rest)) : lexeme ≠ [] ∧ lexeme ++ rest = text := by
  unfold characterLiteral? at h
  split at h
  · obtain ⟨rfl, rfl⟩ : _ = lexeme ∧ _ = rest := by simpa using h
    simp
  · split at h
    · simp at h
    · obtain ⟨rfl, rfl⟩ : _ = lexeme ∧ _ = rest := by simpa using h
      simp
  · simp at h

theorem toList_ne_nil_of_mem_operators {operator : String} (h : operator ∈ operators) :
    operator.toList ≠ [] := by
  revert operator
  decide

theorem operator?_append {text lexeme rest : List Char}
    (h : operator? text = some (lexeme, rest)) : lexeme ≠ [] ∧ lexeme ++ rest = text := by
  obtain ⟨operator, hfind, heq⟩ := Option.map_eq_some_iff.1 h
  obtain ⟨rfl, rfl⟩ : operator.toList = lexeme ∧ text.drop operator.length = rest := by
    simpa using heq
  have hfront := List.find?_some hfind
  obtain ⟨tail, rfl⟩ := List.isPrefixOf_iff_prefix.1 hfront
  refine ⟨toList_ne_nil_of_mem_operators (List.mem_of_find?_eq_some hfind), ?_⟩
  rw [← String.length_toList, List.drop_left]

/-- A piece and what follows it make up the text, and the piece is not empty. -/
theorem piece?_append {c : Char} {text : List Char} {piece : Piece}
    (h : piece? c text = some piece) :
    piece.lexeme ≠ [] ∧ piece.lexeme ++ piece.rest = c :: text := by
  unfold piece? at h
  split at h
  · obtain rfl := Option.some.inj h
    simp
  · split at h
    · obtain rfl := Option.some.inj h
      simp
    · split at h
      · obtain rfl := Option.some.inj h
        simp
      · split at h
        · next hremark =>
            obtain rfl := Option.some.inj h
            exact remark?_append hremark
        · split at h
          · next hliteral =>
              obtain rfl := Option.some.inj h
              exact characterLiteral?_append hliteral
          · obtain ⟨⟨lexeme, rest⟩, hoperator, rfl⟩ := Option.map_eq_some_iff.1 h
            exact operator?_append hoperator

theorem length_rest_of_piece? {c : Char} {text : List Char} {piece : Piece}
    (h : piece? c text = some piece) : piece.rest.length < (c :: text).length := by
  have ⟨hne, happend⟩ := piece?_append h
  have hpos := List.length_pos_iff.2 hne
  rw [← happend, List.length_append]
  omega

/-! ### Token sequences -/

/-- The tokens of a piece at the given offset: one, or none if the piece is layout. -/
def Piece.tokens (piece : Piece) (offset : Nat) : List Token :=
  match piece.kind with
  | none => []
  | some kind => [⟨kind, String.ofList piece.lexeme, offset⟩]

/-- The tokens of a text that starts at the given offset, after the `earlier` ones, which stand in
reverse order. -/
def tokensFrom (offset : Nat) (earlier : List Token) :
    List Char → Except SyntaxFault (List Token)
  | [] => .ok earlier.reverse
  | c :: text =>
    match h : piece? c text with
    | none => .error (.unexpectedCharacter c offset)
    | some piece =>
      have := length_rest_of_piece? h
      tokensFrom (offset + piece.lexeme.length) (piece.tokens offset ++ earlier) piece.rest
termination_by text => text.length
decreasing_by assumption

/-- The tokens of a program or an expression. -/
def tokenize (source : String) : Except SyntaxFault (List Token) :=
  tokensFrom 0 [] source.toList

end GridRules.Program
