import GridRules.Program.Expr
import GridRules.Program.Token
import GridRules.Text.WholeNumber

/-!
# Reading programs and expressions

Readers take tokens off the front of a sequence. Every reader returns what it read together with the
tokens that follow, and a proof that these are fewer, so that readers may call each other. A fault
names the first token that does not fit.
-/

namespace GridRules.Program

/-- What a reader took off the front of `tokens`, and the tokens that follow. -/
structure Parsed (α : Type) (tokens : List Token) where
  value : α
  rest : List Token
  shorter : rest.length < tokens.length

/-- What a reader of a possibly empty part took, and the tokens that follow. -/
structure Continued (α : Type) (tokens : List Token) where
  value : α
  rest : List Token
  noLonger : rest.length ≤ tokens.length

/-- The fault that the tokens do not begin as expected. -/
def unexpected {α : Type} (expected : Expectation) (tokens : List Token) :
    Except SyntaxFault α :=
  .error (.unexpectedToken expected tokens.head?)

/-- Whether the first token has the given text. -/
def startsWith (text : String) (tokens : List Token) : Bool :=
  match tokens with
  | [] => false
  | token :: _ => token.text == text

/-- Takes a token with the given text. -/
def expect (text : String) : (tokens : List Token) → Except SyntaxFault (Parsed Unit tokens)
  | [] => unexpected (.text text) []
  | token :: rest =>
    if token.text = text then .ok ⟨(), rest, by simp⟩
    else unexpected (.text text) (token :: rest)

/-- Takes tokens with the given texts, one after the other. -/
def expectAll : (texts : List String) → (tokens : List Token) →
    Except SyntaxFault (Continued Unit tokens)
  | [], tokens => .ok ⟨(), tokens, Nat.le_refl _⟩
  | text :: texts, tokens =>
    match expect text tokens with
    | .error fault => .error fault
    | .ok first =>
      match expectAll texts first.rest with
      | .error fault => .error fault
      | .ok others =>
        .ok ⟨(), others.rest, Nat.le_trans others.noLonger (Nat.le_of_lt first.shorter)⟩

/-- Takes a name. -/
def expectName : (tokens : List Token) → Except SyntaxFault (Parsed String tokens)
  | [] => unexpected .name []
  | token :: rest =>
    if token.kind = .name then .ok ⟨token.text, rest, by simp⟩
    else unexpected .name (token :: rest)

/-! ### Expressions -/

/-- The operators of a level. -/
def operatorsAt (level : Nat) : List BinaryOperator :=
  [.or, .and, .equal, .different, .less, .atMost, .greater, .atLeast, .plus, .minus, .times,
    .divide, .remainder].filter (·.level == level)

/-- The operator of a level with the given text. -/
def operatorAt? (level : Nat) (text : String) : Option BinaryOperator :=
  (operatorsAt level).find? (·.text == text)

mutual

/-- Reads an expression whose binary operators outside parentheses have at least the given level. -/
def readLevel (level : Nat) (tokens : List Token) : Except SyntaxFault (Parsed Expr tokens) :=
  if level < 7 then
    match readLevel (level + 1) tokens with
    | .error fault => .error fault
    | .ok first =>
      have := first.shorter
      match readOperands level first.value first.rest with
      | .error fault => .error fault
      | .ok chain => .ok ⟨chain.value, chain.rest, Nat.lt_of_le_of_lt chain.noLonger first.shorter⟩
  else
    readUnary tokens
termination_by (tokens.length, 8 - min level 7)

/-- Reads the operators of a level and their right operands, and joins them to the left operand from
left to right. -/
def readOperands (level : Nat) (left : Expr) (tokens : List Token) :
    Except SyntaxFault (Continued Expr tokens) :=
  match tokens with
  | [] => .ok ⟨left, [], Nat.le_refl _⟩
  | token :: rest =>
    match operatorAt? level token.text with
    | none => .ok ⟨left, token :: rest, Nat.le_refl _⟩
    | some op =>
      match readLevel (level + 1) rest with
      | .error fault => .error fault
      | .ok right =>
        have := right.shorter
        match readOperands level (.binary op left right.value) right.rest with
        | .error fault => .error fault
        | .ok chain =>
          .ok ⟨chain.value, chain.rest, by
            have := chain.noLonger
            simp only [List.length_cons]
            omega⟩
termination_by (tokens.length, 8)

/-- Reads an operand with the signs before it. -/
def readUnary (tokens : List Token) : Except SyntaxFault (Parsed Expr tokens) :=
  match tokens with
  | [] => unexpected .expression []
  | token :: rest =>
    if token.text = "!" then
      match readUnary rest with
      | .error fault => .error fault
      | .ok operand => .ok ⟨.not operand.value, operand.rest, Nat.lt_succ_of_lt operand.shorter⟩
    else if token.text = "-" then
      match readUnary rest with
      | .error fault => .error fault
      | .ok operand => .ok ⟨.negate operand.value, operand.rest, Nat.lt_succ_of_lt operand.shorter⟩
    else if token.text = "+" then
      match readUnary rest with
      | .error fault => .error fault
      | .ok operand => .ok ⟨operand.value, operand.rest, Nat.lt_succ_of_lt operand.shorter⟩
    else if token.kind = .number then
      if token.text.length ≤ Text.mostDigits then
        .ok ⟨.number (Text.decimalValue token.text.toList), rest, by simp⟩
      else
        .error .longNumber
    else if token.kind = .name then
      .ok ⟨if token.text = "true" then .truth true
        else if token.text = "false" then .truth false
        else .var token.text, rest, by simp⟩
    else if token.text = "(" then
      match readLevel 1 rest with
      | .error fault => .error fault
      | .ok inner =>
        match expect ")" inner.rest with
        | .error fault => .error fault
        | .ok closing =>
          .ok ⟨inner.value, closing.rest,
            Nat.lt_succ_of_lt (Nat.lt_trans closing.shorter inner.shorter)⟩
    else
      unexpected .expression (token :: rest)
termination_by (tokens.length, 0)

end

/-- Reads an expression. -/
def readExpr (tokens : List Token) : Except SyntaxFault (Parsed Expr tokens) :=
  readLevel 1 tokens

/-- The expression that a text writes; nothing may follow it. -/
def Expr.ofText (source : String) : Except SyntaxFault Expr :=
  match tokenize source with
  | .error fault => .error fault
  | .ok tokens =>
    match readExpr tokens with
    | .error fault => .error fault
    | .ok parsed =>
      if parsed.rest.isEmpty then .ok parsed.value else unexpected .endOfExpression parsed.rest

/-! ### Print statements -/

/-- The characters that a letter behind a backslash stands for. -/
def unescape? : Char → Option Char
  | 'n' => some '\n'
  | 't' => some '\t'
  | '\\' => some '\\'
  | '\'' => some '\''
  | '"' => some '"'
  | '0' => some '\x00'
  | _ => none

/-- The character that a character literal stands for. -/
def decodeLiteral (literal : String) : Except SyntaxFault Char :=
  match literal.toList with
  | [_, '\\', c, _] =>
    match unescape? c with
    | some glyph => .ok glyph
    | none => .error (.unsupportedEscape literal)
  | [_, c, _] => .ok c
  | _ => .error (.unsupportedEscape literal)

/-- Takes an optional `std ::`. -/
def skipQualifier (tokens : List Token) : Except SyntaxFault (Continued Unit tokens) :=
  if startsWith "std" tokens then expectAll ["std", "::"] tokens
  else .ok ⟨(), tokens, Nat.le_refl _⟩

/-- Reads one printed glyph: a character literal, or the end of the line. -/
def readGlyph : (tokens : List Token) → Except SyntaxFault (Parsed Char tokens)
  | [] => unexpected .glyph []
  | token :: rest =>
    if token.kind = .character then
      match decodeLiteral token.text with
      | .error fault => .error fault
      | .ok glyph => .ok ⟨glyph, rest, by simp⟩
    else
      match skipQualifier (token :: rest) with
      | .error fault => .error fault
      | .ok qualified =>
        match expect "endl" qualified.rest with
        | .error _ => unexpected .glyph qualified.rest
        | .ok parsed =>
          .ok ⟨'\n', parsed.rest, Nat.lt_of_lt_of_le parsed.shorter qualified.noLonger⟩

/-- Reads the glyphs of a print statement, each behind an insertion operator. -/
def readGlyphs (earlier : List Char) (tokens : List Token) :
    Except SyntaxFault (Continued (List Char) tokens) :=
  match tokens with
  | [] => .ok ⟨earlier.reverse, [], Nat.le_refl _⟩
  | token :: rest =>
    if token.text = "<<" then
      match readGlyph rest with
      | .error fault => .error fault
      | .ok glyph =>
        have := glyph.shorter
        match readGlyphs (glyph.value :: earlier) glyph.rest with
        | .error fault => .error fault
        | .ok others =>
          .ok ⟨others.value, others.rest, by
            have := others.noLonger
            simp only [List.length_cons]
            omega⟩
    else
      .ok ⟨earlier.reverse, token :: rest, Nat.le_refl _⟩
termination_by tokens.length

/-- Reads a print statement. -/
def readPrint (tokens : List Token) : Except SyntaxFault (Parsed Statement tokens) :=
  match skipQualifier tokens with
  | .error fault => .error fault
  | .ok qualified =>
    match expect "cout" qualified.rest with
    | .error fault => .error fault
    | .ok stream =>
      match readGlyphs [] stream.rest with
      | .error fault => .error fault
      | .ok glyphs =>
        if glyphs.value.isEmpty then
          unexpected .insertion glyphs.rest
        else
          match expect ";" glyphs.rest with
          | .error fault => .error fault
          | .ok closing =>
            .ok ⟨.print glyphs.value, closing.rest, by
              have := qualified.noLonger
              have := stream.shorter
              have := glyphs.noLonger
              have := closing.shorter
              omega⟩

/-! ### Other statements -/

/-- Reads an expression and the token behind it. -/
def readExprThen (text : String) (tokens : List Token) :
    Except SyntaxFault (Parsed Expr tokens) :=
  match readExpr tokens with
  | .error fault => .error fault
  | .ok parsed =>
    match expect text parsed.rest with
    | .error fault => .error fault
    | .ok closing => .ok ⟨parsed.value, closing.rest, Nat.lt_trans closing.shorter parsed.shorter⟩

/-- Reads a name, an equals sign, an expression and a semicolon. -/
def readBinding (tokens : List Token) : Except SyntaxFault (Parsed (String × Expr) tokens) :=
  match expectName tokens with
  | .error fault => .error fault
  | .ok name =>
    match expect "=" name.rest with
    | .error fault => .error fault
    | .ok equals =>
      match readExprThen ";" equals.rest with
      | .error fault => .error fault
      | .ok value =>
        .ok ⟨(name.value, value.value), value.rest,
          Nat.lt_trans value.shorter (Nat.lt_trans equals.shorter name.shorter)⟩

/-- Reads the increment of a counter, with the operator before or behind the name. -/
def readIncrement (tokens : List Token) : Except SyntaxFault (Parsed String tokens) :=
  if startsWith "++" tokens then
    match expect "++" tokens with
    | .error fault => .error fault
    | .ok operator =>
      match expectName operator.rest with
      | .error fault => .error fault
      | .ok name => .ok ⟨name.value, name.rest, Nat.lt_trans name.shorter operator.shorter⟩
  else
    match expectName tokens with
    | .error fault => .error fault
    | .ok name =>
      match expect "++" name.rest with
      | .error fault => .error fault
      | .ok operator =>
        .ok ⟨name.value, operator.rest, Nat.lt_trans operator.shorter name.shorter⟩

/-- The counter of a loop, its start and its condition. -/
structure LoopHead where
  counter : String
  start : Expr
  condition : Expr

/-- Reads the head of a loop behind its keyword. The increment must be that of the counter. -/
def readLoopHead (tokens : List Token) : Except SyntaxFault (Continued LoopHead tokens) :=
  match expectAll ["(", "int"] tokens with
  | .error fault => .error fault
  | .ok opening =>
    match readBinding opening.rest with
    | .error fault => .error fault
    | .ok binding =>
      match readExprThen ";" binding.rest with
      | .error fault => .error fault
      | .ok condition =>
        match readIncrement condition.rest with
        | .error fault => .error fault
        | .ok increment =>
          if increment.value = binding.value.1 then
            match expect ")" increment.rest with
            | .error fault => .error fault
            | .ok closing =>
              .ok ⟨⟨binding.value.1, binding.value.2, condition.value⟩, closing.rest, by
                have := opening.noLonger
                have := binding.shorter
                have := condition.shorter
                have := increment.shorter
                have := closing.shorter
                omega⟩
          else
            unexpected (.increment binding.value.1) increment.rest

/-- Reads a condition in parentheses. -/
def readCondition (tokens : List Token) : Except SyntaxFault (Parsed Expr tokens) :=
  match expect "(" tokens with
  | .error fault => .error fault
  | .ok opening =>
    match readExprThen ")" opening.rest with
    | .error fault => .error fault
    | .ok condition =>
      .ok ⟨condition.value, condition.rest, Nat.lt_trans condition.shorter opening.shorter⟩

/-- The branches and the last alternative of a chain. -/
abbrev Chain := List (Expr × List Statement) × List Statement

mutual

/-- Reads one statement. -/
def readStatement (tokens : List Token) : Except SyntaxFault (Parsed Statement tokens) :=
  match tokens with
  | [] => unexpected .statement []
  | token :: rest =>
    if token.text = "int" then
      match readBinding rest with
      | .error fault => .error fault
      | .ok binding =>
        .ok ⟨.declare binding.value.1 binding.value.2, binding.rest,
          Nat.lt_succ_of_lt binding.shorter⟩
    else if token.text = "for" then
      match readLoopHead rest with
      | .error fault => .error fault
      | .ok head =>
        have := head.noLonger
        match readBody head.rest with
        | .error fault => .error fault
        | .ok body =>
          .ok ⟨.loop head.value.counter head.value.start head.value.condition body.value,
            body.rest, Nat.lt_succ_of_lt (Nat.lt_of_lt_of_le body.shorter head.noLonger)⟩
    else if token.text = "if" then
      match readChain [] rest with
      | .error fault => .error fault
      | .ok chain =>
        .ok ⟨.choose chain.value.1 chain.value.2, chain.rest, Nat.lt_succ_of_lt chain.shorter⟩
    else if token.text = "cout" ∨ token.text = "std" then
      readPrint (token :: rest)
    else if token.text = "return" then
      match readExprThen ";" rest with
      | .error fault => .error fault
      | .ok status => .ok ⟨.exit status.value, status.rest, Nat.lt_succ_of_lt status.shorter⟩
    else
      unexpected .statement (token :: rest)
termination_by (tokens.length, 0)

/-- Reads a block, or one statement. -/
def readBody (tokens : List Token) : Except SyntaxFault (Parsed (List Statement) tokens) :=
  if startsWith "\x7b" tokens then
    readBlock tokens
  else
    match readStatement tokens with
    | .error fault => .error fault
    | .ok statement => .ok ⟨[statement.value], statement.rest, statement.shorter⟩
termination_by (tokens.length, 2)

/-- Reads statements between braces. -/
def readBlock (tokens : List Token) : Except SyntaxFault (Parsed (List Statement) tokens) :=
  match expect "\x7b" tokens with
  | .error fault => .error fault
  | .ok opening =>
    have := opening.shorter
    match readStatements [] opening.rest with
    | .error fault => .error fault
    | .ok block => .ok ⟨block.value, block.rest, Nat.lt_trans block.shorter opening.shorter⟩
termination_by (tokens.length, 1)

/-- Reads statements up to a closing brace, behind the `earlier` ones, which stand in reverse
order. -/
def readStatements (earlier : List Statement) (tokens : List Token) :
    Except SyntaxFault (Parsed (List Statement) tokens) :=
  match tokens with
  | [] => unexpected .endOfBlock []
  | token :: rest =>
    if token.text = "\x7d" then
      .ok ⟨earlier.reverse, rest, by simp⟩
    else
      match readStatement (token :: rest) with
      | .error fault => .error fault
      | .ok statement =>
        have := statement.shorter
        match readStatements (statement.value :: earlier) statement.rest with
        | .error fault => .error fault
        | .ok block => .ok ⟨block.value, block.rest, Nat.lt_trans block.shorter statement.shorter⟩
termination_by (tokens.length, 1)

/-- Reads a chain of alternatives behind its first keyword; the `earlier` branches stand in reverse
order. -/
def readChain (earlier : List (Expr × List Statement)) (tokens : List Token) :
    Except SyntaxFault (Parsed Chain tokens) :=
  match readCondition tokens with
  | .error fault => .error fault
  | .ok condition =>
    have := condition.shorter
    match readBody condition.rest with
    | .error fault => .error fault
    | .ok body =>
      have := body.shorter
      let branches := (condition.value, body.value) :: earlier
      if startsWith "else" body.rest then
        match expect "else" body.rest with
        | .error fault => .error fault
        | .ok alternative =>
          have := alternative.shorter
          if startsWith "if" alternative.rest then
            match expect "if" alternative.rest with
            | .error fault => .error fault
            | .ok keyword =>
              have := keyword.shorter
              match readChain branches keyword.rest with
              | .error fault => .error fault
              | .ok chain =>
                .ok ⟨chain.value, chain.rest, by
                  have := chain.shorter
                  omega⟩
          else
            match readBody alternative.rest with
            | .error fault => .error fault
            | .ok otherwise =>
              .ok ⟨(branches.reverse, otherwise.value), otherwise.rest, by
                have := otherwise.shorter
                omega⟩
      else
        .ok ⟨(branches.reverse, []), body.rest, by omega⟩
termination_by (tokens.length, 3)

end

/-! ### Programs -/

/-- Takes an optional `using namespace std ;`. -/
def skipUsing (tokens : List Token) : Except SyntaxFault (Continued Unit tokens) :=
  if startsWith "using" tokens then expectAll ["using", "namespace", "std", ";"] tokens
  else .ok ⟨(), tokens, Nat.le_refl _⟩

/-- The body of the main function that a sequence of tokens writes; nothing may follow it. -/
def ofTokens (tokens : List Token) : Except SyntaxFault (List Statement) :=
  match skipUsing tokens with
  | .error fault => .error fault
  | .ok opening =>
    match expectAll ["int", "main", "(", ")"] opening.rest with
    | .error fault => .error fault
    | .ok head =>
      match readBlock head.rest with
      | .error fault => .error fault
      | .ok body =>
        if body.rest.isEmpty then .ok body.value else unexpected .endOfProgram body.rest

/-- The body of the main function of a program text. -/
def ofText (source : String) : Except SyntaxFault (List Statement) :=
  match tokenize source with
  | .error fault => .error fault
  | .ok tokens => ofTokens tokens

end GridRules.Program
