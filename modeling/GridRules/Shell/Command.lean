import GridRules.Shell.Token

/-!
# Shell commands

The command language: simple commands, lists, pipelines, groups, choices, loops and functions. A
script is read line by line, where a command that goes on over several lines counts as one line, so
that a fault concerns only the line in which it lies.
-/

namespace GridRules.Shell

/-- Where a redirection leads. -/
inductive Target where
  | input (file : Word)
  | output (file : Word)
  | append (file : Word)
  | duplicate (descriptor : Word)
  | here (content : Word)
deriving Repr, Inhabited, DecidableEq

/-- A redirection of a descriptor. -/
structure Redirection where
  descriptor : Nat
  target : Target
deriving Repr, Inhabited, DecidableEq

/-- A command. Those that can complain know their lines. -/
inductive Command where
  | simple (line : Nat) (assignments : List (String × Word)) (words : List Word)
      (redirections : List Redirection)
  | all (commands : List Command)
  | both (first second : Command)
  | either (first second : Command)
  | negated (body : Command)
  | pipe (first second : Command)
  | background (body : Command)
  | subshell (line : Nat) (body : Command)
  | under (line : Nat) (body : Command) (redirections : List Redirection)
  | choose (condition holds otherwise : Command)
  | loop (line : Nat) (whileHolds : Bool) (condition body : Command)
  | forEach (line : Nat) (name : String) (words : List Word) (body : Command)
  | select (line : Nat) (word : Word) (clauses : List (List Word × Command))
  | define (name : String) (body : Command)
deriving Repr, Inhabited

/-- The command that does nothing. -/
def Command.skip : Command := .all []

/-- The reason for which a text is no script, with the line where that shows. -/
structure SyntaxFault where
  line : Nat
  message : String
deriving Repr, DecidableEq

/-- What a reader takes off the front of some tokens. -/
abbrev Reader (α : Type) := List Lexeme → Except SyntaxFault (α × List Lexeme)

/-! ### Single tokens -/

/-- The words with a meaning of their own at the beginning of a command. -/
def reservedWords : List String :=
  ["!", "case", "do", "done", "elif", "else", "esac", "fi", "for", "if", "in", "then", "until",
    "while", "\x7b", "\x7d"]

/-- The reserved word that a token is. -/
def Token.reserved? : Token → Option String
  | .word parts =>
    if parts.isQuoted then none
    else
      match parts.text? with
      | some text => reservedWords.find? fun reserved => reserved.toList == text
      | none => none
  | _ => none

/-- Whether a token is the given reserved word. -/
def Token.is (token : Token) (text : String) : Bool :=
  token.reserved? == some text

/-- How messages call a token. -/
def Token.title (token : Token) : String :=
  match token, token.reserved? with
  | _, some text => "\"" ++ text ++ "\""
  | .operator text, none => "\"" ++ text ++ "\""
  | .newline, none => "newline"
  | .redirect _ _, none => "redirection"
  | .finish, none => "end of file"
  | _, none => "word"

/-- The fault of a token that should not be there. -/
def unexpected {α : Type} (lexemes : List Lexeme) (expected : Option String := none) :
    Except SyntaxFault α :=
  let lexeme := lexemes.head?.getD ⟨.finish, 1⟩
  let message :=
    match lexeme.token with
    | .faulty fault => fault.message
    | token =>
      token.title ++ " unexpected" ++
        (match expected with
          | some expected => " (expecting " ++ expected ++ ")"
          | none => "")
  .error ⟨lexeme.line, "Syntax error: " ++ message⟩

/-- A fault at the front of some tokens. -/
def faultAt {α : Type} (lexemes : List Lexeme) (message : String) : Except SyntaxFault α :=
  .error ⟨(lexemes.head?.map Lexeme.line).getD 1, "Syntax error: " ++ message⟩

/-- The tokens without the line ends at their front. -/
def skipNewlines (lexemes : List Lexeme) : List Lexeme :=
  lexemes.dropWhile fun lexeme => lexeme.token == .newline

/-- Takes a reserved word. -/
def takeReserved (text : String) (lexemes : List Lexeme) : Except SyntaxFault (List Lexeme) :=
  match lexemes with
  | lexeme :: rest =>
    if lexeme.token.is text then .ok rest else unexpected lexemes (some ("\"" ++ text ++ "\""))
  | [] => unexpected lexemes

/-- Takes an operator. -/
def takeOperator (text : String) (lexemes : List Lexeme) : Except SyntaxFault (List Lexeme) :=
  match lexemes with
  | lexeme :: rest =>
    if lexeme.token == .operator text then .ok rest
    else unexpected lexemes (some ("\"" ++ text ++ "\""))
  | [] => unexpected lexemes

/-- Takes the closing bracket behind the name of a function, where no word has a meaning of its own.
-/
def takeClosing (lexemes : List Lexeme) : Except SyntaxFault (List Lexeme) :=
  match lexemes with
  | ⟨.word _, line⟩ :: _ => unexpected [⟨.word [], line⟩] (some "\")\"")
  | lexemes => takeOperator ")" lexemes

/-- Whether a token ends a list of commands. -/
def Token.closes (token : Token) : Bool :=
  match token with
  | .finish => true
  | .operator text => text == ")" || text == ";;"
  | token => ["do", "done", "elif", "else", "esac", "fi", "then", "\x7d"].any token.is

/-! ### Simple commands -/

/-- The word that names the target of a redirection. -/
def target? (operator : String) (word : Word) : Option Target :=
  match operator with
  | "<" | "<>" => some (.input word)
  | ">" | ">|" => some (.output word)
  | ">>" => some (.append word)
  | ">&" | "<&" => some (.duplicate word)
  | _ => none

/-- The descriptor that an operator redirects unless another is named. -/
def defaultDescriptor (operator : String) : Nat :=
  if operator.toList.head? == some '<' then 0 else 1

/-- Whether a word names a descriptor, or says that none is meant. A word that is to be replaced may
turn out to name one. -/
def namesDescriptor (word : Word) : Bool :=
  match word.text? with
  | some [c] => c.isDigit || c == '-'
  | some _ => false
  | none => true

/-- Takes the target of a redirection behind its operator. -/
def takeTarget (descriptor : Option Nat) (operator : String) : Reader Redirection
  | ⟨.document content, _⟩ :: rest =>
    .ok (⟨descriptor.getD (defaultDescriptor operator), .here content⟩, rest)
  | ⟨.word word, line⟩ :: rest =>
    match target? operator word with
    | some target =>
      if (operator == ">&" || operator == "<&") && !namesDescriptor word then
        faultAt (⟨.word word, line⟩ :: rest) "Bad fd number"
      else
        .ok (⟨descriptor.getD (defaultDescriptor operator), target⟩, rest)
    | none => unexpected (⟨.word word, line⟩ :: rest)
  | lexemes => unexpected lexemes

/-- Takes redirections. -/
def takeRedirections : Nat → Reader (List Redirection)
  | fuel + 1, ⟨.redirect descriptor operator, _⟩ :: rest => do
    let (redirection, rest) ← takeTarget descriptor operator rest
    let (others, rest) ← takeRedirections fuel rest
    return (redirection :: others, rest)
  | _, lexemes => .ok ([], lexemes)

/-- The name and the value that a word assigns. -/
def assignment? (word : Word) : Option (String × Word) :=
  let front := word.takeWhile fun part =>
    match part with
    | .text false ['='] => false
    | .text false _ => true
    | _ => false
  match word.drop front.length with
  | .text false ['='] :: value =>
    let name := (Word.text? front).getD []
    if isName name then some (String.ofList name, value) else none
  | _ => none

/-- Takes the assignments, words and redirections of a simple command. -/
def takeSimple : Nat → Reader (List (String × Word) × List Word × List Redirection)
  | fuel + 1, ⟨.word word, _⟩ :: rest =>
    match assignment? word with
    | some assignment => do
      let ((assignments, words, redirections), rest) ← takeSimple fuel rest
      return ((assignment :: assignments, words, redirections), rest)
    | none => takeWords (fuel + 1) (⟨.word word, 0⟩ :: rest)
  | fuel + 1, ⟨.redirect descriptor operator, _⟩ :: rest => do
    let (redirection, rest) ← takeTarget descriptor operator rest
    let ((assignments, words, redirections), rest) ← takeSimple fuel rest
    return ((assignments, words, redirection :: redirections), rest)
  | _, lexemes => .ok (([], [], []), lexemes)
where
  /-- Takes words and redirections behind the assignments. -/
  takeWords : Nat → Reader (List (String × Word) × List Word × List Redirection)
  | fuel + 1, ⟨.word word, _⟩ :: rest => do
    let ((_, words, redirections), rest) ← takeWords fuel rest
    return (([], word :: words, redirections), rest)
  | fuel + 1, ⟨.redirect descriptor operator, _⟩ :: rest => do
    let (redirection, rest) ← takeTarget descriptor operator rest
    let ((_, words, redirections), rest) ← takeWords fuel rest
    return (([], words, redirection :: redirections), rest)
  | _, lexemes => .ok (([], [], []), lexemes)

/-- Takes words. -/
def takeWordTokens : List Lexeme → List Word × List Lexeme
  | ⟨.word word, _⟩ :: rest =>
    let (words, rest) := takeWordTokens rest
    (word :: words, rest)
  | lexemes => ([], lexemes)

/-- Takes the patterns of a clause behind its first one. -/
def takePatterns : Nat → Reader (List Word)
  | fuel + 1, ⟨.operator "|", _⟩ :: ⟨.word word, _⟩ :: rest => do
    let (words, rest) ← takePatterns fuel rest
    return (word :: words, rest)
  | _, lexemes => .ok ([], lexemes)

/-! ### Commands -/

/-- The utilities that no function can replace. -/
def specialNames : List String :=
  [":", ".", "break", "continue", "eval", "exec", "exit", "export", "readonly", "return", "set",
    "shift", "times", "trap", "unset"]

/-- The places in which lists of commands stand. One in a clause may be empty, one in a body may
not, and one of the script itself ends with its line. -/
inductive ListPlace where
  | line
  | body
  | clause
deriving DecidableEq

/-- Reads the words over which a loop runs; without any, they are the parameters. -/
def readItems : Reader (List Word)
  | lexemes =>
    match skipNewlines lexemes with
    | ⟨token, line⟩ :: rest =>
      if token.is "in" then
        let (words, rest) := takeWordTokens rest
        match rest with
        | ⟨.newline, _⟩ :: rest | ⟨.operator ";", _⟩ :: rest => .ok (words, rest)
        | rest => unexpected rest
      else
        let everything : Word := [.parameter true "@" .plain []]
        if token == .operator ";" then .ok ([everything], rest)
        else .ok ([everything], ⟨token, line⟩ :: rest)
    | [] => unexpected []

mutual

/-- Reads one command with the redirections behind it. -/
def readCommand : Nat → Reader Command
  | 0, lexemes => unexpected lexemes
  | fuel + 1, lexemes => do
    let line := (lexemes.head?.map Lexeme.line).getD 1
    let compound (command : Command) (rest : List Lexeme) :
        Except SyntaxFault (Command × List Lexeme) := do
      match ← takeRedirections fuel rest with
      | ([], rest) => return (command, rest)
      | (redirections, rest) => return (.under line command redirections, rest)
    match lexemes with
    | [] => unexpected lexemes
    | ⟨token, _⟩ :: rest =>
      match token, token.reserved? with
      | .operator "(", _ =>
        let (body, rest) ← readList .body [] fuel rest
        compound (.subshell line body) (← takeOperator ")" rest)
      | _, some "\x7b" =>
        let (body, rest) ← readList .body [] fuel rest
        compound body (← takeReserved "\x7d" rest)
      | _, some "if" =>
        let (choice, rest) ← readChoice fuel rest
        compound choice rest
      | _, some "while" =>
        let (condition, body, rest) ← readLoop fuel rest
        compound (.loop line true condition body) rest
      | _, some "until" =>
        let (condition, body, rest) ← readLoop fuel rest
        compound (.loop line false condition body) rest
      | _, some "for" =>
        match rest with
        | ⟨.word word, _⟩ :: behind =>
          let name := (word.text?.filter isName).getD []
          if name.isEmpty || word.isQuoted then
            faultAt rest "Bad for loop variable"
          else do
            let (words, rest) ← readItems behind
            let rest ← takeReserved "do" (skipNewlines rest)
            let (body, rest) ← readList .body [] fuel rest
            compound (.forEach line (String.ofList name) words body) (← takeReserved "done" rest)
        | ⟨.faulty fault, line⟩ :: _ => unexpected [⟨.faulty fault, line⟩]
        | _ => faultAt rest "Bad for loop variable"
      | _, some "case" =>
        match rest with
        | ⟨.word word, _⟩ :: rest =>
          let rest ← takeReserved "in" (skipNewlines rest)
          let (clauses, rest) ← readClauses fuel (skipNewlines rest)
          compound (.select line word clauses) rest
        | _ => unexpected rest (some "word")
      | .word _, none | .redirect _ _, none =>
        let ((assignments, words, redirections), rest) ← takeSimple (lexemes.length + 1) lexemes
        match assignments, words, redirections, rest with
        | [], [word], [], ⟨.operator "(", _⟩ :: rest =>
          let rest ← takeClosing rest
          let name := (word.text?.filter isName).getD []
          if name.isEmpty || specialNames.contains (String.ofList name) then
            faultAt rest "Bad function name"
          else do
            let (body, rest) ← readCommand fuel (skipNewlines rest)
            return (.define (String.ofList name) body, rest)
        | _, _, _, _ => return (.simple line assignments words redirections, rest)
      | _, _ => unexpected lexemes

/-- Reads a choice behind the word that begins it. -/
def readChoice : Nat → Reader Command
  | 0, lexemes => unexpected lexemes
  | fuel + 1, lexemes => do
    let (condition, rest) ← readList .body [] fuel lexemes
    let rest ← takeReserved "then" rest
    let (holds, rest) ← readList .body [] fuel rest
    match (rest.head?.map Lexeme.token).bind Token.reserved? with
    | some "elif" =>
      let (otherwise, rest) ← readChoice fuel (rest.drop 1)
      return (.choose condition holds otherwise, rest)
    | some "else" =>
      let (otherwise, rest) ← readList .body [] fuel (rest.drop 1)
      return (.choose condition holds otherwise, ← takeReserved "fi" rest)
    | _ => return (.choose condition holds .skip, ← takeReserved "fi" rest)

/-- Reads the condition and the body of a loop. -/
def readLoop : Nat → List Lexeme → Except SyntaxFault (Command × Command × List Lexeme)
  | 0, lexemes => unexpected lexemes
  | fuel + 1, lexemes => do
    let (condition, rest) ← readList .body [] fuel lexemes
    let rest ← takeReserved "do" rest
    let (body, rest) ← readList .body [] fuel rest
    return (condition, body, ← takeReserved "done" rest)

/-- Reads the clauses of a selection and the word that ends it. -/
def readClauses : Nat → Reader (List (List Word × Command))
  | 0, lexemes => unexpected lexemes
  | fuel + 1, lexemes => do
    match lexemes with
    | ⟨token, line⟩ :: rest =>
      if token.is "esac" then
        return ([], rest)
      else
        let lexemes := if token == .operator "(" then rest else ⟨token, line⟩ :: rest
        match lexemes with
        | ⟨.word word, _⟩ :: rest =>
          let (patterns, rest) ← takePatterns fuel rest
          let rest ← takeOperator ")" rest
          let (body, rest) ← readList .clause [] fuel rest
          match skipNewlines rest with
          | ⟨.operator ";;", _⟩ :: rest =>
            let (clauses, rest) ← readClauses fuel (skipNewlines rest)
            return ((word :: patterns, body) :: clauses, rest)
          | ⟨token, line⟩ :: rest =>
            if token.is "esac" then
              return ([(word :: patterns, body)], rest)
            else
              unexpected (⟨token, line⟩ :: rest) (some "\";;\"")
          | [] => unexpected []
        | lexemes => unexpected lexemes (some "\")\"")
    | [] => unexpected []

/-- Reads commands joined by pipes. -/
def readPipeline : Nat → Reader Command
  | 0, lexemes => unexpected lexemes
  | fuel + 1, lexemes => do
    match lexemes with
    | ⟨token, _⟩ :: rest =>
      if token.is "!" then
        let (body, rest) ← readPiped fuel rest
        return (.negated body, rest)
      else
        readPiped fuel lexemes
    | [] => unexpected []

/-- Reads commands joined by pipes, behind a negation. -/
def readPiped : Nat → Reader Command
  | 0, lexemes => unexpected lexemes
  | fuel + 1, lexemes => do
    let (first, rest) ← readCommand fuel lexemes
    match rest with
    | ⟨.operator "|", _⟩ :: rest =>
      let (second, rest) ← readPiped fuel (skipNewlines rest)
      return (.pipe first second, rest)
    | rest => return (first, rest)

/-- Reads pipelines that run one after the other, depending on how the earlier ones ended. -/
def readConditional (first : Command) : Nat → Reader Command
  | 0, lexemes => unexpected lexemes
  | fuel + 1, lexemes => do
    match lexemes with
    | ⟨.operator "&&", _⟩ :: rest =>
      let (second, rest) ← readPipeline fuel (skipNewlines rest)
      readConditional (.both first second) fuel rest
    | ⟨.operator "||", _⟩ :: rest =>
      let (second, rest) ← readPipeline fuel (skipNewlines rest)
      readConditional (.either first second) fuel rest
    | lexemes => return (first, lexemes)

/-- Reads a list of commands behind those of it that are `read` already, the latest first. -/
def readList (place : ListPlace) (read : List Command) : Nat → Reader Command
  | 0, lexemes => unexpected lexemes
  | fuel + 1, lexemes => do
    let lexemes := if place = .line then lexemes else skipNewlines lexemes
    match lexemes with
    | [] => unexpected []
    | ⟨.newline, _⟩ :: rest => return (.all read.reverse, rest)
    | ⟨.finish, line⟩ :: rest => return (.all read.reverse, ⟨.finish, line⟩ :: rest)
    | ⟨token, line⟩ :: behind =>
      let lexemes := ⟨token, line⟩ :: behind
      if (place = .clause || place = .body && !read.isEmpty) && token.closes then
        return (.all read.reverse, lexemes)
      else do
        let (first, rest) ← readPipeline fuel lexemes
        let (first, rest) ← readConditional first fuel rest
        match rest with
        | ⟨.operator "&", _⟩ :: rest => readList place (.background first :: read) fuel rest
        | ⟨.operator ";", _⟩ :: rest => readList place (first :: read) fuel rest
        | ⟨.newline, line⟩ :: rest =>
          readList place (first :: read) fuel (⟨.newline, line⟩ :: rest)
        | ⟨.finish, line⟩ :: rest =>
          return (.all (first :: read).reverse, ⟨.finish, line⟩ :: rest)
        | rest =>
          if place = .line then unexpected rest
          else return (.all (first :: read).reverse, rest)

end

/-- Reads the commands of one line. -/
def readLine (lexemes : List Lexeme) : Except SyntaxFault (Command × List Lexeme) :=
  readList .line [] (6 * lexemes.length + 8) lexemes

end GridRules.Shell
