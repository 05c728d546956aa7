import GridRules.Shell.Word

/-!
# Tokens of a shell script

A script is a sequence of words, operators, redirections and line ends. Each token knows the line on
which its reading ended. The contents of here-documents stand behind the line that asks for them and
are put in the places of their delimiters. A text that cannot be read becomes a faulty token, so
that the lines before it can still run.
-/

namespace GridRules.Shell

/-- The kinds of tokens. -/
inductive Token where
  | word (word : Word)
  | operator (text : String)
  | newline
  | redirect (descriptor : Option Nat) (operator : String)
  | document (content : Word)
  | finish
  | faulty (fault : WordFault)
deriving Repr, Inhabited, DecidableEq

/-- A token with its line. -/
structure Lexeme where
  token : Token
  line : Nat
deriving Repr, Inhabited, DecidableEq

/-- The operators that control commands, with each one before those that it starts with. -/
def controls : List String := ["&&", "||", ";;", ";", "&", "|", "(", ")"]

/-- The operators of redirections, with each one before those that it starts with. -/
def redirects : List String := ["<<-", "<<", "<>", ">>", ">&", "<&", "<", ">|", ">"]

/-- An operator at the front of a text. -/
def operatorAt? (operators : List String) (text : List Char) : Option String :=
  operators.find? fun operator => operator.toList.isPrefixOf text

/-- The number of line ends in the part of a text that was taken off to leave the rest. -/
def linesBetween (text rest : List Char) : Nat :=
  (text.take (text.length - rest.length)).count '\n'

/-! ### Here-documents -/

/-- A here-document whose content is still to come. -/
structure Pending where
  delimiter : Word
  dropTabs : Bool

/-- The lines up to one that equals the delimiter, and what follows that line. -/
def takeDocument (delimiter : List Char) (dropTabs : Bool) : Nat → List Char → List Char × List Char
  | 0, text => ([], text)
  | _, [] => ([], [])
  | fuel + 1, text =>
    let line := text.takeWhile (· != '\n')
    let behind := text.dropWhile (· != '\n')
    let line := if dropTabs then line.dropWhile (· == '\t') else line
    if line == delimiter then
      ([], behind.drop 1)
    else
      let (content, left) := takeDocument delimiter dropTabs fuel (behind.drop 1)
      (line ++ behind.take 1 ++ content, left)

/-- Takes the contents of the pending here-documents. -/
def takeDocuments : List Pending → List Char → List Word × List Char
  | [], text => ([], text)
  | pending :: others, text =>
    let (content, rest) :=
      takeDocument (pending.delimiter.text?.getD []) pending.dropTabs (text.length + 1) text
    let word :=
      if pending.delimiter.isQuoted then [.text true content] else Word.ofDocument content
    let (words, rest) := takeDocuments others rest
    (word :: words, rest)

/-- The tokens with the contents of here-documents put in their places. -/
def fillDocuments : List Lexeme → List Word → List Lexeme
  | [], _ => []
  | ⟨.document _, line⟩ :: lexemes, word :: words =>
    ⟨.document word, line⟩ :: fillDocuments lexemes words
  | lexeme :: lexemes, words => lexeme :: fillDocuments lexemes words

/-! ### Scripts -/

/-- The descriptor and the operator of a redirection at the front of a text, and what follows them.
One digit may stand before the operator. -/
def takeRedirect : List Char → Option (Option Nat × String × List Char)
  | [] => none
  | c :: rest =>
    if c.isDigit then
      (operatorAt? redirects rest).map fun operator =>
        (some (c.toNat - '0'.toNat), operator, rest.drop operator.length)
    else
      (operatorAt? redirects (c :: rest)).map fun operator =>
        (none, operator, (c :: rest).drop operator.length)

/-- The tokens of a text that begins on line `number`. The `pending` here-documents begin at the
next line, and `line` holds the tokens of the present one in reverse order. -/
def lexemesFrom (pending : List Pending) (line : List Lexeme) (number : Nat) :
    Nat → List Char → List Lexeme
  | 0, _ => []
  | _, [] =>
    fillDocuments line.reverse (takeDocuments pending []).1 ++ [⟨.finish, number⟩]
  | fuel + 1, c :: rest =>
    let faulty (fault : WordFault) (text : List Char) : List Lexeme :=
      line.reverse ++ [⟨.faulty fault, number + text.count '\n'⟩]
    if c == ' ' || c == '\t' then
      lexemesFrom pending line number fuel rest
    else if c == '\\' && rest.head? == some '\n' then
      lexemesFrom pending line (number + 1) fuel (rest.drop 1)
    else if c == '\n' then
      let (words, after) := takeDocuments pending rest
      fillDocuments line.reverse words ++ ⟨.newline, number + 1⟩ ::
        lexemesFrom [] [] (number + 1 + linesBetween rest after) fuel after
    else if c == '#' then
      lexemesFrom pending line number fuel (rest.dropWhile (· != '\n'))
    else
      match takeRedirect (c :: rest) with
      | some (descriptor, operator, after) =>
        let line := ⟨.redirect descriptor operator, number⟩ :: line
        let after := after.dropWhile fun c => c == ' ' || c == '\t'
        if (operator == "<<" || operator == "<<-") && (after.head?.map endsWord) == some false then
          match takeWord endsWord (after.length + 1) after with
          | .ok (delimiter, after) =>
            lexemesFrom (pending ++ [⟨delimiter, operator == "<<-"⟩])
              (⟨.document [], number⟩ :: line) number fuel after
          | .error fault => faulty fault after
        else
          lexemesFrom pending line number fuel after
      | none =>
        match operatorAt? controls (c :: rest) with
        | some operator =>
          lexemesFrom pending (⟨.operator operator, number⟩ :: line) number fuel
            ((c :: rest).drop operator.length)
        | none =>
          match takeWord endsWord (rest.length + 2) (c :: rest) with
          | .ok (word, after) =>
            let number := number + linesBetween (c :: rest) after
            lexemesFrom pending (⟨.word word, number⟩ :: line) number fuel after
          | .error fault => faulty fault (c :: rest)

/-- The tokens of a script. -/
def lexemes (script : List Char) : List Lexeme :=
  lexemesFrom [] [] 1 (script.length + 2) script

end GridRules.Shell
