/-!
# Words of a shell script

A word is a sequence of parts: text, parameters, the output of scripts and sums. Parts between
quotes are kept as they are; the values of the others may be split into several words. Scripts and
sums are kept as texts, which are read when the word is expanded.
-/

namespace GridRules.Shell

/-- What is put in the place of a parameter, depending on its value. An empty value counts as none
where `whenEmpty` says so. -/
inductive Change where
  | plain
  | length
  | orElse (whenEmpty : Bool)
  | orAssign (whenEmpty : Bool)
  | orFail (whenEmpty : Bool)
  | andThen (whenEmpty : Bool)
  | cutFront (longest : Bool)
  | cutBack (longest : Bool)
deriving Repr, Inhabited, DecidableEq

/-- A part of a word. -/
inductive Part where
  | text (quoted : Bool) (chars : List Char)
  | parameter (quoted : Bool) (name : String) (change : Change) (argument : List Char)
  | output (quoted : Bool) (script : List Char)
  | sum (quoted : Bool) (expression : List Char)
  | meaningless
deriving Repr, Inhabited, DecidableEq

/-- A word before its parts are replaced. -/
abbrev Word := List Part

/-- The reasons for which a text does not begin with a word. -/
inductive WordFault where
  | openQuote
  | openBrace
  | openOutput
  | openBackquote
  | openSum
deriving Repr, DecidableEq

/-- The wording of the reasons for which a text does not begin with a word. -/
def WordFault.message : WordFault → String
  | .openQuote => "Unterminated quoted string"
  | .openBrace => "Missing '\x7d'"
  | .openOutput => "end of file unexpected (expecting \")\")"
  | .openBackquote => "EOF in backquote substitution"
  | .openSum => "Missing '))'"

/-! ### Characters -/

/-- The mark around a script whose output is meant. -/
def backquote : Char := '\x60'

/-- Whether a character can begin a name. -/
def isNameStart (c : Char) : Bool :=
  c.isAlpha || c == '_'

/-- Whether a character can go on with a name. -/
def isNamePart (c : Char) : Bool :=
  c.isAlphanum || c == '_'

/-- Whether a text is a name. -/
def isName (text : List Char) : Bool :=
  (text.head?.map isNameStart).getD false && text.all isNamePart

/-- Whether a character is the name of a parameter by itself. -/
def isSpecialParameter (c : Char) : Bool :=
  "@*#?-$!".toList.contains c || c.isDigit

/-- Whether a backslash between double quotes escapes a character. -/
def escapedInQuotes (c : Char) : Bool :=
  c == '$' || c == '"' || c == '\\' || c == backquote

/-- Whether a backslash in a here-document escapes a character. -/
def escapedInDocument (c : Char) : Bool :=
  c == '$' || c == '\\' || c == backquote

/-- Whether a character ends a word. -/
def endsWord (c : Char) : Bool :=
  " \t\n;&|()<>".toList.contains c

/-! ### Enclosed texts -/

/-- Whether a single quote opens a quoted text, given the closing marks that are awaited. Between
double quotes it does not, unless a script has begun since. -/
def singleQuoteOpens (quoted : Bool) : List Char → Bool
  | [] => !quoted
  | '"' :: _ => false
  | ')' :: _ => true
  | _ :: awaited => singleQuoteOpens quoted awaited

/-- The text up to the mark that closes the last of the `awaited` ones, and what follows it. -/
def takeEnclosed (quoted : Bool) : List Char → List Char → Option (List Char × List Char)
  | [], text => some ([], text)
  | _ :: _, [] => none
  | closing :: awaited, c :: rest =>
    let goOn (awaited : List Char) : Option (List Char × List Char) :=
      (takeEnclosed quoted awaited rest).map fun (text, rest) => (c :: text, rest)
    if c == closing then
      if awaited.isEmpty then some ([], rest) else goOn awaited
    else if c == '\\' && closing != '\'' then
      match rest with
      | d :: after =>
        (takeEnclosed quoted (closing :: awaited) after).map fun (text, rest) =>
          (c :: d :: text, rest)
      | [] => none
    else if closing == '\'' || closing == backquote then
      goOn (closing :: awaited)
    else if c == '\'' && singleQuoteOpens quoted (closing :: awaited) then
      goOn ('\'' :: closing :: awaited)
    else if c == '"' || c == backquote then
      goOn (c :: closing :: awaited)
    else if c == '(' && closing == ')' then
      goOn (')' :: closing :: awaited)
    else if c == '$' then
      match rest with
      | '{' :: after =>
        (takeEnclosed quoted ('}' :: closing :: awaited) after).map fun (text, rest) =>
          (c :: '{' :: text, rest)
      | '(' :: after =>
        (takeEnclosed quoted (')' :: closing :: awaited) after).map fun (text, rest) =>
          (c :: '(' :: text, rest)
      | _ => goOn (closing :: awaited)
    else
      goOn (closing :: awaited)

/-- The text up to the next backquote, without the backslashes that escape characters in it, and
what follows the backquote. -/
def takeBackquoted (quoted : Bool) : List Char → Option (List Char × List Char)
  | [] => none
  | '\\' :: c :: rest =>
    let escaped := c == backquote || c == '\\' || c == '$' || quoted && c == '"'
    (takeBackquoted quoted rest).map fun (text, rest) =>
      (if escaped then (c :: text, rest) else ('\\' :: c :: text, rest))
  | c :: rest =>
    if c == backquote then some ([], rest)
    else (takeBackquoted quoted rest).map fun (text, rest) => (c :: text, rest)

/-! ### Parameters -/

/-- The name of a parameter at the front of a text, and what follows it. -/
def takeParameterName : List Char → List Char × List Char
  | [] => ([], [])
  | c :: rest =>
    if isNameStart c then ((c :: rest).takeWhile isNamePart, (c :: rest).dropWhile isNamePart)
    else if c.isDigit then
      ((c :: rest).takeWhile Char.isDigit, (c :: rest).dropWhile Char.isDigit)
    else if isSpecialParameter c then ([c], rest)
    else ([], c :: rest)

/-- The change that a text behind the name of a parameter asks for, with its argument. -/
def change? : List Char → Option (Change × List Char)
  | [] => some (.plain, [])
  | ':' :: '-' :: rest => some (.orElse true, rest)
  | ':' :: '=' :: rest => some (.orAssign true, rest)
  | ':' :: '?' :: rest => some (.orFail true, rest)
  | ':' :: '+' :: rest => some (.andThen true, rest)
  | '-' :: rest => some (.orElse false, rest)
  | '=' :: rest => some (.orAssign false, rest)
  | '?' :: rest => some (.orFail false, rest)
  | '+' :: rest => some (.andThen false, rest)
  | '#' :: '#' :: rest => some (.cutFront true, rest)
  | '#' :: rest => some (.cutFront false, rest)
  | '%' :: '%' :: rest => some (.cutBack true, rest)
  | '%' :: rest => some (.cutBack false, rest)
  | _ => none

/-- The parameter that a text between braces describes. -/
def parameterPart (quoted : Bool) (text : List Char) : Part :=
  let ofName (text : List Char) : Part :=
    match takeParameterName text with
    | ([], _) => .meaningless
    | (name, rest) =>
      match change? rest with
      | some (change, argument) => .parameter quoted (String.ofList name) change argument
      | none => .meaningless
  match text with
  | '#' :: c :: rest =>
    match takeParameterName (c :: rest) with
    | (d :: name, []) => .parameter quoted (String.ofList (d :: name)) .length []
    | _ => ofName text
  | text => ofName text

/-- The part that a dollar sign begins, read behind that sign, and what follows it; none if the sign
stands for itself. -/
def takeDollar (quoted : Bool) (text : List Char) : Except WordFault (Option (Part × List Char)) :=
  match text with
  | '{' :: rest =>
    match takeEnclosed quoted ['}'] rest with
    | some (inner, rest) => .ok (some (parameterPart quoted inner, rest))
    | none => .error (if quoted then .openQuote else .openBrace)
  | '(' :: '(' :: rest =>
    match takeEnclosed quoted [')'] rest with
    | some (inner, ')' :: rest) => .ok (some (.sum quoted inner, rest))
    | _ => .error .openSum
  | '(' :: rest =>
    match takeEnclosed false [')'] rest with
    | some (script, rest) => .ok (some (.output quoted script, rest))
    | none => .error .openOutput
  | c :: rest =>
    if isSpecialParameter c then
      .ok (some (.parameter quoted (String.singleton c) .plain [], rest))
    else
      match takeParameterName text with
      | ([], _) => .ok none
      | (name, rest) => .ok (some (.parameter quoted (String.ofList name) .plain [], rest))
  | [] => .ok none

/-- The part that a dollar sign or a backquote begins, and what follows it. -/
def takeReplaced (quoted : Bool) (c : Char) (rest : List Char) :
    Except WordFault (Part × List Char) :=
  if c == backquote then
    match takeBackquoted quoted rest with
    | some (script, rest) => .ok (.output quoted script, rest)
    | none => .error .openBackquote
  else do
    match ← takeDollar quoted rest with
    | some found => return found
    | none => return (.text quoted [c], rest)

/-! ### Words -/

/-- The parts of a text in which only dollar signs, backquotes and the backslashes before characters
that `escapes` names have a meaning, up to the first character that `stops` names; and what
follows. -/
def takeExpanded (escapes stops : Char → Bool) :
    Nat → List Char → Except WordFault (Word × List Char)
  | 0, text => .ok ([], text)
  | _, [] => .ok ([], [])
  | fuel + 1, c :: rest =>
    if stops c then
      .ok ([], c :: rest)
    else if c == '\\' then
      match rest with
      | '\n' :: rest => takeExpanded escapes stops fuel rest
      | d :: after =>
        if escapes d then do
          let (parts, left) ← takeExpanded escapes stops fuel after
          return (.text true [d] :: parts, left)
        else do
          let (parts, left) ← takeExpanded escapes stops fuel rest
          return (.text true ['\\'] :: parts, left)
      | [] => .ok ([.text true ['\\']], [])
    else if c == '$' || c == backquote then do
      let (part, after) ← takeReplaced true c rest
      let (parts, left) ← takeExpanded escapes stops fuel after
      return (part :: parts, left)
    else do
      let (parts, left) ← takeExpanded escapes stops fuel rest
      return (.text true [c] :: parts, left)

/-- Takes a word up to the first character outside quotes that `stops` names. -/
def takeWord (stops : Char → Bool) : Nat → List Char → Except WordFault (Word × List Char)
  | 0, text => .ok ([], text)
  | _, [] => .ok ([], [])
  | fuel + 1, c :: rest =>
    if stops c then
      .ok ([], c :: rest)
    else if c == '\'' then
      match rest.dropWhile (· != '\'') with
      | _ :: after => do
        let (parts, left) ← takeWord stops fuel after
        return (.text true (rest.takeWhile (· != '\'')) :: parts, left)
      | [] => .error .openQuote
    else if c == '"' then do
      match ← takeExpanded escapedInQuotes (· == '"') (rest.length + 1) rest with
      | (quoted, _ :: after) => do
        let (parts, left) ← takeWord stops fuel after
        return (.text true [] :: quoted ++ parts, left)
      | (_, []) => throw .openQuote
    else if c == '\\' then
      match rest with
      | '\n' :: after => takeWord stops fuel after
      | d :: after => do
        let (parts, left) ← takeWord stops fuel after
        return (.text true [d] :: parts, left)
      | [] => .ok ([.text true ['\\']], [])
    else if c == '$' || c == backquote then do
      let (part, after) ← takeReplaced false c rest
      let (parts, left) ← takeWord stops fuel after
      return (part :: parts, left)
    else do
      let (parts, left) ← takeWord stops fuel rest
      return (.text false [c] :: parts, left)

/-- The word that the whole of a text writes, as it stands between double quotes; further double
quotes in it are left out. -/
def Word.ofQuoted (text : List Char) : Word :=
  let rec pieces (fuel : Nat) (text : List Char) : Word :=
    match fuel with
    | 0 => []
    | fuel + 1 =>
      match takeExpanded escapedInQuotes (· == '"') (text.length + 1) text with
      | .ok (word, _ :: rest) => word ++ pieces fuel rest
      | .ok (word, []) => word
      | .error _ => [.meaningless]
  pieces (text.length + 1) text

/-- The word that the whole of a text writes, as it stands outside quotes. -/
def Word.ofPlain (text : List Char) : Word :=
  match takeWord (fun _ => false) (text.length + 1) text with
  | .ok (word, _) => word
  | .error _ => [.meaningless]

/-- The word that the content of a here-document writes. -/
def Word.ofDocument (text : List Char) : Word :=
  match takeExpanded escapedInDocument (fun _ => false) (text.length + 1) text with
  | .ok (word, _) => word
  | .error _ => [.meaningless]

/-- Whether a part of a word is quoted. -/
def Word.isQuoted (word : Word) : Bool :=
  word.any fun
    | .text quoted _ => quoted
    | .parameter quoted _ _ _ => quoted
    | .output quoted _ => quoted
    | .sum quoted _ => quoted
    | .meaningless => false

/-- The text of a word that consists of text. -/
def Word.text? : Word → Option (List Char)
  | [] => some []
  | .text _ chars :: parts => (Word.text? parts).map (chars ++ ·)
  | _ => none

end GridRules.Shell
