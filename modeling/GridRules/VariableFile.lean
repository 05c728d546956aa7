import GridRules.Text.Classes
import GridRules.Json.Reading

/-!
# Files of variables

A file of variables has one assignment `NAME=value` on a line, with an optional `export` before it
and an optional comment behind it. A value between quotes may go on over several lines. References
to other variables in a value are replaced by their values. A line that is no assignment is passed
over.
-/

namespace GridRules.VariableFile

/-- The ends of lines. -/
def isNewline (c : Char) : Bool :=
  c == '\n' || c == '\r'

/-- Blanks within a line. -/
def isInlineBlank (c : Char) : Bool :=
  Text.isBlank c && !isNewline c

/-- The text without the blanks within a line at its front. -/
def skipInline (text : List Char) : List Char :=
  text.dropWhile isInlineBlank

/-- Takes an optional `export` with a blank behind it. -/
def skipExport (text : List Char) : List Char :=
  if "export".toList.isPrefixOf text then
    let rest := text.drop 6
    if (rest.head?.map isInlineBlank).getD false then skipInline rest else text
  else
    text

/-- The name at the front of an assignment: none for a comment. A text without a name is returned as
it is. -/
def takeKey (text : List Char) : Except (List Char) (Option (List Char) × List Char) :=
  match text with
  | '#' :: _ => .ok (none, text)
  | '\'' :: rest =>
    let key := rest.takeWhile (· != '\'')
    match rest.dropWhile (· != '\'') with
    | '\'' :: rest => if key.isEmpty then .error text else .ok (some key, rest)
    | _ => .error text
  | text =>
    let stops (c : Char) : Bool := c == '=' || c == '#' || Text.isBlank c
    let key := text.takeWhile (!stops ·)
    if key.isEmpty then .error text else .ok (some key, text.dropWhile (!stops ·))

/-- The text up to a closing quote, and what follows the quote. A backslash belongs to the character
behind it, which closes nothing. -/
def takeQuoted (quote : Char) : List Char → Option (List Char × List Char)
  | [] => none
  | ['\\'] => none
  | '\\' :: c :: rest => (takeQuoted quote rest).map fun (taken, rest) => ('\\' :: c :: taken, rest)
  | c :: rest =>
    if c == quote then some ([], rest)
    else (takeQuoted quote rest).map fun (taken, rest) => (c :: taken, rest)

/-- The text with the escaped characters between single quotes put in their place. -/
def unescapeSingle : List Char → List Char
  | '\\' :: c :: rest =>
    if c == '\\' || c == '\'' then c :: unescapeSingle rest else '\\' :: unescapeSingle (c :: rest)
  | c :: rest => c :: unescapeSingle rest
  | [] => []

/-- The character that a letter behind a backslash stands for between double quotes. -/
def doubleEscape? : Char → Option Char
  | '\\' => some '\\'
  | '\'' => some '\''
  | '"' => some '"'
  | 'a' => some '\x07'
  | 'b' => some '\x08'
  | 'f' => some '\x0c'
  | 'n' => some '\n'
  | 'r' => some '\r'
  | 't' => some '\t'
  | 'v' => some '\x0b'
  | _ => none

/-- The text with the escaped characters between double quotes put in their place. -/
def unescapeDouble : List Char → List Char
  | '\\' :: c :: rest =>
    match doubleEscape? c with
    | some escaped => escaped :: unescapeDouble rest
    | none => '\\' :: unescapeDouble (c :: rest)
  | c :: rest => c :: unescapeDouble rest
  | [] => []

/-- The text up to the first blanks with a number sign behind them. -/
def beforeComment (text : List Char) : List Char :=
  match text with
  | [] => []
  | c :: rest =>
    if Text.isBlank c && (rest.dropWhile Text.isBlank).head? == some '#' then []
    else c :: beforeComment rest

/-- The value at the front of the part behind an equals sign, and what follows it. A text that
begins with a quote that is not closed is returned as it is. -/
def takeValue (text : List Char) : Except (List Char) (List Char × List Char) :=
  let quoted (quote : Char) (unescape : List Char → List Char) (rest : List Char) :
      Except (List Char) (List Char × List Char) :=
    match takeQuoted quote rest with
    | some (taken, rest) => .ok (unescape taken, rest)
    | none => .error text
  match skipInline text with
  | '\'' :: rest => quoted '\'' unescapeSingle rest
  | '"' :: rest => quoted '"' unescapeDouble rest
  | _ =>
    let line := text.takeWhile (!isNewline ·)
    .ok (Text.trimBlanks (beforeComment line), text.dropWhile (!isNewline ·))

/-- The text behind a comment and the end of the line. A text that goes on otherwise is returned as
it is. -/
def takeLineEnd (text : List Char) : Except (List Char) (List Char) :=
  let behind := if (skipInline text).head? == some '#' then text.dropWhile (!isNewline ·) else text
  match skipInline behind with
  | [] => .ok []
  | '\r' :: '\n' :: rest => .ok rest
  | c :: rest => if isNewline c then .ok rest else .error behind

/-- The rest of a text behind its first line. -/
def dropLine (text : List Char) : List Char :=
  match text.dropWhile (!isNewline ·) with
  | '\r' :: '\n' :: rest => rest
  | _ :: rest => rest
  | [] => []

/-- A name with the value that is assigned to it; without an equals sign there is no value. -/
structure Binding where
  name : List Char
  value : Option (List Char)
deriving Repr, DecidableEq

/-- The assignment on the line at the front, if it has a name, and what follows it. Of a malformed
one the part is returned that was not taken. -/
def takeBinding (text : List Char) : Except (List Char) (Option Binding × List Char) := do
  let (name, rest) ← takeKey (skipExport text)
  let rest := skipInline rest
  match rest with
  | '=' :: rest =>
    let (value, rest) ← takeValue rest
    let rest ← takeLineEnd rest
    return (name.map fun name => ⟨name, some value⟩, rest)
  | rest =>
    let rest ← takeLineEnd rest
    return (name.map fun name => ⟨name, none⟩, rest)

/-- The assignments of a text in their order. What remains of a line after a malformed assignment is
passed over. -/
def bindings : Nat → List Char → List Binding
  | 0, _ => []
  | fuel + 1, text =>
    let text := text.dropWhile Text.isBlank
    if text.isEmpty then
      []
    else
      match takeBinding text with
      | .ok (some binding, rest) => binding :: bindings fuel rest
      | .ok (none, rest) => bindings fuel rest
      | .error rest => bindings fuel (dropLine rest)

/-- The text with references to variables replaced. A reference may name what stands for a variable
that is not set. -/
def expand (lookup : String → Option String) : Nat → List Char → List Char
  | 0, text => text
  | _, [] => []
  | fuel + 1, '$' :: '{' :: rest =>
    let name := rest.takeWhile fun c => c != '}' && c != ':'
    match rest.dropWhile fun c => c != '}' && c != ':' with
    | '}' :: after => ((lookup (String.ofList name)).getD "").toList ++ expand lookup fuel after
    | ':' :: '-' :: after =>
      let fallback := after.takeWhile (· != '}')
      match after.dropWhile (· != '}') with
      | '}' :: after =>
        ((lookup (String.ofList name)).map String.toList).getD fallback ++ expand lookup fuel after
      | _ => '$' :: expand lookup fuel ('{' :: rest)
    | _ => '$' :: expand lookup fuel ('{' :: rest)
  | fuel + 1, c :: rest => c :: expand lookup fuel rest

/-- The text without a byte order mark at its front. -/
def dropMark : List Char → List Char
  | '\ufeff' :: text => text
  | text => text

/-- The variables that a text sets, each with its last value, given those that are set already,
which go before. A name without a value is one that the text does not set. -/
def assignments (text : String) (outer : String → Option String) : List (String × String) :=
  let found : List (String × Option String) :=
    (bindings (text.length + 1) (dropMark text.toList)).foldl (fun found binding =>
      let lookup (name : String) : Option String :=
        match outer name, found.reverse.lookup name with
        | some value, _ => some value
        | none, some value => some (value.getD "")
        | none, none => none
      let value := binding.value.map fun value =>
        String.ofList (expand lookup (value.length + 1) value)
      found ++ [(String.ofList binding.name, value)]) []
  found.filterMap fun (name, _) =>
    ((found.reverse.lookup name).getD none).map fun value => (name, value)

end GridRules.VariableFile
