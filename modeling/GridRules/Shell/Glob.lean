/-!
# Patterns of the shell

A pattern is a sequence of characters of which some stand for others: a question mark for any
character, a star for any text, and characters between brackets for any one of them.
-/

namespace GridRules.Shell

/-- What stands for one character or for a text. -/
inductive GlobItem where
  | only (c : Char)
  | anyChar
  | anyText
  | oneOf (inside : Bool) (ranges : List (Char × Char))
deriving Repr, Inhabited, DecidableEq

/-- The names of the classes of characters that may stand between brackets, with their ranges. -/
def classRanges : List (String × List (Char × Char)) :=
  [("alpha", [('a', 'z'), ('A', 'Z')]), ("digit", [('0', '9')]),
    ("alnum", [('a', 'z'), ('A', 'Z'), ('0', '9')]), ("upper", [('A', 'Z')]),
    ("lower", [('a', 'z')]), ("space", [(' ', ' '), ('\t', '\r')]),
    ("blank", [(' ', ' '), ('\t', '\t')]),
    ("punct", [('!', '/'), (':', '@'), ('[', '\x60'), ('\x7b', '~')]),
    ("xdigit", [('0', '9'), ('a', 'f'), ('A', 'F')])]

/-- The ranges between brackets, read behind the opening one, and what follows the closing one. The
characters come with whether they are quoted; a closing bracket at the very front is an ordinary
character. -/
def takeRanges (isFirst : Bool) :
    Nat → List (Char × Bool) → Option (List (Char × Char) × List (Char × Bool))
  | 0, _ => none
  | _, [] => none
  | fuel + 1, (']', false) :: rest =>
    if isFirst then
      (takeRanges false fuel rest).map fun (ranges, rest) => ((']', ']') :: ranges, rest)
    else
      some ([], rest)
  | fuel + 1, ('[', false) :: (':', false) :: rest =>
    let name := (rest.takeWhile (·.1 != ':')).map Prod.fst
    match rest.drop name.length with
    | _ :: (']', false) :: rest =>
      (takeRanges false fuel rest).map fun (ranges, rest) =>
        ((classRanges.lookup (String.ofList name)).getD [] ++ ranges, rest)
    | _ => none
  | fuel + 1, (low, _) :: ('-', false) :: (high, quoted) :: rest =>
    if high == ']' && !quoted then
      (takeRanges false fuel (('-', false) :: (high, quoted) :: rest)).map fun (ranges, rest) =>
        ((low, low) :: ranges, rest)
    else
      (takeRanges false fuel rest).map fun (ranges, rest) => ((low, high) :: ranges, rest)
  | fuel + 1, (c, _) :: rest =>
    (takeRanges false fuel rest).map fun (ranges, rest) => ((c, c) :: ranges, rest)

/-- The pattern that characters write; quoted ones stand for themselves. -/
def globOf : Nat → List (Char × Bool) → List GlobItem
  | 0, _ => []
  | _, [] => []
  | fuel + 1, (c, quoted) :: rest =>
    if quoted then .only c :: globOf fuel rest
    else if c == '?' then .anyChar :: globOf fuel rest
    else if c == '*' then .anyText :: globOf fuel rest
    else if c == '\\' then
      match rest with
      | (d, _) :: rest => .only d :: globOf fuel rest
      | [] => [.only c]
    else if c == '[' then
      let (outside, inner) :=
        match rest with
        | ('!', false) :: inner => (true, inner)
        | inner => (false, inner)
      match takeRanges true (inner.length + 1) inner with
      | some (ranges, rest) => .oneOf (!outside) ranges :: globOf fuel rest
      | none => .only c :: globOf fuel rest
    else .only c :: globOf fuel rest

/-- Whether a pattern stands for a text. -/
def globMatches : List GlobItem → List Char → Bool
  | [], text => text.isEmpty
  | .anyText :: items, text =>
    (List.range (text.length + 1)).any fun n => globMatches items (text.drop n)
  | _ :: _, [] => false
  | .only c :: items, d :: text => c == d && globMatches items text
  | .anyChar :: items, _ :: text => globMatches items text
  | .oneOf inside ranges :: items, d :: text =>
    (ranges.any (fun (low, high) => low ≤ d && d ≤ high) == inside) && globMatches items text

/-- A text without its shortest or longest beginning for which a pattern stands. -/
def cutFront (longest : Bool) (items : List GlobItem) (text : List Char) : List Char :=
  let lengths := List.range (text.length + 1)
  let lengths := if longest then lengths.reverse else lengths
  match lengths.find? fun n => globMatches items (text.take n) with
  | some n => text.drop n
  | none => text

/-- A text without its shortest or longest end for which a pattern stands. -/
def cutBack (longest : Bool) (items : List GlobItem) (text : List Char) : List Char :=
  let lengths := List.range (text.length + 1)
  let lengths := if longest then lengths else lengths.reverse
  match lengths.find? fun n => globMatches items (text.drop n) with
  | some n => text.take n
  | none => text

end GridRules.Shell
