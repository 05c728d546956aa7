/-!
# Tags of YAML

A tag says what a node stands for. Where none is written, a plain scalar has the tag whose form its
text has, and otherwise that of texts.
-/

namespace GridRules.Yaml

/-- The tags with a meaning of their own, and all others by name. -/
inductive Tag where
  | null
  | bool
  | int
  | float
  | timestamp
  | binary
  | text
  | sequence
  | orderedMapping
  | pairs
  | mapping
  | set
  | merge
  | value
  | other (name : String)
deriving DecidableEq, Repr, Inhabited

namespace Tag

/-- What the names of the tags with a meaning begin with. -/
def namespaceText : String := "tag:yaml.org,2002:"

/-- The tags with a meaning, by the rest of their names. -/
def named : List (String × Tag) :=
  [("null", null), ("bool", bool), ("int", int), ("float", float), ("timestamp", timestamp),
    ("binary", binary), ("str", text), ("seq", sequence), ("omap", orderedMapping),
    ("pairs", pairs), ("map", mapping), ("set", set), ("merge", merge), ("value", value)]

/-- The tag with a name. -/
def ofName (name : String) : Tag :=
  match named.find? fun entry => namespaceText ++ entry.1 == name with
  | some entry => entry.2
  | none => other name

/-- The rest of the name of a tag with a meaning. -/
def name? (tag : Tag) : Option String :=
  (named.find? fun entry => entry.2 == tag).map Prod.fst

end Tag

/-! ### Forms of plain scalars -/

/-- The words for truth values. -/
def truthWords : List String :=
  ["yes", "Yes", "YES", "no", "No", "NO", "true", "True", "TRUE", "false", "False", "FALSE", "on",
    "On", "ON", "off", "Off", "OFF"]

/-- The forms of the null value. -/
def nullWords : List String :=
  ["", "~", "null", "Null", "NULL"]

/-- What follows the sign at the front of a number. -/
def dropSign : List Char → List Char
  | '-' :: rest => rest
  | '+' :: rest => rest
  | text => text

/-- Whether a text consists of characters of a class, with at least one. -/
def isRun (p : Char → Bool) (text : List Char) : Bool :=
  !text.isEmpty && text.all p

/-- The digits of numbers and the lines between them. -/
def isNumberPart (c : Char) : Bool :=
  c.isDigit || c == '_'

/-- Whether a text begins with a digit and goes on with digits and low lines. -/
def isNumberRun (text : List Char) : Bool :=
  (text.head?.map Char.isDigit).getD false && text.all isNumberPart

/-- Whether a text is a part of a number to the base sixty: one digit, or two below sixty. -/
def isSixtieth : List Char → Bool
  | [d] => d.isDigit
  | [d, e] => '0' ≤ d && d ≤ '5' && e.isDigit
  | _ => false

/-- The parts of a text between colons. -/
def colonParts : List Char → List (List Char)
  | [] => [[]]
  | c :: rest =>
    match colonParts rest with
    | [] => [[]]
    | part :: parts => if c == ':' then [] :: part :: parts else (c :: part) :: parts

/-- Whether a text is a number to the base sixty: a first part, and further ones behind colons. -/
def isSixties (text : List Char) : Bool :=
  match colonParts text with
  | first :: next :: parts => isNumberRun first && (next :: parts).all isSixtieth
  | _ => false

/-- Whether a text has the form of a whole number: binary, octal, decimal, hexadecimal or to the
base sixty. -/
def isWholeForm (text : List Char) : Bool :=
  match dropSign text with
  | ['0'] => true
  | '0' :: 'b' :: digits => isRun (fun c => c == '0' || c == '1' || c == '_') digits
  | '0' :: 'x' :: digits =>
    isRun (fun c => isNumberPart c || ('a' ≤ c && c ≤ 'f') || ('A' ≤ c && c ≤ 'F')) digits
  | '0' :: digits => isRun (fun c => ('0' ≤ c && c ≤ '7') || c == '_') digits
  | text => isNumberRun text || isSixties text

/-- Whether a text is a power of ten behind the digits of a number; it has a sign. -/
def isPower : List Char → Bool
  | [] => true
  | e :: sign :: digits =>
    (e == 'e' || e == 'E') && (sign == '-' || sign == '+') && isRun Char.isDigit digits
  | _ => false

/-- Whether a text has the form of a number with a decimal point. -/
def isRealForm (text : List Char) : Bool :=
  let magnitude := dropSign text
  let signed := magnitude.length < text.length
  let whole := magnitude.takeWhile (· != '.')
  match magnitude.dropWhile (· != '.') with
  | [] => false
  | _ :: rest =>
    let tail := rest.dropWhile isNumberPart
    (isNumberRun whole && isPower tail)
      || (whole.isEmpty && !signed && (rest.head?.map Char.isDigit).getD false && isPower tail)
      || (isSixties whole && tail.isEmpty)
      || (whole.isEmpty && ["inf", "Inf", "INF"].contains (String.ofList rest))
      || (whole.isEmpty && !signed && ["nan", "NaN", "NAN"].contains (String.ofList rest))

/-! ### Days and moments -/

/-- The parts of a day or a moment as they are written. -/
structure TimestampParts where
  year : List Char
  month : List Char
  day : List Char
  /-- Hour, minute, second and the digits behind the point of the second. -/
  time : Option (List Char × List Char × List Char × List Char) := none
  /-- Nothing, the common clock, or a sign with hours and minutes. -/
  zone : Option (Option (Char × List Char × List Char)) := none
deriving Repr, DecidableEq

/-- Takes digits off the front of a text, at least `least` and at most `most`. -/
def takeDigits (least most : Nat) (text : List Char) : Option (List Char × List Char) :=
  let digits := (text.take most).takeWhile Char.isDigit
  if least ≤ digits.length then some (digits, text.drop digits.length) else none

/-- Takes one of the given characters off the front of a text. -/
def takeOne (chars : List Char) : List Char → Option (Char × List Char)
  | c :: rest => if chars.contains c then some (c, rest) else none
  | [] => none

/-- The distance of a moment from the common clock, behind optional blanks. Nothing else follows. -/
def zoneParts? (text : List Char) : Option (Option (Option (Char × List Char × List Char))) :=
  match text.dropWhile fun c => c == ' ' || c == '\t' with
  | [] => if text.isEmpty then some none else none
  | ['Z'] => some (some none)
  | zone => do
    let (sign, rest) ← takeOne ['-', '+'] zone
    let (hours, rest) ← takeDigits 1 2 rest
    if rest.isEmpty then
      return some (some (sign, hours, []))
    let (minutes, rest) ← takeDigits 2 2 (← takeOne [':'] rest).2
    if rest.isEmpty then some (some (some (sign, hours, minutes))) else none

/-- The parts of a day, or of a day with a time. -/
def timestampParts? (text : List Char) : Option TimestampParts := do
  let (year, rest) ← takeDigits 4 4 text
  let (month, rest) ← takeDigits 1 2 (← takeOne ['-'] rest).2
  let (day, rest) ← takeDigits 1 2 (← takeOne ['-'] rest).2
  if rest.isEmpty then
    return { year, month, day }
  let blanks := rest.takeWhile fun c => c == ' ' || c == '\t'
  let rest ←
    if blanks.isEmpty then (takeOne ['T', 't'] rest).map fun taken => taken.2
    else some (rest.drop blanks.length)
  let (hour, rest) ← takeDigits 1 2 rest
  let (minute, rest) ← takeDigits 2 2 (← takeOne [':'] rest).2
  let (second, rest) ← takeDigits 2 2 (← takeOne [':'] rest).2
  let (fraction, rest) :=
    match rest with
    | '.' :: rest => (rest.takeWhile Char.isDigit, rest.dropWhile Char.isDigit)
    | rest => ([], rest)
  let zone ← zoneParts? rest
  return { year, month, day, time := some (hour, minute, second, fraction), zone }

/-- Whether a text has the form of a day, whose numbers have their full width, or of a moment. -/
def isTimestampForm (text : List Char) : Bool :=
  match timestampParts? text with
  | some { time := none, .. } => text.length == "2000-01-01".length
  | some _ => true
  | none => false

/-! ### Tags of plain scalars -/

/-- A text without one line feed at its end. -/
def dropFinalBreak (text : List Char) : List Char :=
  if text.getLast? == some '\n' && text.length != 1 then text.dropLast else text

/-- The tag of a plain scalar without a tag of its own. A line feed at the end of its text, which
only a text between quotes can have, does not count. -/
def plainTag (text : String) : Tag :=
  let chars := dropFinalBreak text.toList
  let word := String.ofList chars
  if truthWords.contains word then .bool
  else if isRealForm chars then .float
  else if isWholeForm chars then .int
  else if word == "<<" then .merge
  else if nullWords.contains word then .null
  else if isTimestampForm chars then .timestamp
  else if word == "=" then .value
  else if ["!", "&", "*"].contains word then .other (Tag.namespaceText ++ "yaml")
  else .text

end GridRules.Yaml
