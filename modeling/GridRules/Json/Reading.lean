import GridRules.Decimal.Binary64
import GridRules.Text.WholeNumber

/-!
# Reading JSON

A JSON text is one value with blanks around it. Besides the numbers of the standard the three values
that are no finite numbers are accepted by name. Of several entries of an object with the same key
the last one counts, at the place of the first.
-/

namespace GridRules.Json

/-- The reasons for which a text writes no value: it is malformed, or a whole number in it has too
many digits. -/
inductive Fault where
  | malformed
  | longNumber
deriving DecidableEq, Repr

/-- What was read off the front of a text, and what follows it. -/
structure Taken (α : Type) (text : List Char) where
  value : α
  rest : List Char
  shorter : rest.length < text.length

/-- A value read off the first character of a text. -/
def Taken.one {α : Type} (value : α) (c : Char) (rest : List Char) : Taken α (c :: rest) :=
  ⟨value, rest, Nat.lt_succ_self _⟩

/-- What was read behind some characters, as read with them. -/
def Taken.behind {α : Type} {text : List Char} (front : List Char) (taken : Taken α text) :
    Taken α (front ++ text) :=
  ⟨taken.value, taken.rest, by
    rw [List.length_append]
    exact Nat.lt_of_lt_of_le taken.shorter (Nat.le_add_left _ _)⟩

/-- What was read off the front of a text, as read off one that is not shorter. -/
def Taken.within {α : Type} {text longer : List Char} (taken : Taken α text)
    (h : text.length ≤ longer.length) : Taken α longer :=
  ⟨taken.value, taken.rest, Nat.lt_of_lt_of_le taken.shorter h⟩

/-- The blanks of JSON. -/
def isSpace (c : Char) : Bool :=
  c == ' ' || c == '\t' || c == '\n' || c == '\r'

/-- The text without the blanks at its front. -/
def skipSpace (text : List Char) : List Char :=
  text.dropWhile isSpace

theorem length_skipSpace_le (text : List Char) : (skipSpace text).length ≤ text.length := by
  induction text with
  | nil => simp [skipSpace]
  | cons c rest ih =>
      unfold skipSpace at ih ⊢
      rw [List.dropWhile_cons]
      split
      · exact Nat.le_succ_of_le ih
      · exact Nat.le_refl _

/-- The value of a hexadecimal digit. -/
def hexValue? (c : Char) : Option Nat :=
  if '0' ≤ c && c ≤ '9' then some (c.toNat - '0'.toNat)
  else if 'a' ≤ c && c ≤ 'f' then some (c.toNat - 'a'.toNat + 10)
  else if 'A' ≤ c && c ≤ 'F' then some (c.toNat - 'A'.toNat + 10)
  else none

/-- The value of four hexadecimal digits. -/
def unitValue? (a b c d : Char) : Option Nat := do
  let a ← hexValue? a
  let b ← hexValue? b
  let c ← hexValue? c
  let d ← hexValue? d
  return ((a * 16 + b) * 16 + c) * 16 + d

/-- The characters behind a backslash that stand for one character. -/
def shortEscape? : Char → Option Char
  | '"' => some '"'
  | '\\' => some '\\'
  | '/' => some '/'
  | 'b' => some '\x08'
  | 'f' => some '\x0c'
  | 'n' => some '\n'
  | 'r' => some '\r'
  | 't' => some '\t'
  | _ => none

/-- The character that one or two units stand for. A unit that is half of a pair, with its other
half missing, stands for the replacement character. -/
def unitCharacter (unit : Nat) : Char :=
  if 0xd800 ≤ unit ∧ unit < 0xe000 then '\ufffd' else Char.ofNat unit

/-- The units of a pair, which stand for one character beyond the first plane. -/
def isHighUnit (unit : Nat) : Bool := 0xd800 ≤ unit && unit < 0xdc00

/-- The second units of a pair. -/
def isLowUnit (unit : Nat) : Bool := 0xdc00 ≤ unit && unit < 0xe000

/-- Reads a string behind its opening quote; the `earlier` characters stand in reverse order. -/
def readString (earlier : List Char) (text : List Char) : Option (Taken String text) :=
  match text with
  | [] => none
  | '"' :: rest => some (.one (String.ofList earlier.reverse) '"' rest)
  | '\\' :: 'u' :: a :: b :: c :: d :: rest =>
    match unitValue? a b c d with
    | none => none
    | some high =>
      if isHighUnit high then
        match rest with
        | '\\' :: 'u' :: e :: f :: g :: h :: rest' =>
          match unitValue? e f g h with
          | none => none
          | some low =>
            if isLowUnit low then
              let point := 0x10000 + (high - 0xd800) * 0x400 + (low - 0xdc00)
              (readString (Char.ofNat point :: earlier) rest').map
                (.behind ['\\', 'u', a, b, c, d, '\\', 'u', e, f, g, h])
            else
              (readString (unitCharacter high :: earlier)
                ('\\' :: 'u' :: e :: f :: g :: h :: rest')).map (.behind ['\\', 'u', a, b, c, d])
        | rest =>
          (readString (unitCharacter high :: earlier) rest).map (.behind ['\\', 'u', a, b, c, d])
      else
        (readString (unitCharacter high :: earlier) rest).map (.behind ['\\', 'u', a, b, c, d])
  | '\\' :: c :: rest =>
    match shortEscape? c with
    | none => none
    | some escaped => (readString (escaped :: earlier) rest).map (.behind ['\\', c])
  | c :: rest =>
    if c == '\\' || c.toNat < 0x20 then
      none
    else
      (readString (c :: earlier) rest).map (.behind [c])
termination_by text.length
decreasing_by all_goals (simp_wf; try omega)

/-- The value that decimal digits write. -/
def digitsValue (digits : List Char) : Nat :=
  digits.foldl (fun value c => 10 * value + (c.toNat - '0'.toNat)) 0

/-- The digits at the front of a text, and what follows them. -/
def takeDigits (text : List Char) : List Char × List Char :=
  (text.takeWhile Char.isDigit, text.dropWhile Char.isDigit)

/-- The digits behind a decimal point at the front of a text, and what follows them. -/
def takeFraction : List Char → List Char × List Char
  | '.' :: c :: rest => if c.isDigit then takeDigits (c :: rest) else ([], '.' :: c :: rest)
  | text => ([], text)

/-- The power of ten at the front of a text, and what follows it. -/
def takePower (text : List Char) : Option Int × List Char :=
  let digits (sign : Int) (rest : List Char) : Option Int × List Char :=
    match takeDigits rest with
    | ([], _) => (none, text)
    | (digits, rest) => (some (sign * digitsValue digits), rest)
  match text with
  | 'e' :: '+' :: rest | 'E' :: '+' :: rest => digits 1 rest
  | 'e' :: '-' :: rest | 'E' :: '-' :: rest => digits (-1) rest
  | 'e' :: rest | 'E' :: rest => digits 1 rest
  | text => (none, text)

/-- The number with the given parts. It is whole if it has neither a point nor a power of ten. -/
def numberOf (negative : Bool) (whole fraction : List Char) (power : Option Int) :
    Except Fault Value :=
  if fraction.isEmpty && power.isNone then
    if Text.mostDigits < whole.length then .error .longNumber
    else .ok (.int (if negative then -digitsValue whole else digitsValue whole))
  else
    .ok (.real (Binary64.ofDecimal negative (digitsValue (whole ++ fraction))
      (power.getD 0 - fraction.length)))

/-- Reads a number without its sign. -/
def readMagnitude (negative : Bool) (text : List Char) : Except Fault (Value × List Char) :=
  let (whole, rest) :=
    match text with
    | '0' :: rest => (['0'], rest)
    | text => takeDigits text
  if whole.isEmpty then
    .error .malformed
  else
    let (fraction, rest) := takeFraction rest
    let (power, rest) := takePower rest
    (numberOf negative whole fraction power).map (·, rest)

/-- The names of values, with what they stand for. -/
def named : List (String × Value) :=
  [("null", .null), ("true", .bool true), ("false", .bool false),
    ("NaN", .real Binary64.notANumber), ("Infinity", .real (Binary64.infinity false)),
    ("-Infinity", .real (Binary64.infinity true))]

/-- Reads a number or a name. -/
def readScalar (text : List Char) : Except Fault (Value × List Char) :=
  match named.find? fun entry => entry.1.toList.isPrefixOf text with
  | some (name, value) => .ok (value, text.drop name.length)
  | none =>
    match text with
    | '-' :: rest => readMagnitude true rest
    | text => readMagnitude false text

/-- The entries of an object after a further one. -/
def insertEntry (entries : List (Value × Value)) (key : String) (value : Value) :
    List (Value × Value) :=
  let isKey : Value → Bool
    | .text other => other == key
    | _ => false
  if entries.any fun entry => isKey entry.1 then
    entries.map fun entry => if isKey entry.1 then (entry.1, value) else entry
  else
    entries ++ [(.text key, value)]

mutual

/-- Reads a value at the front of a text. -/
def readValue (text : List Char) : Except Fault (Taken Value text) :=
  match text with
  | [] => .error .malformed
  | c :: rest =>
    if c == '"' then
      match readString [] rest with
      | none => .error .malformed
      | some taken => .ok ⟨.text taken.value, taken.rest, Nat.lt_succ_of_lt taken.shorter⟩
    else if c == '[' then
      have hle := length_skipSpace_le rest
      match h : skipSpace rest with
      | ']' :: rest' =>
        .ok (.within (.one (.list []) ']' rest') (Nat.le_succ_of_le (h ▸ hle)))
      | _ => (readItems [] (skipSpace rest)).map (.within · (Nat.le_succ_of_le hle))
    else if c == '{' then
      have hle := length_skipSpace_le rest
      match h : skipSpace rest with
      | '}' :: rest' =>
        .ok (.within (.one (.mapping []) '}' rest') (Nat.le_succ_of_le (h ▸ hle)))
      | _ => (readEntries [] (skipSpace rest)).map (.within · (Nat.le_succ_of_le hle))
    else
      match readScalar (c :: rest) with
      | .error fault => .error fault
      | .ok (value, rest') =>
        if h : rest'.length < (c :: rest).length then .ok ⟨value, rest', h⟩
        else .error .malformed
termination_by (text.length, 0)

/-- Reads the items of a list behind the `earlier` ones, which stand in reverse order. -/
def readItems (earlier : List Value) (text : List Char) :
    Except Fault (Taken Value text) :=
  match readValue text with
  | .error fault => .error fault
  | .ok item =>
    have h₁ := length_skipSpace_le item.rest
    have h₂ := item.shorter
    match h : skipSpace item.rest with
    | ']' :: rest =>
      .ok ⟨.list (item.value :: earlier).reverse, rest, by
        simp only [h, List.length_cons] at h₁
        omega⟩
    | ',' :: rest =>
      have h₃ : (skipSpace rest).length < text.length := by
        have := length_skipSpace_le rest
        simp only [h, List.length_cons] at h₁
        omega
      (readItems (item.value :: earlier) (skipSpace rest)).map fun taken =>
        ⟨taken.value, taken.rest, Nat.lt_trans taken.shorter h₃⟩
    | _ => .error .malformed
termination_by (text.length, 1)

/-- Reads the entries of an object behind the `earlier` ones. -/
def readEntries (earlier : List (Value × Value)) (text : List Char) :
    Except Fault (Taken Value text) :=
  match text with
  | '"' :: inside =>
    match readString [] inside with
    | none => .error .malformed
    | some key =>
      have h₁ := length_skipSpace_le key.rest
      have h₂ := key.shorter
      match h : skipSpace key.rest with
      | ':' :: rest =>
        have h₃ : (skipSpace rest).length < ('"' :: inside).length := by
          have := length_skipSpace_le rest
          simp only [h, List.length_cons] at *
          omega
        match readValue (skipSpace rest) with
        | .error fault => .error fault
        | .ok value =>
          have h₄ := length_skipSpace_le value.rest
          have h₅ := value.shorter
          let entries := insertEntry earlier key.value value.value
          match h' : skipSpace value.rest with
          | '}' :: rest =>
            .ok ⟨.mapping entries, rest, by
              simp only [h, h', List.length_cons] at *
              omega⟩
          | ',' :: rest =>
            have h₆ : (skipSpace rest).length < ('"' :: inside).length := by
              have := length_skipSpace_le rest
              simp only [h, h', List.length_cons] at *
              omega
            (readEntries entries (skipSpace rest)).map fun taken =>
              ⟨taken.value, taken.rest, Nat.lt_trans taken.shorter h₆⟩
          | _ => .error .malformed
      | _ => .error .malformed
  | _ => .error .malformed
termination_by (text.length, 1)

end

/-- The value that a text writes. -/
def read (text : String) : Except Fault Value :=
  match readValue (skipSpace text.toList) with
  | .error fault => .error fault
  | .ok taken => if (skipSpace taken.rest).isEmpty then .ok taken.value else .error .malformed

end GridRules.Json
