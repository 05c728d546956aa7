import GridRules.Text.Classes

/-!
# Whole numbers in text

A whole number is written in the digits of any scripts, with an optional sign in front and padding
around it. A low line may stand between two digits. Decimal numbers have a largest number of digits,
in reading as in writing.
-/

namespace GridRules.Text

/-- The largest number of digits of a decimal number. -/
def mostDigits : Nat := 4300

/-- The least number with more digits than a decimal number may have. -/
def leastLong : Nat := Nat.pow 10 mostDigits

/-- The digits of a number, with low lines between digits left out; none if anything else occurs. -/
def digitRun? : List Char → Option (List Char)
  | [] => none
  | [c] => if isDigit c then some [c] else none
  | c :: '_' :: rest => if isDigit c then (digitRun? rest).map (c :: ·) else none
  | c :: rest => if isDigit c then (digitRun? rest).map (c :: ·) else none

/-- The natural number that a text of digits writes. -/
def naturalNumber? (text : List Char) : Option Nat :=
  (digitRun? text).bind fun digits =>
    if digits.length ≤ mostDigits then some (decimalValue digits) else none

/-- The whole number that a text writes, whose part behind the sign is read by `natural?`. -/
def signed? (natural? : List Char → Option Nat) (text : List Char) : Option Int :=
  match trimPadding text with
  | '-' :: digits => (natural? digits).map fun n => -(n : Int)
  | '+' :: digits => (natural? digits).map fun n => (n : Int)
  | digits => (natural? digits).map fun n => (n : Int)

/-- The whole number that a text writes. -/
def wholeNumber? (text : String) : Option Int :=
  signed? naturalNumber? text.toList

/-- The decimal text of a whole number, if it does not have too many digits. -/
def wholeNumberText? (n : Int) : Option String :=
  if n.natAbs < leastLong then some (toString n) else none

/-! ### Other bases -/

/-- The value of a digit of a base up to sixteen; letters are digits from ten on. -/
def digitIn? (base : Nat) (c : Char) : Option Nat :=
  let value? :=
    if 'a' ≤ c ∧ c ≤ 'f' then some (c.toNat - 'a'.toNat + 10)
    else if 'A' ≤ c ∧ c ≤ 'F' then some (c.toNat - 'A'.toNat + 10)
    else digitValue? c
  value?.filter (· < base)

/-- The natural number that digits of a base write. -/
def digitsIn? (base : Nat) (digits : List Char) : Option Nat :=
  if digits.isEmpty then none
  else digits.foldl (fun value c => do return (← value) * base + (← digitIn? base c)) (some 0)

/-- The letter that marks a number of a base behind a zero. -/
def baseLetter? : Nat → Option Char
  | 2 => some 'b'
  | 8 => some 'o'
  | 16 => some 'x'
  | _ => none

/-- The text without the mark of its base. -/
def dropBaseMark (base : Nat) (text : List Char) : List Char :=
  match text with
  | '0' :: c :: rest => if some c.toLower = baseLetter? base then rest else text
  | text => text

/-- The whole number that a text without low lines writes in a base. -/
def wholeNumberIn? (base : Nat) (text : List Char) : Option Int :=
  signed? (fun digits => digitsIn? base (dropBaseMark base digits)) text

end GridRules.Text
