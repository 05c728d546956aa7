import GridRules.Shell.Word

/-!
# Sums of the shell

The whole numbers with which a script calculates have 64 bits; results beyond that go round. A name
in a sum stands for the number under it and can be given a new one. Parts whose value does not
matter are not calculated.
-/

namespace GridRules.Shell

/-- The reasons for which a sum has no value. -/
inductive SumFault where
  | noPrimary
  | openBracket
  | noColon
  | leftOver
  | divisionByZero
  | noNumber (text : String)
  | noName
deriving Repr, DecidableEq

/-- The wording of the reasons for which the sum that a text writes has no value. -/
def SumFault.message (expression : String) (fault : SumFault) : String :=
  let inSum (text : String) : String :=
    "arithmetic expression: " ++ text ++ ": \"" ++ expression ++ "\""
  match fault with
  | .noPrimary => inSum "expecting primary"
  | .openBracket => inSum "expecting ')'"
  | .noColon => inSum "expecting ':'"
  | .leftOver => inSum "expecting EOF"
  | .divisionByZero => inSum "division by zero"
  | .noNumber text => "Illegal number: " ++ text
  | .noName => inSum "expecting primary"

/-! ### Tokens -/

/-- A token of a sum. -/
inductive SumToken where
  | number (n : Int)
  | name (text : String)
  | operator (text : String)
deriving Repr, Inhabited, DecidableEq

/-- A number that goes round beyond 64 bits. -/
def wrapped (n : Int) : Int :=
  (n + Int.pow 2 63) % Int.pow 2 64 - Int.pow 2 63

/-- A number, or the nearest one with 64 bits. -/
def clamped (n : Int) : Int :=
  max (-Int.pow 2 63) (min (Int.pow 2 63 - 1) n)

/-- The value of a hexadecimal digit. -/
def digitValue (c : Char) : Nat :=
  if c.isDigit then c.toNat - '0'.toNat else c.toLower.toNat - 'a'.toNat + 10

/-- Whether a character is a digit to some base. -/
def isDigitTo (base : Nat) (c : Char) : Bool :=
  c.isAlphanum && digitValue c < base

/-- The number that digits write to some base. -/
def numberTo (base : Nat) (digits : List Char) : Int :=
  clamped (digits.foldl (fun n c => base * n + digitValue c) 0)

/-- Takes a number: a zero in front marks octal digits, and an x behind it hexadecimal ones. -/
def takeNumber (text : List Char) : Int × List Char :=
  let read (base : Nat) (text : List Char) : Int × List Char :=
    (numberTo base (text.takeWhile (isDigitTo base)), text.dropWhile (isDigitTo base))
  match text with
  | '0' :: x :: c :: rest =>
    if (x == 'x' || x == 'X') && isDigitTo 16 c then read 16 (c :: rest)
    else read 8 text
  | '0' :: _ => read 8 text
  | text => read 10 text

/-- The operators of sums, with each one before those that it starts with. -/
def sumOperators : List String :=
  ["<<=", ">>=", "<<", ">>", "<=", ">=", "==", "!=", "&&", "||", "+=", "-=", "*=", "/=", "%=", "&=",
    "^=", "|=", "=", "<", ">", "+", "-", "*", "/", "%", "&", "^", "|", "!", "~", "?", ":", "(", ")"]

/-- The tokens of a sum; a character that begins none is an operator of its own. -/
def sumTokens : Nat → List Char → List SumToken
  | 0, _ => []
  | _, [] => []
  | fuel + 1, c :: rest =>
    if c == ' ' || c == '\t' || c == '\n' then sumTokens fuel rest
    else if c.isDigit then
      let (n, rest) := takeNumber (c :: rest)
      .number n :: sumTokens fuel rest
    else if isNameStart c then
      .name (String.ofList ((c :: rest).takeWhile isNamePart)) ::
        sumTokens fuel (rest.dropWhile isNamePart)
    else
      match sumOperators.find? fun operator => operator.toList.isPrefixOf (c :: rest) with
      | some operator => .operator operator :: sumTokens fuel ((c :: rest).drop operator.length)
      | none => .operator (String.singleton c) :: sumTokens fuel rest

/-! ### Sums -/

/-- A sum. -/
inductive Sum where
  | number (n : Int)
  | name (text : String)
  | unary (operator : String) (operand : Sum)
  | binary (operator : String) (left right : Sum)
  | choose (condition holds otherwise : Sum)
  | assign (operator : String) (name : String) (value : Sum)
deriving Repr, Inhabited

/-- How loosely a binary operator binds; none if a token is none. -/
def looseness? : String → Option Nat
  | "*" | "/" | "%" => some 0
  | "+" | "-" => some 1
  | "<<" | ">>" => some 2
  | "<" | "<=" | ">" | ">=" => some 3
  | "==" | "!=" => some 4
  | "&" => some 5
  | "^" => some 6
  | "|" => some 7
  | "&&" => some 8
  | "||" => some 9
  | _ => none

/-- The looseness of the operators that bind most loosely. -/
def loosest : Nat := 9

/-- Whether an operator gives a name a new value. -/
def isAssignment (operator : String) : Bool :=
  operator == "=" || (operator.toList.getLast? == some '=' && looseness? operator == none)

mutual

/-- Reads a sum with an assignment or a choice. -/
def readSum : Nat → List SumToken → Except SumFault (Sum × List SumToken)
  | 0, _ => .error .noPrimary
  | fuel + 1, tokens => do
    let assignment : Option (String × String × List SumToken) :=
      match tokens with
      | .name name :: .operator operator :: rest =>
        if isAssignment operator then some (name, operator, rest) else none
      | _ => none
    match assignment with
    | some (name, operator, rest) =>
      let (value, rest) ← readSum fuel rest
      return (.assign (String.ofList (operator.toList.dropLast)) name value, rest)
    | none =>
      let (condition, rest) ← readBinary loosest fuel tokens
      match rest with
      | .operator "?" :: rest =>
        let (holds, rest) ← readSum fuel rest
        match rest with
        | .operator ":" :: rest =>
          let (otherwise, rest) ← readSum fuel rest
          return (.choose condition holds otherwise, rest)
        | _ => throw .noColon
      | rest => return (condition, rest)

/-- Reads operands that are joined by operators of some looseness at most. -/
def readBinary (level : Nat) : Nat → List SumToken → Except SumFault (Sum × List SumToken)
  | 0, _ => .error .noPrimary
  | fuel + 1, tokens => do
    let (first, rest) ← readOperand fuel tokens
    readJoined level first fuel rest

/-- Reads what is joined to a first operand. -/
def readJoined (level : Nat) (first : Sum) :
    Nat → List SumToken → Except SumFault (Sum × List SumToken)
  | 0, _ => .error .noPrimary
  | fuel + 1, tokens => do
    match tokens with
    | .operator operator :: rest =>
      match looseness? operator with
      | some looseness =>
        if looseness ≤ level then do
          let (second, rest) ←
            if looseness = 0 then readOperand fuel rest else readBinary (looseness - 1) fuel rest
          readJoined level (.binary operator first second) fuel rest
        else
          return (first, tokens)
      | none => return (first, tokens)
    | tokens => return (first, tokens)

/-- Reads one operand. -/
def readOperand : Nat → List SumToken → Except SumFault (Sum × List SumToken)
  | 0, _ => .error .noPrimary
  | fuel + 1, tokens => do
    match tokens with
    | .number n :: rest => return (.number n, rest)
    | .name name :: rest => return (.name name, rest)
    | .operator "(" :: rest =>
      let (inner, rest) ← readSum fuel rest
      match rest with
      | .operator ")" :: rest => return (inner, rest)
      | _ => throw .openBracket
    | .operator operator :: rest =>
      if ["!", "~", "+", "-"].contains operator then do
        let (operand, rest) ← readOperand fuel rest
        return (.unary operator operand, rest)
      else
        throw .noPrimary
    | [] => throw .noPrimary

end

/-- The sum that a text writes. -/
def Sum.ofText (text : List Char) : Except SumFault Sum := do
  let tokens := sumTokens (text.length + 1) text
  match ← readSum (8 * tokens.length + 8) tokens with
  | (sum, []) => return sum
  | (_, _ :: _) => throw .leftOver

/-! ### Values -/

/-- One for a condition that holds and zero for one that does not. -/
def truth (holds : Bool) : Int :=
  if holds then 1 else 0

/-- The value of an operator. -/
def applyBinary (operator : String) (a b : Int) : Except SumFault Int :=
  match operator with
  | "*" => .ok (wrapped (a * b))
  | "/" => if b = 0 then .error .divisionByZero else .ok (wrapped (a.tdiv b))
  | "%" => if b = 0 then .error .divisionByZero else .ok (a.tmod b)
  | "+" => .ok (wrapped (a + b))
  | "-" => .ok (wrapped (a - b))
  | "<<" => .ok (wrapped (a * Int.pow 2 (b % 64).toNat))
  | ">>" => .ok (a.shiftRight (b % 64).toNat)
  | "<" => .ok (truth (a < b))
  | "<=" => .ok (truth (a ≤ b))
  | ">" => .ok (truth (a > b))
  | ">=" => .ok (truth (a ≥ b))
  | "==" => .ok (truth (a == b))
  | "!=" => .ok (truth (a != b))
  | "&" => .ok (Int64.ofInt a &&& Int64.ofInt b).toInt
  | "^" => .ok (Int64.ofInt a ^^^ Int64.ofInt b).toInt
  | "|" => .ok (Int64.ofInt a ||| Int64.ofInt b).toInt
  | _ => .ok b

/-- The number that the whole of a value writes. -/
def numberOf (value : String) : Except SumFault Int :=
  let text := value.toList.dropWhile fun c => c == ' ' || c == '\t' || c == '\n'
  let (negative, digits) :=
    match text with
    | '-' :: rest => (true, rest)
    | '+' :: rest => (false, rest)
    | rest => (false, rest)
  if value.isEmpty then .ok 0
  else if (digits.head?.map Char.isDigit) == some true then
    match takeNumber digits with
    | (n, []) => .ok (if negative then -n else n)
    | _ => .error (.noNumber value)
  else .error (.noNumber value)

/-- The value of a sum and the bindings after it, given the value under a name and a way to change
it. -/
def Sum.value {σ : Type} (find : σ → String → String) (set : σ → String → String → σ) :
    Sum → σ → Except SumFault (Int × σ)
  | .number n, state => .ok (n, state)
  | .name text, state => do return (← numberOf (find state text), state)
  | .unary operator operand, state => do
    let (n, state) ← operand.value find set state
    let result :=
      match operator with
      | "!" => truth (n == 0)
      | "~" => -n - 1
      | "-" => wrapped (-n)
      | _ => n
    return (result, state)
  | .binary operator left right, state => do
    let (a, state) ← left.value find set state
    if operator == "&&" then
      if a = 0 then return (0, state)
      else
        let (b, state) ← right.value find set state
        return (truth (b != 0), state)
    else if operator == "||" then
      if a ≠ 0 then return (1, state)
      else
        let (b, state) ← right.value find set state
        return (truth (b != 0), state)
    else
      let (b, state) ← right.value find set state
      return (← applyBinary operator a b, state)
  | .choose condition holds otherwise, state => do
    let (n, state) ← condition.value find set state
    if n ≠ 0 then holds.value find set state else otherwise.value find set state
  | .assign operator text right, state => do
    let (n, state) ← right.value find set state
    let n ←
      if operator.isEmpty then pure n
      else do applyBinary operator (← numberOf (find state text)) n
    return (n, set state text (toString n))

end GridRules.Shell
