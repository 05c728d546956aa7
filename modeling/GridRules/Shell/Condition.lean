import GridRules.Shell.Reply

/-!
# Conditions of scripts

A utility tells by its status whether a condition on texts, numbers and files holds.
-/

namespace GridRules.Shell

namespace Condition

/-- The operators in front of one operand. -/
def unaryOperators : List String :=
  ["-r", "-w", "-x", "-e", "-f", "-d", "-c", "-b", "-p", "-u", "-g", "-k", "-s", "-t", "-z", "-n",
    "-h", "-O", "-G", "-L", "-S"]

/-- The operators between two operands. -/
def binaryOperators : List String :=
  ["=", "!=", "<", ">", "-eq", "-ne", "-ge", "-gt", "-le", "-lt", "-nt", "-ot", "-ef"]

/-- Whether an operand satisfies a unary operator. -/
def holdsOf (state : State) (operator operand : String) : Bool :=
  let place := state.placeOfName operand
  let entry := state.files.find? place
  let isThere := entry.isSome || place == State.nullDevice
  match operator with
  | "-z" => operand.isEmpty
  | "-n" => !operand.isEmpty
  | "-e" | "-r" | "-w" | "-O" | "-G" => isThere
  | "-f" =>
    match entry with
    | some (.file _ _) | some (.tool _) => true
    | _ => false
  | "-d" => entry == some .directory
  | "-c" => place == State.nullDevice
  | "-s" =>
    match entry with
    | some (.file content _) => !content.isEmpty
    | some _ => true
    | none => false
  | "-x" =>
    match entry with
    | some (.file _ executable) => executable
    | some _ => true
    | none => false
  | "-h" | "-L" =>
    match state.files.entry? (placeOf state.directory operand) with
    | some (.link _) => true
    | _ => false
  | _ => false

/-- The number that an operand writes. -/
def number (operand : String) : Except String Int :=
  let text := operand.toList.filter fun c => !(c == ' ' || c == '\t' || c == '\n')
  match (String.ofList text).toInt? with
  | some n => .ok n
  | none =>
    match text with
    | '+' :: rest =>
      match (String.ofList rest).toNat? with
      | some n => .ok n
      | none => .error ("Illegal number: " ++ operand)
    | _ => .error ("Illegal number: " ++ operand)

/-- Whether two operands satisfy a binary operator. -/
def holdsBetween (state : State) (left operator right : String) : Except String Bool :=
  let numbers (test : Int → Int → Bool) : Except String Bool := do
    return test (← number left) (← number right)
  match operator with
  | "=" => .ok (left == right)
  | "!=" => .ok (left != right)
  | "<" => .ok (left < right)
  | ">" => .ok (right < left)
  | "-eq" => numbers fun a b => a == b
  | "-ne" => numbers fun a b => a != b
  | "-ge" => numbers fun a b => a ≥ b
  | "-gt" => numbers fun a b => a > b
  | "-le" => numbers fun a b => a ≤ b
  | "-lt" => numbers fun a b => a < b
  | "-ef" => .ok (state.placeOfName left == state.placeOfName right)
  | _ => .ok false

/-- Whether a word can only be an operand where a unary operator could stand: behind it there is
nothing, or an operator between operands. -/
def standsForItself : List String → Bool
  | [] => true
  | [_] => false
  | word :: _ :: _ => binaryOperators.contains word

mutual

/-- Reads alternatives, and gives the words from the last one that was read. -/
def alternatives (state : State) : Nat → List String → Except String (Bool × List String)
  | 0, _ => .error "unexpected operator"
  | fuel + 1, words => do
    let (first, rest) ← conjunction state fuel words
    match rest with
    | _ :: "-o" :: rest =>
      if rest.isEmpty then return (first, ["-o"])
      else
        let (second, rest) ← alternatives state fuel rest
        return (first || second, rest)
    | rest => return (first, rest)

/-- Reads conditions that all have to hold. -/
def conjunction (state : State) : Nat → List String → Except String (Bool × List String)
  | 0, _ => .error "unexpected operator"
  | fuel + 1, words => do
    let (first, rest) ← negation state fuel words
    match rest with
    | _ :: "-a" :: rest =>
      if rest.isEmpty then return (false, ["-a"])
      else
        let (second, rest) ← conjunction state fuel rest
        return (first && second, rest)
    | rest => return (first, rest)

/-- Reads a condition that may be negated. -/
def negation (state : State) : Nat → List String → Except String (Bool × List String)
  | 0, _ => .error "unexpected operator"
  | fuel + 1, words => do
    match words with
    | "!" :: word :: rest =>
      let (holds, rest) ← negation state fuel (word :: rest)
      return (!holds, rest)
    | words => primary state fuel words

/-- Reads a single condition. -/
def primary (state : State) : Nat → List String → Except String (Bool × List String)
  | 0, _ => .error "unexpected operator"
  | fuel + 1, words => do
    match words with
    | [] => return (false, [])
    | "(" :: word :: rest =>
      let (holds, rest) ← alternatives state fuel (word :: rest)
      match rest with
      | _ :: ")" :: rest => return (holds, ")" :: rest)
      | _ => throw "closing paren expected"
    | word :: rest =>
      if unaryOperators.contains word && !standsForItself rest then
        match rest with
        | operand :: rest => return (holdsOf state word operand, operand :: rest)
        | [] => throw (word ++ ": argument expected")
      else
        match rest with
        | operator :: behind =>
          if binaryOperators.contains operator then
            match behind with
            | right :: rest => return (← holdsBetween state word operator right, right :: rest)
            | [] => throw (operator ++ ": argument expected")
          else
            return (word != "", word :: rest)
        | [] => return (word != "", [word])

end

/-- Whether the condition that words write holds. -/
def holds (state : State) (words : List String) : Except String Bool :=
  let whole (words : List String) : Except String Bool := do
    match ← alternatives state (4 * words.length + 8) words with
    | (_, last :: _ :: _) => throw (last ++ ": unexpected operator")
    | (holds, _) => return holds
  match words with
  | [] => .ok false
  | [left, operator, right] =>
    if binaryOperators.contains operator then holdsBetween state left operator right
    else if left == "(" && right == ")" then whole [operator]
    else whole words
  | words => whole words

/-- The reply to a condition. -/
def test (words : List String) (state : State) : Reply :=
  match holds state words with
  | .ok holds => .ofBool holds
  | .error message => .complaint message

end Condition

end GridRules.Shell
