/-!
# Bytes as characters of an alphabet of sixty-four

Four characters stand for three bytes, and equals signs fill up the last four. Characters beyond the
alphabet do not count in reading.
-/

namespace GridRules.Text.Base64

/-- The alphabet in order. -/
def alphabet : List Char :=
  "ABCDEFGHIJKLMNOPQRSTUVWXYZabcdefghijklmnopqrstuvwxyz0123456789+/".toList

/-- The number of a character of the alphabet. -/
def number? (c : Char) : Option Nat :=
  alphabet.findIdx? (· == c)

/-- The state in reading: the bytes so far in reverse order, the place within a group of four, the
bits that are left over, and the number of equals signs in a row. -/
structure State where
  bytes : List UInt8 := []
  place : Nat := 0
  left : Nat := 0
  fill : Nat := 0

/-- The state after a character with a number. -/
def State.take (state : State) (n : Nat) : State :=
  match state.place with
  | 0 => { state with place := 1, left := n, fill := 0 }
  | 1 => { bytes := .ofNat (state.left * 4 + n / 16) :: state.bytes, place := 2, left := n % 16 }
  | 2 => { bytes := .ofNat (state.left * 16 + n / 4) :: state.bytes, place := 3, left := n % 4 }
  | _ => { bytes := .ofNat (state.left * 64 + n) :: state.bytes }

/-- Reads on. Nothing counts behind the equals signs that complete a group; a group has to be
complete at the end. -/
def readFrom (state : State) : List Char → Option (List UInt8)
  | [] => if state.place = 0 then some state.bytes.reverse else none
  | '=' :: rest =>
    if state.place < 2 then readFrom state rest
    else if 4 ≤ state.place + state.fill + 1 then some state.bytes.reverse
    else readFrom { state with fill := state.fill + 1 } rest
  | c :: rest =>
    match number? c with
    | some n => readFrom (state.take n) rest
    | none => readFrom state rest

/-- The bytes that a text stands for. -/
def read? (text : List Char) : Option (List UInt8) :=
  readFrom {} text

/-- The characters that stand for bytes. -/
def write : List UInt8 → List Char
  | a :: b :: c :: rest =>
    character (a.toNat / 4) :: character (a.toNat % 4 * 16 + b.toNat / 16)
      :: character (b.toNat % 16 * 4 + c.toNat / 64) :: character (c.toNat % 64) :: write rest
  | [a, b] =>
    [character (a.toNat / 4), character (a.toNat % 4 * 16 + b.toNat / 16),
      character (b.toNat % 16 * 4), '=']
  | [a] => [character (a.toNat / 4), character (a.toNat % 4 * 16), '=', '=']
  | [] => []
where
  /-- The character with a number. -/
  character (n : Nat) : Char := (alphabet[n]?).getD '='

end GridRules.Text.Base64
