/-!
# Classes of characters

A character property of the Unicode standard is kept as the list of the closed intervals of code
points that have it. The interval tables of this library are those of Unicode 14.

Blank are the characters that separate words: those of bidirectional class white space, paragraph or
segment separator, and the space separators. Every script's ten decimal digits have consecutive code
points, so the digit zero of a script determines the value of each of its digits.
-/

namespace GridRules.Text

/-! ### Intervals of code points -/

/-- Closed intervals of code points, in increasing order and apart from each other. -/
abbrev Ranges := List (Nat × Nat)

namespace Ranges

/-- A code point belongs to the set if one of the intervals holds it. -/
def contains (ranges : Ranges) (c : Char) : Bool :=
  ranges.any fun range => range.1 ≤ c.toNat && c.toNat ≤ range.2

theorem contains_iff (ranges : Ranges) (c : Char) :
    ranges.contains c = true ↔ ∃ range ∈ ranges, range.1 ≤ c.toNat ∧ c.toNat ≤ range.2 := by
  simp [contains]

end Ranges

/-! ### Blank characters -/

/-- The intervals of blank code points. -/
def blankRanges : Ranges :=
  [ (0x9, 0xd), (0x1c, 0x20), (0x85, 0x85), (0xa0, 0xa0), (0x1680, 0x1680), (0x2000, 0x200a),
    (0x2028, 0x2029), (0x202f, 0x202f), (0x205f, 0x205f), (0x3000, 0x3000)]

/-- A blank character separates words and may surround them. -/
def isBlank (c : Char) : Bool :=
  blankRanges.contains c

/-- The text without the characters of a class at its two ends. -/
def trim (belongs : Char → Bool) (text : List Char) : List Char :=
  ((text.dropWhile belongs).reverse.dropWhile belongs).reverse

/-- The text without the blanks at its two ends. -/
def trimBlanks (text : List Char) : List Char :=
  trim isBlank text

/-- The blanks that may stand around a number: all but the four separators of information. -/
def isPadding (c : Char) : Bool :=
  isBlank c && !(0x1c ≤ c.toNat && c.toNat ≤ 0x1f)

/-- The text without the blanks that may stand around a number. -/
def trimPadding (text : List Char) : List Char :=
  trim isPadding text

/-! ### Decimal digits of all scripts -/

/-- The code points of the digits zero. -/
def zeroDigits : List Nat :=
  [ 0x30, 0x660, 0x6f0, 0x7c0, 0x966, 0x9e6, 0xa66, 0xae6, 0xb66, 0xbe6, 0xc66, 0xce6, 0xd66,
    0xde6, 0xe50, 0xed0, 0xf20, 0x1040, 0x1090, 0x17e0, 0x1810, 0x1946, 0x19d0, 0x1a80, 0x1a90,
    0x1b50, 0x1bb0, 0x1c40, 0x1c50, 0xa620, 0xa8d0, 0xa900, 0xa9d0, 0xa9f0, 0xaa50, 0xabf0,
    0xff10, 0x104a0, 0x10d30, 0x11066, 0x110f0, 0x11136, 0x111d0, 0x112f0, 0x11450, 0x114d0,
    0x11650, 0x116c0, 0x11730, 0x118e0, 0x11950, 0x11c50, 0x11d50, 0x11da0, 0x16a60, 0x16ac0,
    0x16b50, 0x1d7ce, 0x1d7d8, 0x1d7e2, 0x1d7ec, 0x1d7f6, 0x1e140, 0x1e2f0, 0x1e950, 0x1fbf0]

/-- The value of a decimal digit of any script. -/
def digitValue? (c : Char) : Option Nat :=
  (zeroDigits.find? fun first => first ≤ c.toNat && c.toNat < first + 10).map (c.toNat - ·)

/-- A decimal digit of any script. -/
def isDigit (c : Char) : Bool :=
  (digitValue? c).isSome

/-- The number that a run of digits writes in base ten; other characters count as zero. -/
def decimalValue (digits : List Char) : Nat :=
  digits.foldl (fun value c => 10 * value + (digitValue? c).getD 0) 0

end GridRules.Text
