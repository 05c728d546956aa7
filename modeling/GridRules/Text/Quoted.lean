import GridRules.Text.Printable

/-!
# Quoted text

The quoted form in which messages and descriptions show a piece of text. It stands between single
quotes, or between double quotes if the text holds a single quote and no double quote; the
backslash, the enclosing quote and every unprintable character are escaped.
-/

namespace GridRules.Text

/-- The last `width` hexadecimal digits of a number, in lower case. -/
def hexDigits (width n : Nat) : List Char :=
  (List.range width).reverse.map fun place => Nat.digitChar (n / Nat.pow 16 place % 16)

/-- The quote that encloses a text. -/
def enclosingQuote (text : List Char) : Char :=
  if text.contains '\'' && !text.contains '"' then '"' else '\''

/-- The written form of one character between two `quote` characters. -/
def quotedChar (quote c : Char) : List Char :=
  if c == quote || c == '\\' then ['\\', c]
  else if c == '\n' then ['\\', 'n']
  else if c == '\r' then ['\\', 'r']
  else if c == '\t' then ['\\', 't']
  else if isPrintable c then [c]
  else if c.toNat < 0x100 then '\\' :: 'x' :: hexDigits 2 c.toNat
  else if c.toNat < 0x10000 then '\\' :: 'u' :: hexDigits 4 c.toNat
  else '\\' :: 'U' :: hexDigits 8 c.toNat

/-- The quoted form of a text. -/
def quoted (text : String) : String :=
  let quote := enclosingQuote text.toList
  String.ofList (quote :: text.toList.flatMap (quotedChar quote) ++ [quote])

/-- The quoted form of bytes: characters of the ASCII alphabet are shown, all others escaped. -/
def quotedBytes (data : List UInt8) : String :=
  let chars := data.map fun byte => Char.ofNat byte.toNat
  let quote := enclosingQuote chars
  let shown (c : Char) : List Char :=
    if c.toNat < 0x7f then quotedChar quote c else '\\' :: 'x' :: hexDigits 2 c.toNat
  String.ofList ('b' :: quote :: chars.flatMap shown ++ [quote])

end GridRules.Text
