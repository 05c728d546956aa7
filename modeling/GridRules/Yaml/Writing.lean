import GridRules.Yaml.Reading
import GridRules.Decimal.Shortest

/-!
# Writing YAML

Mappings are written as blocks with their keys in order. A text is written plainly if it reads back
as the same text, otherwise between quotes; characters beyond the ASCII alphabet are escaped. Long
texts go on in the next line at a space.
-/

namespace GridRules.Yaml

/-- The column beyond which a text goes on in the next line. -/
def lineWidth : Nat := 80

/-- What the characters of a text say about how it can be written. -/
structure Traits where
  plain : Bool
  flowPlain : Bool
  singleQuoted : Bool
  multiline : Bool

/-- The state in going through a text: what was met, and the kind of the last character. -/
structure TraitState where
  flowIndicator : Bool := false
  blockIndicator : Bool := false
  lineBreak : Bool := false
  special : Bool := false
  breakThenSpace : Bool := false
  spaceThenBreak : Bool := false
  afterGap : Bool := true
  lastSpace : Bool := false
  lastBreak : Bool := false

/-- Characters that count as line breaks in texts to be written. -/
def isWrittenBreak (c : Char) : Bool :=
  c == '\n' || c == '\x85' || c == '\u2028' || c == '\u2029'

/-- Takes notice of one character; `first` says that it begins the text. -/
def TraitState.step (state : TraitState) (first : Bool) (c following : Char) : TraitState :=
  let gapFollows := isGap following
  let both :=
    if first then "#,[]\x7b\x7d&*!|>'\"%@`".toList.contains c || (c == '-' && gapFollows)
    else c == '#' && state.afterGap
  let flow :=
    if first then c == '?' || c == ':' else ",?[]\x7b\x7d".toList.contains c || c == ':'
  let block := if first then (c == '?' || c == ':') && gapFollows else c == ':' && gapFollows
  let space := c == ' '
  let isBreak := isWrittenBreak c
  { flowIndicator := state.flowIndicator || both || flow
    blockIndicator := state.blockIndicator || both || block
    lineBreak := state.lineBreak || isBreak
    special := state.special || !(c == '\n' || (0x20 ≤ c.toNat && c.toNat ≤ 0x7e))
    breakThenSpace := state.breakThenSpace || (space && state.lastBreak)
    spaceThenBreak := state.spaceThenBreak || (isBreak && state.lastSpace)
    afterGap := isGap c
    lastSpace := space
    lastBreak := isBreak }

/-- Goes through a text. -/
def traitsFrom (state : TraitState) (first : Bool) : List Char → TraitState
  | [] => state
  | c :: rest => traitsFrom (state.step first c (rest.head?.getD '\x00')) false rest

/-- The traits of a text. -/
def traits (text : List Char) : Traits :=
  if text.isEmpty then
    { plain := true, flowPlain := false, singleQuoted := true, multiline := false }
  else
    let marker := "---".toList.isPrefixOf text || "...".toList.isPrefixOf text
    let state := traitsFrom { flowIndicator := marker, blockIndicator := marker } true text
    let edge (c : Char) : Bool := c == ' ' || isWrittenBreak c
    let edges := (text.head?.map edge).getD false || (text.getLast?.map edge).getD false
    let bad := state.spaceThenBreak || state.special
    let plain := !(edges || state.breakThenSpace || bad || state.lineBreak)
    { plain := plain && !state.blockIndicator
      flowPlain := plain && !state.flowIndicator
      singleQuoted := !(state.breakThenSpace || bad)
      multiline := state.lineBreak }

/-! ### Texts -/

/-- A text under construction, with its last column. -/
structure Page where
  text : List Char := []
  column : Nat := 0

/-- The page after some characters without line breaks. -/
def Page.put (page : Page) (chars : List Char) : Page :=
  { text := page.text ++ chars, column := page.column + chars.length }

/-- The page at the start of a line that is indented. -/
def Page.newLine (page : Page) (indent : Nat) : Page :=
  { text := page.text ++ '\n' :: List.replicate indent ' ', column := indent }

/-- The words of a text and the runs of spaces or breaks between them, as they alternate. -/
def runs (text : List Char) : List (List Char) :=
  text.splitBy fun a b =>
    (a == ' ') == (b == ' ') && isWrittenBreak a == isWrittenBreak b

/-- Writes a plain text; a single space beyond the line's width becomes a line break. -/
def Page.putPlain (page : Page) (text : List Char) (indent : Nat) (foldLines : Bool) : Page :=
  (runs text).foldl (fun page run =>
    if run == [' '] && lineWidth < page.column && foldLines then page.newLine indent
    else page.put run) page

/-- The line breaks inside a quoted text: a common one is written twice, and the others as they
are. -/
def Page.putBreaks (page : Page) (breaks : List Char) (indent : Nat) : Page :=
  let breaks := if breaks.head? == some '\n' then '\n' :: breaks else breaks
  { text := page.text ++ breaks ++ List.replicate indent ' ', column := indent }

/-- Writes a text between single quotes; a quote in the text is written twice. -/
def Page.putSingle (page : Page) (text : List Char) (indent : Nat) (foldLines : Bool) : Page :=
  let all := runs text
  let last := all.length - 1
  let body := all.zipIdx.foldl (fun page (run, i) =>
    match run with
    | ' ' :: _ =>
      if run == [' '] && lineWidth < page.column && foldLines && i != 0 && i != last then
        page.newLine indent
      else
        page.put run
    | c :: _ =>
      if isWrittenBreak c then page.putBreaks run indent
      else page.put (run.flatMap fun c => if c == '\'' then ['\'', '\''] else [c])
    | [] => page) (page.put ['\''])
  body.put ['\'']

/-- Upper-case hexadecimal digits. -/
def upperHex (width n : Nat) : List Char :=
  (List.range width).reverse.map fun place => (Nat.digitChar (n / Nat.pow 16 place % 16)).toUpper

/-- The escaped form of a character between double quotes, if it needs one. -/
def doubleEscaped? (c : Char) : Option (List Char) :=
  match c with
  | '\x00' => some ['\\', '0']
  | '\x07' => some ['\\', 'a']
  | '\x08' => some ['\\', 'b']
  | '\t' => some ['\\', 't']
  | '\n' => some ['\\', 'n']
  | '\x0b' => some ['\\', 'v']
  | '\x0c' => some ['\\', 'f']
  | '\r' => some ['\\', 'r']
  | '\x1b' => some ['\\', 'e']
  | '"' => some ['\\', '"']
  | '\\' => some ['\\', '\\']
  | '\x85' => some ['\\', 'N']
  | '\xa0' => some ['\\', '_']
  | '\u2028' => some ['\\', 'L']
  | '\u2029' => some ['\\', 'P']
  | c =>
    let n := c.toNat
    if 0x20 ≤ n && n ≤ 0x7e then none
    else if n ≤ 0xff then some ('\\' :: 'x' :: upperHex 2 n)
    else if n ≤ 0xffff then some ('\\' :: 'u' :: upperHex 4 n)
    else some ('\\' :: 'U' :: upperHex 8 n)

/-- Writes the rest of a text between double quotes. The `pending` characters are not yet written.
Beyond the line's width the text goes on in the next line behind a backslash: before a space, and
around escaped characters. -/
def Page.putDoubleRest (page : Page) (indent : Nat) (foldLines : Bool) (pending : List Char) :
    (first : Bool) → List Char → Page
  | _, [] => page.put pending
  | first, c :: rest =>
    let mayBreak := foldLines && !first && !rest.isEmpty
    match doubleEscaped? c with
    | some form =>
      let page := (page.put pending).put form
      if mayBreak && lineWidth + 1 < page.column then
        let page := (page.put ['\\']).newLine indent
        let page := if rest.head? == some ' ' then page.put ['\\'] else page
        page.putDoubleRest indent foldLines [] false rest
      else
        page.putDoubleRest indent foldLines [] false rest
    | none =>
      if mayBreak && (c == ' ' || pending.isEmpty) && lineWidth < page.column + pending.length then
        let page := (page.put (pending ++ ['\\'])).newLine indent
        let page := if c == ' ' then page.put ['\\'] else page
        page.putDoubleRest indent foldLines [c] false rest
      else
        page.putDoubleRest indent foldLines (pending ++ [c]) false rest

/-- Writes a text between double quotes. -/
def Page.putDouble (page : Page) (text : List Char) (indent : Nat) (foldLines : Bool) : Page :=
  ((page.put ['"']).putDoubleRest indent foldLines [] true text).put ['"']

/-- Whether a plain scalar with this text reads back as a text. -/
def readsAsText (text : String) : Bool :=
  plainTag text = .text

/-- Writes a text as a scalar; as a key it stays on its line. -/
def Page.putText (page : Page) (text : String) (indent : Nat) (isKey : Bool) : Page :=
  let chars := text.toList
  let traits := traits chars
  if readsAsText text && traits.plain && !(isKey && (chars.isEmpty || traits.multiline)) then
    page.putPlain chars indent (!isKey)
  else if traits.singleQuoted && !(isKey && traits.multiline) then
    page.putSingle chars indent (!isKey)
  else
    page.putDouble chars indent (!isKey)

/-! ### Values -/

/-- Numbers that are not finite have names of their own. -/
def specialTexts : Decimal.SpecialTexts where
  undefined := ".nan"
  infinite := ".inf"
  negativeInfinite := "-.inf"

/-- The written form of a number with a fraction. It always has a decimal point. -/
def realText (x : Binary64) : List Char :=
  let text := (Decimal.text specialTexts x).toList
  if text.contains '.' then text
  else text.flatMap fun c => if c == 'e' then ['.', '0', 'e'] else [c]

/-- The most characters in a line of bytes. -/
def byteLineWidth : Nat := 76

/-- Pieces of a list with at most `n` members each. -/
def pieces {α : Type} (n : Nat) : Nat → List α → List (List α)
  | 0, _ => []
  | _, [] => []
  | fuel + 1, xs => xs.take n :: pieces n fuel (xs.drop n)

/-- Writes bytes as lines of their own. -/
def Page.putBytes (page : Page) (data : List UInt8) (indent : Nat) : Page :=
  let chars := Text.Base64.write data
  if chars.isEmpty then
    page.put "!!binary \"\"".toList
  else
    (pieces byteLineWidth chars.length chars).foldl
      (fun page line => (page.newLine indent).put line) (page.put "!!binary |".toList)

/-- The text of a value that is written plainly. -/
def plainText : Value → List Char
  | .null => "null".toList
  | .bool b => if b then "true".toList else "false".toList
  | .int n => (toString n).toList
  | .real x => realText x
  | .day d => d.text.toList
  | .moment m => m.text.toList
  | .set _ => "!!set \x7b\x7d".toList
  | .mapping _ | .again true => "\x7b\x7d".toList
  | _ => "[]".toList

/-- Writes a value without parts. -/
def Page.putScalar (page : Page) (indent : Nat) (isKey : Bool) : Value → Page
  | .text s => page.putText s indent isKey
  | .bytes data => page.putBytes data indent
  | value => page.put (plainText value)

/-- The tag of a key as its length counts. -/
def keyTag : Value → Tag
  | .null => .null
  | .bool _ => .bool
  | .int _ => .int
  | .real _ => .float
  | .day _ | .moment _ => .timestamp
  | .bytes _ => .binary
  | _ => .text

/-- Below this length a key stands before its colon on one line. -/
def keyWidth : Nat := 128

/-- Whether a key stands before its colon: it is short, with the marks and the name of its tag, and
has one line with something on it. -/
def isSimpleKey (key : Value) : Bool :=
  let chars :=
    match key with
    | .text s => s.toList
    | .bytes _ => []
    | key => plainText key
  !chars.isEmpty && !chars.any isWrittenBreak
    && chars.length + "!!".length + ((keyTag key).name?.getD "").length < keyWidth

mutual

/-- Writes a value at an indentation. A sequence in a mapping is not indented further. -/
def Page.putValue (page : Page) (indent : Nat) (inMapping : Bool) : Value → Page
  | .list (item :: items) =>
    let page := if inMapping then page.newLine indent else page
    let page := (page.put ['-', ' ']).putValue (indent + 2) false item
    page.putItems indent items
  | .pair first second =>
    let page := if inMapping then page.newLine indent else page
    let page := (page.put ['-', ' ']).putValue (indent + 2) false first
    ((page.newLine indent).put ['-', ' ']).putValue (indent + 2) false second
  | .set (member :: members) =>
    let own := if inMapping then indent + 2 else indent
    let page := page.put (if inMapping then " !!set".toList else "!!set".toList)
    page.putMembers own (member :: members)
  | .mapping (entry :: entries) =>
    let own := if inMapping then indent + 2 else indent
    let page := if inMapping then page.newLine own else page
    page.putEntries own true (entry :: entries)
  | scalar =>
    if inMapping then (page.put [' ']).putScalar (indent + 2) false scalar
    else page.putScalar indent false scalar

/-- Writes further entries of a sequence. -/
def Page.putItems (page : Page) (indent : Nat) : List Value → Page
  | [] => page
  | item :: items =>
    (((page.newLine indent).put ['-', ' ']).putValue (indent + 2) false item).putItems indent items

/-- Writes the members of a set, as keys without values. -/
def Page.putMembers (page : Page) (indent : Nat) : List Value → Page
  | [] => page
  | member :: members =>
    let page := page.newLine indent
    let page :=
      if isSimpleKey member then (page.putScalar indent true member).put ": null".toList
      else
        (((page.put ['?', ' ']).putScalar (indent + 2) false member).newLine indent).put
          ": null".toList
    page.putMembers indent members

/-- Writes entries of a mapping, the first of them at the present place. A key that does not stand
before its colon has a line of its own, and so has the colon. -/
def Page.putEntries (page : Page) (indent : Nat) (first : Bool) : List (Value × Value) → Page
  | [] => page
  | (key, value) :: entries =>
    let page := if first then page else page.newLine indent
    let page :=
      if isSimpleKey key then
        ((page.putScalar indent true key).put [':']).putValue indent true value
      else
        let page := ((page.put ['?', ' ']).putScalar (indent + 2) false key).newLine indent
        (page.put [':', ' ']).putValue (indent + 2) false value
    page.putEntries indent false entries

end

/-- The entries in the order of their keys, or as they are if their keys cannot be compared. -/
def sortedEntries (entries : List (Value × Value)) : List (Value × Value) :=
  if Value.areComparable entries then entries.mergeSort fun a b => a.1.isOrdered b.1 else entries

mutual

/-- The value with the entries of all its mappings in the order of their keys. -/
def ordered : Value → Value
  | .list items => .list (orderedItems items)
  | .pair first second => .pair (ordered first) (ordered second)
  | .set members => .set ((sortedEntries (members.map fun member => (member, .null))).map Prod.fst)
  | .mapping entries => .mapping (sortedEntries (orderedEntries entries))
  | scalar => scalar

/-- The items with all their mappings in order. -/
def orderedItems : List Value → List Value
  | [] => []
  | item :: items => ordered item :: orderedItems items

/-- The entries with all mappings in their values in order. -/
def orderedEntries : List (Value × Value) → List (Value × Value)
  | [] => []
  | (key, value) :: entries => (key, ordered value) :: orderedEntries entries

end

/-- The YAML text of a value. -/
def text (value : Value) : String :=
  let page := Page.putValue {} 0 false (ordered value)
  String.ofList (page.text ++ ['\n'])

end GridRules.Yaml
