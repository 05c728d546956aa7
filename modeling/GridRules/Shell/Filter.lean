import GridRules.Shell.FileUtility

/-!
# Utilities that filter texts

These utilities read texts, from files or from their input, and write parts of them, counts of them
or changed texts.
-/

namespace GridRules.Shell

namespace Filter

/-! ### Lines -/

/-- The lines of a text, each with the line end behind it if there is one. -/
def lines : Nat → Bytes → List Bytes
  | 0, _ => []
  | _, [] => []
  | fuel + 1, text =>
    let line := text.takeWhile (· != 10)
    let behind := text.dropWhile (· != 10)
    (line ++ behind.take 1) :: lines fuel (behind.drop 1)

/-- The lines of a whole text. -/
def linesOf (text : Bytes) : List Bytes :=
  lines (text.length + 1) text

/-- The lines of a text without their ends. -/
def bareLines (text : Bytes) : List Bytes :=
  (linesOf text).map fun line => line.takeWhile (· != 10)

/-- Lines with line ends behind them. -/
def joinLines (lines : List Bytes) : Bytes :=
  lines.flatMap fun line => line ++ [10]

/-- What a filter of the one text from all its files writes. -/
def overAll (tool : String) (names : List String) (state : State) (change : Bytes → Bytes) :
    Reply × State :=
  let (found, reply, state) := state.contents (fun name reason =>
    tool ++ ": " ++ name ++ ": " ++ reason) names
  ({ reply with output := change (found.flatMap Prod.snd) }, state)

/-! ### Beginnings and ends -/

/-- How much of a text is asked for: lines or bytes, and how many, counted from the other end with a
sign in front. -/
structure Amount where
  ofBytes : Bool := false
  signed : Bool := false
  count : Nat := 10

/-- The amount that a number with an optional sign gives. -/
def amount? (ofBytes : Bool) (sign : Char) (text : String) : Option Amount :=
  match text.toList.dropWhile (· == ' ') with
  | c :: rest =>
    if c == sign then
      (String.ofList rest).toNat?.map fun count => { ofBytes, signed := true, count }
    else
      let digits := if c == '-' || c == '+' then rest else c :: rest
      (String.ofList digits).toNat?.map fun count => { ofBytes, count }
  | [] => none

/-- The amount that the options of a tool ask for, and the names of files. -/
def takeAmount (sign : Char) : List String → Amount × List String
  | "-n" :: count :: rest => ((amount? false sign count).getD {}, rest)
  | "-c" :: count :: rest => ((amount? true sign count).getD {}, rest)
  | option :: rest =>
    match option.toList with
    | '-' :: 'n' :: count => ((amount? false sign (String.ofList count)).getD {}, rest)
    | '-' :: 'c' :: count => ((amount? true sign (String.ofList count)).getD {}, rest)
    | '-' :: c :: count =>
      if c.isDigit then ((amount? false sign (String.ofList (c :: count))).getD {}, rest)
      else ({}, option :: rest)
    | _ => ({}, option :: rest)
  | [] => ({}, [])

/-- The parts of files, with headings if there are several. -/
def parts (tool : String) (part : Bytes → Bytes) (names : List String) (state : State) :
    Reply × State :=
  let (found, reply, state) := state.contents (fun name reason =>
    if reason == "Is a directory" then tool ++ ": error reading '" ++ name ++ "': " ++ reason
    else tool ++ ": cannot open '" ++ name ++ "' for reading: " ++ reason) names
  let output : Bytes :=
    if names.length > 1 then
      ((found.zipIdx).flatMap fun ((name, bytes), n) =>
        bytesOf ((if n = 0 then "" else "\n") ++ "==> " ++ name ++ " <==\n") ++ part bytes)
    else found.flatMap fun (_, bytes) => part bytes
  ({ reply with output }, state)

/-- Writes the beginnings of files. -/
def head : Utility := fun arguments state =>
  let (amount, names) := takeAmount '-' arguments
  let part (bytes : Bytes) : Bytes :=
    if amount.ofBytes then
      bytes.take (if amount.signed then bytes.length - amount.count else amount.count)
    else
      let lines := linesOf bytes
      (lines.take (if amount.signed then lines.length - amount.count else amount.count)).flatten
  parts "head" part names state

/-- Writes the ends of files. -/
def tail : Utility := fun arguments state =>
  let (amount, names) := takeAmount '+' arguments
  let part (bytes : Bytes) : Bytes :=
    if amount.ofBytes then
      bytes.drop (if amount.signed then amount.count - 1 else bytes.length - amount.count)
    else
      let lines := linesOf bytes
      (lines.drop (if amount.signed then amount.count - 1 else lines.length - amount.count)).flatten
  parts "tail" part names state

/-! ### Counts -/

/-- The number of words in a text. -/
def wordCount (text : Bytes) : Nat :=
  (text.foldl (fun (count, inside) byte =>
    if byte == 32 || 9 ≤ byte && byte ≤ 13 then (count, false)
    else (if inside then count else count + 1, true)) ((0, false) : Nat × Bool)).1

/-- The counts of a text: its lines, words, characters and bytes, as far as options ask for them. -/
def counts (options : List Char) (text : Bytes) : List Nat :=
  let options := if options.isEmpty then ['l', 'w', 'c'] else options
  (if options.contains 'l' then [text.count 10] else [])
    ++ (if options.contains 'w' then [wordCount text] else [])
    ++ (if options.contains 'm' then [(text.filter fun b => b &&& 0xc0 != 0x80).length] else [])
    ++ (if options.contains 'c' then [text.length] else [])

/-- Writes counts of files, and the sums of them if there are several. -/
def wc : Utility := fun arguments state =>
  let (options, names) := FileUtility.options arguments
  let (found, reply, state) :=
    state.contents (fun name reason => "wc: " ++ name ++ ": " ++ reason) names
  let total := (found.map fun (_, bytes) => bytes.length).foldl (· + ·) 0
  let single := options.length == 1 && names.length ≤ 1
  let width :=
    if single then 1 else if names.isEmpty then 7 else (Nat.toDigits 10 total).length
  let row (name : String) (numbers : List Nat) : String :=
    let padded := numbers.map fun n =>
      let digits := Nat.toDigits 10 n
      String.ofList (List.replicate (width - digits.length) ' ' ++ digits)
    " ".intercalate padded ++ (if names.isEmpty then "" else " " ++ name) ++ "\n"
  let rows := found.map fun (name, bytes) => row name (counts options bytes)
  let sums :=
    if names.length > 1 then
      let all := found.map fun (_, bytes) => counts options bytes
      let sum := all.foldl (fun sum numbers => List.zipWith (· + ·) sum numbers)
        (List.replicate ((counts options []).length) 0)
      [row "total" sum]
    else []
  ({ reply with output := bytesOf (String.join (rows ++ sums)) }, state)

/-! ### Characters -/

/-- The bytes of the characters between two others. -/
def span (low high : UInt8) : Bytes :=
  (List.range (high.toNat + 1 - low.toNat)).map fun n => low + UInt8.ofNat n

/-- The bytes that a set names. -/
def setOf : Nat → List Char → Bytes
  | 0, _ => []
  | _, [] => []
  | fuel + 1, '[' :: ':' :: rest =>
    let name := rest.takeWhile (· != ':')
    ((classRanges.lookup (String.ofList name)).getD []).mergeSort
      (fun a b => a.1 ≤ b.1) |>.flatMap (fun (low, high) =>
        span (UInt8.ofNat low.toNat) (UInt8.ofNat high.toNat)) |>
      fun bytes => bytes ++ setOf fuel (rest.drop (name.length + 2))
  | fuel + 1, '\\' :: rest =>
    let (byte, rest) := Writing.takeEscape rest
    range fuel byte rest
  | fuel + 1, c :: rest =>
    match Writing.bytesOfChar c with
    | [byte] => range fuel byte rest
    | bytes => bytes ++ setOf fuel rest
where
  /-- The bytes from one on, up to the one behind a dash. -/
  range (fuel : Nat) (low : UInt8) (rest : List Char) : Bytes :=
    match fuel, rest with
    | 0, _ => [low]
    | fuel + 1, '-' :: c :: rest =>
      let (high, rest) :=
        if c == '\\' then Writing.takeEscape rest
        else ((Writing.bytesOfChar c).head?.getD 0, rest)
      span low high ++ setOf fuel rest
    | fuel + 1, rest => low :: setOf fuel rest

/-- Replaces, removes or squeezes characters of its input. -/
def tr : Utility := fun arguments state =>
  let (options, sets) := FileUtility.options arguments
  let removes := options.contains 'd'
  let squeezes := options.contains 's'
  let complements := options.contains 'c' || options.contains 'C'
  let bytesIn (text : String) : Bytes := setOf (2 * text.length + 2) text.toList
  let squeeze (set : Bytes → Bool) (text : Bytes) : Bytes :=
    (text.foldl (fun (written, last) byte =>
      if last == some byte && set [byte] then (written, last)
      else (byte :: written, some byte)) (([], none) : Bytes × Option UInt8)).1.reverse
  match sets with
  | [] => (FileUtility.noOperand "tr", state)
  | [set] =>
    if !removes && !squeezes then
      (.advised "tr" ("missing operand after " ++ FileUtility.quoted set ++
        "\nTwo strings must be given when translating."), state)
    else
      let chosen := bytesIn set
      let isChosen (byte : UInt8) : Bool := chosen.contains byte != complements
      let text := if removes then state.input.filter fun byte => !isChosen byte else state.input
      let text := if squeezes && !removes then squeeze (·.any isChosen) text else text
      ({ output := text }, { state with input := [] })
  | set :: second :: _ =>
    let chosen := bytesIn set
    let others := bytesIn second
    let last := others.getLast?.getD 0
    let isChosen (byte : UInt8) : Bool := chosen.contains byte != complements
    let replaced (byte : UInt8) : UInt8 :=
      if !isChosen byte then byte
      else if complements then last
      else
        let places := (chosen.zipIdx.filter fun (b, _) => b == byte).map Prod.snd
        others[places.getLast?.getD 0]?.getD last
    let text :=
      if removes then state.input.filter fun byte => !isChosen byte
      else state.input.map replaced
    let text := if squeezes then squeeze (·.any others.contains) text else text
    ({ output := text }, { state with input := [] })

/-! ### Orders and fields -/

/-- Whether bytes come before others in order. -/
def isBefore : Bytes → Bytes → Bool
  | [], _ => true
  | _ :: _, [] => false
  | a :: as, b :: bs => if a == b then isBefore as bs else a < b

/-- The number at the front of a line. -/
def leadingNumber (line : Bytes) : Int :=
  let text := line.dropWhile fun b => b == 32 || b == 9
  let value (digits : Bytes) : Int :=
    (digits.takeWhile fun b => 48 ≤ b && b ≤ 57).foldl (fun n b => 10 * n + (b.toNat - 48 : Int)) 0
  match text with
  | 45 :: rest => -value rest
  | rest => value rest

/-- The lines without those that equal the line before them. -/
def withoutRepeats : List Bytes → List Bytes
  | [] => []
  | line :: rest =>
    match withoutRepeats rest with
    | [] => [line]
    | next :: others => if line == next then next :: others else line :: next :: others

/-- The value of an option, and the arguments without both. -/
def takeOption (option : String) : List String → Option String × List String
  | [] => (none, [])
  | argument :: rest =>
    if argument == option then (rest.head?, rest.drop 1)
    else
      let (value, rest) := takeOption option rest
      (value, argument :: rest)

/-- Writes lines in order, to a file if one is named for that. -/
def sort : Utility := fun arguments state =>
  let (target, arguments) := takeOption "-o" arguments
  let (options, names) := FileUtility.options arguments
  let (found, reply, state) :=
    state.contents (fun name reason => "sort: cannot read: " ++ name ++ ": " ++ reason) names
  let before (a b : Bytes) : Bool :=
    if options.contains 'n' && leadingNumber a != leadingNumber b then
      leadingNumber a < leadingNumber b
    else isBefore a b
  let sorted := ((found.flatMap fun (_, bytes) => bareLines bytes)).mergeSort before
  let sorted := if options.contains 'u' then withoutRepeats sorted else sorted
  let sorted := if options.contains 'r' then sorted.reverse else sorted
  let status := if reply.status = 0 then 0 else 2
  match target with
  | some target =>
    ({ reply with status },
      { state with
        files := state.files.put (state.placeOfName target) (.file (joinLines sorted) false) })
  | none => ({ reply with output := joinLines sorted, status }, state)

/-- Writes lines without repeats, with the numbers of repeats if asked for. -/
def uniq : Utility := fun arguments state =>
  let (options, names) := FileUtility.options arguments
  overAll "uniq" names state fun text =>
    let groups := (bareLines text).foldr (fun line groups =>
      match groups with
      | (other, n) :: rest => if line == other then (other, n + 1) :: rest else (line, 1) :: groups
      | [] => [(line, 1)]) ([] : List (Bytes × Nat))
    let groups := groups.filter fun (_, n) =>
      (!options.contains 'd' || n > 1) && (!options.contains 'u' || n == 1)
    joinLines (groups.map fun (line, n) =>
      if options.contains 'c' then
        let digits := Nat.toDigits 10 n
        bytesOf (String.ofList (List.replicate (7 - digits.length) ' ' ++ digits ++ [' '])) ++ line
      else line)

/-- The numbers that a list of numbers and ranges names, up to a highest one. -/
def numbersIn (text : String) (highest : Nat) : List Nat :=
  let ranges := (text.splitOn ",").map fun part =>
    match part.splitOn "-" with
    | [single] => (single.toNat?.getD 0, single.toNat?.getD 0)
    | low :: high :: _ => (low.toNat?.getD 1, high.toNat?.getD highest)
    | [] => (1, 0)
  (List.range highest).map (· + 1) |>.filter fun n =>
    ranges.any fun (low, high) => low ≤ n && n ≤ high

/-- Writes fields or characters of lines. -/
def cut : Utility := fun arguments state =>
  let rec settings : List String → List (Char × String) × List String
    | [] => ([], [])
    | option :: rest =>
      match option.toList with
      | ['-', c] =>
        match rest with
        | value :: rest =>
          let (found, names) := settings rest
          ((c, value) :: found, names)
        | [] => ([], [])
      | '-' :: c :: value =>
        let (found, names) := settings rest
        ((c, String.ofList value) :: found, names)
      | _ =>
        let (found, names) := settings rest
        (found, option :: names)
  let (found, names) := settings arguments
  let separator := ((found.lookup 'd').getD "\t").toList.head?.getD '\t'
  overAll "cut" names state fun text =>
    joinLines ((bareLines text).map fun bytes =>
      match found.lookup 'f', (found.lookup 'c').orElse fun _ => found.lookup 'b' with
      | some list, _ =>
        let fields := (textOf bytes).splitOn (String.singleton separator)
        if fields.length ≤ 1 then bytes
        else
          bytesOf ((String.singleton separator).intercalate
            ((numbersIn list fields.length).map fun n => fields[n - 1]?.getD ""))
      | none, some list => (numbersIn list bytes.length).map fun n => bytes[n - 1]?.getD 0
      | none, none => bytes)

/-- Writes lines backwards. -/
def rev : Utility := fun arguments state =>
  overAll "rev" arguments state fun text =>
    (linesOf text).flatMap fun line =>
      bytesOf (String.ofList (textOf (line.takeWhile (· != 10))).toList.reverse)
        ++ line.dropWhile (· != 10)

/-- Writes the last line first. -/
def tac : Utility := fun arguments state =>
  overAll "tac" arguments state fun text => (linesOf text).reverse.flatten

/-! ### Names and numbers -/

/-- Writes the last part of a name, without an ending. -/
def basename (arguments : List String) : Reply :=
  let strip (name ending : String) : String :=
    let last := FileUtility.lastName name
    let last := if last.isEmpty && !name.isEmpty then "/" else last
    if ending != last && ending.toList.isSuffixOf last.toList then
      String.ofList (last.toList.take (last.length - ending.length))
    else last
  match arguments with
  | [] => FileUtility.noOperand "basename"
  | [name] => .line (strip name "")
  | [name, ending] => .line (strip name ending)
  | _ :: _ :: extra :: _ => .advised "basename" ("extra operand " ++ FileUtility.quoted extra)

/-- Writes names without their last parts. -/
def dirname (arguments : List String) : Reply :=
  let directory (name : String) : String :=
    let text := name.toList.reverse.dropWhile (· == '/')
    let behind := text.dropWhile (· != '/')
    let kept := behind.dropWhile (· == '/')
    if !kept.isEmpty then String.ofList kept.reverse
    else if behind.isEmpty && name.toList.head? != some '/' then "."
    else "/"
  match arguments with
  | [] => FileUtility.noOperand "dirname"
  | names => { output := bytesOf (String.join (names.map fun name => directory name ++ "\n")) }

/-- Writes the whole numbers between two others. -/
def seq (arguments : List String) : Reply :=
  let numbers := arguments.map fun argument => (argument, argument.toInt?)
  match numbers.find? fun number => number.2.isNone with
  | some (argument, _) =>
    .advised "seq" ("invalid floating point argument: " ++ FileUtility.quoted argument)
  | none =>
    let values := numbers.filterMap Prod.snd
    let write (first step last : Int) : Reply :=
      let count := if step = 0 then 0 else ((last - first) / step + 1).toNat
      { output := bytesOf (String.join ((List.range count).map fun (n : Nat) =>
          toString (first + step * n) ++ "\n")) }
    match values with
    | [] => FileUtility.noOperand "seq"
    | [last] => write 1 1 last
    | [first, last] => write first 1 last
    | first :: step :: last :: _ => write first step last

/-- Writes the value of a calculation or a comparison. -/
def expr (arguments : List String) : Reply :=
  let answer (text : String) : Reply :=
    { Reply.line text with status := if text == "" || text == "0" then 1 else 0 }
  match arguments with
  | [] => .advised "expr" "missing operand" 2
  | [text] => answer text
  | ["length", text] => answer (toString text.length)
  | [left, operator, right] =>
    match left.toInt?, right.toInt? with
    | some a, some b =>
      match operator with
      | "+" => answer (toString (a + b))
      | "-" => answer (toString (a - b))
      | "*" => answer (toString (a * b))
      | "/" => if b = 0 then .error "expr: division by zero" 2 else answer (toString (a.tdiv b))
      | "%" => if b = 0 then .error "expr: division by zero" 2 else answer (toString (a.tmod b))
      | "<" => answer (if a < b then "1" else "0")
      | "<=" => answer (if a ≤ b then "1" else "0")
      | ">" => answer (if a > b then "1" else "0")
      | ">=" => answer (if a ≥ b then "1" else "0")
      | "=" => answer (if a = b then "1" else "0")
      | "!=" => answer (if a ≠ b then "1" else "0")
      | _ => .error "expr: syntax error" 2
    | _, _ =>
      match operator with
      | "=" => answer (if left == right then "1" else "0")
      | "!=" => answer (if left != right then "1" else "0")
      | "+" | "-" | "*" | "/" | "%" => .error "expr: non-integer argument" 2
      | _ => .error "expr: syntax error" 2
  | _ => .error "expr: syntax error" 2

end Filter

end GridRules.Shell
