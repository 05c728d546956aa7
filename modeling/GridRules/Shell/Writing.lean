import GridRules.Shell.Reply

/-!
# Utilities that write their arguments

One utility writes its arguments as they are, apart from escapes; the other as a format asks.
-/

namespace GridRules.Shell

namespace Writing

/-! ### Escapes -/

/-- The bytes of one character. -/
def bytesOfChar (c : Char) : Bytes :=
  bytesOf (String.singleton c)

/-- Whether a character is an octal digit. -/
def isOctal (c : Char) : Bool :=
  '0' ≤ c && c ≤ '7'

/-- The byte that octal digits write. -/
def octalByte (digits : List Char) : UInt8 :=
  UInt8.ofNat (numberTo 8 digits).toNat

/-- The byte that a letter behind a backslash stands for. -/
def escaped? : Char → Option UInt8
  | '\\' => some 92
  | 'a' => some 7
  | 'b' => some 8
  | 'e' => some 27
  | 'f' => some 12
  | 'n' => some 10
  | 'r' => some 13
  | 't' => some 9
  | 'v' => some 11
  | _ => none

/-- The escape behind a backslash, and what follows it. A backslash that begins no escape stands for
itself. -/
def takeEscape : List Char → UInt8 × List Char
  | [] => (92, [])
  | c :: rest =>
    if isOctal c then
      let digits := ((c :: rest).take 3).takeWhile isOctal
      (octalByte digits, (c :: rest).drop digits.length)
    else
      match escaped? c with
      | some byte => (byte, rest)
      | none => (92, c :: rest)

/-- The bytes of a text in which a zero may stand before octal digits, up to an escape that ends all
output; and whether there was one. -/
def unescaped : Nat → List Char → Bytes × Bool
  | 0, _ => ([], false)
  | _, [] => ([], false)
  | fuel + 1, '\\' :: rest =>
    match rest with
    | 'c' :: _ => ([], true)
    | '0' :: rest =>
      let digits := (rest.take 3).takeWhile isOctal
      let (bytes, ended) := unescaped fuel (rest.drop digits.length)
      (octalByte digits :: bytes, ended)
    | rest =>
      let (byte, rest) := takeEscape rest
      let (bytes, ended) := unescaped fuel rest
      (byte :: bytes, ended)
  | fuel + 1, c :: rest =>
    let (bytes, ended) := unescaped fuel rest
    (bytesOfChar c ++ bytes, ended)

/-- Writes its arguments with blanks between them and a line feed behind them. -/
def echo (arguments : List String) : Reply :=
  let (bare, arguments) :=
    match arguments with
    | "-n" :: rest => (true, rest)
    | all => (false, all)
  let text := (" ".intercalate arguments).toList
  let (bytes, ended) := unescaped (text.length + 1) text
  { output := if bare || ended then bytes else bytes ++ [10] }

/-! ### Formats -/

/-- A directive of a format: its flags, width, precision and letter. -/
structure Directive where
  flags : List Char := []
  width : Nat := 0
  precision : Option Nat := none
  letter : Char := 's'
deriving Repr, Inhabited

namespace Directive

/-- Bytes filled up with blanks to the width of a directive. -/
def fill (directive : Directive) (bytes : Bytes) : Bytes :=
  let missing := List.replicate (directive.width - bytes.length) 32
  if directive.flags.contains '-' then bytes ++ missing else missing ++ bytes

/-- The bytes of a text, cut to the precision of a directive. -/
def ofText (directive : Directive) (bytes : Bytes) : Bytes :=
  directive.fill
    (match directive.precision with
      | some n => bytes.take n
      | none => bytes)

/-- A number with its sign, as a directive asks. -/
def ofDigits (directive : Directive) (sign front : String) (digits : List Char) : Bytes :=
  let digits := List.replicate (directive.precision.getD 1 - digits.length) '0' ++ digits
  let zeros :=
    if directive.flags.contains '0' && !directive.flags.contains '-' &&
        directive.precision.isNone then
      List.replicate (directive.width - digits.length - sign.length - front.length) '0'
    else []
  directive.fill (bytesOf (sign ++ front ++ String.ofList (zeros ++ digits)))

/-- A whole number, as a directive asks. -/
def ofNumber (directive : Directive) (n : Int) : Bytes :=
  let unsigned : Nat := (if n < 0 then n + Int.pow 2 64 else n).toNat
  let marked := directive.flags.contains '#'
  match directive.letter with
  | 'o' => directive.ofDigits "" (if marked then "0" else "") (Nat.toDigits 8 unsigned)
  | 'u' => directive.ofDigits "" "" (Nat.toDigits 10 unsigned)
  | 'x' =>
    directive.ofDigits "" (if marked && n ≠ 0 then "0x" else "") (Nat.toDigits 16 unsigned)
  | 'X' =>
    directive.ofDigits "" (if marked && n ≠ 0 then "0X" else "")
      ((Nat.toDigits 16 unsigned).map Char.toUpper)
  | _ =>
    let sign :=
      if n < 0 then "-"
      else if directive.flags.contains '+' then "+"
      else if directive.flags.contains ' ' then " "
      else ""
    directive.ofDigits sign "" (Nat.toDigits 10 n.natAbs)

/-- A decimal number with so many places behind the point, as a directive asks. -/
def ofDecimal (directive : Directive) (negative : Bool) (digits : Nat) (places : Nat) : Bytes :=
  let shown := directive.precision.getD 6
  let scaled := digits * Nat.pow 10 shown
  let whole := scaled / Nat.pow 10 places
  let left := 2 * (scaled % Nat.pow 10 places)
  let rounded :=
    if left > Nat.pow 10 places || left == Nat.pow 10 places && whole % 2 == 1 then whole + 1
    else whole
  let all := Nat.toDigits 10 rounded
  let all := List.replicate (shown + 1 - all.length) '0' ++ all
  let front := all.take (all.length - shown)
  let back := all.drop (all.length - shown)
  let text := if shown = 0 then front else front ++ '.' :: back
  { directive with precision := none }.ofDigits (if negative then "-" else "") "" text

end Directive

/-- Takes a width or a precision: digits, or a star that stands for the next argument. -/
def takeSize (text : List Char) (arguments : List String) :
    Option Nat × List Char × List String :=
  match text with
  | '*' :: rest =>
    (some ((arguments.head?.bind String.toNat?).getD 0), rest, arguments.drop 1)
  | text =>
    let digits := text.takeWhile Char.isDigit
    (if digits.isEmpty then none else some (numberTo 10 digits).toNat, text.drop digits.length,
      arguments)

/-- Takes a directive behind its percent sign; none if its letter is missing. -/
def takeDirective (text : List Char) (arguments : List String) :
    Option (Directive × List Char × List String) :=
  let flags := text.takeWhile fun c => "#-+ 0".toList.contains c
  let (width, rest, arguments) := takeSize (text.drop flags.length) arguments
  let (precision, rest, arguments) :=
    match rest with
    | '.' :: rest =>
      let (precision, rest, arguments) := takeSize rest arguments
      (some (precision.getD 0), rest, arguments)
    | rest => (none, rest, arguments)
  match rest with
  | [] => none
  | letter :: rest =>
    some ({ flags, width := width.getD 0, precision, letter }, rest, arguments)

/-- The number that an argument writes, with a complaint if not all of it is one. A quote in front
asks for the number of the character behind it. -/
def numberArgument (argument : String) : Int × List String :=
  match argument.toList with
  | [] => (0, [])
  | '\'' :: c :: _ | '"' :: c :: _ => ((bytesOfChar c).head?.map fun b => (b.toNat : Int)).getD 0 |>
      fun n => (n, [])
  | text =>
    let digits := text.dropWhile fun c => c == ' ' || c == '\t' || c == '\n'
    let (negative, digits) :=
      match digits with
      | '-' :: rest => (true, rest)
      | '+' :: rest => (false, rest)
      | rest => (false, rest)
    if (digits.head?.map Char.isDigit) == some true then
      let (n, rest) := takeNumber digits
      (if negative then -n else n,
        if rest.isEmpty then [] else [argument ++ ": not completely converted"])
    else
      (0, [argument ++ ": expected numeric value"])

/-- The decimal number that an argument writes: its sign, its digits and the number of those behind
the point. -/
def decimalArgument (argument : String) : (Bool × Nat × Nat) × List String :=
  let text := argument.toList
  let (negative, text) :=
    match text with
    | '-' :: rest => (true, rest)
    | rest => (false, rest)
  let front := text.takeWhile Char.isDigit
  let (back, rest) :=
    match text.drop front.length with
    | '.' :: rest => (rest.takeWhile Char.isDigit, rest.dropWhile Char.isDigit)
    | rest => ([], rest)
  let complaints :=
    if argument.isEmpty then []
    else if front.isEmpty && back.isEmpty then [argument ++ ": expected numeric value"]
    else if rest.isEmpty then []
    else [argument ++ ": not completely converted"]
  ((negative, (front ++ back).foldl (fun n c => 10 * n + digitValue c) 0, back.length), complaints)

/-- How a pass through a format ends: at its end, at an escape that ends all output, or with a
directive that makes no sense. -/
inductive PassEnd where
  | finished
  | stopped
  | refused
deriving DecidableEq, Repr

/-- One pass through a format: what it writes and complains of, the arguments that are left, and how
it ends. -/
def formatOnce : Nat → List Char → List String → Reply × List String × PassEnd
  | 0, _, arguments => ({}, arguments, .finished)
  | _, [], arguments => ({}, arguments, .finished)
  | fuel + 1, '\\' :: rest, arguments =>
    let (byte, rest) := takeEscape rest
    let (reply, arguments, ending) := formatOnce fuel rest arguments
    ({ reply with output := byte :: reply.output }, arguments, ending)
  | fuel + 1, '%' :: '%' :: rest, arguments =>
    let (reply, arguments, ending) := formatOnce fuel rest arguments
    ({ reply with output := 37 :: reply.output }, arguments, ending)
  | fuel + 1, '%' :: rest, arguments =>
    match takeDirective rest arguments with
    | none => (.complaint "missing format character", [], .refused)
    | some (directive, behind, arguments) =>
      let argument := arguments.head?.getD ""
      let goOn (written : Reply) : Reply × List String × PassEnd :=
        let (reply, arguments, ending) := formatOnce fuel behind (arguments.drop 1)
        (written.followedBy reply, arguments, ending)
      match directive.letter with
      | 's' => goOn { output := directive.ofText (bytesOf argument) }
      | 'c' => goOn { output := directive.fill ((bytesOf argument ++ [0]).take 1) }
      | 'b' =>
        let (bytes, ended) := unescaped (argument.length + 1) argument.toList
        if ended then ({ output := directive.ofText bytes }, [], .stopped)
        else goOn { output := directive.ofText bytes }
      | 'f' | 'F' =>
        let ((negative, digits, places), complaints) := decimalArgument argument
        goOn
          { output := directive.ofDecimal negative digits places
            complaints
            status := if complaints.isEmpty then 0 else 1 }
      | letter =>
        if "diouxX".toList.contains letter then
          let (n, complaints) := numberArgument argument
          goOn
            { output := directive.ofNumber n
              complaints
              status := if complaints.isEmpty then 0 else 1 }
        else
          let text := '%' :: rest.take (rest.length - behind.length)
          (.complaint (String.ofList text ++ ": invalid directive"), [], .refused)
  | fuel + 1, c :: rest, arguments =>
    let (reply, arguments, ending) := formatOnce fuel rest arguments
    ({ reply with output := bytesOfChar c ++ reply.output }, arguments, ending)

/-- Passes through a format as often as there are arguments for it. -/
def formatAll (format : List Char) : Nat → List String → Reply
  | 0, _ => {}
  | fuel + 1, arguments =>
    let (reply, left, ending) := formatOnce (format.length + 1) format arguments
    if ending ≠ .finished || left.isEmpty || left.length = arguments.length then reply
    else reply.followedBy (formatAll format fuel left)

/-- Writes its arguments as a format asks. -/
def printf (arguments : List String) : Reply :=
  let write : List String → Reply
    | [] => .complaint "usage: printf format [arg ...]"
    | format :: arguments => formatAll format.toList (arguments.length + 1) arguments
  match arguments with
  | "--" :: arguments => write arguments
  | format :: arguments =>
    match format.toList with
    | '-' :: c :: _ => .complaint ("Illegal option -" ++ String.singleton c)
    | _ => write (format :: arguments)
  | [] => write []

end Writing

end GridRules.Shell
