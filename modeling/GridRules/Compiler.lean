import GridRules.Decimal.Arithmetic
import GridRules.Failure
import GridRules.Text.Classes
import GridRules.Text.Lines
import GridRules.Value.Display

/-!
# Compilers

A compiler is a command that makes an executable file from the file that holds a program text. It is
called with its flags, the option that names the executable file, and the name of the source. What
the executable file prints is the output of the program. Both have to end within a limit of time.

What commands and executable files do is up to the system on which they are executed.
-/

namespace GridRules

/-- The stages of a run. -/
inductive Stage where
  | compilation
  | execution
deriving DecidableEq, Repr

/-- The code of a failure in a stage. -/
def Stage.code : Stage → String
  | .compilation => "COMPILE_FAILED"
  | .execution => "RUN_FAILED"

/-- The reasons for which a compiled program has no output. -/
inductive BuildFault where
  | unusable
  | badArgument
  | limitTooLarge
  | notFound (command : String)
  | notStarted (stage : Stage) (file : String)
  | outOfTime (limit : Value) (file : String)
  | stopped (stage : Stage) (name : String) (status : Int) (errors : String)
  | noText
deriving Repr

/-- What is reported of a compiled program without output. -/
def BuildFault.failure : BuildFault → Failure
  | .unusable => .plain .badType
  | .badArgument => .plain .badValue
  | .limitTooLarge => .plain .tooLarge
  | .notFound command =>
    { category := .execution, code := "COMPILER_NOT_FOUND",
      message := "Compiler not found: " ++ command }
  | .notStarted stage file =>
    { category := .execution, code := stage.code,
      message := "Could not execute " ++ file }
  | .outOfTime limit file =>
    { category := .execution, code := "TIMEOUT",
      message := "Timed out after " ++ limit.shown ++ "s: " ++ file }
  | .stopped stage name status errors =>
    { category := .execution, code := stage.code,
      message := name ++ " exited with status " ++ toString status,
      details := [(.text "stderr", .text errors)] }
  | .noText => .plain .badEncoding

/-! ### Limits of time -/

/-- How long a stage may take. -/
inductive TimeLimit where
  | unlimited
  | milliseconds (n : Nat)
deriving DecidableEq, Repr

namespace TimeLimit

/-- The largest number of milliseconds that can be waited for. -/
def longest : Nat := Nat.pow 2 31 - 1

/-- The limit of a number of milliseconds; below zero nothing ends in time. -/
def ofMilliseconds (n : Int) : Except BuildFault TimeLimit :=
  if n > longest then .error .limitTooLarge else .ok (.milliseconds n.toNat)

/-- The limit that a value sets, in seconds. -/
def ofValue : Value → Except BuildFault TimeLimit
  | .null => .ok .unlimited
  | .int n => ofMilliseconds (1000 * n)
  | .bool b => ofMilliseconds (if b then 1000 else 0)
  | .real x =>
    match x.meaning with
    | .undefined => .error .badArgument
    | .infinite negative => if negative then .ok (.milliseconds 0) else .error .limitTooLarge
    | .finite _ _ _ => ofMilliseconds (((x.product (.ofRatio false 1000 1)).floor?).getD 0)
  | _ => .error .unusable

/-- Whether what takes so many milliseconds, or never ends, ends in time. -/
def allows : TimeLimit → Option Nat → Bool
  | .milliseconds n, some time => time < n
  | .milliseconds _, none => false
  | .unlimited, time => time.isSome

end TimeLimit

/-! ### Systems -/

/-- What remains of a program that has ended. One that a signal ended has the negated number of the
signal as its status; one that never ends has none. The time it took is counted in milliseconds. -/
structure Execution (Files : Type) where
  status : Option Int
  output : ByteArray
  errors : ByteArray
  files : Files
  time : Nat

/-- A system, as far as programs are executed on it: the directories of its tools, the names that
lead to a program, the files once a text has been written to a file of the given name, and what
comes of executing a file with arguments, if that is possible. -/
structure Host where
  Files : Type
  directories : List String
  isProgram : String → Bool
  filesWith : String → String → Files
  execute? : Files → String → List String → Option (Execution Files)

namespace Host

/-- The name under which a command is found. A command without a directory is looked for in those of
the tools. -/
def find? (host : Host) (command : String) : Option String :=
  if command.contains '/' then
    if host.isProgram command then some command else none
  else if command.isEmpty then none
  else (host.directories.map fun directory => directory ++ "/" ++ command).find? host.isProgram

/-- Whether a command names a program. -/
def isFound (host : Host) (command : String) : Bool :=
  (host.find? command).isSome

end Host

/-! ### Compilers -/

/-- A compiler: the name under which it was found, its flags, and the limit of time. -/
structure Compiler where
  file : String
  flags : List String
  limit : Value
deriving Repr

namespace Compiler

/-- The texts that a value lists: a text lists its characters and a mapping its keys. -/
def textsOf? : Value → Option (List String)
  | .list items | .set items => items.mapM fun
    | .text s => some s
    | _ => none
  | .text s => some (s.toList.map String.singleton)
  | .mapping entries => (entries.map Prod.fst).mapM fun
    | .text s => some s
    | _ => none
  | _ => none

/-- The compiler that a command and flags name. The flags are not looked at unless the command is
found. -/
def ofValues (host : Host) (command flags limit : Value) : Except BuildFault Compiler :=
  match command with
  | .text command =>
    match host.find? command with
    | none => .error (.notFound command)
    | some file =>
      match textsOf? flags with
      | none => .error .unusable
      | some flags =>
        if flags.any fun flag => flag.contains '\x00' then .error .badArgument
        else .ok { file, flags, limit }
  | _ => .error .unusable

/-- The name of the file with the program text. -/
def sourceFile : String := "/tmp/work/pattern.cpp"

/-- The name of the executable file. -/
def binaryFile : String := "/tmp/work/pattern"

/-- A text with line feeds at the ends of its lines, if bytes write a text. -/
def decoded (bytes : ByteArray) : Except BuildFault String :=
  match String.fromUTF8? bytes with
  | some text => .ok (String.ofList (Text.universalNewlines text.toList))
  | none => .error .noText

/-- The last part of the name of a file. -/
def lastName (file : String) : String :=
  (file.splitOn "/").getLast?.getD file

/-- The output and the files of a stage in which a file is executed with arguments. It is a fault if
that is not possible, takes too long, or ends with a status other than zero. -/
def perform (host : Host) (stage : Stage) (file : String) (arguments : List String) (limit : Value)
    (files : host.Files) : Except BuildFault (String × host.Files) :=
  match host.execute? files file arguments with
  | none => .error (.notStarted stage file)
  | some result => do
    let time ← TimeLimit.ofValue limit
    if time.allows (result.status.map fun _ => result.time) then
      let output ← decoded result.output
      let errors ← decoded result.errors
      match result.status with
      | some 0 => return (output, result.files)
      | status =>
        throw (.stopped stage (lastName file) (status.getD 0)
          (String.ofList (Text.trimBlanks errors.toList)))
    else
      throw (.outOfTime limit file)

/-- The output of a program text. -/
def output (compiler : Compiler) (host : Host) (code : String) : Except BuildFault String := do
  let (_, files) ← perform host .compilation compiler.file
    (compiler.flags ++ ["-o", binaryFile, sourceFile]) compiler.limit
    (host.filesWith sourceFile code)
  let (output, _) ← perform host .execution binaryFile [] compiler.limit files
  return output

end Compiler

end GridRules
