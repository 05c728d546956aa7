import GridRules.Compiler
import GridRules.Shell.Running

/-!
# A system with nothing but its tools

The system on which the shell and its tools are the only programs. A script among them may stand for
a compiler, since a script can write an executable file.
-/

namespace GridRules.Shell

/-- The bytes as an array. -/
def arrayOf (bytes : Bytes) : ByteArray :=
  ⟨bytes.toArray⟩

/-- What remains of a program, as other programs see it. -/
def Result.execution (result : Result) : Execution Files where
  status := result.status
  output := arrayOf result.output
  errors := arrayOf result.errors
  files := result.files
  time := result.clock

/-- Whether a name leads to a tool. -/
def isTool (name : String) : Bool :=
  name.toList.head? == some '/' && name.toList.getLast? != some '/' &&
    match standardFiles.find? (placeOf [] name) with
    | some (.tool _) => true
    | _ => false

/-- The system with the standard files. -/
def host : Host where
  Files := Files
  directories := toolDirectories.map nameOf
  isProgram := isTool
  filesWith name text := standardFiles.put (placeOf [] name) (.file (bytesOf text) false)
  execute? files name arguments :=
    (execute? files (placeOf [] name) name arguments).map Result.execution

end GridRules.Shell
