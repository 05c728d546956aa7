import GridRules.Failure
import GridRules.Text.Lines

/-!
# Workspaces

A workspace holds what a run of the program finds around it: files, directories, environment
variables and the text on standard input. Reading and writing are functions on workspaces.
-/

namespace GridRules

/-! ### Paths -/

/-- The names along a path. A path that starts at the root has the root as its first name. -/
structure Path where
  names : List String
deriving DecidableEq, Repr, Inhabited

namespace Path

/-- The path that a text writes. Empty names and those of the directory itself are left out. -/
def ofText (text : String) : Path :=
  let names := (Text.splitOn '/' text.toList).map String.ofList
  let names := names.filter fun name => name != "" && name != "."
  ⟨if text.toList.head? = some '/' then "/" :: names else names⟩

/-- The path behind a directory; a path that starts at the root stands for itself. -/
def behind (directory path : Path) : Path :=
  if path.names.head? = some "/" then path else ⟨directory.names ++ path.names⟩

/-- The directory of a path. -/
def directory (path : Path) : Path :=
  ⟨path.names.dropLast⟩

/-- The last name along a path. -/
def name (path : Path) : String :=
  path.names.getLast?.getD ""

/-- The ending of the last name, from its last point on, unless the name starts or ends there. -/
def ending (path : Path) : String :=
  let name := path.name.toList
  let tail := (name.reverse.takeWhile (· != '.')).reverse
  if tail.length + 1 < name.length ∧ tail ≠ [] then String.ofList ('.' :: tail) else ""

/-- The text of a path. -/
def text (path : Path) : String :=
  match path.names with
  | "/" :: names => "/" ++ "/".intercalate names
  | names => "/".intercalate names

/-- Whether a text can only stand for a directory. -/
def namesDirectory (text : String) : Bool :=
  text.endsWith "/" || text.endsWith "/."

end Path

/-! ### Files -/

/-- The content of a file: a text, or bytes that are no text. -/
inductive Content where
  | text (s : String)
  | bytes
deriving DecidableEq, Repr, Inhabited

/-- The reasons for which a file cannot be read or written. -/
inductive FileFault where
  | missing
  | isDirectory
  | notDirectory
  | alreadyThere
  | tooLong
  | badName
  | noText
deriving DecidableEq, Repr

/-- What is reported of a fault that nothing else reports. -/
def FileFault.failure : FileFault → Failure
  | .missing => .plain .missingFile
  | .isDirectory => .plain .isDirectory
  | .notDirectory => .plain .notDirectory
  | .alreadyThere => .plain .fileExists
  | .tooLong => .plain .system
  | .badName => .plain .badValue
  | .noText => .plain .badEncoding

/-- The wording of a file fault. -/
def FileFault.wording : FileFault → String
  | .missing => "no such file or directory"
  | .isDirectory => "is a directory"
  | .notDirectory => "not a directory"
  | .alreadyThere => "file exists"
  | .tooLong => "name too long"
  | .badName => "not a name of a file"
  | .noText => "not a text"

/-- Whether a fault lies in the file tree. The others lie in a name or in what a file holds. -/
def FileFault.isOfTree : FileFault → Bool
  | .badName | .noText => false
  | _ => true

/-- The reasons for which an environment variable cannot be set. -/
inductive VariableFault where
  | noName
  | badText
deriving DecidableEq, Repr

/-- What is reported of a variable that cannot be set. -/
def VariableFault.failure : VariableFault → Failure
  | .noName => .plain .system
  | .badText => .plain .badValue

/-- Files, directories, variables and standard input. -/
structure Workspace where
  files : List (List String × Content) := []
  directories : List (List String) := []
  environment : List (String × String) := []
  input : String := ""
deriving Repr, Inhabited

namespace Workspace

/-! ### Places

A place is a list of names like a path, but without detours. Places beside the present directory
start with the names of its parents, which are all `..`, or with the root. -/

/-- The name of the parent of a directory. -/
def parentName : String := ".."

/-- The place to which a name leads from a directory. -/
def step (place : List String) (name : String) : List String :=
  if name = "/" then ["/"]
  else if name ≠ parentName then place ++ [name]
  else if place = ["/"] then place
  else if place.all (· == parentName) then place ++ [name]
  else place.dropLast

/-- The place of the file that is always empty, whatever is written to it. -/
def emptyFile : List String := ["/", "dev", "null"]

/-- The directories that are there in any case. -/
def standardDirectories : List (List String) :=
  [["/", "bin"], ["/", "dev"], ["/", "etc"], ["/", "tmp"], ["/", "usr", "bin"]]

/-- The content of the file at a place. -/
def fileAt? (workspace : Workspace) (place : List String) : Option Content :=
  if place = emptyFile then some (.text "") else workspace.files.lookup place

/-- Whether a place is a directory: the present one or one that it is in, one that was made, or one
on the way to another directory or to a file. -/
def isDirectoryAt (workspace : Workspace) (place : List String) : Bool :=
  place.all (· == parentName) ||
    (standardDirectories.any fun other => place.isPrefixOf other) ||
    (workspace.directories.any fun other => place.isPrefixOf other) ||
    workspace.files.any fun entry => place.isPrefixOf entry.1 && place.length < entry.1.length

/-- The most bytes that a name may have. -/
def mostNameBytes : Nat := 255

/-- The most bytes that a path may have. -/
def mostPathBytes : Nat := 4095

/-- The place to which names lead from a place. Every name but the last has to be that of a
directory. -/
def locateFrom (workspace : Workspace) (place : List String) :
    List String → Except FileFault (List String)
  | [] => .ok place
  | name :: names =>
    if workspace.isDirectoryAt place then
      if mostNameBytes < name.utf8ByteSize then .error .tooLong
      else workspace.locateFrom (step place name) names
    else if (workspace.fileAt? place).isSome then .error .notDirectory
    else .error .missing

/-- The place to which a path leads. -/
def locate (workspace : Workspace) (path : Path) : Except FileFault (List String) :=
  if path.names.any fun name => name.toList.contains '\x00' then .error .badName
  else if mostPathBytes < path.text.utf8ByteSize then .error .tooLong
  else workspace.locateFrom [] path.names

/-- Whether a path leads to a file that can be changed. -/
def isFile (workspace : Workspace) (path : Path) : Bool :=
  match workspace.locate path with
  | .ok place => place != emptyFile && (workspace.fileAt? place).isSome
  | .error _ => false

/-- Whether a path leads to a file or a directory. Only for a path that is too long that cannot be
told. -/
def isThere (workspace : Workspace) (path : Path) : Except FileFault Bool :=
  match workspace.locate path with
  | .ok place => .ok ((workspace.fileAt? place).isSome || workspace.isDirectoryAt place)
  | .error .tooLong => .error .tooLong
  | .error _ => .ok false

/-- The first of some paths that leads to a file or a directory. -/
def firstThere (workspace : Workspace) : List Path → Except FileFault (Option Path)
  | [] => .ok none
  | path :: paths =>
    match workspace.isThere path with
    | .error fault => .error fault
    | .ok true => .ok (some path)
    | .ok false => workspace.firstThere paths

/-! ### Reading and writing -/

/-- The text of a file, in which every line ends in a line feed. -/
def read (workspace : Workspace) (path : Path) : Except FileFault String :=
  match workspace.locate path with
  | .error fault => .error fault
  | .ok place =>
    match workspace.fileAt? place with
    | some (.text s) => .ok (String.ofList (Text.universalNewlines s.toList))
    | some .bytes => .error .noText
    | none => .error (if workspace.isDirectoryAt place then .isDirectory else .missing)

/-- The entries with a further one in the place of an earlier one for the same key. -/
def putEntry {κ α : Type} [DecidableEq κ] (key : κ) (value : α) : List (κ × α) → List (κ × α)
  | [] => [(key, value)]
  | entry :: rest =>
    if entry.1 = key then (key, value) :: rest else entry :: putEntry key value rest

/-- The workspace after a text was written to a file, whose directory has to be there. -/
def write (workspace : Workspace) (path : Path) (text : String) : Except FileFault Workspace :=
  match workspace.locate path with
  | .error fault => .error fault
  | .ok place =>
    if workspace.isDirectoryAt place then .error .isDirectory
    else if place = emptyFile then .ok workspace
    else .ok { workspace with files := putEntry place (.text text) workspace.files }

/-- The workspace after one directory was made, unless it is there already. The directory that it is
to be in has to be there. -/
def makeOne (workspace : Workspace) (path : Path) : Except FileFault Workspace :=
  match workspace.locate path with
  | .error fault => .error fault
  | .ok place =>
    if workspace.isDirectoryAt place then .ok workspace
    else if (workspace.fileAt? place).isSome then .error .alreadyThere
    else .ok { workspace with directories := workspace.directories ++ [place] }

/-- The workspace that an operation gives; one that fails leaves the earlier one. -/
def orKept (workspace : Workspace) : Except FileFault Workspace → Workspace × Option FileFault
  | .ok after => (after, none)
  | .error fault => (workspace, some fault)

/-- Makes the directory at the first names of a path. If the one that it is to be in is missing,
that is made before. What was made stays even if the rest cannot be made. -/
def makeFirst (workspace : Workspace) (path : Path) : Nat → Workspace × Option FileFault
  | 0 => (workspace, none)
  | n + 1 =>
    let part : Path := ⟨path.names.take (n + 1)⟩
    match workspace.makeOne part with
    | .error .missing =>
      match workspace.makeFirst path n with
      | (workspace, none) => workspace.orKept (workspace.makeOne part)
      | failed => failed
    | made => workspace.orKept made

/-- Makes a directory and those on the way to it. -/
def makeDirectory (workspace : Workspace) (path : Path) : Workspace × Option FileFault :=
  workspace.makeFirst path path.names.length

/-- The files that are not as they were in an earlier workspace. -/
def changedSince (workspace earlier : Workspace) : List (List String × Content) :=
  workspace.files.filter fun (place, content) => earlier.fileAt? place ≠ some content

/-- Whether a place lies within the present directory. -/
def isWithin (place : List String) : Bool :=
  place.head? != some "/" && place.head? != some parentName

/-! ### Variables -/

/-- The value of an environment variable. -/
def valueOf? (workspace : Workspace) (name : String) : Option String :=
  workspace.environment.lookup name

/-- The workspace after an environment variable was set. Its name may not hold an equals sign. -/
def setVariable (workspace : Workspace) (name value : String) :
    Except VariableFault Workspace :=
  if name.contains '\x00' || name.contains '=' || value.contains '\x00' then .error .badText
  else if name = "" then .error .noName
  else .ok { workspace with environment := putEntry name value workspace.environment }

end Workspace

end GridRules
