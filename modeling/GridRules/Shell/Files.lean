/-!
# Files of a running script

The files that a script sees form a tree, which is kept as a list of its entries by their places.
The place of an entry is the sequence of names that leads to it from the root. Besides files and
directories there are links to other places and tools, files that the system itself can execute.
-/

namespace GridRules.Shell

/-- What files hold and channels collect. -/
abbrev Bytes := List UInt8

/-- The bytes of a text. -/
def bytesOf (text : String) : Bytes :=
  text.toUTF8.toList

/-- The text that bytes write; none if they write no text. -/
def textOf? (bytes : Bytes) : Option String :=
  String.fromUTF8? ⟨bytes.toArray⟩

/-- The text that bytes write, in which bytes that write no text are left out. -/
def textOf (bytes : Bytes) : String :=
  match textOf? bytes with
  | some text => text
  | none => (textOf? (bytes.filter (· < 128))).getD ""

/-- The names that lead to an entry from the root. -/
abbrev Place := List String

/-- An entry of the tree. -/
inductive Entry where
  | file (content : Bytes) (executable : Bool)
  | directory
  | link (target : String)
  | tool (name : String)
deriving Repr, Inhabited, DecidableEq

/-- The entries of a tree. The root is a directory without being listed. -/
abbrev Files := List (Place × Entry)

/-- The place to which a name leads from a directory. -/
def placeOf (directory : Place) (name : String) : Place :=
  let start := if name.toList.head? == some '/' then [] else directory
  (name.splitOn "/").foldl (fun place part =>
    if part == "" || part == "." then place
    else if part == ".." then place.dropLast
    else place ++ [part]) start

/-- The name of a place. -/
def nameOf (place : Place) : String :=
  "/" ++ "/".intercalate place

namespace Files

/-- The entry at a place itself, be it a link or not. -/
def entry? (files : Files) (place : Place) : Option Entry :=
  if place.isEmpty then some .directory else files.lookup place

/-- The place to which the links at a place lead. -/
def follow (files : Files) : Nat → Place → Place
  | 0, place => place
  | fuel + 1, place =>
    match files.entry? place with
    | some (.link target) => follow files fuel (placeOf place.dropLast target)
    | _ => place

/-- How many links after each other are followed. -/
def linkLimit : Nat := 40

/-- The place to which a name leads from a directory, all links followed. -/
def place (files : Files) (directory : Place) (name : String) : Place :=
  files.follow linkLimit (placeOf directory name)

/-- The entry to which a place leads. -/
def find? (files : Files) (place : Place) : Option Entry :=
  files.entry? (files.follow linkLimit place)

/-- Whether a place leads to a directory. -/
def isDirectory (files : Files) (place : Place) : Bool :=
  files.find? place == some .directory

/-- The files with an entry at a place, instead of the one that was there. -/
def put (place : Place) (entry : Entry) : Files → Files
  | [] => [(place, entry)]
  | other :: rest =>
    if other.1 = place then (place, entry) :: rest else other :: put place entry rest

/-- The files without the entry at a place. -/
def remove (files : Files) (place : Place) : Files :=
  files.filter (·.1 ≠ place)

/-- Whether nothing lies in the directory at a place. -/
def isBare (files : Files) (place : Place) : Bool :=
  !files.any fun (other, _) => other.length = place.length + 1 && place.isPrefixOf other

end Files

end GridRules.Shell
