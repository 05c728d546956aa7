import GridRules.Shell.Expansion

/-!
# Replies of utilities

A utility takes arguments in a state, and its reply is what it writes and how it ends. Complaints
are written in the name of the script that runs the utility, errors as they are.
-/

namespace GridRules.Shell

/-- What a utility writes and how it ends. -/
structure Reply where
  output : Bytes := []
  errors : Bytes := []
  complaints : List String := []
  status : Nat := 0
deriving Repr, Inhabited

/-- A utility: its reply to arguments, and the state that it leaves. -/
abbrev Utility := List String → State → Reply × State

namespace Reply

/-- A reply with a line of output. -/
def line (text : String) : Reply where
  output := bytesOf (text ++ "\n")

/-- A reply with nothing but an error. -/
def error (message : String) (status : Nat := 1) : Reply where
  errors := bytesOf (message ++ "\n")
  status := status

/-- A reply with nothing but a complaint. -/
def complaint (message : String) (status : Nat := 2) : Reply where
  complaints := [message]
  status := status

/-- A reply that tells whether a condition holds. -/
def ofBool (holds : Bool) : Reply where
  status := if holds then 0 else 1

/-- Two replies after each other; the status is that of the first one that failed. -/
def followedBy (first second : Reply) : Reply where
  output := first.output ++ second.output
  errors := first.errors ++ second.errors
  complaints := first.complaints ++ second.complaints
  status := if first.status = 0 then second.status else first.status

/-- The error about a missing operand, with the advice that follows it. -/
def advised (tool message : String) (status : Nat := 1) : Reply :=
  error (tool ++ ": " ++ message ++ "\nTry '" ++ tool ++ " --help' for more information.") status

end Reply

namespace State

/-- The place to which a name leads from the current directory, all links followed. -/
def placeOfName (state : State) (name : String) : Place :=
  state.files.place state.directory name

/-- The file that swallows what is written to it and holds nothing. -/
def nullDevice : Place := ["dev", "null"]

/-- The content of the file with a name; none if there is none. -/
def content? (state : State) (name : String) : Option Bytes :=
  let place := state.placeOfName name
  if place == nullDevice then some []
  else
    match state.files.find? place with
    | some (.file content _) => some content
    | some (.tool tool) => some (bytesOf tool)
    | _ => none

/-- Whether the directory in which a name would lie is there. -/
def hasRoomFor (state : State) (name : String) : Bool :=
  name != "" && state.files.isDirectory (state.placeOfName name).dropLast

/-- The contents of the files that arguments name, with their names; without any argument, and for a
dash, the input. A file that is not there gives an error. -/
def contents (state : State) (complaint : String → String → String) (names : List String) :
    List (String × Bytes) × Reply × State :=
  (if names.isEmpty then ["-"] else names).foldl (fun (found, reply, state) name =>
    if name == "-" then
      (found ++ [(name, state.input)], reply, { state with input := [] })
    else
      match state.content? name with
      | some bytes => (found ++ [(name, bytes)], reply, state)
      | none =>
        let reason :=
          if state.files.isDirectory (state.placeOfName name) then "Is a directory"
          else "No such file or directory"
        (found, reply.followedBy (.error (complaint name reason)), state)) ([], {}, state)

end State

end GridRules.Shell
