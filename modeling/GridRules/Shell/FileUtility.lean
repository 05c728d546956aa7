import GridRules.Shell.Reply
import GridRules.Shell.Writing

/-!
# Utilities that change files

These utilities make, copy, move, link and remove the entries of the tree, and say who may execute
them.
-/

namespace GridRules.Shell

namespace FileUtility

/-- The options and the operands of some arguments. -/
def options (arguments : List String) : List Char × List String :=
  let isOption (argument : String) : Bool :=
    argument.length > 1 && argument.toList.head? == some '-' && argument != "--"
  ((arguments.filter isOption).flatMap fun argument => argument.toList.drop 1,
    (arguments.filter fun argument => !isOption argument).filter (· != "--"))

/-- The name of a file as messages quote it. -/
def quoted (name : String) : String :=
  "'" ++ name ++ "'"

/-- The replies for some operands, one after the other. -/
def forEach (operands : List String) (state : State)
    (step : String → State → Reply × State) : Reply × State :=
  operands.foldl (fun (reply, state) operand =>
    let (next, state) := step operand state
    (reply.followedBy next, state)) ({}, state)

/-- What a tool replies if it has no operands at all. -/
def noOperand (tool : String) : Reply :=
  .advised tool "missing operand"

/-! ### Contents -/

/-- Text with the numbers of its lines in front of them. -/
def numbered (text : Bytes) : Bytes :=
  let rec lines (fuel n : Nat) (text : Bytes) : Bytes :=
    match fuel, text with
    | 0, _ | _, [] => []
    | fuel + 1, text =>
      let digits := Nat.toDigits 10 n
      let line := text.takeWhile (· != 10)
      let behind := text.dropWhile (· != 10)
      bytesOf (String.ofList (List.replicate (6 - digits.length) ' ' ++ digits ++ ['\t'])) ++ line
        ++ behind.take 1 ++ lines fuel (n + 1) (behind.drop 1)
  lines (text.length + 1) 1 text

/-- Writes the contents of files one after the other. -/
def cat : Utility := fun arguments state =>
  let (options, names) := options arguments
  match options.find? fun c => !"nu".toList.contains c with
  | some c => (.advised "cat" ("invalid option -- '" ++ String.singleton c ++ "'"), state)
  | none =>
    let (found, reply, state) :=
      state.contents (fun name reason => "cat: " ++ name ++ ": " ++ reason) names
    let text := found.flatMap Prod.snd
    ({ reply with output := if options.contains 'n' then numbered text else text }, state)

/-- Writes its input, also to files. -/
def tee : Utility := fun arguments state =>
  let (options, names) := options arguments
  let text := state.input
  let state := { state with input := [] }
  let (reply, state) := forEach names state fun name state =>
    let place := state.placeOfName name
    if place == State.nullDevice then ({}, state)
    else if state.files.isDirectory place then
      (.error ("tee: " ++ name ++ ": Is a directory"), state)
    else if state.hasRoomFor name then
      let (before, executable) :=
        match state.files.find? place with
        | some (.file content executable) =>
          (if options.contains 'a' then content else [], executable)
        | _ => ([], false)
      ({}, { state with files := state.files.put place (.file (before ++ text) executable) })
    else (.error ("tee: " ++ name ++ ": No such file or directory"), state)
  ({ reply with output := text }, state)

/-! ### Modes -/

/-- Whether files with a mode may be executed, given whether they may be before; none if the mode
makes no sense. -/
def executable? (mode : String) (before : Bool) : Option Bool :=
  let text := mode.toList
  if !text.isEmpty && text.all Writing.isOctal then
    some (Writing.octalByte (text.drop (text.length - 3)) &&& 0o111 != 0)
  else
    (mode.splitOn ",").foldlM (fun before clause =>
      let text := clause.toList
      let who := text.takeWhile fun c => "ugoa".toList.contains c
      match text.drop who.length with
      | operator :: letters =>
        if !"+-=".toList.contains operator then none
        else if letters.any fun c => !"rwxXst".toList.contains c then none
        else
          let names := letters.contains 'x' || letters.contains 'X' && before
          let everyone := who.isEmpty || who.contains 'a'
          match operator with
          | '+' => some (before || names)
          | '-' => some (before && !(names && everyone))
          | _ => some (names || before && !everyone)
      | [] => none) before

/-- Changes who may do what with files; only whether they may be executed is kept. -/
def chmod : Utility := fun arguments state =>
  let arguments := arguments.filter fun argument =>
    !(["-R", "-v", "-f", "-c", "--"].contains argument)
  match arguments with
  | [] => (noOperand "chmod", state)
  | mode :: names =>
    match executable? mode false, names with
    | none, _ => (.advised "chmod" ("invalid mode: " ++ quoted mode), state)
    | some _, [] => (.advised "chmod" ("missing operand after " ++ quoted mode), state)
    | some _, names => forEach names state fun name state =>
      let place := state.placeOfName name
      match state.files.find? place with
      | some (.file content before) =>
        let executable := (executable? mode before).getD before
        ({}, { state with files := state.files.put place (.file content executable) })
      | some _ => ({}, state)
      | none =>
        (.error ("chmod: cannot access " ++ quoted name ++ ": No such file or directory"), state)

/-! ### Copies -/

/-- The last of the names that lead to a place. -/
def lastName (name : String) : String :=
  ((name.splitOn "/").filter (· != "")).getLast?.getD ""

/-- The name under which a source lies if it goes to a target: a directory takes it up under its own
name. -/
def targetName (state : State) (source target : String) : String :=
  if state.files.isDirectory (state.placeOfName target) then target ++ "/" ++ lastName source
  else target

/-- What a tool replies to operands of which the last one is a target; `step` treats each of the
others. -/
def towards (tool : String) (operands : List String) (state : State)
    (step : String → String → State → Reply × State) : Reply × State :=
  match operands with
  | [] => (.advised tool "missing file operand", state)
  | [source] => (.advised tool ("missing destination file operand after " ++ quoted source), state)
  | operands =>
    let target := operands.getLast?.getD ""
    let sources := operands.dropLast
    if sources.length > 1 && !state.files.isDirectory (state.placeOfName target) then
      (.error (tool ++ ": target " ++ quoted target ++
        (if (state.files.find? (state.placeOfName target)).isSome then ": Not a directory"
          else ": No such file or directory")), state)
    else
      forEach sources state fun source state => step source (targetName state source target) state

/-- The message about a source that is not there. -/
def noSource (tool source : String) : Reply :=
  .error (tool ++ ": cannot stat " ++ quoted source ++ ": No such file or directory")

/-- Copies files. A file that is there already stays executable or not. -/
def cp : Utility := fun arguments state =>
  let (_, operands) := options arguments
  towards "cp" operands state fun source target state =>
    let origin := state.placeOfName source
    let goal := state.placeOfName target
    match state.files.find? origin with
    | none =>
      if origin == State.nullDevice && state.hasRoomFor target then
        ({}, { state with files := state.files.put goal (.file [] false) })
      else (noSource "cp" source, state)
    | some .directory =>
      (.error ("cp: -r not specified; omitting directory " ++ quoted source), state)
    | some entry =>
      if origin == goal then
        (.error ("cp: " ++ quoted source ++ " and " ++ quoted target ++ " are the same file"),
          state)
      else if state.hasRoomFor target then
        let entry :=
          match entry, state.files.find? goal with
          | .file content _, some (.file _ executable) => .file content executable
          | entry, _ => entry
        ({}, { state with files := state.files.put goal entry })
      else
        (.error ("cp: cannot create regular file " ++ quoted target ++
          ": No such file or directory"), state)

/-- Moves files. -/
def mv : Utility := fun arguments state =>
  let (_, operands) := options arguments
  towards "mv" operands state fun source target state =>
    let origin := placeOf state.directory source
    let goal := placeOf state.directory target
    match state.files.entry? origin with
    | none => (noSource "mv" source, state)
    | some entry =>
      if origin == goal then
        (.error ("mv: " ++ quoted source ++ " and " ++ quoted target ++ " are the same file"),
          state)
      else if state.hasRoomFor target then
        ({}, { state with files := (state.files.remove origin).put goal entry })
      else
        (.error ("mv: cannot move " ++ quoted source ++ " to " ++ quoted target ++
          ": No such file or directory"), state)

/-- Gives files a second name, or makes links to places. -/
def ln : Utility := fun arguments state =>
  let (options, operands) := options arguments
  let (operands : List String) :=
    match operands with
    | [source] => [source, "."]
    | operands => operands
  towards "ln" operands state fun source target state =>
    let goal := placeOf state.directory target
    let kind := if options.contains 's' then "symbolic link" else "hard link"
    if (state.files.entry? goal).isSome && !options.contains 'f' then
      (.error ("ln: failed to create " ++ kind ++ " " ++ quoted target ++ ": File exists"), state)
    else if options.contains 's' then
      ({}, { state with files := state.files.put goal (.link source) })
    else
      match state.files.find? (state.placeOfName source) with
      | none =>
        (.error ("ln: failed to access " ++ quoted source ++ ": No such file or directory"), state)
      | some entry => ({}, { state with files := state.files.put goal entry })

/-- Copies a file and says who may execute the copy. -/
def install : Utility := fun arguments state =>
  let (mode, operands) :=
    match arguments with
    | "-m" :: mode :: rest => (mode, rest)
    | first :: rest =>
      if first.toList.take 2 == ['-', 'm'] then
        (String.ofList ((first.toList.drop 2).filter (· != '=')), rest)
      else ("755", first :: rest)
    | [] => ("755", [])
  let (_, operands) := options operands
  towards "install" operands state fun source target state =>
    match state.files.find? (state.placeOfName source) with
    | some (.file content _) =>
      let entry : Entry := .file content ((executable? mode false).getD true)
      ({}, { state with files := state.files.put (state.placeOfName target) entry })
    | some entry => ({}, { state with files := state.files.put (state.placeOfName target) entry })
    | none => (noSource "install" source, state)

/-- Writes the names of files and of what lies in directories. -/
def ls : Utility := fun arguments state =>
  let (_, operands) := options arguments
  let listed := if operands.isEmpty then ["."] else operands
  let (reply, state) := forEach listed state fun name state =>
    let place := state.placeOfName name
    match state.files.find? place with
    | some .directory =>
      let names := state.files.filterMap fun (other, _) =>
        if other.dropLast == place && !other.isEmpty then other.getLast? else none
      ({ output := bytesOf (String.join
          ((names.mergeSort fun a b => a ≤ b).map fun name => name ++ "\n")) }, state)
    | some _ => (.line name, state)
    | none =>
      (.error ("ls: cannot access " ++ quoted name ++ ": No such file or directory") 2, state)
  (reply, state)

/-! ### Making and removing -/

/-- Removes files. -/
def rm : Utility := fun arguments state =>
  let (options, operands) := options arguments
  let deep := options.contains 'r' || options.contains 'R'
  if operands.isEmpty && !options.contains 'f' then (noOperand "rm", state)
  else
    forEach operands state fun name state =>
      let place := placeOf state.directory name
      match state.files.entry? place with
      | some .directory =>
        if deep then
          ({}, { state with files := state.files.filter fun entry => !place.isPrefixOf entry.1 })
        else (.error ("rm: cannot remove " ++ quoted name ++ ": Is a directory"), state)
      | some _ => ({}, { state with files := state.files.remove place })
      | none =>
        if options.contains 'f' then ({}, state)
        else
          (.error ("rm: cannot remove " ++ quoted name ++ ": No such file or directory"), state)

/-- Makes files that are not there yet. -/
def touch : Utility := fun arguments state =>
  let (_, operands) := options arguments
  if operands.isEmpty then (.advised "touch" "missing file operand", state)
  else
    forEach operands state fun name state =>
      let place := state.placeOfName name
      if (state.files.find? place).isSome || place == State.nullDevice then ({}, state)
      else if state.hasRoomFor name then
        ({}, { state with files := state.files.put place (.file [] false) })
      else
        (.error ("touch: cannot touch " ++ quoted name ++ ": No such file or directory"), state)

/-- The places on the way to a place. -/
def waysTo (place : Place) : List Place :=
  (List.range place.length).map fun n => place.take (n + 1)

/-- Makes directories. -/
def mkdir : Utility := fun arguments state =>
  let (options, operands) := options arguments
  if operands.isEmpty then (noOperand "mkdir", state)
  else
    forEach operands state fun name state =>
      let place := state.placeOfName name
      let refused (reason : String) : Reply × State :=
        (.error ("mkdir: cannot create directory " ++ quoted name ++ ": " ++ reason), state)
      if options.contains 'p' then
        let missing := (waysTo place).filter fun way => (state.files.find? way).isNone
        if (waysTo place).any fun way =>
            (state.files.find? way).isSome && !state.files.isDirectory way then
          refused "Not a directory"
        else
          ({}, { state with files := missing.foldl (fun files way =>
            files.put way .directory) state.files })
      else if (state.files.find? place).isSome then refused "File exists"
      else if state.hasRoomFor name then
        ({}, { state with files := state.files.put place .directory })
      else refused "No such file or directory"

/-- Removes directories in which nothing lies. -/
def rmdir : Utility := fun arguments state =>
  let (_, operands) := options arguments
  if operands.isEmpty then (noOperand "rmdir", state)
  else
    forEach operands state fun name state =>
      let place := state.placeOfName name
      let refused (reason : String) : Reply × State :=
        (.error ("rmdir: failed to remove " ++ quoted name ++ ": " ++ reason), state)
      match state.files.find? place with
      | none => refused "No such file or directory"
      | some .directory =>
        if state.files.isBare place then ({}, { state with files := state.files.remove place })
        else refused "Directory not empty"
      | some _ => refused "Not a directory"

end FileUtility

end GridRules.Shell
