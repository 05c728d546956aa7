import GridRules.VariableFile
import GridRules.ErrorLog
import GridRules.Json.Writing
import GridRules.Settings.Reading
import GridRules.Settings.Variables
import GridRules.Workspace
import GridRules.Yaml.Writing

/-!
# A store of settings

A store holds the settings of a running program. It loads them from a file, lets environment
variables override them, checks them, changes single fields and saves them. Loads that fail are
counted in the log of the store. What a text stands for in a format that is defined elsewhere, and
what a change does to a name that nothing declares, is given to the store.
-/

namespace GridRules

namespace Settings

/-- The formats of settings files. -/
inductive Format where
  | json
  | yaml
deriving DecidableEq, Repr

/-- The format that the ending of a path names. -/
def Format.ofPath? (path : Path) : Option Format :=
  match path.ending.toLower with
  | ".json" => some .json
  | ".yaml" | ".yml" => some .yaml
  | _ => none

/-- What stands for the formats that are defined elsewhere: a reader and a writer of YAML, and a
reader of files of variables, which is also given the variables that are set already. -/
structure ForeignFormats where
  readYaml : String → Except Yaml.Fault Value := Yaml.read
  yamlText : Value → String := Yaml.text
  assignments : String → (String → Option String) → List (String × String) :=
    VariableFile.assignments

/-- What a change does to a name that is not declared as that of a section or a field but that every
object has all the same, such as the one of its description: it gives settings, which are still to
be checked, or it fails. It does nothing to other names. -/
abbrev InheritedNames := Settings → String → String → Value → Option (Except Failure Settings)

/-- The reasons for which settings cannot be loaded, changed or saved. -/
inductive StoreFault where
  | notFound (path : String)
  | unsupportedFormat (ending : String)
  | badJson (fault : Json.Fault)
  | badYaml (fault : Yaml.Fault)
  | unreadable (fault : FileFault)
  | badStructure (fault : StructureFault)
  | rejected (complaint : Complaint)
  | nothingLoaded
  | unknownSection (name : String)
  | unknownKey (name : String)
  | inherited (failure : Failure)
  | changeRejected (complaint : Complaint)
  | nothingToSave
  | unsupportedSaveFormat (ending : String)
  | notSaved (fault : FileFault)
  | unwritable (fault : Json.WritingFault)
  | unshowable
  | uncheckable (fault : CheckFault)
  | badFile (fault : FileFault)
  | badVariable (fault : VariableFault)

/-- A failure about the settings. -/
def reported (code message : String) : Failure where
  category := .configuration
  code := code
  message := message

/-- What is reported of a JSON text that gives no value. -/
def jsonFailure : Json.Fault → Failure
  | .malformed => reported "INVALID_JSON" "Invalid JSON in config file: malformed text"
  | .longNumber => .plain .badValue

/-- What is reported of a YAML text that gives no value. -/
def yamlFailure : Yaml.Fault → Failure
  | .malformed => reported "INVALID_YAML" "Invalid YAML in config file: malformed text"
  | .numberWithoutDigits => .plain .badIndex
  | .unreadableNumber => .plain .badValue
  | .unknownTruth => .plain .badKey
  | .noTimestamp => .plain .badMember
  | .noText => .plain .badType
  | .tooLarge => .plain .tooLarge

/-- What is reported of settings that cannot be written in full. -/
def writingFailure : Json.WritingFault → Failure
  | .noJson => .plain .badType
  | .longNumber => .plain .badValue

/-- What is reported of a store fault. -/
def StoreFault.failure : StoreFault → Failure
  | .notFound path => reported "CONFIG_NOT_FOUND" ("Configuration file not found: " ++ path)
  | .unsupportedFormat ending =>
    reported "UNSUPPORTED_FORMAT" ("Unsupported config file format: " ++ ending)
  | .badJson fault => jsonFailure fault
  | .badYaml fault => yamlFailure fault
  | .unreadable fault =>
    reported "FILE_READ_ERROR" ("Error reading config file: " ++ fault.wording)
  | .badStructure fault => fault.failure
  | .rejected reason =>
    reported "CONFIG_VALIDATION_FAILED"
      ("Configuration validation failed: " ++ reason.failure.text)
  | .nothingLoaded => reported "NO_CONFIG" "No configuration loaded"
  | .unknownSection name =>
    reported "UNKNOWN_SECTION" ("Unknown configuration section: " ++ name)
  | .unknownKey name => reported "UNKNOWN_KEY" ("Unknown configuration key: " ++ name)
  | .inherited failure => failure
  | .changeRejected reason =>
    reported "UPDATE_VALIDATION_FAILED"
      ("Configuration update validation failed: " ++ reason.failure.text)
  | .nothingToSave => reported "NO_CONFIG" "No configuration to save"
  | .unsupportedSaveFormat ending =>
    reported "UNSUPPORTED_SAVE_FORMAT" ("Unsupported save format: " ++ ending)
  | .notSaved fault =>
    reported "CONFIG_SAVE_FAILED" ("Failed to save configuration: " ++ fault.wording)
  | .unwritable fault => writingFailure fault
  | .unshowable => .plain .badValue
  | .uncheckable fault => fault.failure
  | .badFile fault => fault.failure
  | .badVariable fault => fault.failure

/-- The data that a text in a format writes. An empty YAML text, and one that writes an empty value,
stand for a mapping without entries. -/
def dataOf (formats : ForeignFormats) (format : Format) (text : String) :
    Except StoreFault Value :=
  match format with
  | .json => (Json.read text).mapError .badJson
  | .yaml =>
    match formats.readYaml text with
    | .error fault => .error (.badYaml fault)
    | .ok value => .ok (if isEmpty value then .mapping [] else value)

/-- The settings that a file gives. -/
def ofFile (formats : ForeignFormats) (workspace : Workspace) (path : Path) :
    Except StoreFault Settings :=
  match Format.ofPath? path with
  | none => .error (.unsupportedFormat path.ending)
  | some format =>
    match workspace.read path with
    | .error fault => .error (if fault.isOfTree then .unreadable fault else .badFile fault)
    | .ok text =>
      match dataOf formats format text with
      | .error fault => .error fault
      | .ok data =>
        match ofValue data with
        | .error fault => .error (.badStructure fault)
        | .ok settings => .ok settings

/-- The text of settings in a format, as far as it can be written. A YAML text is written in full or
not at all. -/
def textIn (formats : ForeignFormats) (settings : Settings) (format : Format) : Json.Written :=
  match format with
  | .json => Json.text settings.toValue
  | .yaml =>
    if settings.toValue.hasLongNumber then .ended .longNumber
    else { text := formats.yamlText settings.toValue }

end Settings

open Settings (StoreFault Format ForeignFormats InheritedNames)

/-- A store of settings: its directory, the file that it was opened with in place of a directory,
the settings, if there are any yet, and the log of loads, beside what it was given. -/
structure SettingsStore where
  directory : Path
  file : Option Path := none
  settings : Option Settings := none
  log : ErrorLog := {}
  formats : ForeignFormats := {}
  inherited : InheritedNames := fun _ _ _ _ => none

namespace SettingsStore

/-- The files of variables at which a store looks, in order. -/
def variableFiles (store : SettingsStore) : List Path :=
  [store.directory.behind (Path.ofText ".env"), Path.ofText ".env"]

/-- The workspace after the variables of a text were set, unless they were set already. -/
def setVariables (formats : ForeignFormats) (workspace : Workspace) (text : String) :
    Except StoreFault Workspace :=
  (formats.assignments text workspace.valueOf?).foldlM (fun after (name, value) =>
    if (workspace.valueOf? name).isSome then .ok after
    else (after.setVariable name value).mapError .badVariable) workspace

/-- Opens a store in a directory, or with a file whose directory becomes that of the store. The
variables of a file of variables, if there is one, are set in the workspace. -/
def openIn (directory : String) (workspace : Workspace) (formats : ForeignFormats := {}) :
    Except StoreFault (SettingsStore × Workspace) :=
  let path := Path.ofText directory
  let isFile := directory ≠ "" ∧ !Path.namesDirectory directory ∧ workspace.isFile path
  let store : SettingsStore :=
    if isFile then { directory := path.directory, file := some path, formats }
    else { directory := path, formats }
  match workspace.firstThere store.variableFiles with
  | .error fault => .error (.badFile fault)
  | .ok none => .ok (store, workspace)
  | .ok (some file) =>
    match workspace.read file with
    | .error .noText => .error (.badFile .noText)
    | .error _ => .ok (store, workspace)
    | .ok text => (setVariables formats workspace text).map fun workspace => (store, workspace)

/-- The files in which a store looks for settings, in order. -/
def candidates (store : SettingsStore) : List Path :=
  (["config.json", "config.yaml", "config.yml"].map fun name =>
    store.directory.behind (Path.ofText name))
  ++ ["gridsynth.json", "gridsynth.yaml", "gridsynth.yml"].map Path.ofText

/-- The file from which a store loads: the given one, which has to be there, the one that it was
opened with, or the first candidate that is there. -/
def source (store : SettingsStore) (workspace : Workspace) (path : Option String) :
    Except StoreFault (Option Path) :=
  match path.filter (· ≠ "") with
  | some text =>
    match workspace.isThere (Path.ofText text) with
    | .error fault => .error (.badFile fault)
    | .ok true => .ok (some (Path.ofText text))
    | .ok false => .error (.notFound text)
  | none =>
    match store.file with
    | some file => .ok (some file)
    | none => (workspace.firstThere store.candidates).mapError .badFile

/-- The settings of a file, or those by default, after the variables were looked at. -/
def read (store : SettingsStore) (workspace : Workspace) (path : Option String) :
    Except StoreFault Settings :=
  match store.source workspace path with
  | .error fault => .error fault
  | .ok file =>
    let settings : Except StoreFault Settings :=
      match file with
      | none => .ok Settings.default
      | some file => Settings.ofFile store.formats workspace file
    settings.map (Settings.override · workspace.valueOf?)

/-- Loads settings. Settings that were read are kept even if they do not pass the check; what could
not be read leaves the earlier ones. -/
def tryLoad (store : SettingsStore) (workspace : Workspace) (path : Option String) :
    SettingsStore × Except StoreFault Settings :=
  match store.read workspace path with
  | .error fault => (store, .error fault)
  | .ok settings =>
    ({ store with settings := some settings },
      match settings.check with
      | .ok () => .ok settings
      | .error (.complaint reason) => .error (.rejected reason)
      | .error fault => .error (.uncheckable fault))

/-- Loads settings and counts a load that fails. -/
def load (store : SettingsStore) (workspace : Workspace) (path : Option String := none) :
    SettingsStore × Except StoreFault Settings :=
  match store.tryLoad workspace path with
  | (store, .ok settings) => (store, .ok settings)
  | (store, .error fault) =>
    ({ store with
      log := store.log.record fault.failure fault.failure.text
        [("function", .text "load_config")] },
      .error fault)

/-- The settings of a store, which are loaded if there are none yet. -/
def get (store : SettingsStore) (workspace : Workspace) :
    SettingsStore × Except StoreFault Settings :=
  match store.settings with
  | some settings => (store, .ok settings)
  | none => store.load workspace

/-- The name under which a section keeps its check. -/
def checkName : String := "validate"

/-- The settings after a change of the field that a section keeps under a name, or of its check;
none if it keeps nothing under that name. -/
def changed? (settings : Settings) (part : Section) (key : String) (value : Value) :
    Option Settings :=
  match Field.ofName? part key with
  | some field => some (settings.set field value)
  | none =>
    if key = checkName then some { settings with unchecked := part :: settings.unchecked } else none

/-- The settings after a change of declared names; none if the names are not declared. -/
def declared? (settings : Settings) (sectionName key : String) (value : Value) : Option Settings :=
  (Section.ofName? sectionName).bind (changed? settings · key value)

/-- The fault of a change of a name that is unknown in a section, or in one that is unknown. -/
def unknown (sectionName key : String) : StoreFault :=
  if (Section.ofName? sectionName).isSome || sectionName == checkName then .unknownKey key
  else .unknownSection sectionName

/-- The settings after a change, before they are checked. Names that are not declared are left to
those that every object has. -/
def change (store : SettingsStore) (settings : Settings) (sectionName key : String)
    (value : Value) : Except StoreFault Settings :=
  match declared? settings sectionName key value with
  | some changed => .ok changed
  | none =>
    match store.inherited settings sectionName key value with
    | some outcome => outcome.mapError .inherited
    | none => .error (unknown sectionName key)

/-- Changes one field. A change that the check complains about is taken back. What was changed is
shown in the end. -/
def update (store : SettingsStore) (sectionName key : String) (value : Value) :
    SettingsStore × Except StoreFault Unit :=
  match store.settings with
  | none => (store, .error .nothingLoaded)
  | some settings =>
    match store.change settings sectionName key value with
    | .error fault => (store, .error fault)
    | .ok changed =>
      match changed.check with
      | .ok () =>
        ({ store with settings := some changed },
          if value.hasLongNumber then .error .unshowable else .ok ())
      | .error (.complaint reason) => (store, .error (.changeRejected reason))
      | .error fault => ({ store with settings := some changed }, .error (.uncheckable fault))

/-- Writes the settings to a file. If they cannot be written in full, the file holds what was
written of them. -/
def write (formats : ForeignFormats) (settings : Settings) (format : Format)
    (workspace : Workspace) (file : Path) : Workspace × Except StoreFault Unit :=
  let written := settings.textIn formats format
  match workspace.write file written.text with
  | .error fault => (workspace, .error (if fault.isOfTree then .notSaved fault else .badFile fault))
  | .ok workspace =>
    (workspace,
      match written.fault with
      | some fault => .error (.unwritable fault)
      | none => .ok ())

/-- Saves the settings to a file whose ending names the format; by default that is a file in the
directory of the store. Missing directories are made first, and stay if the file cannot be
written. -/
def save (store : SettingsStore) (workspace : Workspace) (path : Option String := none) :
    Workspace × Except StoreFault Unit :=
  match store.settings with
  | none => (workspace, .error .nothingToSave)
  | some settings =>
    let file :=
      match path.filter (· ≠ "") with
      | some text => Path.ofText text
      | none => store.directory.behind (Path.ofText "config.json")
    match Format.ofPath? file with
    | none => (workspace, .error (.unsupportedSaveFormat file.ending))
    | some format =>
      match workspace.makeDirectory file.directory with
      | (workspace, some fault) => (workspace, .error (.badFile fault))
      | (workspace, none) => write store.formats settings format workspace file

end SettingsStore

end GridRules
