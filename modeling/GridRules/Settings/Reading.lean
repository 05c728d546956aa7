import GridRules.Settings.Basic

/-!
# Settings from data

A mapping gives settings if its sections are mappings whose keys are fields of the section. Sections
and fields that are missing have their defaults; other keys beside the sections do not matter.
-/

namespace GridRules.Settings

/-- The reasons for which data are no settings. -/
inductive StructureFault where
  | rootNotMapping
  | sectionNotMapping (part : Section) (value : Value)
  | keyNotText (part : Section)
  | unknownKey (part : Section) (key : String)
  | takenKey (part : Section)
deriving Repr

/-- The name that every section keeps for itself, so that no key of its data can have it. -/
def takenName : String := "self"

/-- The name under which messages speak of a section. -/
def recordName : Section → String
  | .grid => "GridConfig"
  | .synthesis => "SynthesisConfig"
  | .verifier => "VerifierConfig"
  | .execution => "ExecutionConfig"
  | .system => "SystemConfig"

/-- The wording of a structure fault. -/
def StructureFault.message : StructureFault → String
  | .rootNotMapping => "Configuration root must be a mapping"
  | .sectionNotMapping part value =>
    "Invalid configuration structure: gridsynth.config_manager." ++ recordName part
      ++ "() argument after ** must be a mapping, not " ++ value.kindName
  | .keyNotText _ => "Invalid configuration structure: keywords must be strings"
  | .unknownKey part key =>
    "Invalid configuration structure: " ++ recordName part
      ++ ".__init__() got an unexpected keyword argument '" ++ key ++ "'"
  | .takenKey part =>
    "Invalid configuration structure: " ++ recordName part
      ++ ".__init__() got multiple values for argument '" ++ takenName ++ "'"

/-- What is reported of a structure fault. -/
def StructureFault.failure (fault : StructureFault) : Failure where
  category := .configuration
  code := "INVALID_STRUCTURE"
  message := fault.message

/-- The settings with the entries of a section put into its fields. -/
def putEntries (settings : Settings) (part : Section) :
    List (Value × Value) → Except StructureFault Settings
  | [] => .ok settings
  | (.text key, value) :: entries =>
    match Field.ofName? part key with
    | some field => (settings.set field value).putEntries part entries
    | none => .error (if key == takenName then .takenKey part else .unknownKey part key)
  | (_, _) :: _ => .error (.keyNotText part)

/-- Whether every key of some entries is a text. -/
def keysAreTexts (entries : List (Value × Value)) : Bool :=
  entries.all fun entry =>
    match entry.1 with
    | .text _ => true
    | _ => false

/-- The settings with the data of a section put into its fields. -/
def putSection (settings : Settings) (part : Section) (data : Value) :
    Except StructureFault Settings :=
  match data.field? part.name with
  | none => .ok settings
  | some (.mapping entries) =>
    if keysAreTexts entries then settings.putEntries part entries else .error (.keyNotText part)
  | some value => .error (.sectionNotMapping part value)

/-- The settings with the data of some sections put into their fields. -/
def putSections (data : Value) : List Section → Settings → Except StructureFault Settings
  | [], settings => .ok settings
  | part :: parts, settings =>
    match settings.putSection part data with
    | .error fault => .error fault
    | .ok settings => putSections data parts settings

/-- The settings that data give. -/
def ofValue (data : Value) : Except StructureFault Settings :=
  match data with
  | .mapping _ => putSections data Section.all default
  | _ => .error .rootNotMapping

end GridRules.Settings
