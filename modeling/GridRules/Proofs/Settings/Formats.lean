import Mathlib.Data.List.Permutation
import GridRules.Proofs.Settings.Layers

/-!
# Settings in two formats

The same data in a JSON file and in a YAML file give the same outcome of a load, be it settings or a
fault, unless the data are an empty value that is no mapping. Such a value is no settings in a JSON
file, as is any other value that is no mapping, but a YAML file that holds it counts as one without
entries.
-/

namespace GridRules

open Settings (StoreFault Format)

/-! ### Outcomes -/

namespace Settings

/-- What a load gives of settings that were read. -/
def checked (settings : Settings) : Except StoreFault Settings :=
  match settings.check with
  | .ok () => .ok settings
  | .error (.complaint reason) => .error (.rejected reason)
  | .error fault => .error (.uncheckable fault)

/-- What a load gives that goes by some data, under some variables. -/
def outcome (lookup : String → Option String) (data : Value) : Except StoreFault Settings :=
  match ofValue data with
  | .error fault => .error (.badStructure fault)
  | .ok settings => (settings.override lookup).checked

theorem checked_ne_badStructure (settings : Settings) (fault : StructureFault) :
    settings.checked ≠ .error (.badStructure fault) := by
  rw [checked]
  split <;> exact nofun

theorem outcome_of_not_mapping (lookup : String → Option String) {data : Value}
    (h : ∀ entries, data ≠ .mapping entries) :
    outcome lookup data = .error (.badStructure .rootNotMapping) := by
  cases data with
  | mapping entries => exact absurd rfl (h entries)
  | _ => rfl

theorem ne_mapping_of_isEmpty {data : Value} (hempty : isEmpty data = true)
    (hne : data ≠ .mapping []) (entries : List (Value × Value)) : data ≠ .mapping entries := by
  rintro rfl
  exact hne (congrArg Value.mapping (List.isEmpty_iff.1 hempty))

theorem outcome_empty (lookup : String → Option String) :
    outcome lookup (.mapping []) = (default.override lookup).checked :=
  rfl

theorem outcome_congr {lookup again : String → Option String} (data : Value)
    (h : ∀ entry ∈ variableFields, again entry.1 = lookup entry.1) :
    outcome again data = outcome lookup data := by
  rw [outcome, outcome]
  cases ofValue data with
  | error fault => rfl
  | ok settings =>
      dsimp only
      rw [override_congr settings h]

/-- Whether a text in a format writes a value. -/
def Format.Writes (formats : ForeignFormats) (text : String) (data : Value) : Format → Prop
  | .json => Json.read text = .ok data
  | .yaml => formats.readYaml text = .ok data

section Writes

variable {formats : ForeignFormats} {text : String} {data : Value}

theorem dataOf_json (h : Format.json.Writes formats text data) :
    dataOf formats .json text = .ok data := by
  rw [dataOf, show Json.read text = .ok data from h]
  rfl

theorem dataOf_yaml (h : Format.yaml.Writes formats text data) :
    dataOf formats .yaml text = .ok (if isEmpty data then .mapping [] else data) := by
  rw [dataOf, show formats.readYaml text = .ok data from h]

end Writes

end Settings

namespace SettingsStore

/-- Whether a store loads from a file of a format that holds some data. -/
def Holds (store : SettingsStore) (workspace : Workspace) (path : Option String) (format : Format)
    (data : Value) : Prop :=
  ∃ file text, store.source workspace path = .ok (some file) ∧
    Format.ofPath? file = some format ∧ workspace.read file = .ok text ∧
      format.Writes store.formats text data

section Loads

variable {store other : SettingsStore} {workspace again : Workspace}
  {path otherPath : Option String}
  {data : Value}

theorem load_of_finds (h : store.Finds workspace path data) :
    (store.load workspace path).2 = Settings.outcome workspace.valueOf? data := by
  rw [load, tryLoad, read_of_finds h, Settings.outcome]
  cases Settings.ofValue data with
  | error fault => rfl
  | ok settings =>
      dsimp only
      rw [Settings.checked]
      cases (settings.override workspace.valueOf?).check with
      | ok => rfl
      | error fault => cases fault <;> rfl

theorem Holds.finds_json (h : store.Holds workspace path .json data) :
    store.Finds workspace path data := by
  obtain ⟨file, text, hsource, hformat, hread, hwrites⟩ := h
  exact .data hsource hformat hread (Settings.dataOf_json hwrites)

theorem Holds.finds_yaml (h : store.Holds workspace path .yaml data) :
    store.Finds workspace path (if Settings.isEmpty data then .mapping [] else data) := by
  obtain ⟨file, text, hsource, hformat, hread, hwrites⟩ := h
  exact .data hsource hformat hread (Settings.dataOf_yaml hwrites)

/-- Under the same variables, a JSON file and a YAML file that hold the same data give the same
outcome exactly if the data are not an empty value, or are the mapping without entries. Data that
are no mapping are refused in both formats, but for an empty value in a YAML file, which gives what
a mapping without entries gives. -/
theorem load_formats (hjson : store.Holds workspace path .json data)
    (hyaml : other.Holds again otherPath .yaml data)
    (hvariables : ∀ entry ∈ Settings.variableFields,
      again.valueOf? entry.1 = workspace.valueOf? entry.1) :
    ((store.load workspace path).2 = (other.load again otherPath).2 ↔
      (Settings.isEmpty data = true → data = .mapping [])) ∧
    ((∀ entries, data ≠ .mapping entries) →
      (store.load workspace path).2 = .error (.badStructure .rootNotMapping) ∧
      (other.load again otherPath).2 =
        if Settings.isEmpty data then Settings.outcome workspace.valueOf? (.mapping [])
        else .error (.badStructure .rootNotMapping)) := by
  rw [load_of_finds hjson.finds_json, load_of_finds hyaml.finds_yaml,
    Settings.outcome_congr _ hvariables]
  by_cases hempty : Settings.isEmpty data = true
  · rw [if_pos hempty, if_pos hempty]
    refine ⟨⟨fun heq _ => ?_, fun hdata => by rw [hdata hempty]⟩, ?_⟩
    · -- Settings by default are no badly structured data, whatever the check says of them.
      by_contra hne
      rw [Settings.outcome_of_not_mapping _ (Settings.ne_mapping_of_isEmpty hempty hne),
        Settings.outcome_empty] at heq
      exact Settings.checked_ne_badStructure _ _ heq.symm
    · intro hmapping
      exact ⟨Settings.outcome_of_not_mapping _ hmapping, rfl⟩
  · rw [if_neg hempty, if_neg hempty]
    refine ⟨iff_of_true rfl fun h => absurd h hempty, ?_⟩
    intro hmapping
    have houtcome := Settings.outcome_of_not_mapping workspace.valueOf? hmapping
    exact ⟨houtcome, houtcome⟩

end Loads

/-- Data with a blank character for grids. -/
def blankData : Value :=
  Value.object [("grid", .object [("blank_glyph", .text ".")])]

/-- A YAML text that writes these data. -/
def blankYaml : String := "\x7b'grid': \x7b'blank_glyph': '.'\x7d\x7d"

theorem read_blankYaml : Yaml.read blankYaml = .ok blankData := by
  cbv

theorem plain_blankData : Json.Plain blankData :=
  .singleton (.singleton (.text "."))

/-- A workspace with a JSON file and a YAML file. -/
def bothFormats (json yaml : String) : Workspace where
  files := [(["a.json"], .text json), (["a.yml"], .text yaml)]

theorem holds_json {json : String} (yaml : String) {data : Value} (hreturn : '\r' ∉ json.toList)
    (hjson : Json.read json = .ok data) :
    Holds { directory := ⟨["config"]⟩ } (bothFormats json yaml) (some "a.json") .json data := by
  have hlocate : (bothFormats json yaml).locate ⟨["a.json"]⟩ = .ok ["a.json"] := by
    with_unfolding_all rfl
  exact ⟨⟨["a.json"]⟩, json, by with_unfolding_all rfl, by decide +kernel,
    Workspace.read_of_fileAt? hlocate rfl hreturn, hjson⟩

theorem holds_yaml (json : String) {yaml : String} {data : Value} (hreturn : '\r' ∉ yaml.toList)
    (hyaml : Yaml.read yaml = .ok data) :
    Holds { directory := ⟨["config"]⟩ } (bothFormats json yaml) (some "a.yml") .yaml data := by
  have hlocate : (bothFormats json yaml).locate ⟨["a.yml"]⟩ = .ok ["a.yml"] := by
    with_unfolding_all rfl
  exact ⟨⟨["a.yml"]⟩, yaml, by with_unfolding_all rfl, by decide +kernel,
    Workspace.read_of_fileAt? hlocate rfl hreturn, hyaml⟩

/-- Two files that say the same, each in its own format, give the same settings. -/
theorem load_formats_blankData :
    ∃ (json : String) (workspace : Workspace) (settings : Settings),
      workspace = bothFormats json blankYaml ∧
      Holds { directory := ⟨["config"]⟩ } workspace (some "a.json") .json blankData ∧
      Holds { directory := ⟨["config"]⟩ } workspace (some "a.yml") .yaml blankData ∧
      (load { directory := ⟨["config"]⟩ } workspace (some "a.json")).2 = .ok settings ∧
      (load { directory := ⟨["config"]⟩ } workspace (some "a.yml")).2 = .ok settings ∧
      settings.value .blankGlyph = .text "." := by
  obtain ⟨json, -, hread, hreturn⟩ := Json.read_text plain_blankData
  have hjson := holds_json blankYaml hreturn hread
  have hyaml := holds_yaml json (by decide) read_blankYaml
  have hload : (load { directory := ⟨["config"]⟩ } (bothFormats json blankYaml) (some "a.json")).2 =
      .ok (Settings.default.set .blankGlyph (.text ".")) := by
    rw [load_of_finds hjson.finds_json]
    with_unfolding_all rfl
  refine ⟨json, _, Settings.default.set .blankGlyph (.text "."), rfl, hjson, hyaml, hload, ?_, rfl⟩
  rw [← (load_formats hjson hyaml fun _ _ => rfl).1.2 fun hempty => absurd hempty (by decide),
    hload]

/-- Two outcomes of loads that are the same to a caller: equal settings, or two faults of the
settings with one code. -/
def Alike : Except StoreFault Settings → Except StoreFault Settings → Prop
  | .ok settings, .ok others => settings = others
  | .error fault, .error other =>
    fault.failure.category = .configuration ∧ other.failure.category = .configuration ∧
      fault.failure.code = other.failure.code
  | _, _ => False

theorem read_emptyList : Yaml.read "[]" = .ok (.list []) := by
  cbv

/-- Not all data give the same in both formats: a list without items is refused in a JSON file, and
gives the settings by default in a YAML file. -/
theorem exists_unlike_formats :
    ¬ ∀ (store : SettingsStore) (workspace : Workspace) (path otherPath : Option String)
      (data : Value), data ≠ .null → store.Holds workspace path .json data →
      store.Holds workspace otherPath .yaml data →
      Alike (store.load workspace path).2 (store.load workspace otherPath).2 := by
  intro hall
  obtain ⟨json, -, hread, hreturn⟩ := Json.read_text (.list (by simp) : Json.Plain (.list []))
  have hjson := holds_json "[]" hreturn hread
  have hyaml := holds_yaml json (by decide) read_emptyList
  have halike := hall _ _ _ _ (.list []) (by simp) hjson hyaml
  have hrefused : Settings.outcome (bothFormats json "[]").valueOf? (.list []) =
      .error (.badStructure .rootNotMapping) := rfl
  have hdefault : Settings.outcome (bothFormats json "[]").valueOf? (.mapping []) =
      .ok Settings.default := by
    with_unfolding_all rfl
  rw [load_of_finds hjson.finds_json, load_of_finds hyaml.finds_yaml, hrefused,
    if_pos (show Settings.isEmpty (.list []) = true from rfl), hdefault] at halike
  exact halike

end SettingsStore

end GridRules
