import GridRules.Proofs.Json.LongNumber
import GridRules.Proofs.Json.RoundTrip
import GridRules.Proofs.Settings.Loading
import GridRules.Proofs.Workspace

/-!
# Saving settings and loading them again

Settings that a load gave are given again by a load of the file to which they are saved: their data
give them back, the file holds the text of these data, and the variables, which were looked at
before, change nothing when they are looked at again.
-/

namespace GridRules

/-- Whether something can be saved to a path: the directories on the way can be made, and a file can
be written there. -/
def Workspace.CanSave (workspace : Workspace) (path : Path) : Prop :=
  ∃ ready written, workspace.makeDirectory path.directory = (ready, none) ∧
    ready.write path "" = .ok written

open Settings (StoreFault Format ForeignFormats)

namespace Settings

theorem nodup_sectionNames : (Section.all.map Section.name).Nodup := by
  decide

theorem nodup_fieldNames (part : Section) : ((Field.ofSection part).map Field.name).Nodup := by
  cases part <;> decide

/-- Whether no number has more digits than a decimal number may have. -/
def IsShort (settings : Settings) : Prop :=
  ∀ (field : Field) (n : Int), settings.value field = .int n → n.natAbs < Text.leastLong

section Plain

variable {settings : Settings}

theorem plain_value (htyped : settings.IsTyped) (hshort : settings.IsShort) (field : Field) :
    Json.Plain (settings.value field) := by
  have hkind := htyped field
  cases hvalue : settings.value field with
  | int n => exact .int (hshort field n hvalue)
  | bool b => exact .bool b
  | text s => exact .text s
  | list items =>
      rw [hvalue] at hkind
      have htexts : items.all Value.isText = true := by
        cases hfield : field.kind <;> simp_all [Kind.holds]
      refine .list fun item hitem => ?_
      have htext := List.all_eq_true.mp htexts item hitem
      cases item with
      | text s => exact .text s
      | _ => cases htext
  | _ =>
      rw [hvalue] at hkind
      cases hfield : field.kind <;> simp_all [Kind.holds]

/-- The data of settings whose values are of the declared kinds are plain, if no number is too
long. -/
theorem plain_toValue (htyped : settings.IsTyped) (hshort : settings.IsShort) :
    Json.Plain settings.toValue := by
  apply Json.Plain.object
  · rw [List.map_map]
    exact nodup_sectionNames
  · intro entry hentry
    obtain ⟨part, -, rfl⟩ := List.mem_map.mp hentry
    apply Json.Plain.object
    · rw [List.map_map]
      exact nodup_fieldNames part
    · intro entry hentry
      obtain ⟨field, -, rfl⟩ := List.mem_map.mp hentry
      exact plain_value htyped hshort field

/-- What holds of the data of settings, and of the values of every object of which it holds, holds
of the value of each field. -/
theorem value_of_toValue {p : Value → Prop} (h : p settings.toValue)
    (hobject : ∀ {entries : List (String × Value)} {entry : String × Value},
      p (.object entries) → entry ∈ entries → p entry.2) (field : Field) :
    p (settings.value field) := by
  have hsection := hobject h (List.mem_map_of_mem field.part.mem_all)
  exact hobject hsection (List.mem_map_of_mem (mem_ofSection field))

/-- Settings whose values are of the declared kinds are written in full exactly if no number is too
long. -/
theorem fault_text_eq_none_iff (htyped : settings.IsTyped) :
    (Json.text settings.toValue).fault = none ↔ settings.IsShort := by
  constructor
  · intro hjson field n hvalue
    obtain ⟨level, hwritten⟩ :=
      value_of_toValue (p := fun value => ∃ level, (Json.write level value).fault = none) ⟨0, hjson⟩
        (fun ⟨level, h⟩ hentry => ⟨level + 1, Json.fault_of_mem h (List.mem_map_of_mem hentry)⟩)
        field
    rw [hvalue] at hwritten
    exact Json.natAbs_lt_of_fault hwritten
  · intro hshort
    obtain ⟨s, htext, -⟩ := Json.read_text (plain_toValue htyped hshort)
    rw [htext]

/-- Settings whose values are of the declared kinds are read back from what is written of them
exactly if no number is too long. -/
theorem read_text_eq_ok_iff (htyped : settings.IsTyped) :
    Json.read (Json.text settings.toValue).text = .ok settings.toValue ↔ settings.IsShort := by
  constructor
  · intro hread field n hvalue
    have hfield := value_of_toValue (p := fun value => value.hasLongNumber = false)
      (Json.hasLongNumber_of_read hread) Json.hasLongNumber_of_mem field
    simpa [hvalue, Value.hasLongNumber] using hfield
  · intro hshort
    obtain ⟨s, htext, hread, -⟩ := Json.read_text (plain_toValue htyped hshort)
    rw [htext]
    exact hread

end Plain

end Settings

namespace SettingsStore

/-- A path whose ending names a format has an ending. -/
theorem ending_ne_of_format {file : Path} {format : Format}
    (h : Format.ofPath? file = some format) :
    file.ending ≠ "" := by
  intro hending
  have hnone : "".toLower = "" := by decide +kernel
  rw [Format.ofPath?, hending, hnone] at h
  cases h

theorem ne_empty_of_format {path : String} {format : Format}
    (h : Format.ofPath? (Path.ofText path) = some format) : path ≠ "" := by
  rintro rfl
  exact ending_ne_of_format h (by decide)

/-- The name of the file to which a store saves by default. -/
def defaultName : String := "config.json"

/-- The file to which a store saves by default. -/
def defaultFile (store : SettingsStore) : Path :=
  store.directory.behind (Path.ofText defaultName)

/-- The file to which a save goes: the given one, or that by default. -/
def target (store : SettingsStore) (path : Option String) : Path :=
  match path.filter (· ≠ "") with
  | some text => Path.ofText text
  | none => store.defaultFile

theorem target_some (store : SettingsStore) {path : String} (h : path ≠ "") :
    store.target (some path) = Path.ofText path := by
  rw [target, Option.filter_some, if_pos (by simpa using h)]

section Saving

variable {store : SettingsStore} {workspace : Workspace} {path : String} {settings : Settings}

theorem save_eq {source : Option String} (hsettings : store.settings = some settings) :
    store.save workspace source =
      match Format.ofPath? (store.target source) with
      | none => (workspace, .error (.unsupportedSaveFormat (store.target source).ending))
      | some format =>
        match workspace.makeDirectory (store.target source).directory with
        | (workspace, some fault) => (workspace, .error (.badFile fault))
        | (workspace, none) =>
          write store.formats settings format workspace (store.target source) := by
  rw [save, hsettings]
  rfl

/-- A save succeeds exactly if it makes the directory of the file and writes the text of the
settings in full. -/
theorem save_eq_ok_iff {source : Option String} {after : Workspace}
    (hsettings : store.settings = some settings) :
    store.save workspace source = (after, .ok ()) ↔
      ∃ format ready, Format.ofPath? (store.target source) = some format ∧
        workspace.makeDirectory (store.target source).directory = (ready, none) ∧
        ready.write (store.target source) (settings.textIn store.formats format).text = .ok after ∧
        (settings.textIn store.formats format).fault = none := by
  rw [save_eq hsettings]
  cases hformat : Format.ofPath? (store.target source) with
  | none => simp
  | some format =>
      rcases hmade : workspace.makeDirectory (store.target source).directory with ⟨ready, fault⟩
      cases fault with
      | some fault => simp
      | none =>
          simp only [write]
          cases hwrite :
              ready.write (store.target source) (settings.textIn store.formats format).text with
          | error fault => simp [hwrite]
          | ok written =>
              cases hfull : (settings.textIn store.formats format).fault <;> simp [hwrite, hfull]

/-- Settings that are written as a plain text can be saved to a path, and the file then holds the
text. -/
theorem save_json {s : String} (hsettings : store.settings = some settings)
    (hformat : Format.ofPath? (Path.ofText path) = some .json)
    (hpath : workspace.CanSave (Path.ofText path))
    (htext : Json.text settings.toValue = { text := s }) :
    ∃ ready after : Workspace, store.save workspace (some path) = (after, .ok ()) ∧
      ready.write (Path.ofText path) s = .ok after ∧ after.environment = workspace.environment := by
  obtain ⟨ready, written, hready, hwritten⟩ := hpath
  obtain ⟨after, hafter⟩ := Workspace.exists_write hwritten s
  have htarget := store.target_some (ne_empty_of_format hformat)
  have henvironment : ready.environment = workspace.environment := by
    have hmade := Workspace.environment_makeDirectory workspace (Path.ofText path).directory
    rw [hready] at hmade
    exact hmade
  refine ⟨ready, after, ?_, hafter, (Workspace.environment_write hafter).trans henvironment⟩
  rw [save_eq_ok_iff hsettings, htarget]
  exact ⟨.json, ready, hformat, hready, by rwa [Settings.textIn, htext],
    by rw [Settings.textIn, htext]⟩

theorem ofFile_json (formats : ForeignFormats) {file : Path} {s : String}
    (hformat : Format.ofPath? file = some .json) (hread : workspace.read file = .ok s)
    (hjson : Json.read s = .ok settings.toValue) (hunchecked : settings.unchecked = []) :
    Settings.ofFile formats workspace file = .ok settings := by
  rw [Settings.ofFile, hformat]
  simp only [hread, Settings.dataOf, hjson, Except.mapError, Settings.ofValue_toValue hunchecked]

/-- A load from a file that gives settings which the variables do not change and which pass the
check. -/
theorem load_of_source {source : Option String} {file : Path}
    (hsource : store.source workspace source = .ok (some file))
    (hfile : Settings.ofFile store.formats workspace file = .ok settings)
    (hoverride : settings.override workspace.valueOf? = settings)
    (hcheck : settings.check = .ok ()) :
    store.load workspace source = ({ store with settings := some settings }, .ok settings) := by
  have hread : store.read workspace source = .ok settings := by
    rw [read, hsource]
    simp only [hfile, Except.map, hoverride]
  exact load_eq_ok_iff.2 ⟨hread, hcheck, rfl⟩

/-- A load of a given file. -/
theorem load_ofFile (hne : path ≠ "") (hthere : workspace.isThere (Path.ofText path) = .ok true)
    (hfile : Settings.ofFile store.formats workspace (Path.ofText path) = .ok settings)
    (hoverride : settings.override workspace.valueOf? = settings)
    (hcheck : settings.check = .ok ()) :
    store.load workspace (some path) =
      ({ store with settings := some settings }, .ok settings) := by
  have hsource : store.source workspace (some path) = .ok (some (Path.ofText path)) := by
    rw [source]
    simp only [Option.filter_some, hne, ne_eq, not_false_eq_true, decide_true, if_true, hthere]
  exact load_of_source hsource hfile hoverride hcheck

end Saving

/-- Settings that a load gave, with values of the declared kinds, are saved to a file from which any
store loads them again, as long as the variables are the same as in the first load and what JSON
writes of the settings gives them back, which only a number with too many digits prevents. -/
theorem load_save {earlier store : SettingsStore} {before workspace : Workspace}
    {source : Option String} {path : String} {settings : Settings}
    (hload : earlier.load before source = (store, .ok settings))
    (hvariables : ∀ entry ∈ Settings.variableFields,
      workspace.valueOf? entry.1 = before.valueOf? entry.1)
    (htyped : settings.IsTyped) (hformat : Format.ofPath? (Path.ofText path) = some .json)
    (hpath : workspace.CanSave (Path.ofText path))
    (hjson : Json.read (Json.text settings.toValue).text = .ok settings.toValue) :
    ∃ after, store.save workspace (some path) = (after, .ok ()) ∧
      ∀ other : SettingsStore, other.load after (some path) =
        ({ other with settings := some settings }, .ok settings) := by
  obtain ⟨hsettings, hread, hcheck⟩ : store.settings = some settings ∧
      earlier.read before source = .ok settings ∧ settings.check = .ok () := by
    have hloading := loading earlier before source
    rw [hload] at hloading
    simp only at hloading
    generalize store.settings = kept at hloading ⊢
    cases hloading with
    | passed hread hcheck => exact ⟨rfl, hread, hcheck⟩
  obtain ⟨s, htext, hdata, hreturn⟩ :=
    Json.read_text (Settings.plain_toValue htyped ((Settings.read_text_eq_ok_iff htyped).mp hjson))
  obtain ⟨ready, after, hsave, hwrite, henvironment⟩ := save_json hsettings hformat hpath htext
  refine ⟨after, hsave, fun other => ?_⟩
  have hplace : ready.locate (Path.ofText path) ≠ .ok Workspace.emptyFile :=
    Workspace.locate_ne_emptyFile (ending_ne_of_format hformat)
  have hfile : Settings.ofFile other.formats after (Path.ofText path) = .ok settings :=
    ofFile_json other.formats hformat (Workspace.read_write hwrite hreturn hplace) hdata
      (unchecked_read earlier before source hread)
  -- The settings are under the variables already, and the save has not touched these.
  have hoverride : settings.override after.valueOf? = settings := by
    obtain ⟨first, rfl⟩ := exists_override earlier before source hread
    apply Settings.override_override
    intro entry hentry
    rw [← hvariables entry hentry, Workspace.valueOf?, henvironment, Workspace.valueOf?]
  exact load_ofFile (ne_empty_of_format hformat) (Workspace.isThere_write hwrite hplace) hfile
    hoverride hcheck

/-- A workspace with nothing but a variable that asks for the compiler. -/
def compilerWorkspace : Workspace where
  environment := [("GRIDSYNTH_EXECUTION_MODE", "compiler")]

/-- A store in that workspace loads the settings by default but for the mode. They are saved into a
directory that is made for them, and loaded again. -/
theorem load_save_compiler :
    ∃ store settings after,
      SettingsStore.load { directory := ⟨["config"]⟩ } compilerWorkspace = (store, .ok settings) ∧
      settings.value .mode = .text "compiler" ∧ settings.IsTyped ∧
      Format.ofPath? (Path.ofText "out/saved.json") = some .json ∧
      compilerWorkspace.CanSave (Path.ofText "out/saved.json") ∧
      Json.read (Json.text settings.toValue).text = .ok settings.toValue ∧
      store.save compilerWorkspace (some "out/saved.json") = (after, .ok ()) ∧
      (store.load after (some "out/saved.json")).2 = .ok settings := by
  have hload : SettingsStore.load { directory := ⟨["config"]⟩ } compilerWorkspace =
      ({ directory := ⟨["config"]⟩
         settings := some (Settings.default.set .mode (.text "compiler")) },
        .ok (Settings.default.set .mode (.text "compiler"))) := by
    with_unfolding_all rfl
  have htyped : (Settings.default.set .mode (.text "compiler")).IsTyped :=
    Settings.isTyped_default.set rfl
  have hformat : Format.ofPath? (Path.ofText "out/saved.json") = some .json := by decide +kernel
  have hpath : compilerWorkspace.CanSave (Path.ofText "out/saved.json") := by
    refine ⟨{ compilerWorkspace with directories := [["out"]] },
      { compilerWorkspace with
        directories := [["out"]]
        files := [(["out", "saved.json"], .text "")] }, ?_, ?_⟩
    · with_unfolding_all rfl
    · with_unfolding_all rfl
  have hwritten :
      (Json.text (Settings.default.set .mode (.text "compiler")).toValue).fault = none := by
    decide +kernel
  have hjson := (Settings.read_text_eq_ok_iff htyped).mpr
    ((Settings.fault_text_eq_none_iff htyped).mp hwritten)
  obtain ⟨after, hsave, hreload⟩ :=
    load_save hload (fun _ _ => rfl) htyped hformat hpath hjson
  exact ⟨_, _, after, hload, rfl, htyped, hformat, hpath, hjson, hsave,
    congrArg Prod.snd (hreload _)⟩

end SettingsStore

end GridRules
