import GridRules.Proofs.Settings.Changing
import GridRules.Proofs.Settings.Layers
import GridRules.Proofs.Settings.Saving

/-!
# Saving and loading by default

A store saves by default to the file `config.json` in its directory. If it was opened with a
directory, that is the first file at which it looks, so that it loads what it saved, whatever other
files there are. If it was opened with a file, it always loads that one: it loads what it saved if
the file has that name, and misses it otherwise.
-/

namespace GridRules

open Settings (Format ForeignFormats)

namespace Settings

/-- Without variables settings stay as they are. -/
theorem override_of_unset (settings : Settings) {lookup : String → Option String}
    (h : ∀ entry ∈ variableFields, lookup entry.1 = none) :
    settings.override lookup = settings := by
  have hunset : settings.override lookup = settings.override fun _ => none :=
    override_congr settings h
  rw [hunset]
  rfl

theorem ofFile_congr {formats : ForeignFormats} {workspace after : Workspace} {file : Path}
    (h : after.read file = workspace.read file) :
    ofFile formats after file = ofFile formats workspace file := by
  rw [ofFile, ofFile, h]

end Settings

namespace SettingsStore

variable {store : SettingsStore} {workspace after : Workspace} {settings : Settings} {file : Path}

/-! ### The file by default -/

theorem names_defaultFile (store : SettingsStore) :
    store.defaultFile.names = store.directory.names ++ [defaultName] := by
  have hpath : Path.ofText defaultName = ⟨[defaultName]⟩ := by with_unfolding_all rfl
  rw [defaultFile, hpath]
  rfl

theorem name_defaultFile (store : SettingsStore) : store.defaultFile.name = defaultName := by
  rw [Path.name, names_defaultFile, List.getLast?_concat]
  rfl

/-- In the directory of a file that is named as the file by default, that is the file by default. -/
theorem defaultFile_eq (hdirectory : store.directory = file.directory)
    (hname : file.name = defaultName) : store.defaultFile = file := by
  obtain ⟨names⟩ := file
  cases hlast : names.getLast? with
  | none =>
      rw [Path.name, hlast] at hname
      exact absurd hname (by decide)
  | some name =>
      obtain ⟨first, rfl⟩ := List.getLast?_eq_some_iff.mp hlast
      rw [Path.name, hlast] at hname
      obtain rfl : name = defaultName := hname
      have hnames := names_defaultFile store
      rw [hdirectory, Path.directory, List.dropLast_concat] at hnames
      exact congrArg Path.mk hnames

theorem format_defaultFile (store : SettingsStore) :
    Format.ofPath? store.defaultFile = some .json := by
  rw [Format.ofPath?, Path.ending, name_defaultFile]
  decide +kernel

/-! ### Saving by default -/

/-- What a save by default has done that succeeds: it has made directories, and has written the text
of the settings in full. -/
theorem save_default_ok (hsettings : store.settings = some settings)
    (h : store.save workspace = (after, .ok ())) :
    ∃ ready, workspace.HasMade ready ∧
      ready.write store.defaultFile (Json.text settings.toValue).text = .ok after ∧
      (Json.text settings.toValue).fault = none := by
  obtain ⟨format, ready, hformat, hmade, hwrite, hfull⟩ := (save_eq_ok_iff hsettings).mp h
  obtain rfl : Format.json = format :=
    Option.some.inj ((format_defaultFile store).symm.trans hformat)
  refine ⟨ready, ?_, hwrite, hfull⟩
  have hready := Workspace.hasMade_makeDirectory workspace (store.target none).directory
  rwa [hmade] at hready

theorem environment_save_default (hsettings : store.settings = some settings)
    (h : store.save workspace = (after, .ok ())) : after.environment = workspace.environment := by
  obtain ⟨ready, ⟨made, hmade⟩, hwrite, -⟩ := save_default_ok hsettings h
  rw [Workspace.environment_write hwrite, hmade]

/-- After a save by default the file is there, and gives the settings that were saved. -/
theorem ofFile_save_default (hsettings : store.settings = some settings) (htyped : settings.IsTyped)
    (hunchecked : settings.unchecked = []) (h : store.save workspace = (after, .ok ())) :
    after.isThere store.defaultFile = .ok true ∧
      Settings.ofFile store.formats after store.defaultFile = .ok settings := by
  obtain ⟨ready, -, hwrite, hfull⟩ := save_default_ok hsettings h
  obtain ⟨s, htext, hdata, hreturn⟩ := Json.read_text
    (Settings.plain_toValue htyped ((Settings.fault_text_eq_none_iff htyped).mp hfull))
  rw [htext] at hwrite
  have hformat := format_defaultFile store
  have hplace : ready.locate store.defaultFile ≠ .ok Workspace.emptyFile :=
    Workspace.locate_ne_emptyFile (ending_ne_of_format hformat)
  exact ⟨Workspace.isThere_write hwrite hplace,
    ofFile_json store.formats hformat (Workspace.read_write hwrite hreturn hplace) hdata hunchecked⟩

/-- A save by default leaves what a file of another name gives. -/
theorem ofFile_save_default_of_name_ne (hsettings : store.settings = some settings)
    (h : store.save workspace = (after, .ok ())) (hname : file.name ≠ defaultName)
    (hfile : workspace.isFile file = true) :
    Settings.ofFile store.formats after file = Settings.ofFile store.formats workspace file := by
  cases hformat : Format.ofPath? file with
  | none => rw [Settings.ofFile, Settings.ofFile, hformat]
  | some format =>
      obtain ⟨ready, hmade, hwrite, -⟩ := save_default_ok hsettings h
      exact Settings.ofFile_congr (Workspace.read_write_of_name_ne hmade hwrite
        (ending_ne_of_format (format_defaultFile store)) (ending_ne_of_format hformat)
        (name_defaultFile store ▸ hname) hfile)

/-! ### Loading by default -/

/-- A store that was opened with no file loads the file to which it saves, if that is there: no
other file comes before it. -/
theorem source_default (hfile : store.file = none)
    (hthere : workspace.isThere store.defaultFile = .ok true) :
    store.source workspace none = .ok (some store.defaultFile) := by
  obtain ⟨others, hcandidates⟩ : ∃ others, store.candidates = store.defaultFile :: others :=
    ⟨_, rfl⟩
  rw [source, Option.filter_none]
  simp only [hfile, hcandidates, Workspace.firstThere, hthere, Except.mapError]

theorem source_file (hfile : store.file = some file) :
    store.source workspace none = .ok (some file) := by
  rw [source, Option.filter_none]
  simp only [hfile]

theorem load_congr (h : store.read after none = store.read workspace none) :
    store.load after = store.load workspace := by
  simp only [load, tryLoad, h]

/-- A store saves its settings by default, with values of the declared kinds and without variables.
If it was opened with no file or with one named as the file by default, it then loads these
settings. If it was opened with a file of another name, a load gives what it gave before the save.
-/
theorem load_save_default {directory : String} {before ready : Workspace} {opened : SettingsStore}
    {formats : ForeignFormats} (hopen : openIn directory before formats = .ok (opened, ready))
    (hdirectory : store.directory = opened.directory) (hfile : store.file = opened.file)
    (hsettings : store.settings = some settings) (hcheck : settings.check = .ok ())
    (htyped : settings.IsTyped)
    (hvariables : ∀ entry ∈ Settings.variableFields, workspace.valueOf? entry.1 = none)
    (hsave : store.save workspace = (after, .ok ())) :
    ((∀ file, store.file = some file → file.name = defaultName) →
      store.load after = (store, .ok settings)) ∧
    (∀ file, store.file = some file → file.name ≠ defaultName → workspace.isFile file = true →
      store.load after = store.load workspace) := by
  have henvironment := environment_save_default hsettings hsave
  constructor
  · intro hname
    obtain ⟨hthere, hsaved⟩ :=
      ofFile_save_default hsettings htyped (Settings.check_eq_ok_iff.1 hcheck).1 hsave
    have hsource : store.source after none = .ok (some store.defaultFile) := by
      cases hopened : store.file with
      | none => exact source_default hopened hthere
      | some file =>
          have hparent : store.directory = file.directory := by
            rw [hdirectory]
            exact directory_openIn hopen (hfile ▸ hopened)
          rw [source_file hopened, defaultFile_eq hparent (hname file hopened)]
    have hoverride : settings.override after.valueOf? = settings := by
      apply Settings.override_of_unset
      intro entry hentry
      rw [Workspace.valueOf?, henvironment]
      exact hvariables entry hentry
    rw [load_of_source hsource hsaved hoverride hcheck, ← hsettings]
  · intro file hopened hname hthere
    apply load_congr
    have hsame := ofFile_save_default_of_name_ne hsettings hsave hname hthere
    have hvalueOf : after.valueOf? = workspace.valueOf? := by
      funext name
      rw [Workspace.valueOf?, henvironment, Workspace.valueOf?]
    rw [read, read, source_file hopened, source_file hopened]
    simp only [hsame, hvalueOf]

/-- Settings by default but for the height of grids. -/
def lowSettings : Settings :=
  Settings.default.set .maxHeight (.int 7)

theorem isTyped_lowSettings : lowSettings.IsTyped :=
  Settings.isTyped_default.set rfl

theorem check_lowSettings : lowSettings.check = .ok () := by
  with_unfolding_all rfl

theorem fault_lowSettings : (Json.text lowSettings.toValue).fault = none := by
  decide +kernel

/-- A workspace with a settings file. -/
def oneFile (name text : String) : Workspace where
  files := [([name], .text text)]

/-- That workspace after settings were saved at a place in directories that were made. -/
def savedBeside (name text : String) (place : List String) (made : List (List String)) :
    Workspace where
  files := [([name], .text text), (place, .text (lowSettings.textIn {} .json).text)]
  directories := made

/-- A store in a directory that is not there yet saves and loads its settings beside a file at which
it would look later. -/
theorem load_save_default_lowSettings :
    ∃ (before after : Workspace) (opened store : SettingsStore),
      before = oneFile "gridsynth.json" "[]" ∧ openIn "conf" before = .ok (opened, before) ∧
      store = { opened with settings := some lowSettings } ∧ store.save before = (after, .ok ()) ∧
      store.load after = (store, .ok lowSettings) := by
  let before := oneFile "gridsynth.json" "[]"
  let after := savedBeside "gridsynth.json" "[]" ["conf", "config.json"] [["conf"]]
  let opened : SettingsStore := { directory := ⟨["conf"]⟩ }
  let store : SettingsStore := { opened with settings := some lowSettings }
  have hopen : openIn "conf" before = .ok (opened, before) := by with_unfolding_all rfl
  have hsave : store.save before = (after, .ok ()) := by
    refine (save_eq_ok_iff rfl).mpr ⟨.json, { before with directories := [["conf"]] },
      format_defaultFile store, ?_, ?_, fault_lowSettings⟩
    · with_unfolding_all rfl
    · with_unfolding_all rfl
  have hdirectory : store.directory = opened.directory := rfl
  have hload := load_save_default hopen hdirectory rfl rfl check_lowSettings isTyped_lowSettings
    (fun _ _ => rfl) hsave
  exact ⟨before, after, opened, store, rfl, hopen, rfl, hsave, hload.1 nofun⟩

/-- Not every store loads by default what it saved by default: one that was opened with a file of
another name loads this file again. -/
theorem exists_save_unread :
    ¬ ∀ (directory : String) (before ready workspace after : Workspace)
      (opened store : SettingsStore) (settings : Settings),
      openIn directory before = .ok (opened, ready) → store.directory = opened.directory →
      store.file = opened.file → store.settings = some settings → settings.check = .ok () →
      settings.IsTyped →
      (∀ entry ∈ Settings.variableFields, workspace.valueOf? entry.1 = none) →
      store.save workspace = (after, .ok ()) → (store.load after).2 = .ok settings := by
  intro hall
  have hplain : Json.Plain (.mapping []) := @Json.Plain.object [] List.nodup_nil (by simp)
  obtain ⟨text, -, hread, hreturn⟩ := Json.read_text hplain
  let before := oneFile "gs.json" text
  let after := savedBeside "gs.json" text ["config.json"] []
  let opened : SettingsStore := { directory := ⟨[]⟩, file := some ⟨["gs.json"]⟩ }
  let store : SettingsStore := { opened with settings := some lowSettings }
  have hopen : openIn "gs.json" before = .ok (opened, before) := by with_unfolding_all rfl
  have hsave : store.save before = (after, .ok ()) := by
    refine (save_eq_ok_iff rfl).mpr
      ⟨.json, before, format_defaultFile store, ?_, ?_, fault_lowSettings⟩
    · with_unfolding_all rfl
    · with_unfolding_all rfl
  have hload := hall _ _ _ _ _ opened store _ hopen rfl rfl rfl check_lowSettings
    isTyped_lowSettings (fun _ _ => rfl) hsave
  -- The load goes by the file that was there before, and so gives the settings by default.
  have hlocate : after.locate ⟨["gs.json"]⟩ = .ok ["gs.json"] := by with_unfolding_all rfl
  have hfinds : store.Finds after none (.mapping []) := by
    have hformat : Format.ofPath? ⟨["gs.json"]⟩ = some .json := by decide +kernel
    apply Finds.data (source_file rfl) hformat (Workspace.read_of_fileAt? hlocate rfl hreturn)
    rw [Settings.dataOf, hread]
    rfl
  have hdefault : store.read after none = .ok Settings.default := by
    rw [read_of_finds hfinds]
    with_unfolding_all rfl
  have hkept := (load_eq_ok_iff.1 (Prod.ext rfl hload)).1
  rw [hdefault] at hkept
  have hheight : Value.int 500 = .int 7 :=
    congrArg (Settings.value · .maxHeight) (Except.ok.inj hkept)
  exact absurd (Value.int.inj hheight) (by decide)

end SettingsStore

end GridRules
