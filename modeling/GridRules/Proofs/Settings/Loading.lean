import GridRules.Proofs.Settings.Check
import GridRules.Proofs.Settings.Data
import GridRules.Proofs.Workspace
import GridRules.Settings.Store

/-!
# The outcomes of a load

A load gives settings that pass the check, or it fails. Most failures are reported as faults of the
settings. The others are told apart by their cause: a path that is too long, a file that is no text
or has no name, a number or a value in the file that its reader gives up on, and settings with a
value that is not of the declared kind.
-/

namespace GridRules

namespace Workspace

theorem isThere_error {workspace : Workspace} {path : Path} {fault : FileFault}
    (h : workspace.isThere path = .error fault) : fault = .tooLong := by
  rw [isThere] at h
  split at h <;> cases h
  rfl

theorem firstThere_error {workspace : Workspace} {paths : List Path} {fault : FileFault}
    (h : workspace.firstThere paths = .error fault) : fault = .tooLong := by
  induction paths with
  | nil => cases h
  | cons path paths ih =>
      rw [firstThere] at h
      split at h
      · next hthere =>
          cases h
          exact isThere_error hthere
      · cases h
      · exact ih h

end Workspace

open Settings (StoreFault Format ForeignFormats CheckFault)

/-! ### Files -/

/-- What a settings file can give, with the cause of each. -/
inductive FileReading (formats : ForeignFormats) (workspace : Workspace) (file : Path) :
    Except StoreFault Settings → Prop
  | unsupportedFormat (hformat : Format.ofPath? file = none) :
      FileReading formats workspace file (.error (.unsupportedFormat file.ending))
  | unreadable {fault : FileFault} (hread : workspace.read file = .error fault)
      (hfault : fault.isOfTree = true) :
      FileReading formats workspace file (.error (.unreadable fault))
  | badFile {fault : FileFault} (hread : workspace.read file = .error fault)
      (hfault : fault.isOfTree = false) :
      FileReading formats workspace file (.error (.badFile fault))
  | badJson {text : String} {fault : Json.Fault} (hread : workspace.read file = .ok text)
      (htext : Json.read text = .error fault) :
      FileReading formats workspace file (.error (.badJson fault))
  | badYaml {text : String} {fault : Yaml.Fault} (hread : workspace.read file = .ok text)
      (htext : formats.readYaml text = .error fault) :
      FileReading formats workspace file (.error (.badYaml fault))
  | badStructure {data : Value} {fault : Settings.StructureFault}
      (hdata : Settings.ofValue data = .error fault) :
      FileReading formats workspace file (.error (.badStructure fault))
  | settings {data : Value} {settings : Settings} (hdata : Settings.ofValue data = .ok settings) :
      FileReading formats workspace file (.ok settings)

section Files

variable {formats : ForeignFormats} {workspace : Workspace} {file : Path}

theorem fileReading_of_dataOf {format : Format} {text : String} {fault : StoreFault}
    (hread : workspace.read file = .ok text)
    (h : Settings.dataOf formats format text = .error fault) :
    FileReading formats workspace file (.error fault) := by
  cases format with
  | json =>
      cases htext : Json.read text with
      | ok data =>
          rw [Settings.dataOf, htext] at h
          cases h
      | error reason =>
          rw [Settings.dataOf, htext] at h
          cases h
          exact .badJson hread htext
  | yaml =>
      cases htext : formats.readYaml text with
      | ok data =>
          simp only [Settings.dataOf, htext] at h
          cases h
      | error reason =>
          simp only [Settings.dataOf, htext] at h
          cases h
          exact .badYaml hread htext

theorem fileReading (formats : ForeignFormats) (workspace : Workspace) (file : Path) :
    FileReading formats workspace file (Settings.ofFile formats workspace file) := by
  rw [Settings.ofFile]
  split
  · next hformat => exact .unsupportedFormat hformat
  · split
    · next fault hread =>
        cases hfault : fault.isOfTree with
        | true => exact .unreadable hread hfault
        | false => exact .badFile hread hfault
    · next text hread =>
        split
        · next hdata => exact fileReading_of_dataOf hread hdata
        · split
          · next hvalue => exact .badStructure hvalue
          · next hvalue => exact .settings hvalue

theorem unchecked_ofFile {settings : Settings}
    (h : Settings.ofFile formats workspace file = .ok settings) : settings.unchecked = [] := by
  have hfile := fileReading formats workspace file
  rw [h] at hfile
  cases hfile with
  | settings hdata => exact Settings.unchecked_ofValue hdata

end Files

namespace SettingsStore

/-! ### Loads -/

/-- What a store can read before it checks it, with the cause of each. -/
inductive Reading (store : SettingsStore) (workspace : Workspace) (path : Option String) :
    Except StoreFault Settings → Prop
  | notFound {text : String} (hsource : store.source workspace path = .error (.notFound text)) :
      Reading store workspace path (.error (.notFound text))
  | badPath (hsource : store.source workspace path = .error (.badFile .tooLong)) :
      Reading store workspace path (.error (.badFile .tooLong))
  | badFile {file : Path} {fault : StoreFault}
      (hsource : store.source workspace path = .ok (some file))
      (hfile : FileReading store.formats workspace file (.error fault)) :
      Reading store workspace path (.error fault)
  | settings {earlier : Settings} (hunchecked : earlier.unchecked = []) :
      Reading store workspace path (.ok (earlier.override workspace.valueOf?))

/-- How a load leaves the settings of a store, and what it gives. Settings that do not pass the
check are kept all the same. -/
inductive Loading (store : SettingsStore) (workspace : Workspace) (path : Option String) :
    Option Settings → Except StoreFault Settings → Prop
  | passed {settings : Settings} (hread : store.read workspace path = .ok settings)
      (hcheck : settings.check = .ok ()) :
      Loading store workspace path (some settings) (.ok settings)
  | rejected {settings : Settings} {complaint : Settings.Complaint}
      (hread : store.read workspace path = .ok settings)
      (hcheck : settings.check = .error (.complaint complaint)) :
      Loading store workspace path (some settings) (.error (.rejected complaint))
  | uncheckable {settings : Settings} {fault : CheckFault}
      (hread : store.read workspace path = .ok settings) (hcheck : settings.check = .error fault)
      (hfault : ∀ complaint, fault ≠ .complaint complaint) :
      Loading store workspace path (some settings) (.error (.uncheckable fault))
  | unread {fault : StoreFault} (hread : store.read workspace path = .error fault) :
      Loading store workspace path store.settings (.error fault)

section Loads

variable (store : SettingsStore) (workspace : Workspace) (path : Option String)

theorem source_error {fault : StoreFault} (h : store.source workspace path = .error fault) :
    (∃ text, fault = .notFound text) ∨ fault = .badFile .tooLong := by
  rw [source] at h
  split at h
  · next text _ =>
      split at h
      · next hthere =>
          cases h
          rw [Workspace.isThere_error hthere]
          exact .inr rfl
      · cases h
      · cases h
        exact .inl ⟨text, rfl⟩
  · split at h
    · cases h
    · cases hfirst : workspace.firstThere store.candidates with
      | ok file =>
          rw [hfirst] at h
          cases h
      | error reason =>
          rw [hfirst] at h
          cases h
          rw [Workspace.firstThere_error hfirst]
          exact .inr rfl

theorem reading : Reading store workspace path (store.read workspace path) := by
  rw [read]
  split
  · next fault hsource =>
      rcases source_error store workspace path hsource with ⟨text, rfl⟩ | rfl
      · exact .notFound hsource
      · exact .badPath hsource
  · next source hsource =>
      cases source with
      | none => exact .settings (show Settings.default.unchecked = [] from rfl)
      | some file =>
          change Reading store workspace path
            ((Settings.ofFile store.formats workspace file).map
              (Settings.override · workspace.valueOf?))
          cases hfile : Settings.ofFile store.formats workspace file with
          | error fault =>
              have hreading := fileReading store.formats workspace file
              rw [hfile] at hreading
              exact .badFile hsource hreading
          | ok earlier => exact .settings (unchecked_ofFile hfile)

theorem unchecked_read {settings : Settings} (h : store.read workspace path = .ok settings) :
    settings.unchecked = [] := by
  have hread := reading store workspace path
  rw [h] at hread
  cases hread with
  | settings hunchecked => rw [Settings.unchecked_override, hunchecked]

theorem exists_override {settings : Settings} (h : store.read workspace path = .ok settings) :
    ∃ earlier : Settings, settings = earlier.override workspace.valueOf? := by
  have hread := reading store workspace path
  rw [h] at hread
  cases hread with
  | settings hunchecked => exact ⟨_, rfl⟩

theorem loading :
    Loading store workspace path (store.load workspace path).1.settings
      (store.load workspace path).2 := by
  have htry : Loading store workspace path (store.tryLoad workspace path).1.settings
      (store.tryLoad workspace path).2 := by
    rw [tryLoad]
    split
    · next hread => exact .unread hread
    · next settings hread =>
        cases hcheck : settings.check with
        | ok => exact .passed hread hcheck
        | error fault =>
            cases fault with
            | complaint complaint => exact .rejected hread hcheck
            | _ =>
                refine .uncheckable hread hcheck ?_
                intro complaint heq
                cases heq
  rw [load]
  split <;> next h =>
    rw [h] at htry
    exact htry

/-- Settings that a load gives pass the check. -/
theorem check_of_load {settings : Settings} (h : (store.load workspace path).2 = .ok settings) :
    settings.check = .ok () := by
  have hload := loading store workspace path
  rw [h] at hload
  generalize (store.load workspace path).1.settings = kept at hload
  cases hload with
  | passed hread hcheck => exact hcheck

end Loads

/-- A load gives settings exactly if it read them and they pass the check. The store holds them from
then on. -/
theorem load_eq_ok_iff {store after : SettingsStore} {workspace : Workspace} {path : Option String}
    {settings : Settings} :
    store.load workspace path = (after, .ok settings) ↔
      store.read workspace path = .ok settings ∧ settings.check = .ok () ∧
        after = { store with settings := some settings } := by
  rw [load, tryLoad]
  cases hread : store.read workspace path with
  | error fault => simp
  | ok found =>
      dsimp only
      cases hcheck : found.check with
      | ok =>
          dsimp only
          rw [Prod.mk.injEq, Except.ok.injEq]
          constructor
          · rintro ⟨rfl, rfl⟩
            exact ⟨rfl, hcheck, rfl⟩
          · rintro ⟨rfl, -, rfl⟩
            exact ⟨rfl, rfl⟩
      | error fault =>
          -- Whatever the fault is, the load fails.
          have hfails : ¬ ((Except.ok found : Except StoreFault Settings) = .ok settings ∧
              settings.check = .ok () ∧ after = { store with settings := some settings }) := by
            rintro ⟨hfound, hpassed, -⟩
            rw [← Except.ok.inj hfound, hcheck] at hpassed
            cases hpassed
          cases fault <;>
            simpa only [Prod.mk.injEq, reduceCtorEq, and_false, false_iff] using hfails

/-! ### Stray faults -/

/-- The faults of reading a settings file that are not reported as faults of the settings. -/
inductive StrayReading (formats : ForeignFormats) (workspace : Workspace) (file : Path) :
    StoreFault → Prop
  | file {fault : FileFault} (hread : workspace.read file = .error fault)
      (hfault : fault.isOfTree = false) : StrayReading formats workspace file (.badFile fault)
  | json {text : String} (hread : workspace.read file = .ok text)
      (htext : Json.read text = .error .longNumber) :
      StrayReading formats workspace file (.badJson .longNumber)
  | yaml {text : String} {fault : Yaml.Fault} (hread : workspace.read file = .ok text)
      (htext : formats.readYaml text = .error fault) (hfault : fault ∈ Yaml.Fault.ofParts) :
      StrayReading formats workspace file (.badYaml fault)

/-- The faults of a load that are not reported as faults of the settings. -/
inductive StrayLoad (store : SettingsStore) (workspace : Workspace) (path : Option String) :
    StoreFault → Prop
  | path (hsource : store.source workspace path = .error (.badFile .tooLong)) :
      StrayLoad store workspace path (.badFile .tooLong)
  | reading {file : Path} {fault : StoreFault}
      (hsource : store.source workspace path = .ok (some file))
      (hfile : StrayReading store.formats workspace file fault) :
      StrayLoad store workspace path fault
  | value {settings : Settings} {fault : CheckFault} {field : Field}
      (hread : store.read workspace path = .ok settings) (hcheck : settings.check = .error fault)
      (hfault : ∀ complaint, fault ≠ .complaint complaint)
      (hfield : field.kind.holds (settings.value field) = false) :
      StrayLoad store workspace path (.uncheckable fault)

section Strays

variable {store : SettingsStore} {formats : ForeignFormats} {workspace : Workspace} {file : Path}
  {path : Option String} {fault : StoreFault}

theorem category_of_strayReading (h : StrayReading formats workspace file fault) :
    fault.failure.category ≠ .configuration := by
  cases h with
  | @file fault hread hfault =>
      cases fault with
      | badName | noText => decide
      | _ => cases hfault
  | json hread htext => decide
  | @yaml text fault hread htext hfault =>
      cases fault with
      | malformed => exact absurd hfault (by decide)
      | _ => decide

theorem category_of_strayLoad (h : StrayLoad store workspace path fault) :
    fault.failure.category ≠ .configuration := by
  cases h with
  | path hsource => decide
  | reading hsource hfile => exact category_of_strayReading hfile
  | @value settings fault field hread hcheck hfault hfield =>
      cases fault with
      | complaint complaint => exact absurd rfl (hfault complaint)
      | _ => decide

theorem category_or_strayReading (h : FileReading formats workspace file (.error fault)) :
    fault.failure.category = .configuration ∨ StrayReading formats workspace file fault := by
  cases h with
  | unsupportedFormat | unreadable | badStructure => exact .inl rfl
  | badFile hread hfault => exact .inr (.file hread hfault)
  | @badJson text fault hread htext =>
      cases fault with
      | malformed => exact .inl rfl
      | longNumber => exact .inr (.json hread htext)
  | @badYaml text fault hread htext =>
      cases fault with
      | malformed => exact .inl rfl
      | _ => exact .inr (.yaml hread htext (by decide))

theorem category_or_strayLoad (h : (store.load workspace path).2 = .error fault) :
    fault.failure.category = .configuration ∨ StrayLoad store workspace path fault := by
  have hload := loading store workspace path
  rw [h] at hload
  generalize (store.load workspace path).1.settings = kept at hload
  cases hload with
  | rejected hread hcheck => exact .inl rfl
  | uncheckable hread hcheck hfault =>
      obtain ⟨field, hfield⟩ :=
        Settings.exists_badKind hcheck (unchecked_read store workspace path hread) hfault
      exact .inr (.value hread hcheck hfault hfield)
  | unread hread =>
      -- Nothing was checked, so the cause lies in the path or in the file.
      have hreading := reading store workspace path
      rw [hread] at hreading
      cases hreading with
      | notFound hsource => exact .inl rfl
      | badPath hsource => exact .inr (.path hsource)
      | badFile hsource hfile => exact (category_or_strayReading hfile).imp_right (.reading hsource)

end Strays

/-- A load gives settings that pass the check, or fails. A failure is reported as one of the
settings unless it is one of the stray faults, none of which is. -/
theorem load_outcome (store : SettingsStore) (workspace : Workspace) (path : Option String) :
    match (store.load workspace path).2 with
    | .ok settings => settings.check = .ok ()
    | .error fault =>
      fault.failure.category = .configuration ↔ ¬ StrayLoad store workspace path fault := by
  split
  · next settings hok => exact check_of_load store workspace path hok
  · next fault herror =>
      constructor
      · intro hcategory hstray
        exact category_of_strayLoad hstray hcategory
      · intro hnot
        exact (category_or_strayLoad herror).resolve_right hnot

/-- Not every load that fails is reported as a fault of the settings: a file may be no text. -/
theorem exists_strayLoad :
    ¬ ∀ (store : SettingsStore) (workspace : Workspace) (path : Option String),
      match (store.load workspace path).2 with
      | .ok settings => settings.check = .ok ()
      | .error fault => fault.failure.category = .configuration := by
  intro hall
  have hload : (SettingsStore.load { directory := ⟨["config"]⟩ }
      { files := [(["c.json"], .bytes)] } (some "c.json")).2 = .error (.badFile .noText) := by
    with_unfolding_all rfl
  have hcategory :=
    hall { directory := ⟨["config"]⟩ } { files := [(["c.json"], .bytes)] } (some "c.json")
  rw [hload] at hcategory
  cases hcategory

/-! ### Opening a store -/

theorem files_foldlM {ι : Type} {step : Workspace → ι → Except StoreFault Workspace}
    (hstep : ∀ {earlier item later}, step earlier item = .ok later →
      later.files = earlier.files ∧ later.directories = earlier.directories)
    {items : List ι} {workspace after : Workspace}
    (h : items.foldlM step workspace = .ok after) :
    after.files = workspace.files ∧ after.directories = workspace.directories := by
  induction items generalizing workspace with
  | nil =>
      cases h
      exact ⟨rfl, rfl⟩
  | cons item items ih =>
      rw [List.foldlM_cons] at h
      cases hnext : step workspace item with
      | error fault =>
          rw [hnext] at h
          cases h
      | ok next =>
          rw [hnext] at h
          obtain ⟨hfiles, hdirectories⟩ := ih h
          obtain ⟨hfiles', hdirectories'⟩ := hstep hnext
          exact ⟨hfiles.trans hfiles', hdirectories.trans hdirectories'⟩

theorem files_setVariables {formats : ForeignFormats} {workspace after : Workspace} {text : String}
    (h : setVariables formats workspace text = .ok after) :
    after.files = workspace.files ∧ after.directories = workspace.directories := by
  refine files_foldlM ?_ h
  intro earlier item later hstep
  dsimp only at hstep
  split at hstep
  · cases hstep
    exact ⟨rfl, rfl⟩
  · cases hset : earlier.setVariable item.1 item.2 with
    | error fault =>
        rw [hset] at hstep
        cases hstep
    | ok next =>
        rw [hset] at hstep
        cases hstep
        exact Workspace.files_setVariable hset

section Opened

variable {directory : String} {workspace after : Workspace} {formats : ForeignFormats}
  {store : SettingsStore} (h : openIn directory workspace formats = .ok (store, after))

include h

/-- A store that was opened has a file and its directory, or a directory only. Opening it may set
variables. -/
theorem openIn_ok :
    (store = { directory := (Path.ofText directory).directory
               file := some (Path.ofText directory), formats } ∨
      store = { directory := Path.ofText directory, formats }) ∧
    (after = workspace ∨ ∃ text, setVariables formats workspace text = .ok after) := by
  simp only [openIn] at h
  split at h
  · cases h
  · cases h
    exact ⟨ite_eq_or_eq _ _ _, .inl rfl⟩
  · split at h
    · cases h
    · cases h
      exact ⟨ite_eq_or_eq _ _ _, .inl rfl⟩
    · next text _ =>
        cases hset : setVariables formats workspace text with
        | error fault =>
            rw [hset] at h
            cases h
        | ok next =>
            rw [hset] at h
            cases h
            exact ⟨ite_eq_or_eq _ _ _, .inr ⟨text, hset⟩⟩

/-- Opening a store leaves files and directories as they are. -/
theorem files_openIn :
    after.files = workspace.files ∧ after.directories = workspace.directories := by
  rcases (openIn_ok h).2 with rfl | ⟨text, hset⟩
  · exact ⟨rfl, rfl⟩
  · exact files_setVariables hset

theorem directory_openIn {file : Path} (hfile : store.file = some file) :
    store.directory = file.directory := by
  rcases (openIn_ok h).1 with rfl | rfl
  · exact congrArg Path.directory (Option.some.inj hfile)
  · cases hfile

end Opened

end SettingsStore

end GridRules
