import GridRules.Proofs.Text.Lines
import GridRules.Workspace

/-!
# Writing files and reading them

Making directories and writing files leave the variables as they are. What is a directory stays one,
so that a path leads to where it led. A text without carriage returns is read from a file as it was
written, unless the file is the one that stays empty.
-/

namespace GridRules.Workspace

variable {workspace after : Workspace} {path : Path}

/-! ### Entries -/

theorem lookup_putEntry {κ α : Type} [BEq κ] [LawfulBEq κ] [DecidableEq κ] (key : κ) (value : α)
    (entries : List (κ × α)) : (putEntry key value entries).lookup key = some value := by
  induction entries with
  | nil => simp [putEntry]
  | cons entry entries ih =>
      obtain ⟨other, content⟩ := entry
      rw [putEntry]
      split
      · simp
      · next hne =>
          have hbeq : (key == other) = false := beq_eq_false_iff_ne.mpr (Ne.symm hne)
          simp only [List.lookup_cons, hbeq, ih]

theorem mem_keys_putEntry {κ α : Type} [DecidableEq κ] (key : κ) (value : α)
    {entries : List (κ × α)} {entry : κ × α} (h : entry ∈ entries) :
    ∃ other ∈ putEntry key value entries, other.1 = entry.1 := by
  induction entries with
  | nil => cases h
  | cons first entries ih =>
      rw [putEntry]
      split
      · next hfirst =>
          rcases List.mem_cons.mp h with rfl | hmem
          · exact ⟨(key, value), List.mem_cons_self, hfirst.symm⟩
          · exact ⟨entry, List.mem_cons_of_mem _ hmem, rfl⟩
      · rcases List.mem_cons.mp h with rfl | hmem
        · exact ⟨entry, List.mem_cons_self, rfl⟩
        · obtain ⟨other, hother, hkey⟩ := ih hmem
          exact ⟨other, List.mem_cons_of_mem _ hother, hkey⟩

/-- What stands under the other keys is left as it is. -/
theorem lookup_putEntry_of_ne {κ α : Type} [BEq κ] [LawfulBEq κ] [DecidableEq κ] {key other : κ}
    (h : other ≠ key) (value : α) (entries : List (κ × α)) :
    (putEntry key value entries).lookup other = entries.lookup other := by
  have hbeq : (other == key) = false := beq_eq_false_iff_ne.mpr h
  induction entries with
  | nil => simp [putEntry, h]
  | cons entry entries ih =>
      obtain ⟨first, content⟩ := entry
      rw [putEntry]
      split
      · next heq =>
          obtain rfl : first = key := heq
          simp only [List.lookup_cons, hbeq]
      · simp only [List.lookup_cons, ih]

/-! ### Directories -/

/-- Whether a workspace is an earlier one with further directories. -/
def HasMade (workspace after : Workspace) : Prop :=
  ∃ made, after = { workspace with directories := workspace.directories ++ made }

theorem HasMade.refl (workspace : Workspace) : workspace.HasMade workspace :=
  ⟨[], by rw [List.append_nil]⟩

theorem HasMade.trans {later : Workspace} (h : workspace.HasMade after)
    (hlater : after.HasMade later) :
    workspace.HasMade later := by
  obtain ⟨made, rfl⟩ := h
  obtain ⟨more, rfl⟩ := hlater
  exact ⟨made ++ more, by rw [List.append_assoc]⟩

theorem hasMade_makeOne (h : workspace.makeOne path = .ok after) : workspace.HasMade after := by
  rw [makeOne] at h
  split at h
  · cases h
  · next place hplace =>
      split at h
      · cases h
        exact .refl workspace
      · split at h
        · cases h
        · cases h
          exact ⟨[place], rfl⟩

theorem hasMade_orKept (workspace : Workspace) (path : Path) :
    workspace.HasMade (workspace.orKept (workspace.makeOne path)).1 := by
  cases hmade : workspace.makeOne path with
  | error fault => exact .refl workspace
  | ok after => exact hasMade_makeOne hmade

theorem hasMade_makeFirst (workspace : Workspace) (path : Path) (count : Nat) :
    workspace.HasMade (workspace.makeFirst path count).1 := by
  induction count with
  | zero => exact .refl workspace
  | succ count ih =>
      rw [makeFirst]
      split
      · split
        · next made hmade =>
            rw [hmade] at ih
            exact ih.trans (hasMade_orKept made _)
        · exact ih
      · exact hasMade_orKept workspace _

theorem hasMade_makeDirectory (workspace : Workspace) (path : Path) :
    workspace.HasMade (workspace.makeDirectory path).1 :=
  hasMade_makeFirst workspace path path.names.length

theorem environment_makeDirectory (workspace : Workspace) (path : Path) :
    (workspace.makeDirectory path).1.environment = workspace.environment := by
  obtain ⟨made, hmade⟩ := hasMade_makeDirectory workspace path
  rw [hmade]

theorem HasMade.isDirectoryAt (h : workspace.HasMade after) {place : List String}
    (hplace : workspace.isDirectoryAt place = true) : after.isDirectoryAt place = true := by
  obtain ⟨made, rfl⟩ := h
  simp only [Workspace.isDirectoryAt, List.any_append, Bool.or_eq_true] at hplace ⊢
  exact hplace.imp_left fun hleft => hleft.imp_right Or.inl

/-! ### Files -/

/-- What a write does: it finds the place of a path, which is no directory, and puts the text there
unless that place stays empty. -/
theorem write_ok {text : String} (h : workspace.write path text = .ok after) :
    ∃ place, workspace.locate path = .ok place ∧
      after = if place = emptyFile then workspace
        else { workspace with files := putEntry place (.text text) workspace.files } := by
  rw [write] at h
  split at h
  · cases h
  · next place hplace =>
      refine ⟨place, hplace, ?_⟩
      split at h
      · cases h
      · split at h
        · next hempty =>
            cases h
            rw [if_pos hempty]
        · next hempty =>
            cases h
            rw [if_neg hempty]

/-- Whether a text can be written to a path does not depend on the text. -/
theorem exists_write {text : String} (h : workspace.write path text = .ok after) (other : String) :
    ∃ written, workspace.write path other = .ok written := by
  rw [write] at h ⊢
  split at h
  · cases h
  · split at h
    · cases h
    · next hdirectory =>
        rw [if_neg hdirectory]
        split <;> exact ⟨_, rfl⟩

theorem environment_write {text : String} (h : workspace.write path text = .ok after) :
    after.environment = workspace.environment := by
  obtain ⟨place, -, rfl⟩ := write_ok h
  split <;> rfl

theorem isDirectoryAt_write {text : String} (h : workspace.write path text = .ok after)
    {place : List String} (hplace : workspace.isDirectoryAt place = true) :
    after.isDirectoryAt place = true := by
  obtain ⟨written, -, rfl⟩ := write_ok h
  split
  · exact hplace
  · simp only [isDirectoryAt, Bool.or_eq_true] at hplace ⊢
    refine hplace.imp_right ?_
    intro hfile
    obtain ⟨entry, hentry, hbehind⟩ := List.any_eq_true.mp hfile
    obtain ⟨other, hother, hkey⟩ := mem_keys_putEntry written (.text text) hentry
    exact List.any_eq_true.mpr ⟨other, hother, hkey ▸ hbehind⟩

/-- A path that leads to a place still does so when there are more directories. Where it led nowhere
it may lead to a place then. -/
theorem locateFrom_mono (hdirectories : ∀ place, workspace.isDirectoryAt place = true →
      after.isDirectoryAt place = true) {place target : List String} {names : List String}
    (h : workspace.locateFrom place names = .ok target) :
    after.locateFrom place names = .ok target := by
  induction names generalizing place with
  | nil => exact h
  | cons name names ih =>
      rw [locateFrom] at h ⊢
      split at h
      · next hplace =>
          rw [if_pos (hdirectories place hplace)]
          split at h
          · cases h
          · next hlength =>
              rw [if_neg hlength]
              exact ih h
      · split at h <;> cases h

theorem locate_mono (hdirectories : ∀ place, workspace.isDirectoryAt place = true →
      after.isDirectoryAt place = true) {target : List String}
    (h : workspace.locate path = .ok target) : after.locate path = .ok target := by
  rw [locate] at h ⊢
  split at h
  · cases h
  · next hnames =>
      rw [if_neg hnames]
      split at h
      · cases h
      · next hlength =>
          rw [if_neg hlength]
          exact locateFrom_mono hdirectories h

/-- The last name of a place that a path leads to, where it is no name of a parent or the root. -/
theorem getLast?_of_locateFrom {place target : List String} {names : List String} {name : String}
    (hname : name ≠ "/" ∧ name ≠ parentName)
    (h : workspace.locateFrom place (names ++ [name]) = .ok target) :
    target.getLast? = some name := by
  induction names generalizing place with
  | nil =>
      rw [List.nil_append, locateFrom] at h
      split at h
      · split at h
        · cases h
        · rw [locateFrom, step, if_neg hname.1, if_pos hname.2] at h
          cases h
          exact List.getLast?_concat
      · split at h <;> cases h
  | cons first names ih =>
      rw [List.cons_append, locateFrom] at h
      split at h
      · split at h
        · cases h
        · exact ih h
      · split at h <;> cases h

/-- A text that was written stands at the place of its path, unless that place stays empty. -/
theorem fileAt?_write {s : String} (h : workspace.write path s = .ok after)
    (hplace : workspace.locate path ≠ .ok emptyFile) :
    ∃ place, after.locate path = .ok place ∧ after.fileAt? place = some (.text s) := by
  obtain ⟨place, hlocate, hafter⟩ := write_ok h
  have hne : place ≠ emptyFile := fun heq => hplace (heq ▸ hlocate)
  refine ⟨place, locate_mono (fun _ => isDirectoryAt_write h) hlocate, ?_⟩
  rw [fileAt?, if_neg hne, hafter, if_neg hne]
  exact lookup_putEntry place _ workspace.files

/-- A write leaves the files at other places as they are. -/
theorem fileAt?_write_of_ne {text : String} (h : workspace.write path text = .ok after)
    {place : List String} (hplace : workspace.locate path ≠ .ok place) :
    after.fileAt? place = workspace.fileAt? place := by
  obtain ⟨written, hlocate, rfl⟩ := write_ok h
  have hne : place ≠ written := fun heq => hplace (heq ▸ hlocate)
  split
  · rfl
  · rw [fileAt?, fileAt?, lookup_putEntry_of_ne hne]

/-- A text without carriage returns is read as it stands in its file. -/
theorem read_of_fileAt? {place : List String} {s : String}
    (hlocate : workspace.locate path = .ok place)
    (hfile : workspace.fileAt? place = some (.text s)) (hreturn : '\r' ∉ s.toList) :
    workspace.read path = .ok s := by
  rw [read, hlocate]
  simp only [hfile]
  rw [Text.universalNewlines_of_notMem hreturn, String.ofList_toList]

/-- A text without carriage returns is read as it was written. -/
theorem read_write {s : String} (h : workspace.write path s = .ok after) (hreturn : '\r' ∉ s.toList)
    (hplace : workspace.locate path ≠ .ok emptyFile) : after.read path = .ok s := by
  obtain ⟨place, hlocate, hfile⟩ := fileAt?_write h hplace
  exact read_of_fileAt? hlocate hfile hreturn

theorem isThere_write {s : String} (h : workspace.write path s = .ok after)
    (hplace : workspace.locate path ≠ .ok emptyFile) : after.isThere path = .ok true := by
  obtain ⟨place, hlocate, hfile⟩ := fileAt?_write h hplace
  rw [isThere, hlocate]
  simp only [hfile, Option.isSome_some, Bool.true_or]

/-! ### Files beside other variables -/

theorem files_setVariable {name value : String} (h : workspace.setVariable name value = .ok after) :
    after.files = workspace.files ∧ after.directories = workspace.directories := by
  rw [setVariable] at h
  split at h
  · cases h
  · split at h
    · cases h
    · cases h
      exact ⟨rfl, rfl⟩

section Variables

variable (hfiles : after.files = workspace.files)
  (hdirectories : after.directories = workspace.directories)

include hfiles

theorem fileAt?_congr (place : List String) : after.fileAt? place = workspace.fileAt? place := by
  rw [fileAt?, hfiles, fileAt?]

include hdirectories

theorem isDirectoryAt_congr (place : List String) :
    after.isDirectoryAt place = workspace.isDirectoryAt place := by
  rw [isDirectoryAt, hfiles, hdirectories, isDirectoryAt]

/-- Where a path leads depends on files and directories only. -/
theorem locateFrom_congr (place names : List String) :
    after.locateFrom place names = workspace.locateFrom place names := by
  induction names generalizing place with
  | nil => rfl
  | cons name names ih =>
      simp only [locateFrom, isDirectoryAt_congr hfiles hdirectories, fileAt?_congr hfiles, ih]

/-- What is read from a path depends on files and directories only. -/
theorem read_congr (path : Path) : after.read path = workspace.read path := by
  have hlocate : after.locate path = workspace.locate path := by
    simp only [locate, locateFrom_congr hfiles hdirectories]
  rw [read, hlocate, read]
  cases workspace.locate path with
  | error fault => rfl
  | ok place =>
      dsimp only
      rw [fileAt?_congr hfiles, isDirectoryAt_congr hfiles hdirectories]

end Variables

theorem locateFrom_ne_badName (place names : List String) :
    workspace.locateFrom place names ≠ .error .badName := by
  induction names generalizing place with
  | nil => exact nofun
  | cons name names ih =>
      rw [locateFrom]
      split
      · split
        · exact nofun
        · exact ih _
      · split <;> exact nofun

/-- The names of a path are pieces of its text, but for the root. -/
theorem exists_splitOn_of_mem_names {text name : String} (h : name ∈ (Path.ofText text).names) :
    name = "/" ∨ ∃ piece ∈ Text.splitOn '/' text.toList, String.ofList piece = name := by
  rw [Path.ofText] at h
  dsimp only at h
  split at h
  · rcases List.mem_cons.1 h with hroot | hname
    · exact .inl hroot
    · exact .inr (List.mem_map.1 (List.mem_filter.1 hname).1)
  · exact .inr (List.mem_map.1 (List.mem_filter.1 h).1)

theorem locate_ne_badName {text : String} (h : '\x00' ∉ text.toList) :
    workspace.locate (Path.ofText text) ≠ .error .badName := by
  have hnames : ¬ (Path.ofText text).names.any fun name => name.toList.contains '\x00' := by
    rw [List.any_eq_true]
    rintro ⟨name, hname, hnull⟩
    rcases exists_splitOn_of_mem_names hname with rfl | ⟨piece, hmem, rfl⟩
    · revert hnull
      decide
    · rw [String.toList_ofList, List.contains_iff_mem] at hnull
      exact h (Text.mem_of_mem_splitOn hmem hnull).1
  rw [locate, if_neg hnames]
  split
  · exact nofun
  · exact locateFrom_ne_badName _ _

/-- A text without a null character names a file, whether that is there or not. -/
theorem read_ne_badName {text : String} (h : '\x00' ∉ text.toList) :
    workspace.read (Path.ofText text) ≠ .error .badName := by
  rw [read]
  cases hlocate : workspace.locate (Path.ofText text) with
  | error fault =>
      intro heq
      cases heq
      exact locate_ne_badName h hlocate
  | ok place =>
      dsimp only
      split
      · exact nofun
      · exact nofun
      · split <;> exact nofun

/-- A text that is read from a file has no carriage return. -/
theorem carriageReturn_notMem_of_read {text : String} (h : workspace.read path = .ok text) :
    '\r' ∉ text.toList := by
  rw [read] at h
  split at h
  · cases h
  · split at h
    · obtain rfl := Except.ok.inj h
      rw [String.toList_ofList]
      exact Text.carriageReturn_notMem_universalNewlines _
    · cases h
    · cases h

/-! ### Paths with an ending -/

theorem ending_of_name {name : String} (hname : name ∈ ["", "/", "..", "null"])
    (h : path.name = name) : path.ending = "" := by
  rw [Path.ending, h]
  simp only [List.mem_cons, List.not_mem_nil, or_false] at hname
  rcases hname with rfl | rfl | rfl | rfl <;> decide

/-- The last name of a path that has an ending is that of the place to which it leads. -/
theorem getLast?_of_locate {place : List String} (h : path.ending ≠ "")
    (hlocate : workspace.locate path = .ok place) : place.getLast? = some path.name := by
  have hname : path.name ∉ ["", "/", "..", "null"] := fun hmem => h (ending_of_name hmem rfl)
  simp only [List.mem_cons, List.not_mem_nil, or_false, not_or] at hname
  obtain ⟨hne, hroot, hparent, -⟩ := hname
  have hlast : path.names.getLast? = some path.name := by
    cases hlast : path.names.getLast? with
    | none => exact absurd (by rw [Path.name, hlast]; rfl) hne
    | some name => rw [Path.name, hlast]; rfl
  obtain ⟨names, hnames⟩ := List.getLast?_eq_some_iff.mp hlast
  rw [locate] at hlocate
  split at hlocate
  · cases hlocate
  · split at hlocate
    · cases hlocate
    · rw [hnames] at hlocate
      exact getLast?_of_locateFrom ⟨hroot, hparent⟩ hlocate

/-- A path whose last name has an ending does not lead to the file that stays empty. -/
theorem locate_ne_emptyFile (h : path.ending ≠ "") : workspace.locate path ≠ .ok emptyFile := by
  intro hlocate
  have hnull : some "null" = some path.name := getLast?_of_locate h hlocate
  exact h (ending_of_name (by decide) (Option.some.inj hnull).symm)

/-- A file whose path has an ending is read as before when a text was written to a path with another
last name, even if directories were made for that. -/
theorem read_write_of_name_ne {ready : Workspace} {other : Path} {text : String}
    (hmade : workspace.HasMade ready) (h : ready.write path text = .ok after)
    (hending : path.ending ≠ "") (hother : other.ending ≠ "") (hname : other.name ≠ path.name)
    (hfile : workspace.isFile other = true) : after.read other = workspace.read other := by
  rw [isFile] at hfile
  split at hfile
  · next place hlocate =>
      obtain ⟨content, hcontent⟩ := Option.isSome_iff_exists.mp (Bool.and_eq_true_iff.mp hfile).2
      have hready : ready.locate other = .ok place :=
        locate_mono (fun _ => hmade.isDirectoryAt) hlocate
      have hafter : after.locate other = .ok place :=
        locate_mono (fun _ => isDirectoryAt_write h) hready
      -- The written place has another last name, so it is another place.
      have hplace : ready.locate path ≠ .ok place := by
        intro hpath
        have hlast := getLast?_of_locate hending hpath
        rw [getLast?_of_locate hother hready] at hlast
        exact hname (Option.some.inj hlast)
      have hkept : after.fileAt? place = some content := by
        obtain ⟨made, rfl⟩ := hmade
        exact (fileAt?_write_of_ne h hplace).trans hcontent
      rw [read, read, hlocate, hafter]
      simp only [hcontent, hkept]
      cases content <;> rfl
  · cases hfile

end GridRules.Workspace
