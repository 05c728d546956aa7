import GridRules.Proofs.Settings.Check
import GridRules.Proofs.Settings.Data
import GridRules.Settings.Store

/-!
# The outcomes of a change

A change of a field gives settings that pass the check and hold the value in that field, or it
fails. This is said of changes that stay off the names which nothing declares but which every object
has. A failure that is reported as one of the settings leaves the store as it was. Any other failure
leaves the change in the store, because only complaints of the check take a change back: a value
that cannot be compared as its field asks, a check that was overwritten, and a number that cannot be
shown do not.
-/

namespace GridRules

theorem Section.name_of_ofName? {text : String} {part : Section} (h : ofName? text = some part) :
    part.name = text := by
  simpa using List.find?_some h

theorem Field.name_of_ofName? {text : String} {part : Section} {field : Field}
    (h : ofName? part text = some field) : field.part = part ∧ field.name = text :=
  ⟨Settings.part_of_mem_ofSection (List.mem_of_find?_eq_some h), by simpa using List.find?_some h⟩

/-- The names of a field and of its section determine the field. -/
theorem Field.eq_of_names {field other : Field} (hpart : other.part.name = field.part.name)
    (hname : other.name = field.name) : other = field := by
  have hsection : some other.part = some field.part := by
    rw [← Section.ofName?_name, hpart, Section.ofName?_name]
  apply Option.some.inj
  rw [← Field.ofName?_name, Option.some.inj hsection, hname, Field.ofName?_name]

/-! ### Overwritten checks -/

namespace Settings

/-- The settings with the check of a section overwritten. -/
def overwriteCheck (settings : Settings) (part : Section) : Settings :=
  { settings with unchecked := part :: settings.unchecked }

/-- Settings do not pass the check if that of a section was overwritten. -/
theorem check_overwriteCheck_ne_ok (settings : Settings) (part : Section) :
    (settings.overwriteCheck part).check ≠ .ok () :=
  fun h => List.cons_ne_nil part settings.unchecked (check_eq_ok_iff.1 h).1

theorem category_of_not_complaint {fault : CheckFault}
    (h : ∀ complaint, fault ≠ .complaint complaint) : fault.failure.category ≠ .configuration := by
  cases fault with
  | complaint complaint => exact absurd rfl (h complaint)
  | _ => decide

end Settings

open Settings (CheckFault StoreFault)

namespace SettingsStore

/-! ### Changes -/

/-- The store with other settings. -/
def withSettings (store : SettingsStore) (settings : Settings) : SettingsStore :=
  { store with settings := some settings }

/-- The failures of a change that are not reported as failures of the settings, and how they leave
the store: the value stands in its field, or the check of a section is overwritten. -/
inductive StrayChange (store : SettingsStore) (sectionName key : String) (value : Value) :
    SettingsStore → StoreFault → Prop
  | value {settings : Settings} {field : Field} {fault : CheckFault}
      (hsettings : store.settings = some settings) (hsection : field.part.name = sectionName)
      (hkey : field.name = key) (hcheck : (settings.set field value).check = .error fault)
      (hfault : ∀ complaint, fault ≠ .complaint complaint)
      (hcause : settings.unchecked ≠ [] ∨
        ∃ other : Field, other.kind.holds ((settings.set field value).value other) = false) :
      StrayChange store sectionName key value (store.withSettings (settings.set field value))
        (.uncheckable fault)
  | check {settings : Settings} {part : Section} {fault : CheckFault}
      (hsettings : store.settings = some settings) (hsection : part.name = sectionName)
      (hkey : key = checkName) (hcheck : (settings.overwriteCheck part).check = .error fault)
      (hfault : ∀ complaint, fault ≠ .complaint complaint) :
      StrayChange store sectionName key value (store.withSettings (settings.overwriteCheck part))
        (.uncheckable fault)
  | longNumber {settings : Settings} {field : Field}
      (hsettings : store.settings = some settings) (hsection : field.part.name = sectionName)
      (hkey : field.name = key) (hcheck : (settings.set field value).check = .ok ())
      (hlong : value.hasLongNumber = true) :
      StrayChange store sectionName key value (store.withSettings (settings.set field value))
        .unshowable

/-- How a change leaves a store, and what it gives. -/
inductive Changing (store : SettingsStore) (sectionName key : String) (value : Value) :
    SettingsStore → Except StoreFault Unit → Prop
  | changed {settings : Settings} {field : Field} (hsettings : store.settings = some settings)
      (hsection : field.part.name = sectionName) (hkey : field.name = key)
      (hcheck : (settings.set field value).check = .ok ()) :
      Changing store sectionName key value (store.withSettings (settings.set field value)) (.ok ())
  | refused {fault : StoreFault} (hfault : fault.failure.category = .configuration) :
      Changing store sectionName key value store (.error fault)
  | stray {after : SettingsStore} {fault : StoreFault}
      (hstray : StrayChange store sectionName key value after fault)
      (hfault : fault.failure.category ≠ .configuration) :
      Changing store sectionName key value after (.error fault)

/-- What a change of declared names makes of settings: it sets a field, or overwrites the check of a
section. -/
inductive Declared (settings : Settings) (value : Value) : String → String → Settings → Prop
  | field (field : Field) :
      Declared settings value field.part.name field.name (settings.set field value)
  | check (part : Section) :
      Declared settings value part.name checkName (settings.overwriteCheck part)

theorem declared_of_eq_some {settings changed : Settings} {sectionName key : String} {value : Value}
    (h : declared? settings sectionName key value = some changed) :
    Declared settings value sectionName key changed := by
  obtain ⟨part, hpart, hchanged⟩ := Option.bind_eq_some_iff.mp h
  obtain rfl := Section.name_of_ofName? hpart
  unfold changed? at hchanged
  split at hchanged
  · next field hfield =>
      obtain ⟨rfl, rfl⟩ := Field.name_of_ofName? hfield
      cases hchanged
      exact .field field
  · split at hchanged
    · next hkey =>
        cases hchanged
        exact hkey ▸ .check part
    · cases hchanged

theorem declared?_field (settings : Settings) (field : Field) (value : Value) :
    declared? settings field.part.name field.name value = some (settings.set field value) := by
  rw [declared?, Section.ofName?_name, Option.bind_some, changed?, Field.ofName?_name]

/-- Whether a change stays off the names that are not declared but that every object has. -/
def IsOwn (store : SettingsStore) (sectionName key : String) (value : Value) : Prop :=
  ∀ settings, store.settings = some settings → declared? settings sectionName key value = none →
    store.inherited settings sectionName key value = none

section Own

variable {store : SettingsStore} {settings changed : Settings} {sectionName key : String}
  {value : Value}

theorem declared_of_change (hown : store.IsOwn sectionName key value)
    (hsettings : store.settings = some settings)
    (h : store.change settings sectionName key value = .ok changed) :
    Declared settings value sectionName key changed := by
  rw [change] at h
  split at h
  · next hdeclared =>
      cases h
      exact declared_of_eq_some hdeclared
  · next hdeclared =>
      rw [hown settings hsettings hdeclared] at h
      cases h

theorem category_of_change {fault : StoreFault} (hown : store.IsOwn sectionName key value)
    (hsettings : store.settings = some settings)
    (h : store.change settings sectionName key value = .error fault) :
    fault.failure.category = .configuration := by
  rw [change] at h
  split at h
  · cases h
  · next hdeclared =>
      rw [hown settings hsettings hdeclared] at h
      cases h
      rw [unknown]
      split <;> rfl

/-- A check of a changed store that ends otherwise than in a complaint is a stray failure. -/
theorem Declared.strayChange {fault : CheckFault}
    (h : Declared settings value sectionName key changed)
    (hsettings : store.settings = some settings) (hcheck : changed.check = .error fault)
    (hfault : ∀ complaint, fault ≠ .complaint complaint) :
    StrayChange store sectionName key value (store.withSettings changed) (.uncheckable fault) := by
  cases h with
  | field field =>
      refine .value hsettings rfl rfl hcheck hfault ?_
      by_cases hunchecked : settings.unchecked = []
      · exact .inr (Settings.exists_badKind hcheck hunchecked hfault)
      · exact .inl hunchecked
  | check part => exact .check hsettings rfl rfl hcheck hfault

theorem changing (hown : store.IsOwn sectionName key value) :
    Changing store sectionName key value (store.update sectionName key value).1
      (store.update sectionName key value).2 := by
  rw [update]
  split
  · exact .refused rfl
  · next settings hsettings =>
      split
      · next hchange => exact .refused (category_of_change hown hsettings hchange)
      · next changed hchange =>
          have hdeclared := declared_of_change hown hsettings hchange
          split
          · next hcheck =>
              cases hdeclared with
              | field field =>
                  split
                  · next hlong =>
                      exact .stray (.longNumber hsettings rfl rfl hcheck hlong) (by decide)
                  · exact .changed hsettings rfl rfl hcheck
              | check part =>
                  exact absurd hcheck (Settings.check_overwriteCheck_ne_ok settings part)
          · exact .refused rfl
          · next fault hfault hcheck =>
              have hfault (complaint : Settings.Complaint) : fault ≠ .complaint complaint :=
                fun heq => hfault complaint heq
              exact .stray (hdeclared.strayChange hsettings hcheck hfault)
                (Settings.category_of_not_complaint hfault)

end Own

/-- A change of names of its own gives settings that pass the check and differ from the earlier ones
at most in the field, which holds the value, or it fails. A failure that is reported as one of the
settings leaves the store as it was, and any other one is a stray failure, which leaves the change
in the store. -/
theorem update_outcome (store : SettingsStore) (sectionName key : String) (value : Value)
    (hown : store.IsOwn sectionName key value) :
    match store.update sectionName key value with
    | (after, .ok ()) =>
      ∃ settings field, store.settings = some settings ∧ field.part.name = sectionName ∧
        field.name = key ∧ after = store.withSettings (settings.set field value) ∧
        (settings.set field value).check = .ok ()
    | (after, .error fault) =>
      fault.failure.category = .configuration ∧ after = store ∨
        fault.failure.category ≠ .configuration ∧
          StrayChange store sectionName key value after fault := by
  have hchanging := changing hown
  generalize store.update sectionName key value = result at hchanging ⊢
  obtain ⟨after, outcome⟩ := result
  cases hchanging with
  | @changed settings field hsettings hsection hkey hcheck =>
      exact ⟨settings, field, hsettings, hsection, hkey, rfl, hcheck⟩
  | refused hfault => exact .inl ⟨hfault, rfl⟩
  | stray hstray hfault => exact .inr ⟨hfault, hstray⟩

/-- A change of the blank character of grids, whose name is a declared one. -/
theorem update_outcome_blankGlyph :
    ∃ store after : SettingsStore, store.settings = some .default ∧
      store.IsOwn "grid" "blank_glyph" (.text ".") ∧
      store.update "grid" "blank_glyph" (.text ".") = (after, .ok ()) ∧
      after = store.withSettings (Settings.default.set .blankGlyph (.text ".")) ∧
      (Settings.default.set .blankGlyph (.text ".")).check = .ok () := by
  let store : SettingsStore := { directory := ⟨["config"]⟩, settings := some .default }
  have hown : store.IsOwn "grid" "blank_glyph" (.text ".") := fun _ _ _ => rfl
  have hupdate : store.update "grid" "blank_glyph" (.text ".") =
      (store.withSettings (Settings.default.set .blankGlyph (.text ".")), .ok ()) := by
    with_unfolding_all rfl
  have houtcome := update_outcome store "grid" "blank_glyph" (.text ".") hown
  rw [hupdate] at houtcome
  obtain ⟨settings, field, hsettings, hsection, hname, hafter, hcheck⟩ := houtcome
  obtain rfl : Settings.default = settings := Option.some.inj hsettings
  obtain rfl : field = .blankGlyph := Field.eq_of_names hsection hname
  exact ⟨store, _, rfl, hown, hupdate, rfl, hcheck⟩

/-- Not every change that fails leaves the store as it was: a text as the largest height, which
cannot be compared with a number, stays there. -/
theorem exists_strayChange :
    ¬ ∀ (store : SettingsStore) (settings : Settings) (sectionName key : String) (value : Value),
      store.settings = some settings →
      match store.update sectionName key value with
      | (after, .ok ()) =>
        ∃ field : Field, field.part.name = sectionName ∧ field.name = key ∧
          after = store.withSettings (settings.set field value) ∧
          (settings.set field value).check = .ok ()
      | (after, .error _) => after = store := by
  intro hall
  have hupdate : SettingsStore.update { directory := ⟨["config"]⟩, settings := some .default }
      "grid" "max_height" (.text "5") =
        (withSettings { directory := ⟨["config"]⟩ } (Settings.default.set .maxHeight (.text "5")),
          .error (.uncheckable .incomparable)) := by
    with_unfolding_all rfl
  have hkept := hall { directory := ⟨["config"]⟩, settings := some .default } .default
    "grid" "max_height" (.text "5") rfl
  rw [hupdate] at hkept
  have hheight := congrArg (fun store => store.settings.map (·.value .maxHeight)) hkept
  cases hheight

/-! ### Values of the declared kinds -/

/-- Where all values are of the declared kinds, a change to another short value of the declared kind
that fails leaves the store as it was. -/
theorem eq_of_update_error {store : SettingsStore} {settings : Settings} {field : Field}
    {value : Value} {fault : StoreFault} (hsettings : store.settings = some settings)
    (htyped : settings.IsTyped) (hchecked : settings.unchecked = [])
    (hvalue : field.kind.holds value = true) (hshort : value.hasLongNumber = false)
    (h : (store.update field.part.name field.name value).2 = .error fault) :
    (store.update field.part.name field.name value).1 = store := by
  have hown : store.IsOwn field.part.name field.name value := by
    intro settings _ hdeclared
    rw [declared?_field] at hdeclared
    cases hdeclared
  have hchanging := changing hown
  rw [h] at hchanging
  generalize (store.update field.part.name field.name value).1 = after at hchanging ⊢
  cases hchanging with
  | refused hfault => rfl
  | stray hstray hcategory =>
      exfalso
      cases hstray with
      | @value kept other fault hkept hsection hkey hcheck hfault hcause =>
          obtain rfl : settings = kept := Option.some.inj (hsettings.symm.trans hkept)
          obtain rfl := Field.eq_of_names hsection hkey
          rcases Settings.decides_check (htyped.set hvalue) hchecked with hok | ⟨complaint, herror⟩
          · rw [hcheck] at hok
            cases hok
          · rw [hcheck] at herror
            exact hfault complaint (Except.error.inj herror)
      | check hkept hsection hkey hcheck hfault =>
          have hname : field.name ≠ checkName := by cases field <;> decide
          exact hname hkey
      | longNumber hkept hsection hkey hcheck hlong =>
          rw [hshort] at hlong
          cases hlong

end SettingsStore

end GridRules
