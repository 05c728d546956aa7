import GridRules.Settings.Reading
import GridRules.Settings.Variables

/-!
# Settings, their data and the variables

The data of settings give the settings back. What variables put over settings does not depend on the
settings, so looking at the same variables once more changes nothing. Neither way of setting fields
touches the checks of the sections.
-/

namespace GridRules.Settings

theorem eq_of_value {a b : Settings} (hvalue : a.value = b.value)
    (hunchecked : a.unchecked = b.unchecked) : a = b := by
  cases a
  cases b
  simp_all

/-! ### Data -/

theorem unchecked_putEntries {settings after : Settings} {part : Section}
    {entries : List (Value × Value)} (h : settings.putEntries part entries = .ok after) :
    after.unchecked = settings.unchecked := by
  induction settings, entries using putEntries.induct part with
  | case1 settings =>
      rw [putEntries] at h
      cases h
      rfl
  | case2 settings key value entries field hfield ih =>
      rw [putEntries, hfield] at h
      exact ih h
  | case3 settings key value entries hfield =>
      rw [putEntries, hfield] at h
      cases h
  | case4 settings key value entries hkey =>
      rw [putEntries] at h
      · cases h
      · exact hkey

theorem unchecked_putSection {settings after : Settings} {part : Section} {data : Value}
    (h : settings.putSection part data = .ok after) : after.unchecked = settings.unchecked := by
  rw [putSection] at h
  split at h
  · cases h
    rfl
  · split at h
    · exact unchecked_putEntries h
    · cases h
  · cases h

theorem unchecked_putSections {data : Value} {parts : List Section} {settings after : Settings}
    (h : putSections data parts settings = .ok after) : after.unchecked = settings.unchecked := by
  induction parts generalizing settings with
  | nil =>
      rw [putSections] at h
      cases h
      rfl
  | cons part parts ih =>
      rw [putSections] at h
      split at h
      · cases h
      · next next hnext => exact (ih h).trans (unchecked_putSection hnext)

theorem unchecked_ofValue {data : Value} {settings : Settings} (h : ofValue data = .ok settings) :
    settings.unchecked = [] := by
  cases data with
  | mapping entries => exact unchecked_putSections h
  | _ => cases h

/-- The settings with some fields as in others. -/
def withFields (settings others : Settings) (fields : List Field) : Settings :=
  fields.foldl (fun settings field => settings.set field (others.value field)) settings

theorem value_withFields (settings others : Settings) (fields : List Field) (field : Field) :
    (settings.withFields others fields).value field =
      if field ∈ fields then others.value field else settings.value field := by
  induction fields generalizing settings with
  | nil => rfl
  | cons first fields ih =>
      rw [withFields, List.foldl_cons]
      change ((settings.set first (others.value first)).withFields others fields).value field = _
      rw [ih, value_set]
      by_cases hfirst : field = first <;> by_cases hmem : field ∈ fields <;> simp_all

theorem unchecked_withFields (settings others : Settings) (fields : List Field) :
    (settings.withFields others fields).unchecked = settings.unchecked := by
  induction fields generalizing settings with
  | nil => rfl
  | cons first fields ih => exact ih (settings.set first (others.value first))

theorem withFields_append (settings others : Settings) (fields more : List Field) :
    settings.withFields others (fields ++ more) =
      (settings.withFields others fields).withFields others more :=
  List.foldl_append

/-- The entries of some fields in the data of their section. -/
def entriesOf (settings : Settings) (fields : List Field) : List (Value × Value) :=
  fields.map fun field => (.text field.name, settings.value field)

theorem putEntries_entriesOf (settings others : Settings) {part : Section} {fields : List Field}
    (h : ∀ field ∈ fields, field.part = part) :
    settings.putEntries part (others.entriesOf fields) =
      .ok (settings.withFields others fields) := by
  induction fields generalizing settings with
  | nil => rfl
  | cons field fields ih =>
      have hname : Field.ofName? part field.name = some field := by
        rw [← h field List.mem_cons_self]
        exact Field.ofName?_name field
      rw [entriesOf, List.map_cons, putEntries, hname]
      exact ih _ fun other hother => h other (List.mem_cons_of_mem _ hother)

theorem part_of_mem_ofSection {part : Section} {field : Field}
    (h : field ∈ Field.ofSection part) : field.part = part := by
  simpa using (List.mem_filter.mp h).2

theorem mem_ofSection (field : Field) : field ∈ Field.ofSection field.part := by
  cases field <;> decide

theorem keysAreTexts_entriesOf (settings : Settings) (fields : List Field) :
    keysAreTexts (settings.entriesOf fields) = true := by
  simp [keysAreTexts, entriesOf]

theorem field?_toValue (settings : Settings) (part : Section) :
    settings.toValue.field? part.name =
      some (.mapping (settings.entriesOf (Field.ofSection part))) := by
  cases part <;> rfl

theorem putSection_toValue (settings others : Settings) (part : Section) :
    settings.putSection part others.toValue =
      .ok (settings.withFields others (Field.ofSection part)) := by
  rw [putSection, field?_toValue]
  simp only [keysAreTexts_entriesOf, if_true]
  exact putEntries_entriesOf settings others fun _ => part_of_mem_ofSection

theorem putSections_toValue (settings others : Settings) (parts : List Section) :
    putSections others.toValue parts settings =
      .ok (settings.withFields others (parts.flatMap Field.ofSection)) := by
  induction parts generalizing settings with
  | nil => rfl
  | cons part parts ih =>
      rw [putSections, putSection_toValue, List.flatMap_cons, withFields_append]
      exact ih _

/-- The data of settings give the settings back. -/
theorem ofValue_toValue {settings : Settings} (h : settings.unchecked = []) :
    ofValue settings.toValue = .ok settings := by
  have hall : default.withFields settings (Section.all.flatMap Field.ofSection) = settings := by
    apply eq_of_value
    · funext field
      rw [value_withFields, if_pos]
      rw [List.mem_flatMap]
      exact ⟨field.part, field.part.mem_all, mem_ofSection field⟩
    · rw [unchecked_withFields, h]
      rfl
  calc
    ofValue settings.toValue = putSections settings.toValue Section.all default := rfl
    _ = .ok (default.withFields settings (Section.all.flatMap Field.ofSection)) :=
        putSections_toValue default settings Section.all
    _ = .ok settings := by rw [hall]

/-! ### Variables -/

section Variables

variable {lookup again : String → Option String} {field : Field}

/-- The settings after one variable was looked at. -/
def overrideOne (lookup : String → Option String) (settings : Settings)
    (entry : String × Field × Conversion) : Settings :=
  match variableValue? lookup entry with
  | some value => settings.set entry.2.1 value
  | none => settings

/-- The value that one variable gives a field, if it does. -/
def oneValue? (lookup : String → Option String) (field : Field)
    (entry : String × Field × Conversion) : Option Value :=
  if entry.2.1 = field then variableValue? lookup entry else none

/-- The value that some variables give a field, if one of them does. The last one counts. -/
def overriding? (lookup : String → Option String) (field : Field) :
    List (String × Field × Conversion) → Option Value
  | [] => none
  | entry :: entries => (overriding? lookup field entries).or (oneValue? lookup field entry)

theorem unchecked_overrideOne (settings : Settings) (entry : String × Field × Conversion) :
    (overrideOne lookup settings entry).unchecked = settings.unchecked := by
  rw [overrideOne]
  split <;> rfl

theorem value_overrideOne (settings : Settings) (entry : String × Field × Conversion) :
    (overrideOne lookup settings entry).value field =
      (oneValue? lookup field entry).getD (settings.value field) := by
  rw [overrideOne, oneValue?]
  cases variableValue? lookup entry with
  | none => simp
  | some value =>
      by_cases h : entry.2.1 = field
      · simp [h]
      · simp [h, Ne.symm h]

theorem value_foldl_overrideOne (entries : List (String × Field × Conversion))
    (settings : Settings) :
    (entries.foldl (overrideOne lookup) settings).value field =
      (overriding? lookup field entries).getD (settings.value field) := by
  induction entries generalizing settings with
  | nil => rfl
  | cons entry entries ih =>
      -- What the later variables give counts before what this one gives.
      rw [List.foldl_cons, ih, value_overrideOne, overriding?]
      cases overriding? lookup field entries <;> rfl

theorem value_override (settings : Settings) :
    (settings.override lookup).value field =
      (overriding? lookup field variableFields).getD (settings.value field) :=
  value_foldl_overrideOne variableFields settings

theorem unchecked_override (settings : Settings) :
    (settings.override lookup).unchecked = settings.unchecked := by
  have hfold (entries : List (String × Field × Conversion)) (settings : Settings) :
      (entries.foldl (overrideOne lookup) settings).unchecked = settings.unchecked := by
    induction entries generalizing settings with
    | nil => rfl
    | cons entry entries ih => rw [List.foldl_cons, ih, unchecked_overrideOne]
  exact hfold variableFields settings

theorem overriding?_congr {entries : List (String × Field × Conversion)}
    (h : ∀ entry ∈ entries, again entry.1 = lookup entry.1) :
    overriding? again field entries = overriding? lookup field entries := by
  induction entries with
  | nil => rfl
  | cons entry entries ih =>
      have hentry := h entry List.mem_cons_self
      rw [overriding?, overriding?, oneValue?, oneValue?, variableValue?, variableValue?, hentry,
        ih fun other hother => h other (List.mem_cons_of_mem _ hother)]

/-- Settings under variables depend on the variables that belong to fields only. -/
theorem override_congr (settings : Settings)
    (h : ∀ entry ∈ variableFields, again entry.1 = lookup entry.1) :
    settings.override again = settings.override lookup := by
  apply eq_of_value
  · funext field
    rw [value_override, value_override, overriding?_congr h]
  · rw [unchecked_override, unchecked_override]

/-- Variables that were looked at change nothing when they are looked at again. -/
theorem override_override (settings : Settings)
    (h : ∀ entry ∈ variableFields, again entry.1 = lookup entry.1) :
    (settings.override lookup).override again = settings.override lookup := by
  apply eq_of_value
  · funext field
    rw [value_override, value_override, overriding?_congr h]
    cases overriding? lookup field variableFields <;> rfl
  · rw [unchecked_override]

end Variables

end GridRules.Settings
