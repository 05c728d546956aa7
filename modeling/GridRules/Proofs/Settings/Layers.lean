import GridRules.Proofs.Json.RoundTrip
import GridRules.Proofs.Settings.Changing
import GridRules.Proofs.Settings.Loading

/-!
# The layers of settings

A load finds data, in a file or none at all. A field takes its value from the variable that belongs
to it, if that is set and can be converted, else from the data, and else it has its default. Nothing
else goes into the settings that a load gives: neither what the store held before nor what became of
earlier calls.
-/

namespace GridRules

/-! ### Values for single fields -/

namespace Field

/-- The whole number that the text of a variable writes. -/
def numberFrom? (lookup : String → Option String) (name : String) : Option Value :=
  (lookup name).bind fun text => (Text.wholeNumber? text).map .int

/-- The value that the variable of a field gives it, if there is such a variable, it is set and its
text can be converted. -/
def fromVariables? (lookup : String → Option String) : Field → Option Value
  | .blankGlyph => (lookup "GRIDSYNTH_BLANK_GLYPH").map .text
  | .maxHeight => numberFrom? lookup "GRIDSYNTH_MAX_HEIGHT"
  | .maxWidth => numberFrom? lookup "GRIDSYNTH_MAX_WIDTH"
  | .groupingThreshold => numberFrom? lookup "GRIDSYNTH_GROUPING_THRESHOLD"
  | .wrapThreshold => numberFrom? lookup "GRIDSYNTH_WRAP_THRESHOLD"
  | .indent => none
  | .maxReported => numberFrom? lookup "GRIDSYNTH_MAX_REPORTED"
  | .mode => (lookup "GRIDSYNTH_EXECUTION_MODE").map .text
  | .compiler => (lookup "GRIDSYNTH_COMPILER").map .text
  | .compilerFlags => none
  | .timeout => numberFrom? lookup "GRIDSYNTH_COMPILER_TIMEOUT"
  | .debug =>
    (lookup "GRIDSYNTH_DEBUG").map fun text =>
      .bool (["true", "1", "yes", "on"].contains text.toLower)
  | .logLevel => (lookup "GRIDSYNTH_LOG_LEVEL").map fun text => .text (Text.upperCase text)

/-- The value that data give a field, if they do. -/
def fromData? (data : Value) (field : Field) : Option Value :=
  (data.field? field.part.name).bind (·.field? field.name)

end Field

namespace Settings

/-- The settings of which each field comes from the first layer that gives it a value: the
variables, the data, the defaults. -/
def layered (lookup : String → Option String) (data : Value) : Settings where
  value field := ((field.fromVariables? lookup).or (field.fromData? data)).getD field.default

/-- Whether a key is the name of a field of a section. -/
def NamesField (part : Section) (key : Value) : Prop :=
  ∃ field : Field, field.part = part ∧ key = .text field.name

/-- Whether data are a mapping, and each section that they have is a mapping whose keys are names of
its fields. -/
structure IsData (data : Value) : Prop where
  isMapping : ∃ entries, data = .mapping entries
  hasSections : ∀ (part : Section) (value : Value), data.field? part.name = some value →
    ∃ entries, value = .mapping entries ∧ ∀ entry ∈ entries, NamesField part entry.1

/-! ### Settings from data -/

theorem ofName?_eq_some_iff {part : Section} {key : String} {field : Field} :
    Field.ofName? part key = some field ↔ field.part = part ∧ field.name = key := by
  constructor
  · exact Field.name_of_ofName?
  · rintro ⟨rfl, rfl⟩
    exact Field.ofName?_name field

theorem not_namesField_of_ofName? {part : Section} {key : String}
    (h : Field.ofName? part key = none) : ¬ NamesField part (.text key) := by
  rintro ⟨field, hpart, hkey⟩
  obtain rfl := Value.text.inj hkey
  rw [ofName?_eq_some_iff.2 ⟨hpart, rfl⟩] at h
  cases h

theorem field?_cons (name key : String) (value : Value) (entries : List (Value × Value)) :
    (Value.mapping ((.text key, value) :: entries)).field? name =
      ((Value.mapping entries).field? name).or (if key = name then some value else none) := by
  simp [Value.field?, List.findSome?_append]

/-- The settings with the fields of a section taken from its own data. -/
def withSection (settings : Settings) (part : Section) (data : Value) : Settings :=
  { settings with
    value := fun field =>
      if field.part = part then (data.field? field.name).getD (settings.value field)
      else settings.value field }

theorem withSection_nil (settings : Settings) (part : Section) :
    settings.withSection part (.mapping []) = settings := by
  apply eq_of_value
  · funext field
    simp [withSection, Value.field?]
  · rfl

theorem withSection_cons (settings : Settings) (field : Field) (value : Value)
    (entries : List (Value × Value)) :
    settings.withSection field.part (.mapping ((.text field.name, value) :: entries)) =
      (settings.set field value).withSection field.part (.mapping entries) := by
  apply eq_of_value
  · funext other
    simp only [withSection, field?_cons, value_set]
    by_cases hpart : other.part = field.part
    · have hname : field.name = other.name ↔ other = field :=
        ⟨fun h => Field.eq_of_names (congrArg Section.name hpart) h.symm, fun h => h ▸ rfl⟩
      rw [if_pos hpart, if_pos hpart]
      -- An entry behind this one with the same key counts before it.
      cases (Value.mapping entries).field? other.name with
      | none => by_cases hother : other = field <;> simp [hname, hother]
      | some later => rfl
    · have hother : other ≠ field := fun h => hpart (h ▸ rfl)
      rw [if_neg hpart, if_neg hpart, if_neg hother]
  · rfl

/-- The entries of a section can be put into its fields exactly if their keys are names of these. -/
theorem putEntries_eq_ok_iff (settings : Settings) (part : Section)
    (entries : List (Value × Value)) {after : Settings} :
    settings.putEntries part entries = .ok after ↔
      (∀ entry ∈ entries, NamesField part entry.1) ∧
        after = settings.withSection part (.mapping entries) := by
  induction settings, entries using putEntries.induct part with
  | case1 settings =>
      rw [putEntries, withSection_nil, Except.ok.injEq]
      simp [eq_comm]
  | case2 settings key value entries field hfield ih =>
      obtain ⟨rfl, rfl⟩ := ofName?_eq_some_iff.1 hfield
      rw [putEntries, hfield]
      dsimp only
      rw [ih, withSection_cons, List.forall_mem_cons, and_assoc, iff_and_self]
      exact fun _ => ⟨field, rfl, rfl⟩
  | case3 settings key value entries hfield =>
      rw [putEntries, hfield]
      simp only [reduceCtorEq, false_iff]
      intro h
      exact not_namesField_of_ofName? hfield (h.1 _ List.mem_cons_self)
  | case4 settings key value entries hkey =>
      rw [putEntries]
      · simp only [reduceCtorEq, false_iff]
        intro h
        obtain ⟨field, -, htext⟩ := h.1 _ List.mem_cons_self
        exact hkey _ htext
      · exact hkey

theorem keysAreTexts_of_namesField {part : Section} {entries : List (Value × Value)}
    (h : ∀ entry ∈ entries, NamesField part entry.1) : keysAreTexts entries = true := by
  rw [keysAreTexts, List.all_eq_true]
  intro entry hentry
  obtain ⟨field, -, htext⟩ := h entry hentry
  rw [htext]

/-- The settings with the fields of some sections taken from data, where these give them a value. -/
def withData (settings : Settings) (data : Value) (parts : List Section) : Settings :=
  { settings with
    value := fun field =>
      if field.part ∈ parts then (field.fromData? data).getD (settings.value field)
      else settings.value field }

theorem withData_nil (settings : Settings) (data : Value) : settings.withData data [] = settings :=
  rfl

theorem withData_cons (settings : Settings) (data : Value) (part : Section)
    (parts : List Section) :
    settings.withData data (part :: parts) =
      (match data.field? part.name with
        | none => settings
        | some value => settings.withSection part value).withData data parts := by
  apply eq_of_value
  · funext field
    simp only [withData, List.mem_cons]
    by_cases hpart : field.part = part
    · subst hpart
      cases hdata : data.field? field.part.name with
      | none => simp [Field.fromData?, hdata]
      | some value =>
          by_cases hmem : field.part ∈ parts
          · cases hfield : value.field? field.name <;>
              simp [Field.fromData?, hdata, hfield, withSection, hmem]
          · simp [Field.fromData?, hdata, withSection, hmem]
    · cases data.field? part.name <;> simp [hpart, withSection]
  · cases data.field? part.name <;> rfl

theorem putSection_eq_ok_iff (settings : Settings) (part : Section) (data : Value)
    {after : Settings} :
    settings.putSection part data = .ok after ↔
      (∀ value, data.field? part.name = some value →
        ∃ entries, value = .mapping entries ∧ ∀ entry ∈ entries, NamesField part entry.1) ∧
      after =
        match data.field? part.name with
        | none => settings
        | some value => settings.withSection part value := by
  rw [putSection]
  split
  · next hdata => simp [hdata, eq_comm]
  · next entries hdata =>
      simp only [hdata, Option.some.injEq, forall_eq']
      split
      · rw [putEntries_eq_ok_iff]
        simp
      · next hkeys =>
          simp only [reduceCtorEq, false_iff]
          rintro ⟨⟨others, hothers, hnames⟩, -⟩
          cases hothers
          exact hkeys (keysAreTexts_of_namesField hnames)
  · next value hvalue hdata =>
      simp only [reduceCtorEq, false_iff]
      rintro ⟨hsection, -⟩
      obtain ⟨entries, rfl, -⟩ := hsection value hdata
      exact hvalue entries rfl

theorem putSections_eq_ok_iff (data : Value) (parts : List Section) (settings : Settings)
    {after : Settings} :
    putSections data parts settings = .ok after ↔
      (∀ part ∈ parts, ∀ value, data.field? part.name = some value →
        ∃ entries, value = .mapping entries ∧ ∀ entry ∈ entries, NamesField part entry.1) ∧
      after = settings.withData data parts := by
  induction parts generalizing settings with
  | nil => simp [putSections, withData_nil, eq_comm]
  | cons part parts ih =>
      rw [putSections, List.forall_mem_cons, withData_cons]
      split
      · next fault hfault =>
          simp only [reduceCtorEq, false_iff]
          rintro ⟨⟨hpart, -⟩, -⟩
          rw [(putSection_eq_ok_iff settings part data).2 ⟨hpart, rfl⟩] at hfault
          cases hfault
      · next next hnext =>
          obtain ⟨hpart, rfl⟩ := (putSection_eq_ok_iff settings part data).1 hnext
          rw [ih, and_assoc, and_iff_right hpart]

/-- Data give settings exactly if they have the form of such, and then the settings of which each
field comes from the data or else is the default. -/
theorem ofValue_eq_ok_iff (data : Value) {settings : Settings} :
    ofValue data = .ok settings ↔
      IsData data ∧ settings = default.withData data Section.all := by
  cases data with
  | mapping entries =>
      rw [ofValue, putSections_eq_ok_iff]
      constructor
      · rintro ⟨hsections, rfl⟩
        exact ⟨⟨⟨entries, rfl⟩, fun part => hsections part part.mem_all⟩, rfl⟩
      · rintro ⟨hdata, rfl⟩
        exact ⟨fun part _ => hdata.hasSections part, rfl⟩
  | _ =>
      simp only [ofValue, reduceCtorEq, false_iff]
      rintro ⟨hdata, -⟩
      obtain ⟨entries, hentries⟩ := hdata.isMapping
      cases hentries

/-! ### Settings under variables -/

theorem bind_verbatim (found : Option String) :
    found.bind Conversion.verbatim.value? = found.map .text := by
  cases found <;> rfl

theorem bind_number (found : Option String) :
    found.bind Conversion.number.value? =
      found.bind fun text => (Text.wholeNumber? text).map .int :=
  rfl

theorem bind_truth (found : Option String) :
    found.bind Conversion.truth.value? =
      found.map fun text => .bool (["true", "1", "yes", "on"].contains text.toLower) := by
  cases found <;> rfl

theorem bind_upperCase (found : Option String) :
    found.bind Conversion.upperCase.value? = found.map fun text => .text (Text.upperCase text) := by
  cases found <;> rfl

/-- Each field has at most one variable, so that the order of the variables does not matter. -/
theorem overriding?_variableFields (lookup : String → Option String) (field : Field) :
    overriding? lookup field variableFields = field.fromVariables? lookup := by
  cases field <;>
    simp only [variableFields, overriding?, oneValue?, variableValue?, reduceCtorEq, if_true,
      if_false, Option.or_none, Option.none_or, bind_verbatim, bind_number, bind_truth,
      bind_upperCase, Field.fromVariables?, Field.numberFrom?]

/-- Variables put over the settings that data give are one more layer. -/
theorem override_withData (lookup : String → Option String) (data : Value) :
    (default.withData data Section.all).override lookup = layered lookup data := by
  apply eq_of_value
  · funext field
    rw [value_override, overriding?_variableFields, layered, withData]
    dsimp only
    rw [if_pos field.part.mem_all]
    cases field.fromVariables? lookup <;> rfl
  · rw [unchecked_override]
    rfl

end Settings

open Settings (StoreFault Format)

namespace SettingsStore

/-- The data that a load of a store goes by: those of the file from which it loads, or none. -/
inductive Finds (store : SettingsStore) (workspace : Workspace) (path : Option String) :
    Value → Prop
  | nothing (hsource : store.source workspace path = .ok none) :
      Finds store workspace path (.mapping [])
  | data {file : Path} {format : Format} {text : String} {data : Value}
      (hsource : store.source workspace path = .ok (some file))
      (hformat : Format.ofPath? file = some format) (hread : workspace.read file = .ok text)
      (hdata : Settings.dataOf store.formats format text = .ok data) :
      Finds store workspace path data

section Loads

variable {store after : SettingsStore} {workspace : Workspace} {path : Option String} {data : Value}
  {settings : Settings}

/-- What a load reads depends on the data that it finds and on the variables. -/
theorem read_of_finds (h : store.Finds workspace path data) :
    store.read workspace path =
      match Settings.ofValue data with
      | .error fault => .error (.badStructure fault)
      | .ok settings => .ok (settings.override workspace.valueOf?) := by
  cases h with
  | nothing hsource =>
      rw [read, hsource]
      rfl
  | data hsource hformat hread hdata =>
      rw [read, hsource]
      simp only [Settings.ofFile, hformat, hread, hdata]
      cases Settings.ofValue data <;> rfl

/-- A load that finds data of the form of settings gives settings exactly if they are those of which
each field comes from the first of the layers that has a value for it, and they pass the check.
These are what the store holds from then on. -/
theorem load_layers (hfinds : store.Finds workspace path data) (hdata : Settings.IsData data) :
    store.load workspace path = (after, .ok settings) ↔
      settings = Settings.layered workspace.valueOf? data ∧ settings.check = .ok () ∧
        after = { store with settings := some settings } := by
  have hvalue := (Settings.ofValue_eq_ok_iff data).2 ⟨hdata, rfl⟩
  rw [load_eq_ok_iff, read_of_finds hfinds, hvalue]
  simp only [Settings.override_withData, Except.ok.injEq]
  rw [eq_comm]

end Loads

/-- Data with two fields of one section. -/
def gridData : Value :=
  Value.object [("grid", .object [("max_height", .int 7), ("max_width", .int 9)])]

theorem isData_gridData : Settings.IsData gridData := by
  refine ⟨⟨_, rfl⟩, ?_⟩
  intro part value hvalue
  cases part with
  | grid =>
      obtain rfl := Option.some.inj hvalue
      refine ⟨_, rfl, ?_⟩
      intro entry hentry
      rcases List.mem_cons.1 hentry with rfl | hentry
      · exact ⟨.maxHeight, rfl, rfl⟩
      · obtain rfl := List.mem_singleton.1 hentry
        exact ⟨.maxWidth, rfl, rfl⟩
  | _ => cases hvalue

theorem plain_gridData : Json.Plain gridData := by
  refine .singleton (.object (by decide) ?_)
  intro entry hentry
  rcases List.mem_cons.1 hentry with rfl | hentry
  · exact .int (Text.lt_leastLong_of_lt_ten (by decide))
  · obtain rfl := List.mem_singleton.1 hentry
    exact .int (Text.lt_leastLong_of_lt_ten (by decide))

/-- A store whose settings do not pass the check any more. -/
def spoiltStore : SettingsStore where
  directory := ⟨["config"]⟩
  settings := some ((Settings.default.set .timeout (.text "never")).overwriteCheck .grid)

/-- A workspace with a settings file and three variables, one of which is no number. -/
def layeredWorkspace (text : String) : Workspace where
  files := [(["config", "config.json"], .text text)]
  environment :=
    [("GRIDSYNTH_MAX_HEIGHT", " 1_2 "), ("GRIDSYNTH_MAX_WIDTH", "wide"),
      ("GRIDSYNTH_LOG_LEVEL", "debug")]

/-- The height comes from a variable, the width from the file because its variable is no number, the
log level from a variable, and the timeout is the default. -/
theorem load_layers_gridData :
    ∃ text after settings, spoiltStore.Finds (layeredWorkspace text) none gridData ∧
      Settings.IsData gridData ∧
      spoiltStore.load (layeredWorkspace text) = (after, .ok settings) ∧
      after.settings = some settings ∧ settings.value .maxHeight = .int 12 ∧
      settings.value .maxWidth = .int 9 ∧ settings.value .logLevel = .text "DEBUG" ∧
      settings.value .timeout = .int 30 := by
  obtain ⟨text, -, hjson, hreturn⟩ := Json.read_text plain_gridData
  have hlocate : (layeredWorkspace text).locate ⟨["config", "config.json"]⟩ =
      .ok ["config", "config.json"] := by
    with_unfolding_all rfl
  have hread := Workspace.read_of_fileAt? hlocate rfl hreturn
  have hfinds : spoiltStore.Finds (layeredWorkspace text) none gridData := by
    apply Finds.data _ (by decide +kernel : Format.ofPath? ⟨["config", "config.json"]⟩ = some .json)
      hread
    · rw [Settings.dataOf, hjson]
      rfl
    · with_unfolding_all rfl
  have hcheck : (Settings.layered (layeredWorkspace text).valueOf? gridData).check = .ok () := by
    with_unfolding_all rfl
  refine ⟨text, _, _, hfinds, isData_gridData,
    (load_layers hfinds isData_gridData).2 ⟨rfl, hcheck, rfl⟩, rfl, ?_, ?_, ?_, ?_⟩
  · with_unfolding_all rfl
  · with_unfolding_all rfl
  · with_unfolding_all rfl
  · with_unfolding_all rfl

end SettingsStore

end GridRules
