import GridRules.Proofs.Outcome
import GridRules.Settings.Basic
import Mathlib.Logic.Basic

/-!
# Values of the declared kinds

Every field is declared to hold values of one kind. The check of settings whose values are of the
declared kinds either passes or ends in a complaint; only a value of another kind can make it fail
otherwise.
-/

namespace GridRules

/-- The kinds of values that fields are declared to hold. -/
inductive Kind where
  | text
  | number
  | truth
  | texts
deriving DecidableEq, Repr

/-- Whether a value is a text. -/
def Value.isText : Value → Bool
  | .text _ => true
  | _ => false

/-- Whether a value is of a kind. -/
def Kind.holds : Kind → Value → Bool
  | .text, .text _ => true
  | .number, .int _ => true
  | .truth, .bool _ => true
  | .texts, .list items => items.all Value.isText
  | _, _ => false

/-- The kind of a field. -/
def Field.kind : Field → Kind
  | .blankGlyph | .indent | .mode | .compiler | .logLevel => .text
  | .maxHeight | .maxWidth | .groupingThreshold | .wrapThreshold | .maxReported | .timeout =>
    .number
  | .debug => .truth
  | .compilerFlags => .texts

theorem kind_holds_default (field : Field) : field.kind.holds field.default = true := by
  cases field <;> rfl

namespace Settings

/-- Whether every value is of the kind that its field is declared to hold. -/
def IsTyped (settings : Settings) : Prop :=
  ∀ field : Field, field.kind.holds (settings.value field) = true

theorem isTyped_default : default.IsTyped :=
  kind_holds_default

section Typed

variable {settings : Settings}

theorem IsTyped.text (h : settings.IsTyped) (field : Field) (hkind : field.kind = .text) :
    ∃ s, settings.value field = .text s := by
  have hvalue := h field
  rw [hkind] at hvalue
  cases hv : settings.value field <;> simp_all [Kind.holds]

theorem IsTyped.number (h : settings.IsTyped) (field : Field) (hkind : field.kind = .number) :
    ∃ n, settings.value field = .int n := by
  have hvalue := h field
  rw [hkind] at hvalue
  cases hv : settings.value field <;> simp_all [Kind.holds]

theorem IsTyped.set (h : settings.IsTyped) {field : Field} {value : Value}
    (hvalue : field.kind.holds value = true) : (settings.set field value).IsTyped := by
  intro other
  rw [value_set]
  split
  · next heq => rw [heq, hvalue]
  · exact h other

end Typed

/-! ### The check -/

/-- Whether a check either passes or ends in a complaint. -/
def Decides (outcome : Except CheckFault Unit) : Prop :=
  outcome = .ok () ∨ ∃ complaint, outcome = .error (.complaint complaint)

theorem decides_ok : Decides (.ok ()) :=
  .inl rfl

theorem decides_bind {first : Except CheckFault Unit} {next : Unit → Except CheckFault Unit}
    (hfirst : Decides first) (hnext : Decides (next ())) : Decides (first >>= next) := by
  rcases hfirst with rfl | ⟨complaint, rfl⟩
  · exact hnext
  · exact .inr ⟨complaint, rfl⟩

/-- Whether a complaint is about no value that cannot be shown. -/
def Complaint.IsShowable : Complaint → Prop
  | .mode value | .logLevel value => value.hasLongNumber = false
  | _ => True

theorem ofComplaint_of_isShowable {complaint : Complaint} (h : complaint.IsShowable) :
    CheckFault.ofComplaint complaint = .complaint complaint := by
  cases complaint <;> simp_all [CheckFault.ofComplaint, Complaint.IsShowable]

theorem decides_demand (holds : Bool) {complaint : Complaint} (h : complaint.IsShowable) :
    Decides (demand (some holds) complaint) := by
  cases holds with
  | true => exact decides_ok
  | false => exact .inr ⟨complaint, congrArg Except.error (ofComplaint_of_isShowable h)⟩

theorem decides_checkSection {settings : Settings} (h : settings.IsTyped) (part : Section) :
    Decides (settings.checkSection part) := by
  cases part with
  | grid =>
      obtain ⟨glyph, hglyph⟩ := h.text .blankGlyph rfl
      obtain ⟨height, hheight⟩ := h.number .maxHeight rfl
      obtain ⟨width, hwidth⟩ := h.number .maxWidth rfl
      rw [checkSection, hglyph, hheight, hwidth]
      exact decides_bind (decides_demand _ trivial)
        (decides_bind (decides_demand _ trivial) (decides_demand _ trivial))
  | synthesis =>
      obtain ⟨grouping, hgrouping⟩ := h.number .groupingThreshold rfl
      obtain ⟨wrap, hwrap⟩ := h.number .wrapThreshold rfl
      obtain ⟨indent, hindent⟩ := h.text .indent rfl
      rw [checkSection, hgrouping, hwrap, hindent]
      exact decides_bind (decides_demand _ trivial)
        (decides_bind (decides_demand _ trivial) (decides_demand _ trivial))
  | verifier =>
      obtain ⟨most, hmost⟩ := h.number .maxReported rfl
      rw [checkSection, hmost]
      exact decides_demand _ trivial
  | execution =>
      obtain ⟨mode, hmode⟩ := h.text .mode rfl
      obtain ⟨timeout, htimeout⟩ := h.number .timeout rfl
      rw [checkSection, hmode, htimeout]
      exact decides_bind (decides_demand _ rfl)
        (decides_bind (decides_demand _ trivial) (decides_demand _ trivial))
  | system =>
      obtain ⟨level, hlevel⟩ := h.text .logLevel rfl
      rw [checkSection, hlevel]
      exact decides_demand _ rfl

theorem decides_checkSections {settings : Settings} (h : settings.IsTyped)
    (hchecked : settings.unchecked = []) (parts : List Section) :
    Decides (settings.checkSections parts) := by
  induction parts with
  | nil => exact decides_ok
  | cons part parts ih =>
      rw [checkSections, hchecked]
      exact decides_bind (decides_checkSection h part) ih

/-- Settings of the declared kinds pass the check, or the check ends in a complaint. -/
theorem decides_check {settings : Settings} (h : settings.IsTyped)
    (hchecked : settings.unchecked = []) : Decides settings.check :=
  decides_checkSections h hchecked Section.all

/-- A check that ends otherwise met a value that is not of the declared kind. -/
theorem exists_badKind {settings : Settings} {fault : CheckFault}
    (hcheck : settings.check = .error fault) (hchecked : settings.unchecked = [])
    (hfault : ∀ complaint, fault ≠ .complaint complaint) :
    ∃ field : Field, field.kind.holds (settings.value field) = false := by
  have hnot : ¬ settings.IsTyped := by
    intro htyped
    rcases decides_check htyped hchecked with hok | ⟨complaint, hcomplaint⟩
    · rw [hcheck] at hok
      cases hok
    · rw [hcheck] at hcomplaint
      cases hcomplaint
      exact hfault complaint rfl
  obtain ⟨field, hfield⟩ := not_forall.mp hnot
  exact ⟨field, Bool.eq_false_iff.mpr hfield⟩

/-! ### Settings that pass -/

theorem ok_of_bind {first : Except CheckFault Unit} {next : Unit → Except CheckFault Unit}
    (h : first >>= next = .ok ()) : first = .ok () ∧ next () = .ok () := by
  obtain ⟨_, hfirst, hnext⟩ := bind_eq_ok h
  exact ⟨hfirst, hnext⟩

theorem eq_true_of_demand {holds : Option Bool} {complaint : Complaint}
    (h : demand holds complaint = .ok ()) : holds = some true := by
  cases holds with
  | none => cases h
  | some passes =>
      cases passes with
      | false => cases h
      | true => rfl

theorem checkSections_eq_ok_iff {settings : Settings} {parts : List Section} :
    settings.checkSections parts = .ok () ↔
      ∀ part ∈ parts, part ∉ settings.unchecked ∧ settings.checkSection part = .ok () := by
  induction parts with
  | nil => exact ⟨fun _ part hpart => (nomatch hpart), fun _ => rfl⟩
  | cons part parts ih =>
      rw [checkSections, List.forall_mem_cons, ← ih]
      constructor
      · intro h
        split at h
        · cases h
        · next hpart =>
            obtain ⟨hfirst, hparts⟩ := ok_of_bind h
            exact ⟨⟨by simpa using hpart, hfirst⟩, hparts⟩
      · rintro ⟨⟨hpart, hfirst⟩, hparts⟩
        rw [if_neg (by simpa using hpart), hfirst]
        exact hparts

/-- Settings pass the check exactly if no section's check was overwritten and every section passes
its own. -/
theorem check_eq_ok_iff {settings : Settings} :
    settings.check = .ok () ↔
      settings.unchecked = [] ∧ ∀ part, settings.checkSection part = .ok () := by
  rw [check, checkSections_eq_ok_iff, List.eq_nil_iff_forall_not_mem, ← forall_and]
  exact ⟨fun h part => h part part.mem_all, fun h part _ => h part⟩

section Passed

variable {settings : Settings} (htyped : settings.IsTyped) (hcheck : settings.check = .ok ())

include htyped hcheck

/-- Settings of the declared kinds that pass name a blank character. -/
theorem exists_blank_of_check :
    ∃ blank, settings.value .blankGlyph = .text (String.singleton blank) := by
  obtain ⟨glyph, hglyph⟩ := htyped.text .blankGlyph rfl
  have hgrid := (check_eq_ok_iff.1 hcheck).2 .grid
  rw [checkSection, hglyph] at hgrid
  have hsize := eq_true_of_demand (ok_of_bind hgrid).1
  have hlength : glyph.toList.length = 1 := by
    rw [String.length_toList]
    simpa [size?] using hsize
  obtain ⟨blank, hblank⟩ := List.length_eq_one_iff.1 hlength
  obtain rfl : glyph = String.singleton blank :=
    String.toList_inj.1 (hblank.trans (String.toList_singleton blank).symm)
  exact ⟨blank, hglyph⟩

/-- Settings of the declared kinds that pass indent with blanks. -/
theorem exists_indent_of_check :
    ∃ step, settings.value .indent = .text step ∧ ∀ c ∈ step.toList, Text.isBlank c = true := by
  obtain ⟨step, hstep⟩ := htyped.text .indent rfl
  have hsynthesis := (check_eq_ok_iff.1 hcheck).2 .synthesis
  rw [checkSection, hstep] at hsynthesis
  have hindent := eq_true_of_demand (ok_of_bind (ok_of_bind hsynthesis).2).2
  exact ⟨step, hstep, List.all_eq_true.1 (Option.some.inj hindent)⟩

end Passed

end Settings

end GridRules
