import GridRules.Json.Reading
import GridRules.Proofs.Text.Decimal
import GridRules.Value.Display
import Mathlib.Data.List.Induction
import Mathlib.Data.List.TakeWhile

/-!
# Numbers that are read

No value that is read from a JSON text holds a whole number with too many digits. So a value that
holds such a number is not read back from what was written of it.
-/

namespace GridRules.Json

open Value (haveLongNumber entriesHaveLongNumber)

/-! ### Values of parts -/

theorem haveLongNumber_eq_false_iff {items : List Value} :
    haveLongNumber items = false ↔ ∀ item ∈ items, item.hasLongNumber = false := by
  induction items with
  | nil => simp [haveLongNumber]
  | cons item items ih => simp [haveLongNumber, ih]

theorem entriesHaveLongNumber_eq_false_iff {entries : List (Value × Value)} :
    entriesHaveLongNumber entries = false ↔
      ∀ entry ∈ entries, entry.1.hasLongNumber = false ∧ entry.2.hasLongNumber = false := by
  induction entries with
  | nil => simp [entriesHaveLongNumber]
  | cons entry entries ih => simp [entriesHaveLongNumber, ih, and_assoc]

theorem hasLongNumber_of_mem {entries : List (String × Value)} {entry : String × Value}
    (h : (Value.object entries).hasLongNumber = false) (hentry : entry ∈ entries) :
    entry.2.hasLongNumber = false := by
  rw [Value.object, Value.hasLongNumber, entriesHaveLongNumber_eq_false_iff] at h
  exact (h _ (List.mem_map_of_mem hentry)).2

/-- A further entry without long numbers brings none into an object. -/
theorem entriesHaveLongNumber_insertEntry {entries : List (Value × Value)} (key : String)
    {value : Value} (hentries : entriesHaveLongNumber entries = false)
    (hvalue : value.hasLongNumber = false) :
    entriesHaveLongNumber (insertEntry entries key value) = false := by
  rw [entriesHaveLongNumber_eq_false_iff] at hentries ⊢
  intro entry hentry
  simp only [insertEntry] at hentry
  split at hentry
  · obtain ⟨earlier, hearlier, rfl⟩ := List.mem_map.1 hentry
    split
    · exact ⟨(hentries earlier hearlier).1, hvalue⟩
    · exact hentries earlier hearlier
  · rcases List.mem_append.1 hentry with hearlier | hlast
    · exact hentries entry hearlier
    · obtain rfl := List.mem_singleton.1 hlast
      exact ⟨by rw [Value.hasLongNumber], hvalue⟩

/-! ### Numbers -/

theorem digitsValue_lt {digits : List Char} (h : ∀ c ∈ digits, c.isDigit = true) :
    digitsValue digits < Nat.pow 10 digits.length := by
  induction digits using List.reverseRecOn with
  | nil => decide
  | append_singleton digits c ih =>
      have hlt := ih fun c hc => h c (List.mem_append_left _ hc)
      have hc := Text.toNat_of_isDigit (h c (by simp))
      have hzero : '0'.toNat = 48 := rfl
      simp only [digitsValue, List.foldl_append, List.foldl_cons, List.foldl_nil,
        List.length_append, List.length_cons, List.length_nil, Nat.pow_eq, Nat.pow_succ] at hlt ⊢
      omega

theorem hasLongNumber_numberOf {negative : Bool} {whole fraction : List Char} {power : Option Int}
    {value : Value} (hwhole : ∀ c ∈ whole, c.isDigit = true)
    (h : numberOf negative whole fraction power = .ok value) : value.hasLongNumber = false := by
  unfold numberOf at h
  split at h
  · split at h
    · cases h
    · next hlength =>
        have hlt :=
          Text.lt_leastLong_of_length_le (Nat.le_of_not_lt hlength) (digitsValue_lt hwhole)
        obtain rfl := Except.ok.inj h
        cases negative <;> simpa [Value.hasLongNumber] using hlt
  · obtain rfl := Except.ok.inj h
    rw [Value.hasLongNumber]


theorem hasLongNumber_of_map {negative : Bool} {whole fraction behind rest : List Char}
    {power : Option Int} {value : Value} (hwhole : ∀ c ∈ whole, c.isDigit = true)
    (h : (numberOf negative whole fraction power).map (·, behind) = .ok (value, rest)) :
    value.hasLongNumber = false := by
  cases hnumber : numberOf negative whole fraction power with
  | error fault =>
      rw [hnumber] at h
      cases h
  | ok found =>
      rw [hnumber] at h
      obtain ⟨rfl, -⟩ := Prod.mk.inj (Except.ok.inj h)
      exact hasLongNumber_numberOf hwhole hnumber

theorem hasLongNumber_readMagnitude {negative : Bool} {text rest : List Char} {value : Value}
    (h : readMagnitude negative text = .ok (value, rest)) : value.hasLongNumber = false := by
  unfold readMagnitude at h
  split at h
  next whole behind hwhole =>
    have hdigits : ∀ c ∈ whole, c.isDigit = true := by
      -- They are a single zero or all digits at the front of the text.
      split at hwhole <;> obtain ⟨rfl, -⟩ := Prod.mk.inj hwhole
      · exact List.forall_mem_singleton.2 rfl
      · exact fun c hc => List.mem_takeWhile_imp hc
    split at h
    · cases h
    · exact hasLongNumber_of_map hdigits h

theorem hasLongNumber_readScalar {text rest : List Char} {value : Value}
    (h : readScalar text = .ok (value, rest)) : value.hasLongNumber = false := by
  unfold readScalar at h
  split at h
  · next name found hfind =>
      obtain ⟨rfl, -⟩ := Prod.mk.inj (Except.ok.inj h)
      have hnamed : ∀ entry ∈ named, entry.2.hasLongNumber = false := by decide +kernel
      exact hnamed _ (List.mem_of_find?_eq_some hfind)
  · split at h <;> exact hasLongNumber_readMagnitude h

/-! ### Readers -/

/-- What was read, if anything was, holds no number with too many digits. -/
def GivesShort {text : List Char} (result : Except Fault (Taken Value text)) : Prop :=
  ∀ taken, result = .ok taken → taken.value.hasLongNumber = false

theorem givesShort_error {text : List Char} (fault : Fault) :
    GivesShort (.error fault : Except Fault (Taken Value text)) := by
  intro taken h
  cases h

theorem givesShort_ok {text : List Char} {taken : Taken Value text}
    (h : taken.value.hasLongNumber = false) : GivesShort (.ok taken) := by
  intro found hfound
  rwa [← Except.ok.inj hfound]

theorem GivesShort.map {text longer : List Char} {result : Except Fault (Taken Value text)}
    (h : GivesShort result) {f : Taken Value text → Taken Value longer}
    (hf : ∀ taken, (f taken).value = taken.value) : GivesShort (result.map f) := by
  intro taken htaken
  cases result with
  | error fault => cases htaken
  | ok found =>
      obtain rfl := Except.ok.inj htaken
      rw [hf]
      exact h found rfl

/-- The readers give no number with too many digits on the texts below a length. -/
structure ReadersGiveShort (length : Nat) : Prop where
  value : ∀ {text : List Char}, text.length < length → GivesShort (readValue text)
  items : ∀ {text : List Char} {earlier : List Value}, text.length < length →
    haveLongNumber earlier = false → GivesShort (readItems earlier text)
  entries : ∀ {text : List Char} {earlier : List (Value × Value)}, text.length < length →
    entriesHaveLongNumber earlier = false → GivesShort (readEntries earlier text)

section Readers

variable {text : List Char} (h : ReadersGiveShort text.length)

include h

theorem givesShort_readValue : GivesShort (readValue text) := by
  unfold readValue
  split
  · exact givesShort_error _
  · next c rest =>
      have hle := length_skipSpace_le rest
      have hlt : (skipSpace rest).length < (c :: rest).length := Nat.lt_succ_of_le hle
      split
      · split
        · exact givesShort_error _
        · exact givesShort_ok (by rw [Value.hasLongNumber])
      · split
        · dsimp only
          split
          · exact givesShort_ok rfl
          · exact (h.items hlt rfl).map fun _ => rfl
        · split
          · dsimp only
            split
            · exact givesShort_ok rfl
            · exact (h.entries hlt rfl).map fun _ => rfl
          · split
            · exact givesShort_error _
            · next value rest' hscalar =>
                split
                · exact givesShort_ok (hasLongNumber_readScalar hscalar)
                · exact givesShort_error _

theorem givesShort_readItems {earlier : List Value} (hearlier : haveLongNumber earlier = false) :
    GivesShort (readItems earlier text) := by
  unfold readItems
  split
  · exact givesShort_error _
  · next item hitem =>
      have hlong : haveLongNumber (item.value :: earlier) = false := by
        rw [haveLongNumber, givesShort_readValue h item hitem, hearlier]
        rfl
      have hrest := item.shorter
      have hle := length_skipSpace_le item.rest
      dsimp only
      split
      · apply givesShort_ok
        rw [Value.hasLongNumber, haveLongNumber_eq_false_iff]
        rw [haveLongNumber_eq_false_iff] at hlong
        intro part hpart
        exact hlong part (List.mem_reverse.1 hpart)
      · next rest hskip =>
          rw [hskip, List.length_cons] at hle
          have hnext := length_skipSpace_le rest
          exact (h.items (by omega) hlong).map fun _ => rfl
      · exact givesShort_error _

theorem givesShort_readEntries {earlier : List (Value × Value)}
    (hearlier : entriesHaveLongNumber earlier = false) :
    GivesShort (readEntries earlier text) := by
  unfold readEntries
  split
  · next inside =>
      split
      · exact givesShort_error _
      · next key hkey =>
          have hshorter := key.shorter
          have hle := length_skipSpace_le key.rest
          dsimp only
          split
          · next rest hskip =>
              have hbehind := length_skipSpace_le rest
              rw [hskip] at hle
              simp only [List.length_cons] at hle h
              split
              · exact givesShort_error _
              · next value hvalue =>
                  have hshort := h.value (by omega) value hvalue
                  have hlong := entriesHaveLongNumber_insertEntry key.value hearlier hshort
                  have hvalueShorter := value.shorter
                  have hvalueLe := length_skipSpace_le value.rest
                  split
                  · apply givesShort_ok
                    rw [Value.hasLongNumber]
                    exact hlong
                  · next rest' hskip' =>
                      have hnext := length_skipSpace_le rest'
                      rw [hskip', List.length_cons] at hvalueLe
                      exact (h.entries (by omega) hlong).map fun _ => rfl
                  · exact givesShort_error _
          · exact givesShort_error _
  · exact givesShort_error _

end Readers

theorem readersGiveShort (length : Nat) : ReadersGiveShort length := by
  induction length with
  | zero => exact ⟨(nomatch ·), (nomatch ·), (nomatch ·)⟩
  | succ length ih =>
      have hbelow {text : List Char} (hlt : text.length < length + 1) :
          ReadersGiveShort text.length :=
        ⟨fun h => ih.value (by omega), fun h => ih.items (by omega), fun h => ih.entries (by omega)⟩
      exact ⟨fun hlt => givesShort_readValue (hbelow hlt),
        fun hlt => givesShort_readItems (hbelow hlt),
        fun hlt => givesShort_readEntries (hbelow hlt)⟩

/-- No value that a text writes holds a whole number with too many digits. -/
theorem hasLongNumber_of_read {text : String} {value : Value} (h : read text = .ok value) :
    value.hasLongNumber = false := by
  unfold read at h
  split at h
  · cases h
  · next taken htaken =>
      split at h
      · obtain rfl := Except.ok.inj h
        exact givesShort_readValue (readersGiveShort _) taken htaken
      · cases h

end GridRules.Json
