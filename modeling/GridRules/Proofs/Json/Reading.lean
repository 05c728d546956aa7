import GridRules.Json.Reading

/-!
# Readers by what they read

What a reader gives carries a proof that it read something. Here the readers are described without
these proofs: by the value that was read and the text behind it. The equations of this module say
how a reader goes on, and later proofs use nothing else of the readers.
-/

namespace GridRules.Json

/-- What was read, and what follows it. -/
def Taken.parts {α : Type} {text : List Char} (taken : Taken α text) : α × List Char :=
  (taken.value, taken.rest)

/-- The string at the front of a text, behind its opening quote and some characters. -/
def stringAt (earlier text : List Char) : Option (String × List Char) :=
  (readString earlier text).map Taken.parts

/-- The value at the front of a text. -/
def valueAt (text : List Char) : Except Fault (Value × List Char) :=
  (readValue text).map Taken.parts

/-- The list whose further items stand at the front of a text. -/
def itemsAt (earlier : List Value) (text : List Char) : Except Fault (Value × List Char) :=
  (readItems earlier text).map Taken.parts

/-- The object whose further entries stand at the front of a text. -/
def entriesAt (earlier : List (Value × Value)) (text : List Char) :
    Except Fault (Value × List Char) :=
  (readEntries earlier text).map Taken.parts

/-- What was read, with the text that it was read off put out of sight. -/
theorem exists_taken {α : Type} {text : List Char} {taken : Except Fault (Taken α text)} {value : α}
    {rest : List Char} (h : taken.map Taken.parts = .ok (value, rest)) :
    ∃ shorter, taken = .ok ⟨value, rest, shorter⟩ := by
  cases taken with
  | error fault => cases h
  | ok taken =>
      obtain ⟨value, rest, shorter⟩ := taken
      cases h
      exact ⟨shorter, rfl⟩

/-! ### Strings -/

section Strings

variable (earlier rest : List Char)

theorem stringAt_quote :
    stringAt earlier ('"' :: rest) = some (String.ofList earlier.reverse, rest) := by
  rw [stringAt, readString]
  rfl

theorem stringAt_plain {c : Char} (hquote : c ≠ '"') (hescape : c ≠ '\\') (h : 0x20 ≤ c.toNat) :
    stringAt earlier (c :: rest) = stringAt (c :: earlier) rest := by
  rw [stringAt, readString]
  · have hcontrol : ¬ c.toNat < 0x20 := by omega
    simp only [beq_iff_eq, hescape, Bool.or_eq_true, decide_eq_true_eq, hcontrol, or_self, if_false]
    rw [stringAt]
    cases readString (c :: earlier) rest <;> rfl
  all_goals simp_all

theorem stringAt_short {c escaped : Char} (hu : c ≠ 'u') (h : shortEscape? c = some escaped) :
    stringAt earlier ('\\' :: c :: rest) = stringAt (escaped :: earlier) rest := by
  rw [stringAt, readString]
  · simp only [h]
    rw [stringAt]
    cases readString (escaped :: earlier) rest <;> rfl
  all_goals simp_all

theorem stringAt_unit {a b c d : Char} {unit : Nat} (h : unitValue? a b c d = some unit)
    (hunit : isHighUnit unit = false) :
    stringAt earlier ('\\' :: 'u' :: a :: b :: c :: d :: rest) =
      stringAt (unitCharacter unit :: earlier) rest := by
  rw [stringAt, readString]
  simp only [h, hunit, Bool.false_eq_true, if_false]
  rw [stringAt]
  cases readString (unitCharacter unit :: earlier) rest <;> rfl

end Strings

/-! ### Values -/

section Values

variable (rest : List Char)

theorem valueAt_string :
    valueAt ('"' :: rest) =
      match stringAt [] rest with
      | none => .error .malformed
      | some (s, rest) => .ok (.text s, rest) := by
  rw [valueAt, readValue, stringAt]
  simp only [beq_self_eq_true, if_true]
  cases readString [] rest <;> rfl

theorem valueAt_emptyList {rest' : List Char} (h : skipSpace rest = ']' :: rest') :
    valueAt ('[' :: rest) = .ok (.list [], rest') := by
  rw [valueAt, readValue]
  simp only [Char.reduceBEq, Bool.false_eq_true, if_false, if_true]
  split
  · next hrest =>
      rw [h] at hrest
      cases hrest
      rfl
  · next hrest => exact absurd h (hrest _)

theorem valueAt_list (h : (skipSpace rest).head? ≠ some ']') :
    valueAt ('[' :: rest) = itemsAt [] (skipSpace rest) := by
  rw [valueAt, readValue]
  simp only [Char.reduceBEq, Bool.false_eq_true, if_false, if_true]
  split
  · next hrest =>
      rw [hrest] at h
      exact absurd rfl h
  · rw [itemsAt]
    cases readItems [] (skipSpace rest) <;> rfl

theorem valueAt_emptyObject {rest' : List Char} (h : skipSpace rest = '\x7d' :: rest') :
    valueAt ('\x7b' :: rest) = .ok (.mapping [], rest') := by
  rw [valueAt, readValue]
  simp only [Char.reduceBEq, Bool.false_eq_true, if_false, if_true]
  split
  · next hrest =>
      rw [h] at hrest
      cases hrest
      rfl
  · next hrest => exact absurd h (hrest _)

theorem valueAt_object (h : (skipSpace rest).head? ≠ some '\x7d') :
    valueAt ('\x7b' :: rest) = entriesAt [] (skipSpace rest) := by
  rw [valueAt, readValue]
  simp only [Char.reduceBEq, Bool.false_eq_true, if_false, if_true]
  split
  · next hrest =>
      rw [hrest] at h
      exact absurd rfl h
  · rw [entriesAt]
    cases readEntries [] (skipSpace rest) <;> rfl

theorem valueAt_scalar {text : List Char} {value : Value}
    (hopening : text.head? ≠ some '"' ∧ text.head? ≠ some '[' ∧ text.head? ≠ some '\x7b')
    (h : readScalar text = .ok (value, rest)) (hshorter : rest.length < text.length) :
    valueAt text = .ok (value, rest) := by
  cases text with
  | nil => cases hshorter
  | cons c text =>
      simp only [List.head?_cons, ne_eq, Option.some.injEq] at hopening
      obtain ⟨hstring, hlist, hobject⟩ := hopening
      rw [valueAt, readValue]
      simp only [beq_iff_eq, hstring, hlist, hobject, if_false, h, hshorter, dif_pos]
      rfl

end Values

/-! ### Items and entries -/

theorem itemsAt_item {earlier : List Value} {text rest : List Char} {item : Value}
    (h : valueAt text = .ok (item, rest)) :
    itemsAt earlier text =
      match skipSpace rest with
      | ']' :: rest => .ok (.list (item :: earlier).reverse, rest)
      | ',' :: rest => itemsAt (item :: earlier) (skipSpace rest)
      | _ => .error .malformed := by
  obtain ⟨shorter, hread⟩ := exists_taken h
  rw [itemsAt, readItems, hread]
  simp only
  split
  · next heq =>
      simp only [heq]
      rfl
  · next rest' heq =>
      simp only [heq]
      rw [itemsAt]
      cases readItems (item :: earlier) (skipSpace rest') <;> rfl
  · next hlast hnext =>
      split
      · next heq => exact absurd heq (hlast _)
      · next heq => exact absurd heq (hnext _)
      · rfl

theorem entriesAt_entry {earlier : List (Value × Value)} {inside behindKey text rest : List Char}
    {key : String} {value : Value} (hkey : stringAt [] inside = some (key, behindKey))
    (hcolon : skipSpace behindKey = ':' :: text)
    (hvalue : valueAt (skipSpace text) = .ok (value, rest)) :
    entriesAt earlier ('"' :: inside) =
      match skipSpace rest with
      | '\x7d' :: rest => .ok (.mapping (insertEntry earlier key value), rest)
      | ',' :: rest => entriesAt (insertEntry earlier key value) (skipSpace rest)
      | _ => .error .malformed := by
  obtain ⟨⟨k, r, hshorter⟩, hstring, hparts⟩ := Option.map_eq_some_iff.mp hkey
  obtain ⟨rfl, rfl⟩ : k = key ∧ r = behindKey := Prod.mk.inj hparts
  obtain ⟨shorter, hread⟩ := exists_taken hvalue
  rw [entriesAt, readEntries, hstring]
  simp only
  split
  · next heq =>
      rw [hcolon] at heq
      cases heq
      rw [hread]
      simp only
      split
      · next heq =>
          simp only [heq]
          rfl
      · next rest' heq =>
          simp only [heq]
          rw [entriesAt]
          cases readEntries (insertEntry earlier k value) (skipSpace rest') <;> rfl
      · next hlast hnext =>
          split
          · next heq => exact absurd heq (hlast _)
          · next heq => exact absurd heq (hnext _)
          · rfl
  · next hnone => exact absurd hcolon (hnone _)

theorem read_eq (text : String) :
    read text =
      match valueAt (skipSpace text.toList) with
      | .error fault => .error fault
      | .ok (value, rest) => if (skipSpace rest).isEmpty then .ok value else .error .malformed := by
  rw [read, valueAt]
  cases readValue (skipSpace text.toList) <;> rfl

end GridRules.Json
