import GridRules.Json.Writing
import GridRules.Proofs.Json.Reading
import GridRules.Proofs.Text.Decimal

/-!
# Reading back what was written

The plain values, those that JSON has itself but for numbers with a fraction, are written in full
and read back as they were, as long as no object has a key twice and no number has too many digits.
-/

namespace GridRules.Json

/-! ### Strings -/

theorem unitValue?_control :
    ∀ n < 0x20, unitValue? '0' '0' (Nat.digitChar (n / 16)) (Nat.digitChar (n % 16)) = some n := by
  decide

theorem stringAt_escapedCharacter (c : Char) (earlier rest : List Char) :
    stringAt earlier (escapedCharacter c ++ rest) = stringAt (c :: earlier) rest := by
  unfold escapedCharacter
  simp only [beq_iff_eq]
  split_ifs with hquote hescape hfeed hreturn htab hback hform hcontrol
  · subst hquote
    exact stringAt_short earlier rest (by decide) rfl
  · subst hescape
    exact stringAt_short earlier rest (by decide) rfl
  · subst hfeed
    exact stringAt_short earlier rest (by decide) rfl
  · subst hreturn
    exact stringAt_short earlier rest (by decide) rfl
  · subst htab
    exact stringAt_short earlier rest (by decide) rfl
  · subst hback
    exact stringAt_short earlier rest (by decide) rfl
  · subst hform
    exact stringAt_short earlier rest (by decide) rfl
  · have hunit : isHighUnit c.toNat = false := by
      simp only [isHighUnit, Bool.and_eq_false_iff, decide_eq_false_iff_not]
      omega
    have hcharacter : unitCharacter c.toNat = c := by
      rw [unitCharacter, if_neg (by omega), Char.ofNat_toNat]
    have hread := stringAt_unit earlier rest (unitValue?_control c.toNat hcontrol) hunit
    rw [hcharacter] at hread
    exact hread
  · exact stringAt_plain earlier rest hquote hescape (by omega)

theorem stringAt_escaped (characters earlier rest : List Char) :
    stringAt earlier (characters.flatMap escapedCharacter ++ '"' :: rest) =
      some (String.ofList (earlier.reverse ++ characters), rest) := by
  induction characters generalizing earlier with
  | nil => rw [List.flatMap_nil, List.nil_append, stringAt_quote, List.append_nil]
  | cons c characters ih =>
      rw [List.flatMap_cons, List.append_assoc, stringAt_escapedCharacter, ih, List.reverse_cons,
        List.append_assoc]
      rfl

theorem toList_stringText (s : String) :
    (stringText s).toList = '"' :: s.toList.flatMap escapedCharacter ++ ['"'] :=
  String.toList_ofList

theorem stringAt_stringText (s : String) (rest : List Char) :
    stringAt [] (s.toList.flatMap escapedCharacter ++ '"' :: rest) = some (s, rest) := by
  rw [stringAt_escaped, List.reverse_nil, List.nil_append, String.ofList_toList]

theorem notMem_escapedCharacter (c : Char) : '\r' ∉ escapedCharacter c := by
  have hdigits : ∀ n < 0x20, '\r' ≠ Nat.digitChar (n / 16) ∧ '\r' ≠ Nat.digitChar (n % 16) := by
    decide
  unfold escapedCharacter
  simp only [beq_iff_eq]
  split_ifs with hquote hescape hfeed hreturn htab hback hform hcontrol
  all_goals try decide
  · have hdigit := hdigits c.toNat hcontrol
    simp [hdigit.1, hdigit.2]
  · exact fun hmem => hreturn (List.mem_singleton.mp hmem).symm

theorem notMem_stringText (s : String) : '\r' ∉ (stringText s).toList := by
  rw [toList_stringText]
  simp [notMem_escapedCharacter]

/-! ### Numbers -/

/-- Whether a text does not go on with a number. -/
def EndsNumber (text : List Char) : Prop :=
  ∀ c, text.head? = some c → c = ',' ∨ c = '\n'

theorem digitsValue_repr (n : Nat) : digitsValue n.repr.toList = n := by
  rw [Nat.toList_repr]
  exact Nat.ofDigitChars_ten_toDigits

theorem head?_repr {n : Nat} (h : 0 < n) : n.repr.toList.head? ≠ some '0' := by
  rw [Nat.toList_repr]
  induction n using Nat.strongRecOn with
  | ind n ih =>
      rw [Nat.toDigits_eq_if (by decide)]
      split
      · next hlt =>
          have hdigit : ∀ n < 10, 0 < n → [Nat.digitChar n].head? ≠ some '0' := by decide
          exact hdigit n hlt h
      · next hge =>
          have hfirst := ih (n / 10) (by omega) (by omega)
          rw [List.head?_append_of_ne_nil _ Nat.toDigits_ne_nil]
          exact hfirst

theorem takeDigits_append {digits rest : List Char} (hdigits : ∀ c ∈ digits, c.isDigit = true)
    (hrest : EndsNumber rest) : takeDigits (digits ++ rest) = (digits, rest) := by
  have hnone : rest.takeWhile Char.isDigit = [] ∧ rest.dropWhile Char.isDigit = rest := by
    cases rest with
    | nil => exact ⟨rfl, rfl⟩
    | cons c rest => rcases hrest c rfl with rfl | rfl <;> exact ⟨rfl, rfl⟩
  rw [takeDigits, List.takeWhile_append_of_pos hdigits, List.dropWhile_append_of_pos hdigits,
    hnone.1, hnone.2, List.append_nil]

theorem takeFraction_of_endsNumber {rest : List Char} (h : EndsNumber rest) :
    takeFraction rest = ([], rest) := by
  cases rest with
  | nil => rfl
  | cons c rest => rcases h c rfl with rfl | rfl <;> rfl

theorem takePower_of_endsNumber {rest : List Char} (h : EndsNumber rest) :
    takePower rest = (none, rest) := by
  cases rest with
  | nil => rfl
  | cons c rest => rcases h c rfl with rfl | rfl <;> rfl

theorem numberOf_repr (negative : Bool) {n : Nat} (hn : n < Text.leastLong) :
    numberOf negative n.repr.toList [] none = .ok (.int (if negative then -n else n)) := by
  have hlength : ¬ Text.mostDigits < n.repr.toList.length := by
    rw [String.length_toList]
    exact Nat.not_lt.mpr (Text.length_repr_le_mostDigits.mpr hn)
  rw [numberOf, if_pos (by rfl), if_neg hlength, digitsValue_repr]

theorem readMagnitude_repr (negative : Bool) {n : Nat} (hn : n < Text.leastLong) {rest : List Char}
    (hrest : EndsNumber rest) :
    readMagnitude negative (n.repr.toList ++ rest) =
      .ok (.int (if negative then -n else n), rest) := by
  have hne : n.repr.toList ≠ [] := by
    rw [Nat.toList_repr]
    exact Nat.toDigits_ne_nil
  have hnumber := numberOf_repr negative hn
  -- A zero at the front is read alone, which is right for no number but zero itself.
  rcases Nat.eq_zero_or_pos n with rfl | hpos
  · have hzero : (Nat.repr 0).toList = ['0'] := by decide
    rw [hzero] at hnumber ⊢
    rw [List.singleton_append, readMagnitude]
    simp only [List.isEmpty_cons, takeFraction_of_endsNumber hrest, takePower_of_endsNumber hrest,
      hnumber]
    rfl
  · have hhead := head?_repr hpos
    rw [readMagnitude]
    · simp only [takeDigits_append (fun _ => Text.isDigit_of_mem_repr) hrest,
        List.isEmpty_eq_false_iff.mpr hne,
        takeFraction_of_endsNumber hrest, takePower_of_endsNumber hrest, hnumber]
      rfl
    · intro rest' htext
      rw [← List.head?_append_of_ne_nil _ hne, htext] at hhead
      exact absurd rfl hhead

/-! ### Values -/

/-- The entries of an object with some texts as keys. -/
def textEntries (entries : List (String × Value)) : List (Value × Value) :=
  entries.map fun entry => (.text entry.1, entry.2)

/-- The plain values. -/
inductive Plain : Value → Prop
  | null : Plain .null
  | bool (b : Bool) : Plain (.bool b)
  | int {n : Int} (h : n.natAbs < Text.leastLong) : Plain (.int n)
  | text (s : String) : Plain (.text s)
  | list {items : List Value} (h : ∀ item ∈ items, Plain item) : Plain (.list items)
  | object {entries : List (String × Value)} (hkeys : (entries.map Prod.fst).Nodup)
      (h : ∀ entry ∈ entries, Plain entry.2) : Plain (.mapping (textEntries entries))

/-- A text that writes a value at a nesting level, and from which the value is read back whatever
follows, unless that goes on with a number. -/
structure Renders (level : Nat) (value : Value) (text : List Char) : Prop where
  written : write level value = { text := String.ofList text }
  before : ∀ before, writeBefore before value = { text := before }
  opening : ∃ c, text.head? = some c ∧ isSpace c = false ∧ c ≠ ']'
  reads : ∀ rest, EndsNumber rest → valueAt (text ++ rest) = .ok (value, rest)
  noReturn : '\r' ∉ text

@[simp] theorem andThen_full (first : String) (rest : Written) :
    Written.andThen { text := first } rest = { text := first ++ rest.text, fault := rest.fault } :=
  rfl

theorem skipSpace_lineStart (level : Nat) (text : List Char) :
    skipSpace ((lineStart level).toList ++ text) = skipSpace text := by
  have hblank : ∀ c ∈ (lineStart level).toList, isSpace c = true := by
    intro c hc
    rw [lineStart, String.toList_ofList] at hc
    rcases List.mem_cons.mp hc with rfl | hc
    · rfl
    · rw [List.eq_of_mem_replicate hc]
      rfl
  exact List.dropWhile_append_of_pos hblank

theorem notMem_lineStart (level : Nat) : '\r' ∉ (lineStart level).toList := by
  rw [lineStart, String.toList_ofList]
  simp

theorem skipSpace_of_head? {text : List Char} {c : Char} (h : text.head? = some c)
    (hc : isSpace c = false) : skipSpace text = text := by
  cases text with
  | nil => rfl
  | cons first text =>
      cases h
      rw [skipSpace, List.dropWhile_cons, if_neg (by simp [hc])]

theorem Renders.head?_append {level : Nat} {value : Value} {text : List Char}
    (h : Renders level value text) (rest : List Char) : (text ++ rest).head? ≠ some ']' := by
  obtain ⟨c, hhead, -, hclosing⟩ := h.opening
  rw [List.head?_append, hhead]
  exact fun heq => hclosing (Option.some.inj heq)

theorem Renders.skipSpace_append {level : Nat} {value : Value} {text : List Char}
    (h : Renders level value text) (rest : List Char) :
    skipSpace (text ++ rest) = text ++ rest := by
  obtain ⟨c, hhead, hspace, -⟩ := h.opening
  apply skipSpace_of_head? _ hspace
  rw [List.head?_append, hhead]
  rfl

/-! ### Values without parts -/

theorem renders_text (level : Nat) (s : String) :
    Renders level (.text s) (stringText s).toList where
  written := by rw [String.ofList_toList]; rfl
  before _ := rfl
  opening := ⟨'"', by rw [toList_stringText]; rfl, rfl, by decide⟩
  reads := by
    intro rest _
    rw [toList_stringText, List.cons_append, List.cons_append, List.append_assoc, valueAt_string,
      List.singleton_append, stringAt_stringText]
  noReturn := notMem_stringText s

/-- A value that is read as a number or a name. -/
theorem renders_scalar {level : Nat} {value : Value} {c : Char} {text : List Char}
    (hwritten : write level value = { text := String.ofList (c :: text) })
    (hbefore : ∀ before, writeBefore before value = { text := before })
    (hspace : isSpace c = false) (hc : c ≠ ']' ∧ c ≠ '"' ∧ c ≠ '[' ∧ c ≠ '\x7b')
    (hread : ∀ rest, EndsNumber rest → readScalar (c :: text ++ rest) = .ok (value, rest))
    (hreturn : '\r' ∉ c :: text) : Renders level value (c :: text) where
  written := hwritten
  before := hbefore
  opening := ⟨c, rfl, hspace, hc.1⟩
  reads := by
    intro rest hrest
    apply valueAt_scalar rest _ (hread rest hrest)
    · simp only [List.length_append, List.length_cons]
      omega
    · simpa using hc.2
  noReturn := hreturn

theorem renders_null (level : Nat) : Renders level .null ['n', 'u', 'l', 'l'] :=
  renders_scalar rfl (fun _ => rfl) rfl (by decide) (fun _ _ => rfl) (by decide)

theorem renders_bool (level : Nat) (b : Bool) :
    Renders level (.bool b) (if b then "true" else "false").toList := by
  cases b with
  | true =>
      change Renders level (.bool true) ['t', 'r', 'u', 'e']
      exact renders_scalar rfl (fun _ => rfl) rfl (by decide) (fun _ _ => rfl) (by decide)
  | false =>
      change Renders level (.bool false) ['f', 'a', 'l', 's', 'e']
      exact renders_scalar rfl (fun _ => rfl) rfl (by decide) (fun _ _ => rfl) (by decide)

section Numbers

variable {c : Char} (hc : c.isDigit = true) (text : List Char)
include hc

theorem beq_eq_false_of_isDigit {d : Char} (hd : d.isDigit = false) : (d == c) = false := by
  rw [beq_eq_false_iff_ne]
  rintro rfl
  rw [hc] at hd
  cases hd

theorem readScalar_digit : readScalar (c :: text) = readMagnitude false (c :: text) := by
  have hne := @beq_eq_false_of_isDigit c hc
  have hname : named.find? (fun entry => entry.1.toList.isPrefixOf (c :: text)) = none := by
    simp [named, List.isPrefixOf, hne]
  unfold readScalar
  rw [hname]
  simp only
  split
  · next heq =>
      have hminus := hne (show '-'.isDigit = false from rfl)
      rw [(List.cons.inj heq).1, beq_self_eq_true] at hminus
      cases hminus
  · rfl

theorem readScalar_minus : readScalar ('-' :: c :: text) = readMagnitude true (c :: text) := by
  have hne := @beq_eq_false_of_isDigit c hc
  have hname : named.find? (fun entry => entry.1.toList.isPrefixOf ('-' :: c :: text)) = none := by
    simp [named, List.isPrefixOf, hne]
  unfold readScalar
  rw [hname]
  rfl

end Numbers

theorem exists_digit_repr (n : Nat) : ∃ c text, n.repr.toList = c :: text ∧ c.isDigit = true := by
  have hdigit := @Text.isDigit_of_mem_repr n
  cases htext : n.repr.toList with
  | nil =>
      rw [Nat.toList_repr] at htext
      exact absurd htext Nat.toDigits_ne_nil
  | cons c text =>
      rw [htext] at hdigit
      exact ⟨c, text, rfl, hdigit List.mem_cons_self⟩

theorem notMem_repr (n : Nat) : '\r' ∉ n.repr.toList := by
  intro hmem
  have hdigit := Text.isDigit_of_mem_repr hmem
  cases hdigit

theorem ne_of_isDigit {c : Char} (hc : c.isDigit = true) :
    isSpace c = false ∧ c ≠ ']' ∧ c ≠ '"' ∧ c ≠ '[' ∧ c ≠ '\x7b' := by
  have hne {d : Char} (hd : d.isDigit = false) : c ≠ d := by
    have hbeq := beq_eq_false_of_isDigit hc hd
    exact fun heq => (beq_eq_false_iff_ne.mp hbeq) heq.symm
  have hspace : isSpace c = false := by
    simp [isSpace, hne (show ' '.isDigit = false from rfl),
      hne (show '\t'.isDigit = false from rfl), hne (show '\n'.isDigit = false from rfl),
      hne (show '\r'.isDigit = false from rfl)]
  exact ⟨hspace, hne rfl, hne rfl, hne rfl, hne rfl⟩

theorem readScalar_repr {n : Nat} (hn : n < Text.leastLong) {rest : List Char}
    (hrest : EndsNumber rest) : readScalar (n.repr.toList ++ rest) = .ok (.int n, rest) := by
  have hread := readMagnitude_repr false hn hrest
  obtain ⟨c, digits, hdigits, hc⟩ := exists_digit_repr n
  rw [hdigits, List.cons_append] at hread ⊢
  rw [readScalar_digit hc]
  exact hread

theorem readScalar_minus_repr {n : Nat} (hn : n < Text.leastLong) {rest : List Char}
    (hrest : EndsNumber rest) :
    readScalar ('-' :: n.repr.toList ++ rest) = .ok (.int (-n), rest) := by
  have hread := readMagnitude_repr true hn hrest
  obtain ⟨c, digits, hdigits, hc⟩ := exists_digit_repr n
  rw [hdigits, List.cons_append] at hread
  rw [hdigits, List.cons_append, List.cons_append, readScalar_minus hc]
  exact hread

theorem write_int (level : Nat) {n : Int} (hn : n.natAbs < Text.leastLong) :
    write level (.int n) = { text := String.ofList (toString n).toList } := by
  rw [String.ofList_toList]
  simp only [write, writeScalar, if_pos hn]

theorem renders_int (level : Nat) {n : Int} (hn : n.natAbs < Text.leastLong) :
    Renders level (.int n) (toString n).toList := by
  have hwritten := write_int level hn
  have hbefore (before : String) : writeBefore before (.int n) = { text := before } := by
    rw [writeBefore, if_pos hn]
  cases n with
  | ofNat n =>
      have htext : (toString (Int.ofNat n)).toList = n.repr.toList := rfl
      obtain ⟨c, digits, hdigits, hc⟩ := exists_digit_repr n
      obtain ⟨hspace, hopening⟩ := ne_of_isDigit hc
      have hreturn := notMem_repr n
      have hread (rest : List Char) := @readScalar_repr n hn rest
      rw [hdigits] at htext hreturn hread
      rw [htext] at hwritten ⊢
      exact renders_scalar hwritten hbefore hspace hopening hread hreturn
  | negSucc n =>
      have htext : (toString (Int.negSucc n)).toList = '-' :: (n + 1).repr.toList := by
        change ("-" ++ (n + 1).repr).toList = _
        rw [String.toList_append]
        rfl
      rw [htext] at hwritten ⊢
      refine renders_scalar hwritten hbefore rfl (by decide) (fun _ => readScalar_minus_repr hn) ?_
      rw [List.mem_cons, not_or]
      exact ⟨by decide, notMem_repr (n + 1)⟩

/-! ### Lists -/

theorem written_ext {first second : Written} (htext : first.text.toList = second.text.toList)
    (hfault : first.fault = second.fault) : first = second := by
  cases first
  cases second
  simp_all [String.toList_inj]

theorem endsNumber_lineStart (level : Nat) (text : List Char) :
    EndsNumber ((lineStart level).toList ++ text) := by
  intro c hc
  rw [lineStart, String.toList_ofList, List.cons_append, List.head?_cons] at hc
  cases hc
  exact .inr rfl

/-- A text that writes the further items of a list, and with which the list is read to its end. -/
structure RendersItems (level : Nat) (items : List Value) (text : List Char) : Prop where
  written : writeItems level items = { text := String.ofList text }
  ends : ∀ outer rest, EndsNumber (text ++ ((lineStart outer).toList ++ ']' :: rest))
  reads : ∀ outer earlier front item rest,
    valueAt front = .ok (item, text ++ ((lineStart outer).toList ++ ']' :: rest)) →
    itemsAt earlier front = .ok (.list (earlier.reverse ++ item :: items), rest)
  noReturn : '\r' ∉ text

theorem rendersItems_nil (level : Nat) : RendersItems level [] [] where
  written := rfl
  ends outer rest := endsNumber_lineStart outer _
  reads := by
    intro outer earlier front item rest h
    rw [itemsAt_item h, List.nil_append, skipSpace_lineStart,
      skipSpace_of_head? (c := ']') rfl rfl]
    simp
  noReturn := List.not_mem_nil

theorem rendersItems_cons {level : Nat} {item : Value} {items : List Value} {text more : List Char}
    (hitem : Renders level item text) (hitems : RendersItems level items more) :
    RendersItems level (item :: items) (',' :: (lineStart level).toList ++ text ++ more) where
  written := by
    rw [writeItems, hitem.before, andThen_full, hitem.written, andThen_full, hitems.written]
    apply written_ext
    · simp [String.toList_append]
    · rfl
  ends outer rest := by
    intro c hc
    cases hc
    exact .inl rfl
  reads := by
    intro outer earlier front first rest h
    have hcomma : skipSpace (',' :: (lineStart level).toList ++ text ++ more ++
          ((lineStart outer).toList ++ ']' :: rest)) =
        ',' :: ((lineStart level).toList ++ (text ++ (more ++
          ((lineStart outer).toList ++ ']' :: rest)))) := by
      rw [List.cons_append, List.cons_append, List.cons_append, skipSpace_of_head? rfl rfl,
        List.append_assoc, List.append_assoc]
    have hnext := hitems.reads outer (first :: earlier) _ item rest
      (hitem.reads _ (hitems.ends outer rest))
    calc
      itemsAt earlier front =
          itemsAt (first :: earlier) (skipSpace ((lineStart level).toList ++ (text ++ (more ++
            ((lineStart outer).toList ++ ']' :: rest))))) := by
          simp only [itemsAt_item h, hcomma]
      _ = itemsAt (first :: earlier)
            (text ++ (more ++ ((lineStart outer).toList ++ ']' :: rest))) := by
          rw [skipSpace_lineStart, hitem.skipSpace_append]
      _ = .ok (.list (earlier.reverse ++ first :: item :: items), rest) := by
          rw [hnext, List.reverse_cons, List.append_assoc, List.singleton_append]
  noReturn := by
    simp [notMem_lineStart, hitem.noReturn, hitems.noReturn]

theorem exists_rendersItems {level : Nat} {items : List Value}
    (h : ∀ item ∈ items, ∃ text, Renders level item text) :
    ∃ text, RendersItems level items text := by
  induction items with
  | nil => exact ⟨[], rendersItems_nil level⟩
  | cons item items ih =>
      obtain ⟨text, htext⟩ := h item List.mem_cons_self
      obtain ⟨more, hmore⟩ := ih fun other hother => h other (List.mem_cons_of_mem _ hother)
      exact ⟨_, rendersItems_cons htext hmore⟩

theorem renders_nil (level : Nat) : Renders level (.list []) ['[', ']'] where
  written := rfl
  before _ := rfl
  opening := ⟨'[', rfl, rfl, by decide⟩
  reads rest _ := valueAt_emptyList (']' :: rest) rfl
  noReturn := by decide

theorem renders_cons {level : Nat} {item : Value} {items : List Value} {text more : List Char}
    (hitem : Renders (level + 1) item text) (hitems : RendersItems (level + 1) items more) :
    Renders level (.list (item :: items))
      ('[' :: (lineStart (level + 1)).toList ++ text ++ more ++ (lineStart level).toList ++
        [']']) where
  written := by
    rw [write, hitem.before, andThen_full, hitem.written, andThen_full, hitems.written,
      andThen_full]
    apply written_ext
    · simp [String.toList_append]
    · rfl
  before _ := rfl
  opening := ⟨'[', rfl, rfl, by decide⟩
  reads := by
    intro rest _
    have hinside : skipSpace ((lineStart (level + 1)).toList ++ (text ++ (more ++
          ((lineStart level).toList ++ ']' :: rest)))) =
        text ++ (more ++ ((lineStart level).toList ++ ']' :: rest)) := by
      rw [skipSpace_lineStart, hitem.skipSpace_append]
    calc
      valueAt ('[' :: (lineStart (level + 1)).toList ++ text ++ more ++ (lineStart level).toList ++
            [']'] ++ rest) =
          valueAt ('[' :: ((lineStart (level + 1)).toList ++ (text ++ (more ++
            ((lineStart level).toList ++ ']' :: rest))))) := by
          simp only [List.cons_append, List.append_assoc, List.nil_append]
      _ = itemsAt [] (text ++ (more ++ ((lineStart level).toList ++ ']' :: rest))) := by
          rw [valueAt_list, hinside]
          rw [hinside]
          exact hitem.head?_append _
      _ = .ok (.list (item :: items), rest) :=
          hitems.reads level [] _ item rest (hitem.reads _ (hitems.ends level rest))
  noReturn := by
    simp [notMem_lineStart, hitem.noReturn, hitems.noReturn]

/-! ### Objects -/

theorem insertEntry_textEntries {entries : List (String × Value)} {key : String}
    (h : key ∉ entries.map Prod.fst) (value : Value) :
    insertEntry (textEntries entries) key value = textEntries (entries ++ [(key, value)]) := by
  rw [insertEntry, if_neg]
  · simp [textEntries]
  · rw [Bool.not_eq_true, List.any_eq_false]
    intro entry hentry
    obtain ⟨pair, hpair, rfl⟩ := List.mem_map.mp hentry
    simp only [beq_iff_eq]
    rintro rfl
    exact h (List.mem_map_of_mem hpair)

/-- An entry as it is written behind what separates it from others. -/
def entryText (key : String) (text : List Char) : List Char :=
  (stringText key).toList ++ ':' :: ' ' :: text

/-- Whether a text begins with an entry. -/
def EntryAt (text : List Char) (key : String) (value : Value) (rest : List Char) : Prop :=
  ∃ inside behindKey front, text = '"' :: inside ∧ stringAt [] inside = some (key, behindKey) ∧
    skipSpace behindKey = ':' :: front ∧ valueAt (skipSpace front) = .ok (value, rest)

theorem entriesAt_of_entryAt {earlier : List (Value × Value)} {text rest : List Char} {key : String}
    {value : Value} (h : EntryAt text key value rest) :
    entriesAt earlier text =
      match skipSpace rest with
      | '\x7d' :: rest => .ok (.mapping (insertEntry earlier key value), rest)
      | ',' :: rest => entriesAt (insertEntry earlier key value) (skipSpace rest)
      | _ => .error .malformed := by
  obtain ⟨inside, behindKey, front, rfl, hkey, hcolon, hvalue⟩ := h
  exact entriesAt_entry hkey hcolon hvalue

theorem entryAt_entryText (key : String) {level : Nat} {value : Value} {text rest : List Char}
    (h : Renders level value text) (hrest : EndsNumber rest) :
    EntryAt (entryText key text ++ rest) key value rest := by
  refine ⟨key.toList.flatMap escapedCharacter ++ '"' :: ':' :: ' ' :: (text ++ rest),
    ':' :: ' ' :: (text ++ rest), ' ' :: (text ++ rest), ?_, stringAt_stringText key _, rfl, ?_⟩
  · rw [entryText, toList_stringText]
    simp only [List.cons_append, List.append_assoc, List.nil_append]
  · change valueAt (skipSpace (text ++ rest)) = _
    rw [h.skipSpace_append]
    exact h.reads rest hrest

theorem skipSpace_entryText (key : String) (text rest : List Char) :
    skipSpace (entryText key text ++ rest) = entryText key text ++ rest := by
  apply skipSpace_of_head? (c := '"')
  · rw [entryText, toList_stringText]
    rfl
  · rfl

/-- A text that writes the further entries of an object, and with which the object is read to its
end. -/
structure RendersEntries (level : Nat) (entries : List (String × Value)) (text : List Char) :
    Prop where
  written : writeEntries level (textEntries entries) = { text := String.ofList text }
  ends : ∀ outer rest, EndsNumber (text ++ ((lineStart outer).toList ++ '\x7d' :: rest))
  reads : ∀ outer earlier front key value rest,
    EntryAt front key value (text ++ ((lineStart outer).toList ++ '\x7d' :: rest)) →
    ((earlier ++ (key, value) :: entries).map Prod.fst).Nodup →
    entriesAt (textEntries earlier) front =
      .ok (.mapping (textEntries (earlier ++ (key, value) :: entries)), rest)
  noReturn : '\r' ∉ text

theorem notMem_of_nodup {earlier entries : List (String × Value)} {key : String} {value : Value}
    (h : ((earlier ++ (key, value) :: entries).map Prod.fst).Nodup) :
    key ∉ earlier.map Prod.fst := by
  rw [List.map_append, List.map_cons, List.nodup_append] at h
  exact fun hmem => h.2.2 key hmem key List.mem_cons_self rfl

theorem rendersEntries_nil (level : Nat) : RendersEntries level [] [] where
  written := rfl
  ends outer rest := endsNumber_lineStart outer _
  reads := by
    intro outer earlier front key value rest h hkeys
    have hclosing : skipSpace ('\x7d' :: rest) = '\x7d' :: rest := skipSpace_of_head? rfl rfl
    simp only [entriesAt_of_entryAt h, List.nil_append, skipSpace_lineStart, hclosing,
      insertEntry_textEntries (notMem_of_nodup hkeys)]
  noReturn := List.not_mem_nil

theorem rendersEntries_cons {level : Nat} {key : String} {value : Value}
    {entries : List (String × Value)} {text more : List Char} (hvalue : Renders level value text)
    (hentries : RendersEntries level entries more) :
    RendersEntries level ((key, value) :: entries)
      (',' :: (lineStart level).toList ++ entryText key text ++ more) where
  written := by
    rw [textEntries, List.map_cons, writeEntries, writeKey, andThen_full, hvalue.written,
      andThen_full]
    change Written.mk (_ ++ (writeEntries level (textEntries entries)).text)
      (writeEntries level (textEntries entries)).fault = _
    rw [hentries.written]
    apply written_ext
    · simp [String.toList_append, keyText, entryText]
    · rfl
  ends outer rest := by
    intro c hc
    cases hc
    exact .inl rfl
  reads := by
    intro outer earlier front first firstValue rest h hkeys
    have hcomma : skipSpace (',' :: (lineStart level).toList ++ entryText key text ++ more ++
          ((lineStart outer).toList ++ '\x7d' :: rest)) =
        ',' :: ((lineStart level).toList ++ (entryText key text ++ (more ++
          ((lineStart outer).toList ++ '\x7d' :: rest)))) := by
      rw [List.cons_append, List.cons_append, List.cons_append, skipSpace_of_head? rfl rfl,
        List.append_assoc, List.append_assoc]
    have hnext := hentries.reads outer (earlier ++ [(first, firstValue)]) _ key value rest
      (entryAt_entryText key hvalue (hentries.ends outer rest))
      (by rw [List.append_assoc]; exact hkeys)
    calc
      entriesAt (textEntries earlier) front =
          entriesAt (textEntries (earlier ++ [(first, firstValue)]))
            (skipSpace ((lineStart level).toList ++ (entryText key text ++ (more ++
              ((lineStart outer).toList ++ '\x7d' :: rest))))) := by
          simp only [entriesAt_of_entryAt h, hcomma,
            insertEntry_textEntries (notMem_of_nodup hkeys)]
      _ = entriesAt (textEntries (earlier ++ [(first, firstValue)]))
            (entryText key text ++ (more ++ ((lineStart outer).toList ++ '\x7d' :: rest))) := by
          rw [skipSpace_lineStart, skipSpace_entryText]
      _ = .ok (.mapping (textEntries (earlier ++ (first, firstValue) :: (key, value) :: entries)),
            rest) := by
          rw [hnext, List.append_assoc, List.singleton_append]
  noReturn := by
    simp [notMem_lineStart, hvalue.noReturn, hentries.noReturn, entryText, notMem_stringText]

theorem exists_rendersEntries {level : Nat} {entries : List (String × Value)}
    (h : ∀ entry ∈ entries, ∃ text, Renders level entry.2 text) :
    ∃ text, RendersEntries level entries text := by
  induction entries with
  | nil => exact ⟨[], rendersEntries_nil level⟩
  | cons entry entries ih =>
      obtain ⟨text, htext⟩ := h entry List.mem_cons_self
      obtain ⟨more, hmore⟩ := ih fun other hother => h other (List.mem_cons_of_mem _ hother)
      exact ⟨_, rendersEntries_cons htext hmore⟩

theorem renders_emptyObject (level : Nat) :
    Renders level (.mapping (textEntries [])) ['\x7b', '\x7d'] where
  written := rfl
  before _ := rfl
  opening := ⟨'\x7b', rfl, rfl, by decide⟩
  reads rest _ := valueAt_emptyObject ('\x7d' :: rest) rfl
  noReturn := by decide

theorem renders_object {level : Nat} {key : String} {value : Value}
    {entries : List (String × Value)} {text more : List Char}
    (hkeys : (((key, value) :: entries).map Prod.fst).Nodup)
    (hvalue : Renders (level + 1) value text) (hentries : RendersEntries (level + 1) entries more) :
    Renders level (.mapping (textEntries ((key, value) :: entries)))
      ('\x7b' :: (lineStart (level + 1)).toList ++ entryText key text ++ more ++
        (lineStart level).toList ++ ['\x7d']) where
  written := by
    rw [textEntries, List.map_cons, write, writeKey, andThen_full, andThen_full, hvalue.written,
      andThen_full]
    change Written.mk (_ ++ (_ ++ (Written.andThen (writeEntries (level + 1) (textEntries entries))
      _).text)) (Written.andThen (writeEntries (level + 1) (textEntries entries)) _).fault = _
    rw [hentries.written, andThen_full]
    apply written_ext
    · simp [String.toList_append, keyText, entryText]
    · rfl
  before _ := rfl
  opening := ⟨'\x7b', rfl, rfl, by decide⟩
  reads := by
    intro rest _
    have hinside : skipSpace ((lineStart (level + 1)).toList ++ (entryText key text ++ (more ++
          ((lineStart level).toList ++ '\x7d' :: rest)))) =
        entryText key text ++ (more ++ ((lineStart level).toList ++ '\x7d' :: rest)) := by
      rw [skipSpace_lineStart, skipSpace_entryText]
    calc
      valueAt ('\x7b' :: (lineStart (level + 1)).toList ++ entryText key text ++ more ++
            (lineStart level).toList ++ ['\x7d'] ++ rest) =
          valueAt ('\x7b' :: ((lineStart (level + 1)).toList ++ (entryText key text ++ (more ++
            ((lineStart level).toList ++ '\x7d' :: rest))))) := by
          simp only [List.cons_append, List.append_assoc, List.nil_append]
      _ = entriesAt [] (entryText key text ++ (more ++
            ((lineStart level).toList ++ '\x7d' :: rest))) := by
          rw [valueAt_object, hinside]
          rw [hinside, entryText, toList_stringText]
          exact (by decide : some '"' ≠ some '\x7d')
      _ = .ok (.mapping (textEntries ((key, value) :: entries)), rest) :=
          hentries.reads level [] _ key value rest
            (entryAt_entryText key hvalue (hentries.ends level rest)) hkeys
  noReturn := by
    simp [notMem_lineStart, hvalue.noReturn, hentries.noReturn, entryText, notMem_stringText]

/-! ### Plain values -/

/-- Data of one entry are as plain as its value. -/
theorem Plain.singleton {key : String} {value : Value} (h : Plain value) :
    Plain (.object [(key, value)]) :=
  .object (List.pairwise_singleton _ key) (List.forall_mem_singleton.2 h)

theorem exists_renders {value : Value} (h : Plain value) (level : Nat) :
    ∃ text, Renders level value text := by
  induction h generalizing level with
  | null => exact ⟨_, renders_null level⟩
  | bool b => exact ⟨_, renders_bool level b⟩
  | int h => exact ⟨_, renders_int level h⟩
  | text s => exact ⟨_, renders_text level s⟩
  | @list items h ih =>
      cases items with
      | nil => exact ⟨_, renders_nil level⟩
      | cons item items =>
          obtain ⟨text, htext⟩ := ih item List.mem_cons_self (level + 1)
          obtain ⟨more, hmore⟩ := exists_rendersItems fun other hother =>
            ih other (List.mem_cons_of_mem _ hother) (level + 1)
          exact ⟨_, renders_cons htext hmore⟩
  | @object entries hkeys h ih =>
      cases entries with
      | nil => exact ⟨_, renders_emptyObject level⟩
      | cons entry entries =>
          obtain ⟨text, htext⟩ := ih entry List.mem_cons_self (level + 1)
          obtain ⟨more, hmore⟩ := exists_rendersEntries fun other hother =>
            ih other (List.mem_cons_of_mem _ hother) (level + 1)
          exact ⟨_, renders_object hkeys htext hmore⟩

/-- A plain value is written in full, without carriage returns, and read back as it was. -/
theorem read_text {value : Value} (h : Plain value) :
    ∃ s, text value = { text := s } ∧ read s = .ok value ∧ '\r' ∉ s.toList := by
  obtain ⟨characters, hrenders⟩ := exists_renders h 0
  have hspace := hrenders.skipSpace_append []
  have hread := hrenders.reads [] (fun c hc => nomatch hc)
  rw [List.append_nil] at hspace hread
  refine ⟨String.ofList characters, hrenders.written, ?_, ?_⟩
  · rw [read_eq, String.toList_ofList, hspace, hread]
    rfl
  · rw [String.toList_ofList]
    exact hrenders.noReturn

/-! ### Values that are written in full -/

theorem fault_andThen {first rest : Written} :
    (first.andThen rest).fault = none ↔ first.fault = none ∧ rest.fault = none := by
  rw [Written.andThen]
  cases h : first.fault <;> simp [h]

theorem fault_of_mem_writeEntries {level : Nat} {entries : List (Value × Value)}
    (h : (writeEntries level entries).fault = none) {entry : Value × Value}
    (hentry : entry ∈ entries) : (write level entry.2).fault = none := by
  induction entries with
  | nil => cases hentry
  | cons first entries ih =>
      obtain ⟨key, value⟩ := first
      rw [writeEntries, fault_andThen, fault_andThen] at h
      rcases List.mem_cons.mp hentry with rfl | hmem
      · exact h.1.2
      · exact ih h.2 hmem

/-- An object that is written in full has all its values written in full. -/
theorem fault_of_mem {level : Nat} {entries : List (Value × Value)}
    (h : (write level (.mapping entries)).fault = none) {entry : Value × Value}
    (hentry : entry ∈ entries) : (write (level + 1) entry.2).fault = none := by
  cases entries with
  | nil => cases hentry
  | cons first entries =>
      obtain ⟨key, value⟩ := first
      rw [write, fault_andThen, fault_andThen, fault_andThen, fault_andThen] at h
      rcases List.mem_cons.mp hentry with rfl | hmem
      · exact h.2.1.2
      · exact fault_of_mem_writeEntries h.2.2.1 hmem

theorem natAbs_lt_of_fault {level : Nat} {n : Int} (h : (write level (.int n)).fault = none) :
    n.natAbs < Text.leastLong := by
  by_contra hlong
  simp only [write, writeScalar, if_neg hlong] at h
  cases h

end GridRules.Json
