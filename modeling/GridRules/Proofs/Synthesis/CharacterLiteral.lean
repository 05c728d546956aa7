import GridRules.Proofs.Program.ExprText
import GridRules.Proofs.Program.Reading
import GridRules.Synthesis.Listing

/-!
# Character literals

The literal of a character is one token whatever follows it. It is read as the character that it was
made from, and printed as this character.
-/

namespace GridRules

open Program

/-- The characters that are written with a backslash, with the letters behind it. -/
def escapes : List (Char × Char) :=
  [('\\', '\\'), ('\'', '\''), ('\n', 'n'), ('\t', 't')]

theorem characterLiteral_of_mem {c letter : Char} (h : (c, letter) ∈ escapes) :
    Synthesis.characterLiteral (String.singleton c) = String.ofList ['\'', '\\', letter, '\''] := by
  have hall : ∀ entry ∈ escapes, Synthesis.characterLiteral (String.singleton entry.1) =
      String.ofList ['\'', '\\', entry.2, '\''] := by
    decide +kernel
  exact hall (c, letter) h

theorem characterLiteral_of_notMem {c : Char} (h : c ∉ escapes.map Prod.fst) :
    Synthesis.characterLiteral (String.singleton c) = String.ofList ['\'', c, '\''] := by
  have hne {d : Char} (hd : d ∈ escapes.map Prod.fst) : String.singleton c ≠ String.singleton d :=
    fun heq => h (String.singleton_inj.1 heq ▸ hd)
  unfold Synthesis.characterLiteral
  split
  · next heq => exact absurd heq (hne (d := '\\') (by decide))
  · next heq => exact absurd heq (hne (d := '\'') (by decide))
  · next heq => exact absurd heq (hne (d := '\n') (by decide))
  · next heq => exact absurd heq (hne (d := '\t') (by decide))
  · rw [← String.toList_inj]
    simp

/-- The literal of a character is a token whatever follows it. -/
theorem piece?_characterLiteral (c : Char) :
    ∃ body, Synthesis.characterLiteral (String.singleton c) = String.ofList ('\'' :: body) ∧
      ∀ rest, piece? '\'' (body ++ rest) = some ⟨some .character, '\'' :: body, rest⟩ := by
  by_cases h : c ∈ escapes.map Prod.fst
  · obtain ⟨⟨_, letter⟩, hmem, rfl⟩ := List.mem_map.1 h
    exact ⟨_, characterLiteral_of_mem hmem, fun rest => rfl⟩
  · refine ⟨_, characterLiteral_of_notMem h, fun rest => ?_⟩
    have hplain : ¬ (c = '\\' ∨ c = '\'' ∨ c = '\n') := by
      rintro (rfl | rfl | rfl) <;> exact h (by decide)
    have hliteral : characterLiteral? ('\'' :: c :: '\'' :: rest) =
        some (['\'', c, '\''], rest) := by
      rw [characterLiteral?.eq_2, if_neg hplain]
      exact fun _ hc _ => hplain (.inl hc)
    rw [piece?, if_neg (by decide), if_neg (by decide), if_neg (by decide)]
    simp [remark?, hliteral]

theorem closed_characterLiteral (c : Char) :
    Closed (Synthesis.characterLiteral (String.singleton c)).toList
      [⟨.character, Synthesis.characterLiteral (String.singleton c)⟩] := by
  obtain ⟨body, hbody, hpiece⟩ := piece?_characterLiteral c
  rw [hbody, String.toList_ofList]
  exact closed_of_piece? hpiece

/-- The literal of a character is printed as the character. -/
theorem isGlyph_characterLiteral (c : Char) :
    IsGlyph [⟨.character, Synthesis.characterLiteral (String.singleton c)⟩] c := by
  by_cases h : c ∈ escapes.map Prod.fst
  · obtain ⟨⟨_, letter⟩, hmem, rfl⟩ := List.mem_map.1 h
    have hall : ∀ entry ∈ escapes, (entry.2, entry.1) ∈ letters := by decide
    exact .escaped (by rw [characterLiteral_of_mem hmem, String.toList_ofList]) (hall _ hmem)
  · refine .plain (by rw [characterLiteral_of_notMem h, String.toList_ofList]) ?_
    rintro rfl
    exact h (by decide)

/-- The literal of a character stands for the character. -/
theorem decodeLiteral_characterLiteral (c : Char) :
    decodeLiteral (Synthesis.characterLiteral (String.singleton c)) = .ok c := by
  by_cases h : c ∈ escapes.map Prod.fst
  · obtain ⟨⟨_, letter⟩, hmem, rfl⟩ := List.mem_map.1 h
    have hall : ∀ entry ∈ escapes, unescape? entry.2 = some entry.1 := by decide
    rw [characterLiteral_of_mem hmem, decodeLiteral, String.toList_ofList]
    simp only [hall _ hmem]
  · rw [characterLiteral_of_notMem h, decodeLiteral, String.toList_ofList]
    split
    · next heq => simp at heq
    · next heq =>
        obtain ⟨-, rfl, -⟩ : '\'' = _ ∧ c = _ ∧ '\'' = _ := by simpa using heq
        rfl
    · next hplain => exact absurd rfl (hplain '\'' c '\'')

/-- Before any text that has tokens the literal of a character is the first token, with the tokens
of the text behind it as far on as the literal is long. Of whatever character it is the literal, it
is read as this character. -/
theorem tokenize_characterLiteral_append (c : Char) {rest : String} {tokens : List Token}
    (h : tokenize rest = .ok tokens) :
    tokenize (Synthesis.characterLiteral (String.singleton c) ++ rest) =
      .ok (⟨.character, Synthesis.characterLiteral (String.singleton c), 0⟩ ::
        tokens.map (Token.shift (Synthesis.characterLiteral (String.singleton c)).length)) ∧
    decodeLiteral (Synthesis.characterLiteral (String.singleton c)) = .ok c := by
  refine ⟨?_, decodeLiteral_characterLiteral c⟩
  obtain ⟨body, hbody, hpiece⟩ := piece?_characterLiteral c
  rw [hbody]
  exact tokenize_append_of_piece? (hpiece rest.toList) h

/-- The literal of a quote before the literal of a line feed. -/
theorem tokenize_characterLiteral_append_quote :
    tokenize "'\\n'<<r" =
      .ok [⟨.character, "'\\n'", 0⟩, ⟨.operator, "<<", 4⟩, ⟨.name, "r", 6⟩] ∧
    tokenize "'\\'''\\n'<<r" =
      .ok [⟨.character, "'\\''", 0⟩, ⟨.character, "'\\n'", 4⟩, ⟨.operator, "<<", 8⟩,
        ⟨.name, "r", 10⟩] ∧
    decodeLiteral "'\\''" = .ok '\'' := by
  have hrest : tokenize "'\\n'<<r" =
      .ok [⟨.character, "'\\n'", 0⟩, ⟨.operator, "<<", 4⟩, ⟨.name, "r", 6⟩] := by
    cbv
  have hliteral : Synthesis.characterLiteral (String.singleton '\'') = "'\\''" := by
    decide +kernel
  obtain ⟨htokens, hdecode⟩ := tokenize_characterLiteral_append '\'' hrest
  rw [hliteral] at htokens hdecode
  exact ⟨hrest, htokens, hdecode⟩

end GridRules
