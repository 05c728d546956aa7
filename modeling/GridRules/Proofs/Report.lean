import GridRules.Proofs.Difference
import GridRules.Proofs.Text.Decimal

/-!
# Reports on verdicts

A report is a text of lines, one for each difference that it shows. Differences between texts show
single characters, and every character has a display form on one line, so the lines of a report are
those that it is put together from. A display form tells its character, so that the line of a
difference tells the place and both characters. An output that is not accepted although it differs
at no place differs only in blanks at the ends, and the report says so exactly then.
-/

namespace GridRules.Verdict

theorem newline_notMem_glyphText (c : Char) : '\n' ∉ (glyphText (String.singleton c)).toList := by
  unfold glyphText
  split
  · decide
  · decide
  · decide
  · next hnewline =>
      have hc : '\n' ≠ c := fun hc => hnewline (hc ▸ rfl)
      simp [hc]

theorem newline_notMem_differenceLine (row col : Int) (e a : Char) :
    '\n' ∉ (differenceLine (.place row col e a)).toList := by
  simp only [differenceLine, Difference.place, String.toList_append, List.mem_append, not_or,
    Text.newline_notMem_toString, newline_notMem_glyphText]
  decide

/-! ### What the line of a difference tells -/

/-- The characters whose display forms are names. -/
def glyphNames : List (Char × String) :=
  [(' ', "(space)"), ('\t', "(tab)"), ('\n', "(newline)")]

theorem glyphText_of_mem {c : Char} {name : String} (h : (c, name) ∈ glyphNames) :
    glyphText (String.singleton c) = name := by
  have hall : ∀ entry ∈ glyphNames, glyphText (String.singleton entry.1) = entry.2 := by
    decide
  exact hall (c, name) h

theorem glyphText_of_notMem {c : Char} (h : c ∉ glyphNames.map Prod.fst) :
    (glyphText (String.singleton c)).toList = ['\'', c, '\''] := by
  have hne {d : Char} (hd : d ∈ glyphNames.map Prod.fst) :
      String.singleton c ≠ String.singleton d :=
    fun heq => h (String.singleton_inj.1 heq ▸ hd)
  unfold glyphText
  split
  · next heq => exact absurd heq (hne (d := ' ') (by decide))
  · next heq => exact absurd heq (hne (d := '\t') (by decide))
  · next heq => exact absurd heq (hne (d := '\n') (by decide))
  · simp

/-- Names begin with a bracket, all other display forms with a quote. -/
theorem head?_glyphText (c : Char) : (glyphText (String.singleton c)).toList.head? =
    some (if c ∈ glyphNames.map Prod.fst then '(' else '\'') := by
  by_cases hc : c ∈ glyphNames.map Prod.fst
  · obtain ⟨⟨_, name⟩, hname, rfl⟩ := List.mem_map.1 hc
    have hall : ∀ entry ∈ glyphNames, entry.2.toList.head? = some '(' := by decide
    rw [glyphText_of_mem hname, hall _ hname, if_pos hc]
  · rw [glyphText_of_notMem hc, if_neg hc]
    rfl

/-- No display form begins with another one. -/
theorem glyphText_front_inj {c d : Char}
    (h : (glyphText (String.singleton c)).toList <+: (glyphText (String.singleton d)).toList) :
    c = d := by
  have hhead : (glyphText (String.singleton c)).toList.head? =
      (glyphText (String.singleton d)).toList.head? := by
    obtain ⟨rest, hrest⟩ := h
    rw [← hrest, List.head?_append, head?_glyphText]
    rfl
  rw [head?_glyphText, head?_glyphText] at hhead
  by_cases hc : c ∈ glyphNames.map Prod.fst <;> by_cases hd : d ∈ glyphNames.map Prod.fst
  · obtain ⟨⟨_, name⟩, hname, rfl⟩ := List.mem_map.1 hc
    obtain ⟨⟨_, other⟩, hother, rfl⟩ := List.mem_map.1 hd
    have hnames : ∀ first ∈ glyphNames, ∀ second ∈ glyphNames,
        first.2.toList <+: second.2.toList → first.1 = second.1 := by
      decide
    rw [glyphText_of_mem hname, glyphText_of_mem hother] at h
    exact hnames _ hname _ hother h
  · simp [hc, hd] at hhead
  · simp [hc, hd] at hhead
  · rw [glyphText_of_notMem hc, glyphText_of_notMem hd] at h
    simpa using h

/-- A display form tells the character, whatever follows it. -/
theorem glyphText_append_inj {c d : Char} {rest others : List Char}
    (h : (glyphText (String.singleton c)).toList ++ rest =
      (glyphText (String.singleton d)).toList ++ others) : c = d ∧ rest = others := by
  have hcd : c = d := by
    rcases List.prefix_or_prefix_of_prefix (List.prefix_append _ rest)
      (h ▸ List.prefix_append _ others) with hfront | hfront
    · exact glyphText_front_inj hfront
    · exact (glyphText_front_inj hfront).symm
  subst hcd
  exact ⟨rfl, List.append_cancel_left h⟩

theorem toList_differenceLine (row col : Int) (e a : Char) :
    (differenceLine (.place row col e a)).toList =
      "  Row ".toList ++ ((toString row).toList ++ ',' :: (" Col ".toList ++
        ((toString col).toList ++ ':' :: (" expected ".toList ++
          ((glyphText (String.singleton e)).toList ++ (", got ".toList ++
            (glyphText (String.singleton a)).toList)))))) := by
  simp only [differenceLine, Difference.place, String.toList_append, List.append_assoc]
  rfl

/-- The line of a difference tells its place and both characters. -/
theorem differenceLine_inj {row col row' col' : Nat} {e a e' a' : Char}
    (h : differenceLine (.place row col e a) = differenceLine (.place row' col' e' a')) :
    Difference.place row col e a = .place row' col' e' a' := by
  have hcomma (n : Int) : ',' ∉ (toString n).toList :=
    Text.notMem_toString (by decide) (by decide) n
  have hcolon (n : Int) : ':' ∉ (toString n).toList :=
    Text.notMem_toString (by decide) (by decide) n
  have hnumber {n m : Nat} (h : (toString (n : Int)).toList = (toString (m : Int)).toList) :
      n = m := by
    rw [← Text.decimalValue_repr n, ← Text.decimalValue_repr m]
    exact congrArg Text.decimalValue h
  have hlists := congrArg String.toList h
  rw [toList_differenceLine, toList_differenceLine] at hlists
  obtain ⟨hrow, hlists⟩ := Text.append_separator_inj (hcomma row) (hcomma row')
    (List.append_cancel_left hlists)
  obtain ⟨hcol, hlists⟩ := Text.append_separator_inj (hcolon col) (hcolon col')
    (List.append_cancel_left hlists)
  obtain ⟨hexpected, hlists⟩ := glyphText_append_inj (List.append_cancel_left hlists)
  have hactual : a = a' := by
    apply glyphText_front_inj
    exact ⟨[], by rw [List.append_nil, List.append_cancel_left hlists]⟩
  rw [hnumber hrow, hnumber hcol, hexpected, hactual]

/-! ### The lines of a report -/

/-- The remark of a report on texts that differ at no place. -/
def blanksRemark : String := "  Texts differ only in trailing blanks or empty lines."

/-- The last line of a report that does not show all differences. -/
def moreLine (more : Int) : String := "  ... and " ++ toString more ++ " more differences"

/-- The lines of which a report is put together. -/
def reportLines (verdict : Verdict) (limit : Int) : List String :=
  if verdict.valid then ["✓ Output matches grid exactly."]
  else
    let more := verdict.differences.length - limit
    ["✗ Output does not match grid:", ""] ++
      if verdict.differences.isEmpty then [blanksRemark]
      else (takeLimit limit verdict.differences).map differenceLine
        ++ if 0 < more then [moreLine more] else []

section Lines

variable {verdict : Verdict} {limit : Int} {line : String}

theorem report_eq_intercalate (verdict : Verdict) (limit : Int) :
    verdict.report limit = "\n".intercalate (verdict.reportLines limit) := by
  unfold report reportLines
  split
  · rfl
  · rfl

theorem reportLines_ne_nil (verdict : Verdict) (limit : Int) : verdict.reportLines limit ≠ [] := by
  unfold reportLines
  split <;> simp

theorem mem_of_mem_takeLimit {α : Type} {items : List α} {item : α}
    (h : item ∈ takeLimit limit items) : item ∈ items := by
  unfold takeLimit at h
  split at h <;> exact List.mem_of_mem_take h

/-- The kinds of lines of a report on a verdict: those that are always the same, the remark that
there is no difference, the line of a difference, and the count of those that are not shown. -/
inductive IsReportLine (verdict : Verdict) : String → Prop
  | fixed {line : String}
      (h : line ∈ ["✓ Output matches grid exactly.", "✗ Output does not match grid:", ""]) :
      IsReportLine verdict line
  | remark (hvalid : verdict.valid = false) (hempty : verdict.differences = []) :
      IsReportLine verdict blanksRemark
  | shown {difference : Difference} (h : difference ∈ verdict.differences) :
      IsReportLine verdict (differenceLine difference)
  | more (count : Int) : IsReportLine verdict (moreLine count)

theorem isReportLine_of_mem (h : line ∈ verdict.reportLines limit) :
    verdict.IsReportLine line := by
  unfold reportLines at h
  split at h
  · obtain rfl := List.mem_singleton.1 h
    exact .fixed (by simp)
  · next hvalid =>
      rcases List.mem_append.1 h with h | h
      · exact .fixed (List.mem_cons_of_mem _ h)
      · split at h
        · next hempty =>
            obtain rfl := List.mem_singleton.1 h
            exact .remark (by simpa using hvalid) (by simpa using hempty)
        · rcases List.mem_append.1 h with h | h
          · obtain ⟨difference, hshown, rfl⟩ := List.mem_map.1 h
            exact .shown (mem_of_mem_takeLimit hshown)
          · split at h
            · obtain rfl := List.mem_singleton.1 h
              exact .more _
            · cases h

/-- The remark stands in a report exactly if the output is not accepted and there is no
difference. -/
theorem blanksRemark_mem_reportLines :
    blanksRemark ∈ verdict.reportLines limit ↔
      verdict.valid = false ∧ verdict.differences = [] := by
  constructor
  · intro h
    have hline := isReportLine_of_mem h
    generalize hremark : blanksRemark = line at hline
    -- The third character tells the remark from the lines that show numbers.
    have hthird : line.toList[2]? = some 'T' := hremark ▸ rfl
    cases hline with
    | fixed hfixed => exact absurd (hremark ▸ hfixed) (by decide)
    | remark hvalid hempty => exact ⟨hvalid, hempty⟩
    | shown h => exact absurd hthird (by simp [differenceLine])
    | more count => exact absurd hthird (by simp [moreLine])
  · rintro ⟨hvalid, hempty⟩
    simp [reportLines, hvalid, hempty]

/-- Whether all differences of a verdict show single characters. -/
def ShowsCharacters (verdict : Verdict) : Prop :=
  ∀ difference ∈ verdict.differences, ∃ row col e a, difference = .place row col e a

theorem newline_notMem_of_mem_reportLines (hverdict : verdict.ShowsCharacters)
    (h : line ∈ verdict.reportLines limit) : '\n' ∉ line.toList := by
  cases isReportLine_of_mem h with
  | fixed hfixed =>
      have hall : ∀ line ∈ ["✓ Output matches grid exactly.", "✗ Output does not match grid:", ""],
          '\n' ∉ line.toList := by
        decide
      exact hall line hfixed
  | remark => decide
  | shown hmem =>
      obtain ⟨row, col, e, a, rfl⟩ := hverdict _ hmem
      exact newline_notMem_differenceLine row col e a
  | more count =>
      simp only [moreLine, String.toList_append, List.mem_append, not_or,
        Text.newline_notMem_toString]
      decide

/-- The lines of a report are those of which it is put together. -/
theorem lines_report (hverdict : verdict.ShowsCharacters) (limit : Int) :
    Text.lines (verdict.report limit).toList =
      (verdict.reportLines limit).map String.toList := by
  rw [report_eq_intercalate]
  exact Text.lines_intercalate (reportLines_ne_nil verdict limit) fun _ =>
    newline_notMem_of_mem_reportLines hverdict

end Lines

/-! ### Outputs that differ at no place -/

/-- What is compared of an output: all of it but one line feed at its end. -/
def comparedText (output : String) : String :=
  String.ofList (Text.dropFinalNewline output.toList)

theorem ofTexts_of_ne {expected output : String} (h : expected ≠ comparedText output) :
    ofTexts expected output =
      { valid := false, differences := Difference.between expected (comparedText output) } :=
  if_neg h

theorem ofTexts_of_eq {expected output : String} (h : expected = comparedText output) :
    ofTexts expected output = { valid := true } :=
  if_pos h

theorem differences_ofTexts (expected output : String) :
    (ofTexts expected output).differences =
      Difference.between expected (comparedText output) := by
  by_cases h : expected = comparedText output
  · rw [ofTexts_of_eq h, eq_comm, Difference.between_eq_nil_iff, ← h]
  · rw [ofTexts_of_ne h]

theorem showsCharacters_ofTexts (expected output : String) :
    (ofTexts expected output).ShowsCharacters := by
  intro difference hmem
  rw [differences_ofTexts, Difference.mem_between_iff] at hmem
  obtain ⟨row, col, -, hplace⟩ := hmem
  exact ⟨_, _, _, _, hplace⟩

theorem blank_ofTexts_iff {expected output : String} :
    (ofTexts expected output).valid = false ∧ (ofTexts expected output).differences = [] ↔
      expected ≠ comparedText output ∧
        Text.withoutTrailingBlanks expected = Text.withoutTrailingBlanks (comparedText output) := by
  by_cases h : expected = comparedText output
  · rw [ofTexts_of_eq h]
    simp [h]
  · rw [ofTexts_of_ne h]
    simp [h, Difference.between_eq_nil_iff]

/-- The differences of an output from a text determine the output up to blanks at the ends. So an
output is not accepted and differs at no place exactly if it is another text that is equal to the
expected one up to blanks at the ends. A report has the line that says so in this case only. -/
theorem between_determines :
    (∀ expected a b : String, Difference.between expected a = Difference.between expected b ↔
      Text.withoutTrailingBlanks a = Text.withoutTrailingBlanks b) ∧
    ∀ (expected output : String) (limit : Int),
      ((ofTexts expected output).valid = false ∧ (ofTexts expected output).differences = [] ↔
        expected ≠ comparedText output ∧
          Text.withoutTrailingBlanks expected =
            Text.withoutTrailingBlanks (comparedText output)) ∧
      (blanksRemark.toList ∈ Text.lines ((ofTexts expected output).report limit).toList ↔
        (ofTexts expected output).valid = false ∧ (ofTexts expected output).differences = []) := by
  refine ⟨fun _ _ _ => Difference.between_eq_iff_withoutTrailingBlanks, ?_⟩
  intro expected output limit
  refine ⟨blank_ofTexts_iff, ?_⟩
  have hinjective : Function.Injective String.toList := fun _ _ => String.toList_injective
  rw [lines_report (showsCharacters_ofTexts expected output),
    List.mem_map_of_injective hinjective, blanksRemark_mem_reportLines]

/-! ### What a report accounts for -/

/-- No two differences of an output have the same line. -/
theorem differenceLine_inj_of_mem {expected output : String} {first second : Difference}
    (hfirst : first ∈ (ofTexts expected output).differences)
    (hsecond : second ∈ (ofTexts expected output).differences)
    (h : differenceLine first = differenceLine second) : first = second := by
  rw [differences_ofTexts, Difference.mem_between_iff] at hfirst hsecond
  obtain ⟨row, col, -, rfl⟩ := hfirst
  obtain ⟨row', col', -, rfl⟩ := hsecond
  exact differenceLine_inj h

theorem reportLines_of_differences {verdict : Verdict} (hinvalid : verdict.valid = false)
    (hdiffer : verdict.differences ≠ []) (limit : Nat) :
    verdict.reportLines limit = ["✗ Output does not match grid:", ""] ++
      ((verdict.differences.take limit).map differenceLine ++
        if limit < verdict.differences.length then
          [moreLine ((verdict.differences.length - limit : Nat) : Int)] else []) := by
  have htake : takeLimit (limit : Int) verdict.differences = verdict.differences.take limit := by
    simp [takeLimit]
  have hempty : verdict.differences.isEmpty = false := by simpa using hdiffer
  by_cases hmore : limit < verdict.differences.length
  · have hcount : (verdict.differences.length : Int) - limit =
        ((verdict.differences.length - limit : Nat) : Int) := by omega
    have hpos : 0 < ((verdict.differences.length - limit : Nat) : Int) := by omega
    simp only [reportLines, hinvalid, hempty, htake, hcount, if_pos hpos, if_pos hmore]
    rfl
  · have hcount : ¬ 0 < (verdict.differences.length : Int) - limit := by omega
    simp only [reportLines, hinvalid, hempty, htake, if_neg hcount, if_neg hmore]
    rfl

/-- The number of differences to be shown as a data value: a number, or nothing for the usual
one. -/
def limitValue (given : Option Nat) : Value :=
  given.elim .null fun limit => .int limit

/-- A report on an output that differs at some place accounts for every difference. Behind its two
first lines it has one line for each of the first differences, up to the given number, and then, if
these are not all, one line with the number of the others. The differences stand row by row, and no
two of them have the same line. -/
theorem report_accounts {expected output : String}
    (hinvalid : (ofTexts expected output).valid = false)
    (hdiffer : (ofTexts expected output).differences ≠ []) (given : Option Nat) :
    let differences := (ofTexts expected output).differences
    let limit := given.getD 10
    let lines := Text.lines ((ofTexts expected output).report limit).toList
    let line (difference : Difference) :=
      "  Row " ++ toString difference.row ++ ", Col " ++ toString difference.col ++ ": expected "
        ++ glyphText difference.expected ++ ", got " ++ glyphText difference.actual
    (ofTexts expected output).shownCount? (limitValue given) = some (limit : Int) ∧
    lines.length =
      2 + min differences.length limit + (if limit < differences.length then 1 else 0) ∧
    lines.drop 2 = ((differences.take limit).map line ++ if limit < differences.length then
      ["  ... and " ++ toString (differences.length - limit) ++ " more differences"]
      else []).map String.toList ∧
    differences.Pairwise Difference.Before ∧
    ∀ first ∈ differences, ∀ second ∈ differences, line first = line second → first = second := by
  intro differences limit lines line
  have hlines : lines = (["✗ Output does not match grid:", ""] ++
      (differences.take limit).map differenceLine ++
        if limit < differences.length then [moreLine ((differences.length - limit : Nat) : Int)]
        else []).map String.toList := by
    rw [List.append_assoc, ← reportLines_of_differences hinvalid hdiffer limit]
    exact lines_report (showsCharacters_ofTexts expected output) limit
  have hpairwise : differences.Pairwise Difference.Before := by
    rw [show differences = _ from differences_ofTexts expected output]
    exact Difference.pairwise_between _ _
  refine ⟨by cases given <;> rfl, ?_, ?_, hpairwise,
    fun first hfirst second hsecond => differenceLine_inj_of_mem hfirst hsecond⟩
  · rw [hlines]
    by_cases hmore : limit < differences.length
    · simp [hmore]
      omega
    · simp [hmore]
      omega
  · rw [hlines]
    rfl

/-- Two of three differences are shown, blanks by their names. -/
theorem report_accounts_two :
    (ofTexts "a b" "a\tc\nx\n").valid = false ∧
    (ofTexts "a b" "a\tc\nx\n").differences =
      [.place 0 1 ' ' '\t', .place 0 2 'b' 'c', .place 1 0 ' ' 'x'] ∧
    (Text.lines ((ofTexts "a b" "a\tc\nx\n").report 2).toList).length = 5 ∧
    (Text.lines ((ofTexts "a b" "a\tc\nx\n").report 2).toList).drop 2 =
      ["  Row 0, Col 1: expected (space), got (tab)", "  Row 0, Col 2: expected 'b', got 'c'",
        "  ... and 1 more differences"].map String.toList := by
  have hinvalid : (ofTexts "a b" "a\tc\nx\n").valid = false := by decide
  have hdifferences : (ofTexts "a b" "a\tc\nx\n").differences =
      [.place 0 1 ' ' '\t', .place 0 2 'b' 'c', .place 1 0 ' ' 'x'] := by
    cbv
  have hdiffer : (ofTexts "a b" "a\tc\nx\n").differences ≠ [] := by simp [hdifferences]
  obtain ⟨-, hlength, hshown, -⟩ := report_accounts hinvalid hdiffer (some 2)
  rw [hdifferences] at hlength hshown
  refine ⟨hinvalid, hdifferences, hlength, hshown.trans ?_⟩
  decide

end GridRules.Verdict
