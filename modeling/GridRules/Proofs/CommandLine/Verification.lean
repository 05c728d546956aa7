import GridRules.CommandLine.Session
import GridRules.Proofs.Pattern
import GridRules.Proofs.Settings.Loading
import GridRules.Proofs.Study
import GridRules.Proofs.Verdict

/-!
# The exit status of a comparison

The status of a session that compares an output with a pattern is told by the two files, the blank
character and the bounds of the settings alone.
-/

namespace GridRules.CommandLine

/-! ### Arguments -/

/-- A text that does not begin with a dash is no option. -/
theorem role?_operand (names : Names) {text : String} (h : text.toList.head? ≠ some '-') :
    role? names text = some (.operand text) := by
  rw [role?]
  simp [h]

theorem items?_cons {names : Names} {argument : String} {rest : List String} {item : Item}
    {items : List Item} (hdivider : argument ≠ "--") (hitem : role? names argument = some item)
    (hrest : items? names rest = some items) :
    items? names (argument :: rest) = some (item :: items) := by
  rw [items?, hitem, hrest]
  · rfl
  · exact hdivider

theorem readItems_operand {names : Names} {found : Found} {text value : String}
    {rest left : List Item} (hoperand : found.operand = none)
    (htake : takeOperand? (.operand text :: rest) = some (value, left)) :
    readItems names found (.operand text :: rest) =
      readItems names { found with operand := some value } left := by
  rw [readItems.eq_def]
  dsimp only
  split
  · next h =>
      rw [hoperand, Option.isSome_none, if_neg Bool.false_ne_true, htake] at h
      cases h
      rfl
  · next h =>
      rw [hoperand, Option.isSome_none, if_neg Bool.false_ne_true, htake] at h
      cases h

theorem readItems_option {names : Names} {found after : Found} {mention : Mention}
    {rest left : List Item} (htake : takeOption names mention found rest = .ok (after, left)) :
    readItems names found (.option mention :: rest) = readItems names after left := by
  rw [readItems.eq_def]
  dsimp only
  split
  · next h =>
      rw [htake] at h
      cases h
  · next h =>
      rw [htake] at h
      cases h
      rfl

/-- Texts that do not begin with a dash are read as the pattern and the output to compare. -/
theorem ofArguments_verify {pattern output : String} (hpattern : pattern.toList.head? ≠ some '-')
    (houtput : output.toList.head? ≠ some '-') :
    Options.ofArguments ["verify", pattern, "--output", output] =
      .ok { action := .verify pattern (some output) none } := by
  have hdivider {text : String} (h : text.toList.head? ≠ some '-') : text ≠ "--" := by
    rintro rfl
    exact h rfl
  have hitems (names : Names) {item : Item} (hitem : role? names "--output" = some item) :
      items? names [pattern, "--output", output] =
        some [.operand pattern, item, .operand output] :=
    items?_cons (hdivider hpattern) (role?_operand names hpattern)
      (items?_cons (by decide) hitem
        (items?_cons (hdivider houtput) (role?_operand names houtput) rfl))
  have hfront : items? globalNames ["verify", pattern, "--output", output] =
      some [.operand "verify", .operand pattern, .option { flag := none }, .operand output] :=
    items?_cons (by decide) rfl (hitems globalNames rfl)
  have hbehind :=
    hitems Verb.verify.names (show _ = some (.option { flag := some .output }) from rfl)
  have hfound : readItems Verb.verify.names {}
      [.operand pattern, .option { flag := some .output }, .operand output] =
        .ok { operand := some pattern, values := [(.output, output)] } := by
    have hnote : Found.note { operand := some pattern } Verb.verify.names .output output =
        .ok { operand := some pattern, values := [(.output, output)] } := by
      simp [Found.note, Found.value?, show output ≠ divider from hdivider houtput]
    have htake : takeOption Verb.verify.names { flag := some .output } { operand := some pattern }
        [.operand output] =
          .ok ({ operand := some pattern, values := [(.output, output)] }, []) := by
      simp [takeOption, Flag.hasValue, hnote, Except.map]
    rw [readItems_operand rfl rfl, readItems_option htake, readItems]
  have haction : Verb.verify.action [pattern, "--output", output] =
      .ok (.verify pattern (some output) none, false) := by
    rw [Verb.action, hbehind]
    simp only [hfound]
    rfl
  rw [Options.ofArguments, hfront]
  simp only [readFront, bind, Except.bind, Verb.ofName?, haction]
  rfl

/-! ### Comparisons -/

/-- The exit status of a comparison by what is read of the pattern and of the output. It is two if
one of them cannot be read, if the pattern has no character or if it is too large; else it is zero
if the output is the rectangle of the pattern's lines, with a line feed behind it or without, and
one if it is not. -/
def comparisonStatus (blank : Char) (maxHeight maxWidth : Int) :
    (pattern output : Except FileFault String) → Nat
  | .ok pattern, .ok output =>
    let lines := patternLines pattern
    let expected := Grid.rectangle blank lines
    if (∀ line ∈ lines, line = []) ∨ IsTooLarge maxHeight maxWidth lines then 2
    else if output.toList = expected ∨ Text.dropFinalNewline output.toList = expected then 0
    else 1
  | _, _ => 2

theorem comparisonStatus_of_refused {blank : Char} {maxHeight maxWidth : Int} {text : String}
    (h : (∀ line ∈ patternLines text, line = []) ∨
      IsTooLarge maxHeight maxWidth (patternLines text)) (output : Except FileFault String) :
    comparisonStatus blank maxHeight maxWidth (.ok text) output = 2 := by
  cases output with
  | error fault => rfl
  | ok candidate => rw [comparisonStatus, if_pos h]

/-- What a session comes to leaves an exit status: its own, or that of a coded failure. -/
def Leaves (outcome : Except Fault Answer) (status : Nat) : Prop :=
  match outcome with
  | .ok answer => answer.status = status
  | .error fault => fault.failure.category.isCoded = true ∧ status = 2

theorem leaves_error {fault : Fault} {status : Nat}
    (hcoded : fault.failure.category.isCoded = true) (hstatus : status = 2) :
    Leaves (.error fault) status :=
  ⟨hcoded, hstatus⟩

theorem isCoded_unreadable {name : String} {fault : FileFault} (h : fault ≠ .badName) :
    (Fault.pattern (.unreadable name fault)).failure.category.isCoded = true := by
  cases fault with
  | badName => exact absurd rfl h
  | _ => rfl

/-- The message about a pattern that is too large shows both bounds. -/
theorem isCoded_tooLarge_iff {height width : Nat} {maxHeight maxWidth : Int} :
    (Fault.pattern (.tooLarge height width (.int maxHeight)
      (.int maxWidth))).failure.category.isCoded = true ↔
      maxHeight.natAbs < Text.leastLong ∧ maxWidth.natAbs < Text.leastLong := by
  rw [Fault.failure, PatternFault.failure, Value.hasLongNumber, Value.hasLongNumber]
  split
  · next hlong =>
      simp only [Bool.or_eq_true, decide_eq_true_eq] at hlong
      constructor
      · exact fun hcoded => absurd hcoded Bool.false_ne_true
      · omega
  · next hshort =>
      simp only [Bool.or_eq_true, decide_eq_true_eq] at hshort
      constructor
      · omega
      · exact fun _ => rfl

/-- An output is accepted for the grid of lines exactly if it is their rectangle, with a line feed
behind it or without. -/
theorem valid_ofGrid_iff_rectangle {lines : List (List Char)} {blank : Char} {grid : Grid}
    (h : Grid.ofLines lines (some blank) = .ok grid) (hlines : ∀ line ∈ lines, '\n' ∉ line)
    (output : String) :
    (Verdict.ofGrid grid output).valid = true ↔
      output.toList = Grid.rectangle blank lines ∨
        Text.dropFinalNewline output.toList = Grid.rectangle blank lines := by
  rw [Verdict.ofGrid, Verdict.valid_ofTexts_iff, Grid.toList_render_of_ofLines h]
  constructor
  · exact .inr
  · rintro (heq | heq)
    · rw [heq, Text.dropFinalNewline_of_getLast?_ne (Grid.getLast?_rectangle_ne h hlines)]
    · exact heq

section Comparisons

variable {host : Host} {settings : Settings} {workspace : Workspace} {pattern output : String}
  {grid : Grid}

theorem verify_of_pattern_error {fault : PatternFault}
    (hpattern : workspace.pattern settings pattern = .error fault) :
    verify host settings workspace pattern (some output) none = .error (.pattern fault) := by
  rw [verify, hpattern]
  rfl

section Output

variable (hpattern : workspace.pattern settings pattern = .ok (grid, workspace))
  (houtput : output ≠ "" ∧ output ≠ Workspace.inputName)

include hpattern houtput

theorem verify_of_output_error {fault : FileFault}
    (hread : workspace.read (Path.ofText output) = .error fault) :
    verify host settings workspace pattern (some output) none =
      .error (.pattern (.unreadable output fault)) := by
  have hnamed : (some output).filter (· ≠ "") = some output := by simp [houtput.1]
  simp only [verify, hpattern, hnamed, Except.mapError, bind, Except.bind,
    Workspace.readText_of_error houtput.2 hread]

/-- Settings of the declared kinds that pass the check let the study of a grid be made, so that the
verdict on the output decides. -/
theorem exists_verify (htyped : settings.IsTyped) (hcheck : settings.check = .ok ())
    (hgrid : grid.Reachable) {candidate : String}
    (hread : workspace.read (Path.ofText output) = .ok candidate) :
    ∃ answer, verify host settings workspace pattern (some output) none = .ok answer ∧
      answer.status = if (Verdict.ofGrid grid candidate).valid then 0 else 1 := by
  obtain ⟨step, hindent, hblank⟩ := Settings.exists_indent_of_check htyped hcheck
  obtain ⟨grouping, hgrouping⟩ := htyped.number .groupingThreshold rfl
  obtain ⟨wrap, hwrap⟩ := htyped.number .wrapThreshold rfl
  obtain ⟨most, hmost⟩ := htyped.number .maxReported rfl
  obtain ⟨analysis, hanalysis⟩ := exists_ofGrid? hgrid
  have hlayout := Settings.isPlain_layout hindent hblank hgrouping hwrap
  obtain ⟨listing, -, hprogram⟩ := exists_program hlayout hanalysis hgrid.isNumbered
    hgrid.sides_lt.1 hgrid.sides_lt.2
  obtain ⟨study, hstudy, hverified⟩ :=
    exists_study_of_candidate host hanalysis hprogram hmost candidate (some "")
  have hnamed : (some output).filter (· ≠ "") = some output := by simp [houtput.1]
  simp only [verify, hpattern, hnamed, Except.mapError, bind, Except.bind, pure, Except.pure,
    Workspace.readText_of_read houtput.2 hread, Option.getD_none, hstudy]
  exact ⟨_, rfl, by rw [hverified]; rfl⟩

end Output

variable {blank : Char} {maxHeight maxWidth : Int}

/-- A comparison leaves the status that its two files tell, unless the message about a pattern that
is too large would show a bound with too many digits. -/
theorem verify_leaves (htyped : settings.IsTyped) (hcheck : settings.check = .ok ())
    (hglyph : settings.value .blankGlyph = .text (String.singleton blank))
    (hheight : settings.value .maxHeight = .int maxHeight)
    (hwidth : settings.value .maxWidth = .int maxWidth)
    (hpattern : pattern ≠ Workspace.inputName ∧ '\x00' ∉ pattern.toList)
    (houtput : (output ≠ "" ∧ output ≠ Workspace.inputName) ∧ '\x00' ∉ output.toList)
    (hshort : ∀ text, workspace.read (Path.ofText pattern) = .ok text →
      (∃ line ∈ patternLines text, line ≠ []) → IsTooLarge maxHeight maxWidth (patternLines text) →
      maxHeight.natAbs < Text.leastLong ∧ maxWidth.natAbs < Text.leastLong)
    (hheld : ∀ text, workspace.read (Path.ofText pattern) = .ok text →
      ¬ IsTooLarge maxHeight maxWidth (patternLines text) →
      (patternLines text).length * Grid.longest (patternLines text) < Grid.heldLimit) :
    Leaves (verify host settings workspace pattern (some output) none)
      (comparisonStatus blank maxHeight maxWidth (workspace.read (Path.ofText pattern))
        (workspace.read (Path.ofText output))) := by
  -- The pattern is read and checked before the output is, so its faults decide.
  cases hread : workspace.read (Path.ofText pattern) with
  | error fault =>
      have hfault : fault ≠ .badName :=
        fun heq => Workspace.read_ne_badName hpattern.2 (heq ▸ hread)
      rw [verify_of_pattern_error (Workspace.pattern_of_error hpattern.1 hread)]
      exact leaves_error (isCoded_unreadable hfault) rfl
  | ok text =>
      by_cases hempty : ∀ line ∈ patternLines text, line = []
      · rw [verify_of_pattern_error (Workspace.pattern_of_empty hpattern.1 hglyph hread hempty)]
        exact leaves_error rfl (comparisonStatus_of_refused (.inl hempty) _)
      by_cases hlarge : IsTooLarge maxHeight maxWidth (patternLines text)
      · rw [verify_of_pattern_error (Workspace.pattern_of_tooLarge hpattern.1 hglyph hheight hwidth
          hread hempty hlarge)]
        have hdrawn : ∃ line ∈ patternLines text, line ≠ [] := by simpa using hempty
        exact leaves_error (isCoded_tooLarge_iff.2 (hshort text hread hdrawn hlarge))
          (comparisonStatus_of_refused (.inr hlarge) _)
      obtain ⟨grid, hgrid, hfound⟩ :=
        Workspace.exists_pattern hpattern.1 hglyph hheight hwidth hread hempty hlarge
      cases hcandidate : workspace.read (Path.ofText output) with
      | error fault =>
          have hfault : fault ≠ .badName :=
            fun heq => Workspace.read_ne_badName houtput.2 (heq ▸ hcandidate)
          rw [verify_of_output_error hfound houtput.1 hcandidate]
          exact leaves_error (isCoded_unreadable hfault) rfl
      | ok candidate =>
          obtain ⟨hrows, hcols, -⟩ := Grid.ofLines_eq_ok hgrid
          have hgridHeld : grid.IsHeld := by
            rw [Grid.IsHeld, hrows, hcols]
            exact hheld text hread hlarge
          obtain ⟨answer, hanswer, hstatus⟩ := exists_verify hfound houtput.1 htyped hcheck
            (.ofLines hgrid hgridHeld) hcandidate
          have hvalid := valid_ofGrid_iff_rectangle hgrid
            (fun line hline => newline_notMem_of_mem_patternLines hline) candidate
          rw [hanswer, comparisonStatus, if_neg (not_or.2 ⟨hempty, hlarge⟩)]
          simp only [hvalid] at hstatus
          exact hstatus

end Comparisons

/-! ### Sessions -/

theorem exists_answer_of_leaves {host : Host} {arguments : List String} {options : Options}
    {workspace : Workspace} {status : Nat}
    (harguments : Options.ofArguments arguments = .ok options)
    (h : Leaves (options.run host workspace) status) :
    ∃ result, answer host arguments workspace = .ok result ∧ result.status = status := by
  rw [answer, harguments]
  dsimp only
  cases hrun : options.run host workspace with
  | ok result =>
      rw [hrun] at h
      exact ⟨result, rfl, h⟩
  | error fault =>
      rw [hrun] at h
      exact ⟨_, if_pos h.1, h.2.symm⟩

/-- Arguments that name a pattern and an output to compare, as those do that do not begin with a
dash, end with the status that the two files tell, whatever settings of the declared kinds are
loaded. Neither of the files stands for standard input or has a null character in its name. If the
pattern is too large both bounds have decimal texts, and if it is not its grid is held in memory. -/
theorem answer_comparison (host : Host) {pattern output : String}
    (hpattern : pattern ≠ Workspace.inputName ∧ '\x00' ∉ pattern.toList)
    (houtput : (output ≠ "" ∧ output ≠ Workspace.inputName) ∧ '\x00' ∉ output.toList) :
    (pattern.toList.head? ≠ some '-' → output.toList.head? ≠ some '-' →
      Options.ofArguments ["verify", pattern, "--output", output] =
        .ok { action := .verify pattern (some output) none }) ∧
    ∀ {arguments : List String} {config : Option String} {debug : Bool}
      {workspace opened : Workspace} {store : SettingsStore} {settings : Settings},
      Options.ofArguments arguments =
        .ok { config, debug, action := .verify pattern (some output) none } →
      SettingsStore.openIn settingsDirectory workspace = .ok (store, opened) →
      (store.load opened config).2 = .ok settings → settings.IsTyped →
      ∃ blank maxHeight maxWidth,
        (settings.value .blankGlyph = .text (String.singleton blank) ∧
          settings.value .maxHeight = .int maxHeight ∧
          settings.value .maxWidth = .int maxWidth) ∧
        ((∀ text, workspace.read (Path.ofText pattern) = .ok text →
            (∃ line ∈ patternLines text, line ≠ []) →
            IsTooLarge maxHeight maxWidth (patternLines text) →
            maxHeight.natAbs < Text.leastLong ∧ maxWidth.natAbs < Text.leastLong) →
          (∀ text, workspace.read (Path.ofText pattern) = .ok text →
            ¬ IsTooLarge maxHeight maxWidth (patternLines text) →
            (patternLines text).length * Grid.longest (patternLines text) < Grid.heldLimit) →
          ∃ result, answer host arguments workspace = .ok result ∧
            result.status = comparisonStatus blank maxHeight maxWidth
              (workspace.read (Path.ofText pattern)) (workspace.read (Path.ofText output))) := by
  refine ⟨ofArguments_verify, ?_⟩
  intro arguments config debug workspace opened store settings harguments hopen hload htyped
  have hcheck : settings.check = .ok () := SettingsStore.check_of_load store opened config hload
  obtain ⟨blank, hglyph⟩ := Settings.exists_blank_of_check htyped hcheck
  obtain ⟨maxHeight, hheight⟩ := htyped.number .maxHeight rfl
  obtain ⟨maxWidth, hwidth⟩ := htyped.number .maxWidth rfl
  refine ⟨blank, maxHeight, maxWidth, ⟨hglyph, hheight, hwidth⟩, ?_⟩
  intro hshort hheld
  apply exists_answer_of_leaves harguments
  -- Opening a store sets variables only, so both files are still there as they were.
  obtain ⟨hfiles, hdirectories⟩ := SettingsStore.files_openIn hopen
  have hread (path : Path) : opened.read path = workspace.read path :=
    Workspace.read_congr hfiles hdirectories path
  rw [Options.run, hopen]
  simp only [hload, Action.run, ← hread] at hshort hheld ⊢
  exact verify_leaves htyped hcheck hglyph hheight hwidth hpattern houtput hshort hheld

/-- A pattern with a carriage return, whose lines are not equally long, and an output that draws it.
-/
def comparedFiles : Workspace :=
  { files := [(["p"], .text "a\r\n b"), (["q"], .text "a \n b\n")] }

theorem read_comparedFiles : comparedFiles.read (Path.ofText "p") = .ok "a\n b" := by
  with_unfolding_all rfl

theorem answer_comparison_equal :
    ∃ result, answer Shell.host ["verify", "p", "--output", "q"] comparedFiles = .ok result ∧
      result.status = 0 := by
  obtain ⟨hreads, hanswers⟩ := answer_comparison Shell.host (show "p" ≠ Workspace.inputName ∧
    '\x00' ∉ "p".toList by decide) (show ("q" ≠ "" ∧ "q" ≠ Workspace.inputName) ∧
      '\x00' ∉ "q".toList by decide)
  have hopen : SettingsStore.openIn settingsDirectory comparedFiles =
      .ok ({ directory := ⟨["config"]⟩ }, comparedFiles) := by
    with_unfolding_all rfl
  have hload : (SettingsStore.load { directory := ⟨["config"]⟩ } comparedFiles none).2 =
      .ok Settings.default := by
    with_unfolding_all rfl
  have houtput : comparedFiles.read (Path.ofText "q") = .ok "a \n b\n" := by
    with_unfolding_all rfl
  obtain ⟨blank, maxHeight, maxWidth, ⟨hglyph, hheight, hwidth⟩, hstatus⟩ :=
    hanswers (hreads (by decide) (by decide)) hopen hload Settings.isTyped_default
  obtain rfl : ' ' = blank := String.singleton_inj.1 (Value.text.inj hglyph)
  obtain rfl : 500 = maxHeight := Value.int.inj hheight
  obtain rfl : 500 = maxWidth := Value.int.inj hwidth
  rw [read_comparedFiles, houtput] at hstatus
  have hfits : ¬ IsTooLarge 500 500 (patternLines "a\n b") := by decide +kernel
  have hheld : (patternLines "a\n b").length * Grid.longest (patternLines "a\n b") <
      Grid.heldLimit := by
    decide +kernel
  obtain ⟨result, hresult, hequal⟩ :=
    hstatus (fun text htext _ hlarge => absurd (Except.ok.inj htext ▸ hlarge) hfits)
      fun text htext _ => Except.ok.inj htext ▸ hheld
  have hzero : comparisonStatus ' ' 500 500 (.ok "a\n b") (.ok "a \n b\n") = 0 := by
    decide +kernel
  exact ⟨result, hresult, hequal.trans hzero⟩

/-! ### Exceptions -/

/-- A pattern whose name begins with a dash. -/
def dashedFiles : Workspace :=
  { files := [(["-x"], .text "a"), (["q"], .text "a")] }

/-- The usual settings with other bounds. -/
def boundSettings (maxHeight maxWidth : Int) : Settings :=
  (Settings.default.set .maxHeight (.int maxHeight)).set .maxWidth (.int maxWidth)

variable {maxHeight maxWidth : Int}

theorem isTyped_boundSettings : (boundSettings maxHeight maxWidth).IsTyped :=
  (Settings.isTyped_default.set rfl).set rfl

theorem check_boundSettings (hheight : 0 < maxHeight) (hwidth : 0 < maxWidth) :
    (boundSettings maxHeight maxWidth).check = .ok () := by
  have hgrid : (boundSettings maxHeight maxWidth).checkSection .grid = .ok () := by
    have hpositive {n : Int} (h : 0 < n) : Settings.isPositive? (.int n) = some true :=
      congrArg some (decide_eq_true h)
    have hvalue : (boundSettings maxHeight maxWidth).value .maxHeight = .int maxHeight := rfl
    have hvalue' : (boundSettings maxHeight maxWidth).value .maxWidth = .int maxWidth := rfl
    rw [Settings.checkSection, hvalue, hvalue', hpositive hheight, hpositive hwidth]
    rfl
  refine Settings.check_eq_ok_iff.2 ⟨rfl, fun part => ?_⟩
  cases part with
  | grid => exact hgrid
  | _ => rfl

/-- Settings whose bounds let one row pass, and columns up to a number with one digit too many. -/
def longBounds : Settings :=
  boundSettings 1 Text.leastLong

theorem check_longBounds : longBounds.check = .ok () :=
  check_boundSettings (by decide)
    (Int.natCast_pos.2 (Text.lt_leastLong_of_lt_ten (by decide)))

/-- One line of letters, of which all but the first one are alike. -/
def wideLine (n : Nat) : List Char :=
  'a' :: List.replicate n 'b'

theorem notMem_wideLine {c : Char} (ha : c ≠ 'a') (hb : c ≠ 'b') (n : Nat) : c ∉ wideLine n := by
  intro hmem
  rcases List.mem_cons.1 hmem with heq | hmem
  · exact ha heq
  · exact hb (List.eq_of_mem_replicate hmem)

theorem patternLines_wideLine (n : Nat) :
    patternLines (String.ofList (wideLine n)) = [wideLine n] := by
  have hfeed := notMem_wideLine (show '\n' ≠ 'a' by decide) (by decide) n
  have hlast : (wideLine n).getLast? ≠ some '\n' := fun h => hfeed (List.mem_of_getLast? h)
  rw [patternLines, String.toList_ofList, Text.dropFinalNewline_of_getLast?_ne hlast]
  exact Text.splitOn_of_notMem hfeed

theorem longest_singleton (line : List Char) : Grid.longest [line] = line.length := by
  simp [Grid.longest]

/-- A pattern of one such line. -/
def wideFiles (n : Nat) : Workspace :=
  { files := [(["p"], .text (String.ofList (wideLine n))), (["q"], .text "")] }

/-- Settings that let such a line pass. -/
def wideBounds (n : Nat) : Settings :=
  boundSettings 1 (n + 1)

theorem read_wideFiles (n : Nat) :
    (wideFiles n).read (Path.ofText "p") = .ok (String.ofList (wideLine n)) := by
  have hreturn := notMem_wideLine (show '\r' ≠ 'a' by decide) (by decide) n
  have hlocate : (wideFiles n).locate (Path.ofText "p") = .ok ["p"] := rfl
  exact Workspace.read_of_fileAt? hlocate rfl (by rwa [String.toList_ofList])

theorem not_isTooLarge_wideLine (n : Nat) :
    ¬ IsTooLarge 1 (n + 1) (patternLines (String.ofList (wideLine n))) := by
  rw [patternLines_wideLine, IsTooLarge, longest_singleton]
  simp [wideLine]

/-- A pattern of one line that does not fit into memory has no analysis, so that nothing is compared
with it. -/
theorem verify_wideFiles {n : Nat} (h : Grid.heldLimit ≤ n) :
    ∃ fault, verify Shell.host (wideBounds n) (wideFiles n) "p" (some "q") none = .error fault ∧
      fault.failure.category.isCoded = false := by
  have hlines := patternLines_wideLine n
  have hempty : ¬ ∀ line ∈ patternLines (String.ofList (wideLine n)), line = [] := by
    rw [hlines]
    exact fun hall => List.cons_ne_nil _ _ (hall _ (.head _))
  obtain ⟨grid, hgrid, hfound⟩ := Workspace.exists_pattern
    (show "p" ≠ Workspace.inputName by decide)
    (show (wideBounds n).value .blankGlyph = .text (String.singleton ' ') from rfl)
    (show (wideBounds n).value .maxHeight = .int 1 from rfl)
    (show (wideBounds n).value .maxWidth = .int (n + 1) from rfl) (read_wideFiles n) hempty
    (not_isTooLarge_wideLine n)
  rw [hlines] at hgrid
  obtain ⟨hheight, hwidth, -⟩ := Grid.ofLines_eq_ok hgrid
  rw [longest_singleton, wideLine, List.length_cons, List.length_replicate] at hwidth
  have hpositive : 0 < Grid.heldLimit := by decide
  have hsymbol {c : Nat} (hc : c < n + 1) := Grid.symbol?_of_ofLines hgrid (r := 0) (c := c)
    (by simp) (by simpa [longest_singleton, wideLine] using hc)
  have hfirst : grid.symbol? (Coord.ofNat 0 0) = some 'a' := by
    rw [hsymbol (by omega)]
    rfl
  have hsecond : grid.symbol? (Coord.ofNat 0 1) = some 'b' := by
    obtain ⟨m, rfl⟩ : ∃ m, n = m + 1 := ⟨n - 1, by omega⟩
    rw [hsymbol (by omega)]
    rfl
  have hlarge : Grid.heldLimit ≤ grid.height * grid.width := by
    rw [hheight, hwidth, List.length_singleton, one_mul]
    omega
  obtain ⟨fault, hfault⟩ := exists_fault_of_large hlarge hfirst (Grid.holds_of_symbol? hsecond)
    (by rw [hsecond]; decide)
  have hcandidate : (wideFiles n).readText "q" = .ok ("", wideFiles n) := rfl
  have hverify : verify Shell.host (wideBounds n) (wideFiles n) "p" (some "q") none =
      .error (.study (.analysis fault)) := by
    have hnamed : (some "q").filter (· ≠ "") = some "q" := rfl
    simp only [verify, hfound, hnamed, hcandidate, Study.ofGrid, hfault, Except.mapError, bind,
      Except.bind, pure, Except.pure]
  exact ⟨_, hverify, by cases fault <;> rfl⟩

/-- Without the exceptions the two files do not tell the status: a name that begins with a dash is
read as an option, a null character in a name ends the session without a status, and so does the
message that would show a bound with too many digits, or a pattern whose grid does not fit into
memory. -/
theorem answer_comparison_exceptions :
    (comparisonStatus ' ' 500 500 (dashedFiles.read (Path.ofText "-x"))
        (dashedFiles.read (Path.ofText "q")) = 0 ∧
      ∃ result, answer Shell.host ["verify", "-x", "--output", "q"] dashedFiles = .ok result ∧
        result.status = 2) ∧
    (∃ failure,
      answer Shell.host ["verify", "p\x00", "--output", "q"] dashedFiles = .error failure) ∧
    (∃ fault, longBounds.IsTyped ∧ longBounds.check = .ok () ∧
      verify Shell.host longBounds comparedFiles "p" (some "q") none = .error fault ∧
      fault.failure.category.isCoded = false) ∧
    ∃ n fault, (wideBounds n).IsTyped ∧ (wideBounds n).check = .ok () ∧
      ¬ IsTooLarge 1 (n + 1) (patternLines (String.ofList (wideLine n))) ∧
      (wideFiles n).read (Path.ofText "p") = .ok (String.ofList (wideLine n)) ∧
      verify Shell.host (wideBounds n) (wideFiles n) "p" (some "q") none = .error fault ∧
      fault.failure.category.isCoded = false := by
  refine ⟨⟨?_, { status := Answer.failed, messages := none, workspace := dashedFiles }, ?_, rfl⟩,
    ⟨FileFault.badName.failure, ?_⟩, ?_, ?_⟩
  · decide +kernel
  · with_unfolding_all rfl
  · with_unfolding_all rfl
  · have hempty : ¬ ∀ line ∈ patternLines "a\n b", line = [] := by decide +kernel
    have hlarge : IsTooLarge 1 Text.leastLong (patternLines "a\n b") :=
      .inl (show 1 < ((patternLines "a\n b").length : Int) by decide +kernel)
    have hpattern := Workspace.pattern_of_tooLarge (show "p" ≠ Workspace.inputName by decide)
      (show longBounds.value .blankGlyph = .text (String.singleton ' ') from rfl)
      (show longBounds.value .maxHeight = .int 1 from rfl)
      (show longBounds.value .maxWidth = .int Text.leastLong from rfl) read_comparedFiles hempty
      hlarge
    refine ⟨_, isTyped_boundSettings, check_longBounds, verify_of_pattern_error hpattern, ?_⟩
    exact Bool.eq_false_iff.2
      (mt isCoded_tooLarge_iff.1 fun hshort => hshort.2.ne (Int.natAbs_natCast _))
  · obtain ⟨fault, hverify, hcoded⟩ := verify_wideFiles (le_refl Grid.heldLimit)
    exact ⟨Grid.heldLimit, fault, isTyped_boundSettings,
      check_boundSettings (by decide) (by omega),
      not_isTooLarge_wideLine _, read_wideFiles _, hverify, hcoded⟩

end GridRules.CommandLine
