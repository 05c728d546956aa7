import GridRules.Proofs.Synthesis.Membership
import GridRules.Proofs.Synthesis.Running

/-!
# Listings agree with drawings

A listing prints what its rules draw, and ends in the fault in which their drawing ends. Both test
the same expression of a formula, and the cells that a rule lists are told by the condition that
names them one by one.
-/

namespace GridRules

open Program

variable {layout : Layout} {table : CellTable} {rule : Rule} {rules : List Rule}
  {height width limit : Int}

/-- A rule can stand in a program: it draws one character, its condition stays an expression among
other text, and the cells that it lists have decimal texts. -/
structure Rule.IsPlaceable (rule : Rule) (table : CellTable) : Prop where
  symbol : ∃ c, rule.symbol = String.singleton c
  condition : rule.family ≠ .coordinateSet → ∃ e, Writes 1 rule.condition.toList e
  cells : rule.family = .coordinateSet → ∀ cell ∈ rule.listedCells table, cell.IsShort

/-! ### Rules -/

theorem matches_listed {cells : List Coord} {e : Expr} {symbol : Char}
    (h : ∀ (env : Env) (cell : Coord), env.get? "r" = some cell.row →
      env.get? "c" = some cell.col → Decides env e (cell ∈ cells)) :
    Matches height width (String.singleton symbol, .listed cells) (e, symbol) := by
  refine ⟨rfl, ?_⟩
  intro env cell henv
  obtain ⟨value, heval, hvalue⟩ := (h env cell (henv "r") (henv "c")).exists_value
  simp only [heval, Except.map, Test.holds, Except.ok.injEq]
  rw [Bool.eq_iff_iff, bne_iff_ne, hvalue, List.contains_iff_mem]

theorem matches_formula (e : Expr) (symbol : Char) :
    Matches height width (String.singleton symbol, .formula e) (e, symbol) := by
  refine ⟨rfl, ?_⟩
  intro env cell henv
  dsimp only [Test.holds]
  rw [e.eval_congr henv]
  cases e.eval (cellEnv cell.row cell.col height width) <;> rfl

/-- The branch of a rule prints what the rule draws. -/
theorem exists_isBranch (hlayout : layout.IsPlain) (h : rule.IsPlaceable table) :
    ∃ test branch, rule.test table = .ok test ∧ IsBranch layout table rule branch ∧
      ∀ height width, Matches height width (rule.symbol, test) branch := by
  obtain ⟨symbol, hsymbol⟩ := h.symbol
  rw [hsymbol, Rule.test]
  by_cases hfamily : rule.family = .coordinateSet
  · obtain ⟨text, htext, e, hwrites, hdecides⟩ := exists_cellsCondition (h.cells hfamily) hlayout
    refine ⟨_, (e, symbol), if_pos hfamily, ⟨⟨text, ?_, hwrites⟩, hsymbol⟩,
      fun _ _ => matches_listed hdecides⟩
    rw [Synthesis.condition, if_pos hfamily, htext]
  · obtain ⟨e, hwrites⟩ := h.condition hfamily
    refine ⟨.formula e, (e, symbol), ?_, ⟨⟨rule.condition, ?_, hwrites⟩, hsymbol⟩,
      fun _ _ => matches_formula e symbol⟩
    · rw [if_neg hfamily, hwrites.ofText]
    · rw [Synthesis.condition, if_neg hfamily]

theorem exists_forall₂_isBranch (hlayout : layout.IsPlain)
    (h : ∀ rule ∈ rules, rule.IsPlaceable table) :
    ∃ tests branches, Rule.tests table rules = .ok tests ∧
      List.Forall₂ (IsBranch layout table) rules branches ∧
      ∀ height width, List.Forall₂ (Matches height width) tests branches := by
  induction rules with
  | nil => exact ⟨[], [], rfl, .nil, fun _ _ => .nil⟩
  | cons rule rules ih =>
      obtain ⟨test, branch, htest, hbranch, hmatches⟩ :=
        exists_isBranch hlayout (h rule (by simp))
      obtain ⟨tests, branches, htests, hbranches, hall⟩ :=
        ih fun rule hrule => h rule (by simp [hrule])
      exact ⟨(rule.symbol, test) :: tests, branch :: branches, by simp [Rule.tests, htest, htests],
        .cons hbranch hbranches, fun height width => .cons (hmatches height width) (hall _ _)⟩

/-! ### Programs -/

/-- Rules have a listing, which is read as a program that prints their drawing. -/
theorem exists_programStatements (hlayout : layout.IsPlain)
    (h : ∀ rule ∈ rules, rule.IsPlaceable table) (hheight : height.natAbs < Text.leastLong)
    (hwidth : width.natAbs < Text.leastLong) :
    ∃ listing tests branches,
      Listing.ofRules rules (.int height) (.int width) table layout = .ok listing ∧
      Rule.tests table rules = .ok tests ∧ List.Forall₂ (Matches height width) tests branches ∧
      ofText listing.code = .ok (programStatements (.ofInt height) (.ofInt width) branches) := by
  obtain ⟨tests, branches, htests, hbranches, hmatches⟩ := exists_forall₂_isBranch hlayout h
  obtain ⟨listing, hlisting, htext⟩ := exists_listing hlayout hbranches hheight hwidth
  exact ⟨listing, tests, branches, hlisting, htests, hmatches height width, htext⟩

/-- The text of a drawing with a line feed at the end is that of its ended lines. -/
theorem ofList_endedLines {tests : List (String × Test)} {lines : List (List Char)}
    (h : drawRows tests " " height width height.toNat 0 = .ok lines) :
    String.ofList (endedLines lines) =
      if 1 ≤ height then String.ofList (Text.unlines lines) ++ "\n" else "" := by
  have hlength := length_of_drawRows h
  split
  · have hne : lines ≠ [] := by
      rintro rfl
      simp only [List.length_nil] at hlength
      omega
    rw [endedLines_eq_unlines hne, String.ofList_append]
  · have hnil : lines = [] := List.eq_nil_of_length_eq_zero (by omega)
    rw [hnil]
    rfl

/-- Under a limit that suffices for every row and every cell, the listing of rules prints their
drawing with a line feed at the end, or nothing without rows, and ends in the same faults. -/
theorem exists_interpret (hlayout : layout.IsPlain) (h : ∀ rule ∈ rules, rule.IsPlaceable table)
    (hheight : height.natAbs < Text.leastLong)
    (hwidth : width.natAbs < Text.leastLong)
    (hlimit : max height 0 * (1 + max width 0) ≤ limit) :
    ∃ listing, Listing.ofRules rules (.int height) (.int width) table layout = .ok listing ∧
      interpret listing.code limit = (Rule.draw rules height width table).map fun text =>
        if 1 ≤ height then text ++ "\n" else "" := by
  obtain ⟨listing, tests, branches, hlisting, htests, hmatches, htext⟩ :=
    exists_programStatements hlayout h hheight hwidth
  have hlimit' : height.toNat * (1 + width.toNat) ≤ limit.toNat := by
    rw [← Int.ofNat_toNat height, ← Int.ofNat_toNat width] at hlimit
    have hcast : ((height.toNat * (1 + width.toNat) : Nat) : Int) ≤ limit := by
      exact_mod_cast hlimit
    omega
  refine ⟨listing, hlisting, ?_⟩
  rw [interpret, htext, draw_of_tests htests]
  simp only
  rw [output_programStatements (Expr.eval_ofInt · height) (Expr.eval_ofInt · width) hmatches
    hlimit']
  cases hdraw : drawRows tests " " height width height.toNat 0 with
  | error fault => rfl
  | ok lines =>
      simp only [ofList_endedLines hdraw]
      rfl

/-! ### Agreement -/

theorem draw_of_nonpos {tests : List (String × Test)} (h : Rule.tests table rules = .ok tests)
    (hheight : height ≤ 0) : Rule.draw rules height width table = .ok "" := by
  rw [draw_of_tests h, Int.toNat_of_nonpos hheight]
  rfl

/-- Rules whose symbols are single characters, and whose conditions are expressions without comments
to the end of a line and without directives, can stand in a program. -/
theorem isPlaceable_of_conditions
    (hsymbols : ∀ rule ∈ rules, ∃ c, rule.symbol = String.singleton c)
    (hconditions : ∀ rule ∈ rules, rule.family ≠ .coordinateSet →
      (∃ e, Expr.ofText rule.condition = .ok e) ∧ ¬ ['/', '/'] <:+: rule.condition.toList ∧
        '#' ∉ rule.condition.toList)
    (hcells : ∀ rule ∈ rules, rule.family = .coordinateSet →
      ∀ cell ∈ rule.listedCells table, cell.IsShort) :
    ∀ rule ∈ rules, rule.IsPlaceable table := fun rule hrule =>
  { symbol := hsymbols rule hrule
    condition := fun hfamily => by
      obtain ⟨⟨e, he⟩, hline, hdirective⟩ := hconditions rule hrule hfamily
      exact ⟨e, writes_of_ofText he hline hdirective⟩
    cells := hcells rule hrule }

/-- Under settings with a blank indentation and whole numbers as thresholds, rules have a listing
whose run agrees with their drawing: it prints the drawing and a line feed, or nothing if there are
no rows, and it ends in a fault exactly if the drawing ends in the same fault. The rules draw single
characters, and their conditions are expressions that hold neither a comment to the end of a line
nor a directive. All whole numbers that the text shows have decimal texts that can be read, and the
limit suffices for every row and every cell. -/
theorem interpret_listing {settings : Settings} {step : String} {grouping wrap : Int}
    (hindent : settings.value .indent = .text step)
    (hblank : ∀ c ∈ step.toList, Text.isBlank c = true)
    (hgrouping : settings.value .groupingThreshold = .int grouping)
    (hwrap : settings.value .wrapThreshold = .int wrap)
    (hsymbols : ∀ rule ∈ rules, ∃ c, rule.symbol = String.singleton c)
    (hconditions : ∀ rule ∈ rules, rule.family ≠ .coordinateSet →
      (∃ e, Expr.ofText rule.condition = .ok e) ∧ ¬ ['/', '/'] <:+: rule.condition.toList ∧
        '#' ∉ rule.condition.toList)
    (hcells : ∀ rule ∈ rules, rule.family = .coordinateSet →
      ∀ cell ∈ rule.listedCells table, cell.IsShort)
    (hheight : height.natAbs < Text.leastLong)
    (hwidth : width.natAbs < Text.leastLong)
    (hlimit : max height 0 * (1 + max width 0) ≤ limit) :
    ∃ listing, settings.listing rules (.int height) (.int width) table = .ok listing ∧
      (1 ≤ height → interpret listing.code limit =
        (Rule.draw rules height width table).map (· ++ "\n")) ∧
      (height ≤ 0 → interpret listing.code limit = .ok "") ∧
      ∀ fault, interpret listing.code limit = .error fault ↔
        Rule.draw rules height width table = .error fault := by
  have hrules := isPlaceable_of_conditions hsymbols hconditions hcells
  have hlayout := Settings.isPlain_layout hindent hblank hgrouping hwrap
  obtain ⟨listing, hlisting, hrun⟩ := exists_interpret hlayout hrules hheight hwidth hlimit
  refine ⟨listing, hlisting, ?_, ?_, ?_⟩
  · intro hrows
    simpa [hrows] using hrun
  · intro hnone
    obtain ⟨tests, -, htests, -⟩ := exists_forall₂_isBranch hlayout hrules
    rw [hrun, draw_of_nonpos htests hnone]
    simp [Except.map, show ¬ 1 ≤ height by omega]
  · intro fault
    rw [hrun]
    cases Rule.draw rules height width table <;> simp [Except.map]

/-- A diagonal of backslashes, and a cell that a table may list elsewhere. -/
def diagonalRules : List Rule :=
  [{ family := .diagonal, symbol := "\\", condition := "r == c" }, .coordinateSet '@' [⟨0, 1⟩]]

theorem interpret_listing_diagonal :
    ∃ listing, Settings.default.listing diagonalRules (.int 2) (.int 3) [("@", [⟨1, 2⟩])] =
        .ok listing ∧
      interpret listing.code 8 = .ok "\\  \n \\@\n" := by
  have hexpr : Expr.ofText "r == c" = .ok (.binary .equal (.var "r") (.var "c")) := by
    have hrow := writes_variable (show "r" ∈ ["r", "c", "H", "W"] by decide)
    have hcol := writes_variable (show "c" ∈ ["r", "c", "H", "W"] by decide)
    exact ((hrow.operator .equal hcol).looser (by decide : 1 ≤ 3)).ofText
  have hdraw : Rule.draw diagonalRules 2 3 [("@", [⟨1, 2⟩])] = .ok "\\  \n \\@" := by
    rw [Rule.draw, diagonalRules, Rule.tests, Rule.test, hexpr]
    rfl
  have hsymbols : ∀ rule ∈ diagonalRules, ∃ c, rule.symbol = String.singleton c :=
    List.forall_mem_cons.2 ⟨⟨'\\', rfl⟩, List.forall_mem_singleton.2 ⟨'@', rfl⟩⟩
  have hconditions : ∀ rule ∈ diagonalRules, rule.family ≠ .coordinateSet →
      (∃ e, Expr.ofText rule.condition = .ok e) ∧ ¬ ['/', '/'] <:+: rule.condition.toList ∧
        '#' ∉ rule.condition.toList :=
    List.forall_mem_cons.2 ⟨fun _ => ⟨⟨_, hexpr⟩, by decide +kernel⟩,
      List.forall_mem_singleton.2 fun hfamily => absurd rfl hfamily⟩
  have hsmall {n : Nat} (h : n < 10) : n < Text.leastLong := Text.lt_leastLong_of_lt_ten h
  have hcells : ∀ rule ∈ diagonalRules, rule.family = .coordinateSet →
      ∀ cell ∈ rule.listedCells [("@", [⟨1, 2⟩])], cell.IsShort :=
    List.forall_mem_cons.2 ⟨fun hfamily => absurd hfamily (by decide),
      List.forall_mem_singleton.2 fun _ => List.forall_mem_singleton.2
        ⟨hsmall (show (1 : Int).natAbs < 10 by decide),
          hsmall (show (2 : Int).natAbs < 10 by decide)⟩⟩
  obtain ⟨listing, hlisting, hrun, -⟩ := interpret_listing
    (show Settings.default.value .indent = .text "    " from rfl) (List.all_eq_true.1 (by decide))
    (show Settings.default.value .groupingThreshold = .int 20 from rfl)
    (show Settings.default.value .wrapThreshold = .int 5 from rfl) hsymbols hconditions hcells
    (hsmall (show (2 : Int).natAbs < 10 by decide)) (hsmall (show (3 : Int).natAbs < 10 by decide))
    (show max 2 0 * (1 + max 3 0) ≤ 8 by decide)
  exact ⟨listing, hlisting, by rw [hrun (by decide), hdraw]; rfl⟩

/-- Rules without rows have no listing if the number of rows has one digit too many. -/
theorem interpret_listing_longHeight_refused :
    ¬ ∃ listing, Settings.default.listing [] (.int (-Text.leastLong)) (.int 0) = .ok listing ∧
      interpret listing.code 0 = .ok "" := by
  rintro ⟨listing, hlisting, -⟩
  have hlayout : Settings.default.layout.IsPlain :=
    Settings.isPlain_layout rfl (List.all_eq_true.1 (by decide)) rfl rfl
  have hlong : Text.leastLong ≤ (-Text.leastLong : Int).natAbs := by
    rw [Int.natAbs_neg, Int.natAbs_natCast]
  rw [Settings.listing, ofRules_longSide hlayout (.inl hlong)] at hlisting
  cases hlisting

end GridRules
