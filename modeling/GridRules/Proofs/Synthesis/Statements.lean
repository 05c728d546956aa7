import GridRules.Proofs.Synthesis.Agreement

/-!
# What a listing is read as

The text of a listing is read as two declarations, two loops around one chain of alternatives and a
return. The chain has one branch for each rule, in the order of the rules; its condition is that of
the rule, and it prints the symbol of the rule.
-/

namespace GridRules

open Program

variable {layout : Layout} {table : CellTable} {rule : Rule} {rules : List Rule}
  {height width : Int}

/-- The expression tells the cells of the rule: it is the tree of the rule's condition, or it
decides for every cell whether the rule lists it. -/
def Rule.IsToldBy (rule : Rule) (table : CellTable) (e : Expr) : Prop :=
  if rule.family = .coordinateSet then
    ∀ (env : Env) (cell : Coord), env.get? "r" = some cell.row → env.get? "c" = some cell.col →
      Decides env e (cell ∈ rule.listedCells table)
  else Expr.ofText rule.condition = .ok e

/-- A branch of a chain belongs to a rule: it tells the cells of the rule, and it prints the symbol
and nothing else. -/
def Rule.HasBranch (table : CellTable) (rule : Rule) (branch : Expr × List Statement) : Prop :=
  rule.IsToldBy table branch.1 ∧ branch.2 = [.print rule.symbol.toList]

/-- The statements that print one cell for rules with the given branches. -/
def chainStatements (rules : List Rule) (branches : List (Expr × List Statement)) :
    List Statement :=
  if rules.isEmpty then [.print [' ']] else [.choose branches [.print [' ']]]

/-- A text writes at most one expression. -/
theorem Program.Writes.unique {source : String} {e other : Expr} (h : Writes 1 source.toList e)
    (hother : Writes 1 source.toList other) : e = other :=
  Except.ok.inj (h.ofText.symm.trans hother.ofText)

/-- A branch with the text of a rule's condition tells the cells of the rule. -/
theorem IsBranch.isToldBy {branch : Expr × Char} (hlayout : layout.IsPlain)
    (hrule : rule.IsPlaceable table) (h : IsBranch layout table rule branch) :
    rule.IsToldBy table branch.1 := by
  obtain ⟨⟨text, htext, hwrites⟩, -⟩ := h
  rw [Synthesis.condition] at htext
  rw [Rule.IsToldBy]
  split
  · next hfamily =>
      rw [if_pos hfamily] at htext
      obtain ⟨text', htext', e, he, hdecides⟩ := exists_cellsCondition (hrule.cells hfamily) hlayout
      obtain rfl := Except.ok.inj (htext.symm.trans htext')
      rwa [hwrites.unique he]
  · next hfamily =>
      rw [if_neg hfamily] at htext
      obtain rfl := Except.ok.inj htext
      exact hwrites.ofText

/-- The branches that the text of a program writes for rules are those of the rules. -/
theorem forall₂_hasBranch {branches : List (Expr × Char)} (hlayout : layout.IsPlain)
    (hrules : ∀ rule ∈ rules, rule.IsPlaceable table)
    (h : List.Forall₂ (IsBranch layout table) rules branches) :
    List.Forall₂ (Rule.HasBranch table) rules
      (branches.map fun branch => (branch.1, [.print [branch.2]])) := by
  induction h with
  | nil => exact .nil
  | @cons rule branch rules branches hbranch _ ih =>
      obtain ⟨hrule, hothers⟩ := List.forall_mem_cons.1 hrules
      refine .cons ⟨hbranch.isToldBy hlayout hrule, ?_⟩ (ih hothers)
      simp [hbranch.2]

theorem cellStatements_eq {branches : List (Expr × Char)}
    (h : List.Forall₂ (IsBranch layout table) rules branches) :
    cellStatements branches =
      chainStatements rules (branches.map fun branch => (branch.1, [.print [branch.2]])) := by
  cases h <;> rfl

/-- Under settings with an indentation that passes its check and whole numbers as thresholds, rules
have a listing, and its text is read as exactly these statements: the declarations of the height and
of the width, a loop over the rows around a loop over the columns and the end of a line, and a
return. For each cell a space is printed if there are no rules, and otherwise the symbol of the
first rule whose branch is taken, or else a space. The rules draw single characters, and their
conditions are expressions that hold neither a comment to the end of a line nor a directive. All
whole numbers that the text shows have decimal texts that can be read. -/
theorem ofText_listing {settings : Settings} {step : String} {grouping wrap : Int}
    (hindent : settings.value .indent = .text step)
    (hcheck : Settings.isAllBlank? (.text step) = some true)
    (hgrouping : settings.value .groupingThreshold = .int grouping)
    (hwrap : settings.value .wrapThreshold = .int wrap)
    (hsymbols : ∀ rule ∈ rules, ∃ c, rule.symbol = String.singleton c)
    (hconditions : ∀ rule ∈ rules, rule.family ≠ .coordinateSet →
      (∃ e, Expr.ofText rule.condition = .ok e) ∧ ¬ ['/', '/'] <:+: rule.condition.toList ∧
        '#' ∉ rule.condition.toList)
    (hcells : ∀ rule ∈ rules, rule.family = .coordinateSet →
      ∀ cell ∈ rule.listedCells table, cell.IsShort)
    (hheight : height.natAbs < Text.leastLong) (hwidth : width.natAbs < Text.leastLong) :
    ∃ listing branches, settings.listing rules (.int height) (.int width) table = .ok listing ∧
      List.Forall₂ (Rule.HasBranch table) rules branches ∧
      ofText listing.code = .ok
        [.declare "H" (.ofInt height), .declare "W" (.ofInt width),
          .loop "r" (.number 0) (.binary .less (.var "r") (.var "H"))
            [.loop "c" (.number 0) (.binary .less (.var "c") (.var "W"))
              (chainStatements rules branches),
            .print ['\n']],
          .exit (.number 0)] := by
  have hblank : ∀ c ∈ step.toList, Text.isBlank c = true :=
    List.all_eq_true.1 (Option.some.inj hcheck)
  have hrules := isPlaceable_of_conditions hsymbols hconditions hcells
  have hlayout := Settings.isPlain_layout hindent hblank hgrouping hwrap
  obtain ⟨-, branches, -, hbranches, -⟩ := exists_forall₂_isBranch hlayout hrules
  obtain ⟨listing, hlisting, htext⟩ := exists_listing hlayout hbranches hheight hwidth
  rw [programStatements, rowStatements, cellStatements_eq hbranches] at htext
  exact ⟨listing, _, hlisting, forall₂_hasBranch hlayout hrules hbranches, htext⟩

/-- A line feed where the row is not zero, and a quote where no cell is listed. -/
def quotedRules : List Rule :=
  [{ family := .fill, symbol := "\n", condition := "r" }, .coordinateSet '\'' []]

theorem ofText_listing_quoted :
    ∃ listing e, Settings.default.listing quotedRules (.int (-2)) (.int 3) = .ok listing ∧
      ofText listing.code = .ok
        [.declare "H" (.negate (.number 2)), .declare "W" (.number 3),
          .loop "r" (.number 0) (.binary .less (.var "r") (.var "H"))
            [.loop "c" (.number 0) (.binary .less (.var "c") (.var "W"))
              [.choose [(.var "r", [.print ['\n']]), (e, [.print ['\'']])] [.print [' ']]],
            .print ['\n']],
          .exit (.number 0)] := by
  have hrow : Expr.ofText "r" = .ok (.var "r") :=
    ((writes_variable (show "r" ∈ ["r", "c", "H", "W"] by decide)).looser (by decide)).ofText
  have hsymbols : ∀ rule ∈ quotedRules, ∃ c, rule.symbol = String.singleton c :=
    List.forall_mem_cons.2 ⟨⟨'\n', rfl⟩, List.forall_mem_singleton.2 ⟨'\'', rfl⟩⟩
  have hconditions : ∀ rule ∈ quotedRules, rule.family ≠ .coordinateSet →
      (∃ e, Expr.ofText rule.condition = .ok e) ∧ ¬ ['/', '/'] <:+: rule.condition.toList ∧
        '#' ∉ rule.condition.toList :=
    List.forall_mem_cons.2 ⟨fun _ => ⟨⟨_, hrow⟩, by decide +kernel⟩,
      List.forall_mem_singleton.2 fun hfamily => absurd rfl hfamily⟩
  have hcells : ∀ rule ∈ quotedRules, rule.family = .coordinateSet →
      ∀ cell ∈ rule.listedCells [], cell.IsShort :=
    List.forall_mem_cons.2 ⟨fun hfamily => absurd hfamily (by decide),
      List.forall_mem_singleton.2 fun _ => by
        simp [Rule.listedCells, Rule.coordinateSet, CellTable.cells?]⟩
  obtain ⟨listing, branches, hlisting, hbranches, htext⟩ := ofText_listing
    (show Settings.default.value .indent = .text "    " from rfl) (by decide)
    (show Settings.default.value .groupingThreshold = .int 20 from rfl)
    (show Settings.default.value .wrapThreshold = .int 5 from rfl) hsymbols hconditions hcells
    (Text.lt_leastLong_of_lt_ten (show (-2 : Int).natAbs < 10 by decide))
    (Text.lt_leastLong_of_lt_ten (show (3 : Int).natAbs < 10 by decide))
  match branches, hbranches with
  | [(first, _), (second, _)], .cons ⟨hfirst, hfeed⟩ (.cons ⟨_, hquote⟩ .nil) =>
      obtain rfl : first = .var "r" := Except.ok.inj (hfirst.symm.trans hrow)
      subst hfeed hquote
      exact ⟨listing, second, hlisting, htext⟩

/-- No rules have a listing that is read if the height has one digit too many. -/
theorem ofText_listing_longHeight_refused :
    ¬ ∃ listing statements,
      Settings.default.listing [] (.int Text.leastLong) (.int 0) = .ok listing ∧
      ofText listing.code = .ok statements := by
  rintro ⟨listing, statements, hlisting, -⟩
  have hlayout : Settings.default.layout.IsPlain :=
    Settings.isPlain_layout rfl (List.all_eq_true.1 (by decide)) rfl rfl
  rw [Settings.listing, ofRules_longSide hlayout (.inl (Int.natAbs_natCast _).ge)] at hlisting
  cases hlisting

end GridRules
