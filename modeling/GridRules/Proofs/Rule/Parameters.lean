import GridRules.Proofs.Program.Names
import GridRules.Rule.Drawing

/-!
# Dimensions without influence

A dimension that is not found in the text of an expression is not mentioned by the expression, and
so its value makes no difference to it. The parameters of a rule list every dimension on which its
truth at a cell can depend.
-/

namespace GridRules

open Program

/-- All variables but one have the same values, or none, in both environments. -/
def Program.Env.AgreeExcept (name : String) (env env' : Env) : Prop :=
  ∀ other, other ≠ name → env.get? other = env'.get? other

/-- A dimension that an expression mentions is found in its text. -/
theorem Dimension.mem_referenced {source : String} {e : Expr} (h : Expr.ofText source = .ok e)
    {dimension : Dimension} (hmentions : e.Mentions dimension.name) :
    dimension ∈ Dimension.referenced source := by
  obtain ⟨ws, hlexed, hderives, -⟩ := lexed_of_ofText h
  have hword : word (String.singleton dimension.letter) ∈ ws := hderives.word_mem hmentions
  have halone : standsAlone dimension.letter false source.toList = true :=
    hlexed.standsAlone hderives.isChain_separated hword (by simp)
  cases dimension <;> simp [Dimension.referenced, halone]

theorem Dimension.eval_eq_of_notMem_referenced {source : String} {e : Expr}
    (h : Expr.ofText source = .ok e) {dimension : Dimension}
    (hnotMem : dimension ∉ Dimension.referenced source) {env env' : Env}
    (hagree : env.AgreeExcept dimension.name env') : e.eval env = e.eval env' := by
  refine e.eval_congr_of_mentions fun name hmentions => hagree name ?_
  rintro rfl
  exact hnotMem (Dimension.mem_referenced h hmentions)

/-- The variables of a cell on two areas that differ at most in a dimension. -/
theorem agreeExcept_cellEnv {dimension : Dimension} {height width height' width' : Int}
    (hheight : dimension ≠ .height → height = height')
    (hwidth : dimension ≠ .width → width = width') (row col : Int) :
    Env.AgreeExcept dimension.name (cellEnv row col height width)
      (cellEnv row col height' width') := by
  intro other hother
  cases dimension with
  | height =>
      obtain rfl := hwidth (by decide)
      have hne : "H" ≠ other := fun h => hother (h ▸ rfl)
      simp [cellEnv, Env.get?, hne]
  | width =>
      obtain rfl := hheight (by decide)
      have hne : "W" ≠ other := fun h => hother (h ▸ rfl)
      simp [cellEnv, Env.get?, hne]

/-- A dimension to which an expression text does not refer has no influence on the value or the
fault of the expression. So the truth of a rule at a cell of two areas, which differ at most in one
dimension, differs only if the dimension is a parameter of the rule. -/
theorem Dimension.referenced_of_influence (dimension : Dimension) :
    (∀ source e, Expr.ofText source = .ok e → dimension ∉ Dimension.referenced source →
      ∀ env env', Env.AgreeExcept dimension.name env env' → e.eval env = e.eval env') ∧
    ∀ (rule : Rule) table test, rule.test table = .ok test → ∀ cell height width height' width',
      (dimension ≠ .height → height = height') → (dimension ≠ .width → width = width') →
      test.holds cell height width ≠ test.holds cell height' width' →
      dimension ∈ rule.parameters := by
  constructor
  · intro source e h hnotMem env env' hagree
    exact Dimension.eval_eq_of_notMem_referenced h hnotMem hagree
  · intro rule table test htest cell height width height' width' hheight hwidth hdiffers
    unfold Rule.test at htest
    split at htest
    · obtain rfl := Except.ok.inj htest
      exact absurd rfl hdiffers
    · next hfamily =>
        split at htest
        · cases htest
        · next condition hcondition =>
            obtain rfl := Except.ok.inj htest
            rw [Rule.parameters, if_neg hfamily]
            by_contra hnotMem
            have heval := Dimension.eval_eq_of_notMem_referenced hcondition hnotMem
              (agreeExcept_cellEnv hheight hwidth cell.row cell.col)
            exact hdiffers (by simp [Test.holds, heval])

/-- The rule of the last column, with a remark that does not refer to the height. -/
def Rule.lastColumn : Rule where
  family := .verticalLine
  symbol := "|"
  condition := "c==W-1 // 2H"

/-- The column is the last one. -/
def inLastColumn : Expr :=
  .binary .equal (.var "c") (.binary .minus (.var "W") (.number 1))

theorem ofText_lastColumn : Expr.ofText Rule.lastColumn.condition = .ok inLastColumn := by
  have hfront : frontLexemes? 7 Rule.lastColumn.condition.toList =
      some ([word "c", symbol "==", word "W", symbol "-", ⟨.number, "1"⟩], []) := by
    decide +kernel
  have hcol : Derives 3 [word "c"] (.var "c") := (Derives.name "c").looser (by decide) le_rfl
  have hwidth : Derives 5 [word "W"] (.var "W") := (Derives.name "W").looser (by decide) le_rfl
  have hone : Derives 6 [⟨.number, "1"⟩] (.number 1) := .tighter (by decide) (.number "1")
  have hlast : Derives 4 _ _ :=
    (Derives.binary .minus rfl hwidth hone).looser (by decide) (by decide)
  have hall : Derives 1 _ inLastColumn :=
    (Derives.binary .equal rfl hcol hlast).looser (by decide) (by decide)
  exact ofText_of_lexed (lexed_of_frontLexemes? hfront) hall (by decide)

/-- The last column does not depend on the height, and other cells are last on a wider area. -/
theorem Dimension.referenced_of_influence_lastColumn :
    (∃ e, Expr.ofText Rule.lastColumn.condition = .ok e ∧
      Dimension.height ∉ Dimension.referenced Rule.lastColumn.condition ∧
      e.eval (cellEnv 0 4 7 5) = e.eval (cellEnv 0 4 9 5)) ∧
    ∃ test, Rule.lastColumn.test [] = .ok test ∧
      test.holds ⟨0, 4⟩ 7 5 ≠ test.holds ⟨0, 4⟩ 7 6 ∧
        Dimension.width ∈ Rule.lastColumn.parameters := by
  constructor
  · have hnotMem : Dimension.height ∉ Dimension.referenced Rule.lastColumn.condition := by
      decide +kernel
    have hagree : Env.AgreeExcept Dimension.height.name (cellEnv 0 4 7 5) (cellEnv 0 4 9 5) :=
      agreeExcept_cellEnv (fun h => absurd rfl h) (fun _ => rfl) 0 4
    exact ⟨_, ofText_lastColumn, hnotMem, (Dimension.referenced_of_influence .height).1 _ _
      ofText_lastColumn hnotMem _ _ hagree⟩
  · have htest : Rule.lastColumn.test [] = .ok (.formula inLastColumn) := by
      rw [Rule.test, if_neg (by decide), ofText_lastColumn]
    have hdiffers : Test.holds (.formula inLastColumn) ⟨0, 4⟩ 7 5 ≠
        Test.holds (.formula inLastColumn) ⟨0, 4⟩ 7 6 := by
      decide +kernel
    exact ⟨_, htest, hdiffers,
      (Dimension.referenced_of_influence .width).2 _ _ _ htest ⟨0, 4⟩ 7 5 7 6
      (fun _ => rfl) (fun h => absurd rfl h) hdiffers⟩

end GridRules
