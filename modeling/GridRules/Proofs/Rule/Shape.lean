import GridRules.Program.Interpreter
import GridRules.Proofs.Mask
import GridRules.Proofs.Outcome
import GridRules.Proofs.Rule.Position
import GridRules.Rule.Discovery

/-!
# Shapes

The condition that the test of a family finds for a mask is an expression, and at the size of the
mask it holds exactly for the marked cells. The conditions of the families without positions hold at
every size exactly for the cells of a shape.
-/

namespace GridRules

open Program

/-- The text is a condition that holds exactly for the marked cells of a mask. -/
def Describes (condition : String) (mask : Mask) : Prop :=
  ∃ e, Writes 1 condition.toList e ∧
    ∀ r < mask.height, ∀ c < mask.width,
      Decides (cellEnv r c mask.height mask.width) e (mask.isMarked r c = true)

/-- A shape: the cells, by row and column, that belong to it at a height and a width. -/
abbrev Shape := (row col height width : Int) → Prop

/-- The text is a condition that holds at every size exactly for the cells of a shape. -/
def Means (condition : String) (shape : Shape) : Prop :=
  ∃ e, Writes 1 condition.toList e ∧ ∀ row col height width : Int, 0 ≤ row → 0 ≤ col →
    Decides (cellEnv row col height width) e (shape row col height width)

/-- A condition describes a mask if the mask agrees with its shape. -/
theorem Means.describes {condition : String} {shape : Shape} (h : Means condition shape)
    {mask : Mask} {marks : Nat → Nat → Bool} (hagrees : mask.agrees marks = true)
    (hmarks : ∀ r < mask.height, ∀ c < mask.width,
      (shape r c mask.height mask.width ↔ marks r c = true)) :
    Describes condition mask := by
  obtain ⟨e, hwrites, hdecides⟩ := h
  refine ⟨e, hwrites, ?_⟩
  intro r hr c hc
  rw [Mask.agrees_iff_isMarked.1 hagrees r hr c hc]
  exact (hdecides r c _ _ (by omega) (by omega)).congr (hmarks r hr c hc)

/-! ### Parts of conditions -/

theorem writes_row : Writes 7 "r".toList (.var "r") :=
  writes_variable (by decide)

theorem writes_col : Writes 7 "c".toList (.var "c") :=
  writes_variable (by decide)

theorem writes_height : Writes 7 "H".toList (.var "H") :=
  writes_variable (by decide)

theorem writes_width : Writes 7 "W".toList (.var "W") :=
  writes_variable (by decide)

theorem writes_digit (n : Nat) (h : n < 10) : Writes 7 n.repr.toList (.number n) :=
  writes_repr (Text.lt_leastLong_of_lt_ten h)

variable {row col height width : Int}

theorem eval_row : Expr.eval (cellEnv row col height width) (.var "r") = .ok row := rfl

theorem eval_col : Expr.eval (cellEnv row col height width) (.var "c") = .ok col := rfl

theorem eval_height : Expr.eval (cellEnv row col height width) (.var "H") = .ok height := rfl

theorem eval_width : Expr.eval (cellEnv row col height width) (.var "W") = .ok width := rfl

theorem eval_number {env : Env} (n : Nat) : Expr.eval env (.number n) = .ok n := rfl

/-- The one of two values, of the row or the height and of the column or the width, that belongs to
a side. -/
def Dimension.along (dimension : Dimension) (ofHeight ofWidth : Int) : Int :=
  match dimension with
  | .height => ofHeight
  | .width => ofWidth

theorem get?_dimension (dimension : Dimension) :
    (cellEnv row col height width).get? dimension.name = some (dimension.along height width) := by
  cases dimension <;> rfl

theorem positionText_eq_ok_iff {i side : Nat} {dimension : Dimension} {text : String} :
    Finding.positionText i side dimension = .ok text ↔
      relativeText? i side dimension.name = some text := by
  rw [Finding.positionText]
  split <;> simp_all

/-- The text of a position along a side. -/
theorem writes_position {i side : Nat} {dimension : Dimension} {text : String}
    (h : Finding.positionText i side dimension = .ok text) :
    ∃ e, Writes 5 text.toList e ∧
      ∀ env : Env, env.get? dimension.name = some (side : Int) → e.eval env = .ok (i : Int) :=
  writes_relativeText? (positionText_eq_ok_iff.1 h) (Int.natCast_nonneg side)

/-- The condition that a cell lies in a rectangle, given by texts of its bounds. -/
theorem writes_rectangle {top bottom left right : String} {e₁ e₂ e₃ e₄ : Expr}
    (htop : Writes 5 top.toList e₁) (hbottom : Writes 5 bottom.toList e₂)
    (hleft : Writes 5 left.toList e₃) (hright : Writes 5 right.toList e₄) :
    Writes 1 ("r >= " ++ top ++ " && r < " ++ bottom ++ " && c >= " ++ left ++ " && c < "
        ++ right).toList
      (.binary .and (.binary .and (.binary .and (.binary .atLeast (.var "r") e₁)
        (.binary .less (.var "r") e₂)) (.binary .atLeast (.var "c") e₃))
        (.binary .less (.var "c") e₄)) := by
  have h₁ := writes_row.operator .atLeast htop (by decide)
  have h₂ := writes_row.operator .less hbottom (by decide)
  have h₃ := writes_col.operator .atLeast hleft (by decide)
  have h₄ := writes_col.operator .less hright (by decide)
  have hrows := h₁.operator .and h₂ (by decide)
  have h := (hrows.operator .and h₃ (by decide)).operator .and h₄ (by decide)
  have hwrites : Writes 1 _ _ := h.looser (by decide) (by decide)
  simpa [BinaryOperator.text] using hwrites

theorem decides_rectangle {e₁ e₂ e₃ e₄ : Expr} {top bottom left right : Int}
    (htop : e₁.eval (cellEnv row col height width) = .ok top)
    (hbottom : e₂.eval (cellEnv row col height width) = .ok bottom)
    (hleft : e₃.eval (cellEnv row col height width) = .ok left)
    (hright : e₄.eval (cellEnv row col height width) = .ok right) :
    Decides (cellEnv row col height width)
      (.binary .and (.binary .and (.binary .and (.binary .atLeast (.var "r") e₁)
        (.binary .less (.var "r") e₂)) (.binary .atLeast (.var "c") e₃))
        (.binary .less (.var "c") e₄))
      ((top ≤ row ∧ row < bottom) ∧ left ≤ col ∧ col < right) := by
  have hrows := (decides_atLeast eval_row htop).and (decides_less eval_row hbottom)
  have hcolumns := (hrows.and (decides_atLeast eval_col hleft)).and (decides_less eval_col hright)
  exact hcolumns.congr and_assoc

/-! ### Conditions without positions -/

theorem means_fill : Means "true" fun _ _ _ _ => True := by
  have hfront : frontLexemes? 1 "true".toList = some ([⟨.name, "true"⟩], []) := by
    decide +kernel
  have hwrites : Writes 1 "true".toList (.truth true) :=
    writes_of_frontLexemes? hfront (by decide) ((Derives.name "true").looser (by decide) le_rfl)
      (by decide)
  exact ⟨_, hwrites, fun _ _ _ _ _ _ => ⟨true, rfl, by simp⟩⟩

theorem means_border : Means "r == 0 || r == H-1 || c == 0 || c == W-1"
    fun row col height width => row = 0 ∨ row = height - 1 ∨ col = 0 ∨ col = width - 1 := by
  have hzero := writes_digit 0 (by decide)
  have htop := writes_row.operator .equal hzero (by decide)
  have hbottom := writes_row.operator .equal (writes_relativeSuffix "H" (by decide) (.head _))
    (by decide)
  have hleft := writes_col.operator .equal hzero (by decide)
  have hright := writes_col.operator .equal (writes_relativeSuffix "W" (by decide) (.head _))
    (by decide)
  have hrows := htop.operator .or hbottom (by decide)
  have hwrites := (hrows.operator .or hleft (by decide)).operator .or hright (by decide)
  refine ⟨_, hwrites, ?_⟩
  intro row col height width _ _
  refine ((((decides_equal eval_row (eval_number 0)).or
    (decides_equal eval_row (eval_minus eval_height (eval_number 1)))).or
    (decides_equal eval_col (eval_number 0))).or
    (decides_equal eval_col (eval_minus eval_width (eval_number 1)))).congr ?_
  omega

theorem means_diagonal : Means "r == c" fun row col _ _ => row = col := by
  have hwrites := writes_row.operator .equal writes_col (by decide)
  refine ⟨_, hwrites.looser (by decide) (by decide), ?_⟩
  intro row col height width _ _
  exact decides_equal eval_row eval_col

theorem means_antiDiagonal_height : Means "r + c == H - 1 && c < H"
    fun row col height _ => row + col = height - 1 ∧ col < height := by
  have hsum := writes_row.operator .plus writes_col (by decide)
  have hlast := writes_height.operator .minus (writes_digit 1 (by decide)) (by decide)
  have hless := writes_col.operator .less writes_height (by decide)
  have hwrites := (hsum.operator .equal hlast (by decide)).operator .and hless (by decide)
  refine ⟨_, hwrites.looser (by decide) (by decide), ?_⟩
  intro row col height width _ _
  exact (decides_equal (eval_plus eval_row eval_col)
    (eval_minus eval_height (eval_number 1))).and (decides_less eval_col eval_height)

theorem means_antiDiagonal_width : Means "r + c == W - 1 && r < W"
    fun row col _ width => row + col = width - 1 ∧ row < width := by
  have hsum := writes_row.operator .plus writes_col (by decide)
  have hlast := writes_width.operator .minus (writes_digit 1 (by decide)) (by decide)
  have hless := writes_row.operator .less writes_width (by decide)
  have hwrites := (hsum.operator .equal hlast (by decide)).operator .and hless (by decide)
  refine ⟨_, hwrites.looser (by decide) (by decide), ?_⟩
  intro row col height width _ _
  exact (decides_equal (eval_plus eval_row eval_col)
    (eval_minus eval_width (eval_number 1))).and (decides_less eval_row eval_width)

theorem means_parity (parity : Nat) (hparity : parity < 2) :
    Means ("(r + c) % 2 == " ++ parity.repr) fun row col _ _ => (row + col) % 2 = parity := by
  have hsum := writes_row.operator .plus writes_col (by decide)
  have hparentheses : Writes 7 "(r + c)".toList (.binary .plus (.var "r") (.var "c")) :=
    (hsum.looser (by decide) (by decide)).parentheses
  have hremainder := hparentheses.operator .remainder (writes_digit 2 (by decide)) (by decide)
  have hwrites := hremainder.operator .equal (writes_digit parity (by omega)) (by decide)
  refine ⟨_, hwrites.looser (by decide) (by decide), ?_⟩
  intro row col height width hrow hcol
  refine (decides_equal (eval_remainder (eval_plus eval_row eval_col) (eval_number 2) (by decide))
    (eval_number parity)).congr ?_
  rw [Int.tmod_eq_emod_of_nonneg (by omega)]
  rfl

/-! ### The families -/

variable {mask : Mask} {finding : Finding}

/-- A comparison cell by cell has an outcome exactly if there are not too many cells. -/
theorem indexed_eq_ok_iff {α : Type} {outcome found : α} :
    mask.indexed outcome = .ok found ↔
      max 1 mask.height * max 1 mask.width < Mask.indexLimit ∧ outcome = found := by
  rw [Mask.indexed, ← not_le]
  split <;> simp_all

theorem fill?_eq_some (h : Finding.find? mask .fill = .ok (some finding)) :
    finding.condition = "true" ∧ mask.agrees (fun _ _ => true) = true := by
  obtain ⟨hagrees, rfl⟩ := Option.ite_some_none_eq_some.1 (Except.ok.inj h)
  exact ⟨rfl, hagrees⟩

theorem border?_eq_some (h : Finding.find? mask .border = .ok (some finding)) :
    finding.condition = "r == 0 || r == H-1 || c == 0 || c == W-1" ∧
      mask.agrees (fun r c =>
        r == 0 || r + 1 == mask.height || c == 0 || c + 1 == mask.width) = true := by
  obtain ⟨hagrees, rfl⟩ := Option.ite_some_none_eq_some.1 (indexed_eq_ok_iff.1 h).2
  exact ⟨rfl, hagrees⟩

theorem diagonal?_eq_some (h : Finding.find? mask .diagonal = .ok (some finding)) :
    finding.condition = "r == c" ∧ mask.agrees (fun r c => r == c) = true := by
  obtain ⟨hagrees, rfl⟩ := Option.ite_some_none_eq_some.1 (indexed_eq_ok_iff.1 h).2
  exact ⟨rfl, hagrees⟩

theorem antiDiagonal?_eq_some (h : Finding.find? mask .antiDiagonal = .ok (some finding)) :
    (finding.condition = if mask.height ≤ mask.width then "r + c == H - 1 && c < H"
      else "r + c == W - 1 && r < W") ∧
      mask.agrees (fun r c => r + c + 1 == min mask.height mask.width &&
        r < min mask.height mask.width && c < min mask.height mask.width) = true := by
  obtain ⟨hagrees, rfl⟩ := Option.ite_some_none_eq_some.1 (indexed_eq_ok_iff.1 h).2
  exact ⟨rfl, hagrees⟩

/-- A checkerboard has a marked cell, and the marked cells are those of one parity. -/
theorem checkerboard?_eq_some (h : Finding.find? mask .checkerboard = .ok (some finding)) :
    mask.count ≠ 0 ∧ ∃ parity < 2, finding.condition = "(r + c) % 2 == " ++ parity.repr ∧
      mask.agrees (fun r c => (r + c) % 2 == parity) = true := by
  rw [Finding.find?] at h
  split at h
  · next hhalf =>
      have hcount : mask.count ≠ 0 := by
        simp only [Mask.isAboutHalf, Bool.and_eq_true, bne_iff_ne] at hhalf
        exact hhalf.1.1
      refine ⟨hcount, ?_⟩
      have hfound := (indexed_eq_ok_iff.1 h).2
      unfold Finding.checkerboard? at hfound
      split at hfound
      · next hagrees =>
          obtain rfl := Option.some.inj hfound
          exact ⟨0, by omega, rfl, hagrees⟩
      split at hfound
      · next hagrees =>
          obtain rfl := Option.some.inj hfound
          exact ⟨1, by omega, rfl, hagrees⟩
      · cases hfound
  · cases h

/-- A horizontal line is one row with all of its cells. -/
theorem horizontalLine?_eq_some (h : Finding.find? mask .horizontalLine = .ok (some finding)) :
    ∃ r < mask.height, (∀ i j, mask.isMarked i j = true ↔ i = r ∧ j < mask.width) ∧
      ∃ text, Finding.positionText r mask.height .height = .ok text ∧
        finding =
          .ofPositions ("r == " ++ text) (Finding.isRelative text .height) .literalLine := by
  rw [Finding.find?, Finding.horizontalLine?] at h
  split at h
  · next hcount =>
      split at h
      · next r hrows =>
          obtain ⟨text, htext, hfound⟩ := bind_eq_ok h
          obtain rfl := Option.some.inj (Except.ok.inj hfound)
          have hr : r < mask.height := Mask.lt_height_of_mem_rows (by simp [hrows])
          exact ⟨r, hr, Mask.isMarked_iff_of_rows hcount hrows, text, htext, rfl⟩
      · cases h
  · cases h

/-- A vertical line is one column with all of its cells. -/
theorem verticalLine?_eq_some (h : Finding.find? mask .verticalLine = .ok (some finding)) :
    ∃ c < mask.width, (∀ i j, mask.isMarked i j = true ↔ i < mask.height ∧ j = c) ∧
      ∃ text, Finding.positionText c mask.width .width = .ok text ∧
        finding =
          .ofPositions ("c == " ++ text) (Finding.isRelative text .width) .literalLine := by
  rw [Finding.find?, Finding.verticalLine?] at h
  split at h
  · next hcount =>
      split at h
      · next c hcolumns =>
          obtain ⟨text, htext, hfound⟩ := bind_eq_ok h
          obtain rfl := Option.some.inj (Except.ok.inj hfound)
          have hc : c < mask.width := Mask.lt_width_of_mem_columns (by simp [hcolumns])
          exact ⟨c, hc, Mask.isMarked_iff_of_columns hcount hcolumns, text, htext, rfl⟩
      · cases h
  · cases h

/-- A rectangle is given by the texts of its bounds. -/
theorem rectangle_eq_ok {top bottom left right : Nat}
    (h : Finding.rectangle mask top bottom left right = .ok finding) :
    ∃ r₁ r₂ c₁ c₂, Finding.positionText top mask.height .height = .ok r₁ ∧
      Finding.positionText bottom mask.height .height = .ok r₂ ∧
      Finding.positionText left mask.width .width = .ok c₁ ∧
      Finding.positionText right mask.width .width = .ok c₂ ∧
      finding =
        .ofPositions ("r >= " ++ r₁ ++ " && r < " ++ r₂ ++ " && c >= " ++ c₁ ++ " && c < " ++ c₂)
          (Finding.isRelative r₁ .height || Finding.isRelative r₂ .height
            || Finding.isRelative c₁ .width || Finding.isRelative c₂ .width)
          .literalRectangle := by
  obtain ⟨r₁, h₁, h⟩ := bind_eq_ok h
  obtain ⟨r₂, h₂, h⟩ := bind_eq_ok h
  obtain ⟨c₁, h₃, h⟩ := bind_eq_ok h
  obtain ⟨c₂, h₄, h⟩ := bind_eq_ok h
  exact ⟨r₁, r₂, c₁, c₂, h₁, h₂, h₃, h₄, (Except.ok.inj h).symm⟩

/-- A filled rectangle has all the cells between its bounds, the last ones left out. -/
theorem filledRectangle?_eq_some (h : Finding.find? mask .filledRectangle = .ok (some finding)) :
    ∃ top bottom left right : Nat, (top < bottom ∧ bottom ≤ mask.height) ∧
      (left < right ∧ right ≤ mask.width) ∧
      (∀ r c, mask.isMarked r c = true ↔ (top ≤ r ∧ r < bottom) ∧ left ≤ c ∧ c < right) ∧
      Finding.rectangle mask top bottom left right = .ok finding := by
  rw [Finding.find?, Finding.filledRectangle?] at h
  split at h
  · next top bottom left right htop hbottom hleft hright =>
      split at h
      · next hcount =>
          obtain ⟨found, hfound, hsome⟩ := map_eq_ok h
          obtain rfl := Option.some.inj hsome
          have hmarked (r c : Nat) : mask.isMarked r c = true ↔
              (top ≤ r ∧ r ≤ bottom) ∧ left ≤ c ∧ c ≤ right :=
            Mask.isMarked_iff_of_bounds htop hbottom hleft hright hcount r c
          have hheight := Mask.lt_height_of_mem_rows (List.mem_of_getLast? hbottom)
          have hwidth := Mask.lt_width_of_mem_columns (List.mem_of_getLast? hright)
          -- The first row has a marked cell, which lies between all four bounds.
          obtain ⟨c, hc⟩ := Mask.mem_rows.1 (List.mem_of_head? htop)
          have hcorner := (hmarked top c).1 hc
          refine ⟨top, bottom + 1, left, right + 1, by omega, by omega, ?_, hfound⟩
          intro r c
          rw [hmarked]
          omega
      · cases h
  · cases h

theorem fill?_describes (h : Finding.find? mask .fill = .ok (some finding)) :
    Describes finding.condition mask := by
  obtain ⟨hcondition, hagrees⟩ := fill?_eq_some h
  rw [hcondition]
  exact Means.describes means_fill hagrees fun _ _ _ _ => by simp

theorem border?_describes (h : Finding.find? mask .border = .ok (some finding)) :
    Describes finding.condition mask := by
  obtain ⟨hcondition, hagrees⟩ := border?_eq_some h
  rw [hcondition]
  refine Means.describes means_border hagrees ?_
  intro r hr c hc
  simp only [Bool.or_eq_true, beq_iff_eq]
  omega

theorem diagonal?_describes (h : Finding.find? mask .diagonal = .ok (some finding)) :
    Describes finding.condition mask := by
  obtain ⟨hcondition, hagrees⟩ := diagonal?_eq_some h
  rw [hcondition]
  exact Means.describes means_diagonal hagrees fun _ _ _ _ => by simp

theorem antiDiagonal?_describes (h : Finding.find? mask .antiDiagonal = .ok (some finding)) :
    Describes finding.condition mask := by
  obtain ⟨hcondition, hagrees⟩ := antiDiagonal?_eq_some h
  rw [hcondition]
  split
  · refine Means.describes means_antiDiagonal_height hagrees ?_
    intro r hr c hc
    simp only [Bool.and_eq_true, beq_iff_eq, decide_eq_true_eq]
    omega
  · refine Means.describes means_antiDiagonal_width hagrees ?_
    intro r hr c hc
    simp only [Bool.and_eq_true, beq_iff_eq, decide_eq_true_eq]
    omega

theorem checkerboard?_describes (h : Finding.find? mask .checkerboard = .ok (some finding)) :
    Describes finding.condition mask := by
  obtain ⟨-, parity, hparity, hcondition, hagrees⟩ := checkerboard?_eq_some h
  rw [hcondition]
  refine (means_parity parity hparity).describes hagrees ?_
  intro r hr c hc
  rw [beq_iff_eq]
  omega

theorem horizontalLine?_describes (h : Finding.find? mask .horizontalLine = .ok (some finding)) :
    Describes finding.condition mask := by
  obtain ⟨r, hr, hmarked, text, htext, rfl⟩ := horizontalLine?_eq_some h
  obtain ⟨e, hwrites, heval⟩ := writes_position htext
  have hequal := writes_row.operator .equal hwrites (by decide)
  refine ⟨_, hequal.looser (by decide) (by decide), ?_⟩
  intro i _ j hj
  refine (decides_equal eval_row (heval _ (get?_dimension .height))).congr ?_
  rw [hmarked]
  omega

theorem verticalLine?_describes (h : Finding.find? mask .verticalLine = .ok (some finding)) :
    Describes finding.condition mask := by
  obtain ⟨c, hc, hmarked, text, htext, rfl⟩ := verticalLine?_eq_some h
  obtain ⟨e, hwrites, heval⟩ := writes_position htext
  have hequal := writes_col.operator .equal hwrites (by decide)
  refine ⟨_, hequal.looser (by decide) (by decide), ?_⟩
  intro i hi j _
  refine (decides_equal eval_col (heval _ (get?_dimension .width))).congr ?_
  rw [hmarked]
  omega

theorem filledRectangle?_describes
    (h : Finding.find? mask .filledRectangle = .ok (some finding)) :
    Describes finding.condition mask := by
  obtain ⟨top, bottom, left, right, -, -, hmarked, hrectangle⟩ := filledRectangle?_eq_some h
  obtain ⟨r₁, r₂, c₁, c₂, h₁, h₂, h₃, h₄, rfl⟩ := rectangle_eq_ok hrectangle
  obtain ⟨e₁, hwrites₁, heval₁⟩ := writes_position h₁
  obtain ⟨e₂, hwrites₂, heval₂⟩ := writes_position h₂
  obtain ⟨e₃, hwrites₃, heval₃⟩ := writes_position h₃
  obtain ⟨e₄, hwrites₄, heval₄⟩ := writes_position h₄
  refine ⟨_, writes_rectangle hwrites₁ hwrites₂ hwrites₃ hwrites₄, ?_⟩
  intro r _ c _
  refine (decides_rectangle (heval₁ _ (get?_dimension .height))
    (heval₂ _ (get?_dimension .height)) (heval₃ _ (get?_dimension .width))
    (heval₄ _ (get?_dimension .width))).congr ?_
  rw [hmarked]
  omega

/-- What the test of a family finds for a mask describes its cells. -/
theorem find?_describes {family : Family} (h : Finding.find? mask family = .ok (some finding)) :
    Describes finding.condition mask := by
  cases family with
  | fill => exact fill?_describes h
  | border => exact border?_describes h
  | diagonal => exact diagonal?_describes h
  | antiDiagonal => exact antiDiagonal?_describes h
  | horizontalLine => exact horizontalLine?_describes h
  | verticalLine => exact verticalLine?_describes h
  | filledRectangle => exact filledRectangle?_describes h
  | checkerboard => exact checkerboard?_describes h
  | coordinateSet => cases h

end GridRules
