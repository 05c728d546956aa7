import GridRules.Proofs.Rule.Parameters
import GridRules.Proofs.Rule.Scaling

/-!
# Rules that move

The position of a line and the bounds of a rectangle are written relative to a side, and then they
move along with it, or as numbers. A rule is reported as one that scales exactly if its condition
differs in truth at some cell of two sizes, and exactly if it has a parameter.
-/

namespace GridRules

open Program

/-! ### Positions at other sizes -/

/-- A position that moves along with a side: at size one it lies at most at one, and it passes every
bound as the side grows. -/
structure Moving (position : Int → Int) : Prop where
  low : position 1 ≤ 1
  unbounded : ∀ bound, ∃ size, 1 ≤ size ∧ bound < position size

theorem moving_minus (n : Nat) : Moving fun size => size - n where
  low := by omega
  unbounded bound := ⟨max 1 (bound + n + 1), by omega, by omega⟩

theorem moving_divide {n : Nat} (hn : n ≠ 0) : Moving fun size => size.fdiv n where
  low := by
    rw [Int.fdiv_eq_ediv_of_nonneg _ (by omega)]
    exact Int.ediv_le_self _ (by decide)
  unbounded bound := by
    refine ⟨n * (max 1 (bound + 1)), ?_, ?_⟩
    · have : (1 : Int) * 1 ≤ n * max 1 (bound + 1) := by
        apply Int.mul_le_mul <;> omega
      omega
    · rw [Int.fdiv_eq_ediv_of_nonneg _ (by omega), Int.mul_ediv_cancel_left _ (by omega)]
      omega

/-- The text writes a position along a side, for every size of the side. If it is written relative
to the side, the position moves; else it stays, and the text names no side. -/
structure Tracks (text : String) (dimension : Dimension) (position : Int → Int) : Prop where
  writes : ∃ e, Writes 5 text.toList e ∧ ∀ (env : Env) size, 0 ≤ size →
    env.get? dimension.name = some size → e.eval env = .ok (position size)
  moving : Finding.isRelative text dimension = true → Moving position
  fixed : Finding.isRelative text dimension = false →
    (∀ size other, position size = position other) ∧ ∀ d : Dimension, d.letter ∉ text.toList

variable {text : String} {dimension : Dimension} {position : Int → Int}

theorem isRelative_name_append (dimension : Dimension) (suffix : String) :
    Finding.isRelative (dimension.name ++ suffix) dimension = true := by
  simp [Finding.isRelative, Dimension.name]

theorem Dimension.name_mem (dimension : Dimension) : dimension.name ∈ ["H", "W"] := by
  cases dimension <;> decide

theorem tracks_name (dimension : Dimension) : Tracks dimension.name dimension fun size => size where
  writes := by
    have hwrites := writes_variable (List.mem_of_mem_drop
      (show dimension.name ∈ ["r", "c", "H", "W"].drop 2 from dimension.name_mem))
    exact ⟨_, hwrites.looser (by omega) le_rfl, fun env size _ h => by simp [h]⟩
  moving _ := by simpa using moving_minus 0
  fixed h := by
    have hrelative := isRelative_name_append dimension ""
    rw [String.append_empty, h] at hrelative
    cases hrelative

theorem tracks_minus (dimension : Dimension) {suffix : String} {n : Nat}
    (h : (suffix, .minus, n) ∈ relativeSuffixes) :
    Tracks (dimension.name ++ suffix) dimension fun size => size - n where
  writes := ⟨_, writes_relativeSuffix _ (dimension.name_mem) h, fun env size _ h =>
    eval_minus (a := size) (b := n) (by simp [h]) rfl⟩
  moving _ := moving_minus n
  fixed h := by simp [isRelative_name_append] at h

theorem tracks_divide (dimension : Dimension) {suffix : String} {n : Nat}
    (h : (suffix, .divide, n) ∈ relativeSuffixes) (hn : n ≠ 0) :
    Tracks (dimension.name ++ suffix) dimension fun size => size.fdiv n where
  writes := ⟨_, writes_relativeSuffix _ (dimension.name_mem) h, fun env size hsize h =>
    eval_divide_number hsize h n hn⟩
  moving _ := moving_divide hn
  fixed h := by simp [isRelative_name_append] at h

theorem letter_notMem_toString (dimension : Dimension) (n : Nat) :
    dimension.letter ∉ (toString (n : Int)).toList :=
  Text.notMem_toString (by cases dimension <;> decide) (by cases dimension <;> decide) n

theorem tracks_number (dimension : Dimension) {n : Nat} (h : n < Text.leastLong) :
    Tracks (toString (n : Int)) dimension fun _ => n where
  writes := ⟨_, (writes_ofInt (n := n) h).looser (by omega) le_rfl, fun env _ _ _ =>
    Expr.eval_ofInt env n⟩
  moving hrelative := by
    have hnone := letter_notMem_toString dimension n
    rw [Finding.isRelative, List.contains_iff_mem] at hrelative
    exact absurd hrelative hnone
  fixed _ := ⟨fun _ _ => rfl, fun d => letter_notMem_toString d n⟩

/-- The text of a position along a side writes this position at the size of the side. -/
theorem exists_tracks {i side : Nat} (h : Finding.positionText i side dimension = .ok text) :
    ∃ position, Tracks text dimension position ∧ position side = i := by
  have htext := positionText_eq_ok_iff.1 h
  unfold relativeText? at htext
  split at htext
  · next hzero =>
      obtain rfl := Option.some.inj htext
      exact ⟨_, tracks_number dimension (n := 0) (Text.lt_leastLong_of_lt_ten (by decide)),
        hzero.symm⟩
  split at htext
  · next hfull =>
      obtain rfl := Option.some.inj htext
      exact ⟨_, tracks_name dimension, hfull.symm⟩
  split at htext
  · next hlast =>
      obtain rfl := Option.some.inj htext
      exact ⟨_, tracks_minus dimension (.head _), hlast.symm⟩
  split at htext
  · next hhalf =>
      obtain rfl := Option.some.inj htext
      exact ⟨_, tracks_divide dimension (.tail _ (.head _)) (by decide), hhalf.symm⟩
  split at htext
  · next hlast =>
      obtain rfl := Option.some.inj htext
      exact ⟨_, tracks_minus dimension (.tail _ (.tail _ (.head _))), hlast.symm⟩
  split at htext
  · next hfourth =>
      obtain rfl := Option.some.inj htext
      exact ⟨_, tracks_divide dimension (.tail _ (.tail _ (.tail _ (.head _)))) (by decide),
        hfourth.2.symm⟩
  split at htext
  · next hthird =>
      obtain rfl := Option.some.inj htext
      exact ⟨_, tracks_divide dimension (.tail _ (.tail _ (.tail _ (.tail _ (.head _)))))
        (by decide), hthird.2.symm⟩
  · obtain ⟨hshort, rfl⟩ := Option.ite_some_none_eq_some.1 htext
    exact ⟨_, tracks_number dimension (by simpa using hshort), rfl⟩

/-! ### Conditions at other sizes -/

/-- At some cell of two sizes the condition has values of different truth. -/
def Moves (condition : String) : Prop :=
  ∃ row col height width height' width' value value' : Int, (0 ≤ row ∧ 0 ≤ col) ∧
    (1 ≤ height ∧ 1 ≤ width) ∧ (1 ≤ height' ∧ 1 ≤ width') ∧
    evaluate condition row col height width = .ok value ∧
    evaluate condition row col height' width' = .ok value' ∧ ¬ (value = 0 ↔ value' = 0)

/-- The condition has a value at every cell of every size, which is not zero exactly on the cells of
a shape. -/
def Draws (condition : String) (shape : Shape) : Prop :=
  ∀ row col height width : Int, 1 ≤ height → 1 ≤ width →
    ∃ value, evaluate condition row col height width = .ok value ∧
      (value ≠ 0 ↔ shape row col height width)

theorem draws_of_decides {condition : String} {shape : Shape} {e : Expr}
    (hwrites : Writes 1 condition.toList e)
    (h : ∀ row col height width : Int, 1 ≤ height → 1 ≤ width →
      Decides (cellEnv row col height width) e (shape row col height width)) :
    Draws condition shape := by
  intro row col height width hheight hwidth
  obtain ⟨value, heval, hvalue⟩ := (h row col height width hheight hwidth).exists_value
  exact ⟨value, by simp [evaluate, hwrites.ofText, heval], hvalue⟩

/-- A condition moves if its shape gains or loses a cell. -/
theorem Draws.moves {condition : String} {shape : Shape} (h : Draws condition shape)
    {row col height width height' width' : Int} (hcell : 0 ≤ row ∧ 0 ≤ col)
    (hsize : 1 ≤ height ∧ 1 ≤ width) (hsize' : 1 ≤ height' ∧ 1 ≤ width')
    (hinside : shape row col height width) (houtside : ¬ shape row col height' width') :
    Moves condition := by
  obtain ⟨value, heval, hvalue⟩ := h row col height width hsize.1 hsize.2
  obtain ⟨value', heval', hvalue'⟩ := h row col height' width' hsize'.1 hsize'.2
  refine ⟨row, col, height, width, height', width', value, value', hcell, hsize, hsize', heval,
    heval', ?_⟩
  have hne : value ≠ 0 := hvalue.2 hinside
  have heq : value' = 0 := not_not.1 (mt hvalue'.1 houtside)
  simp [hne, heq]

/-- A condition that refers to no dimension has the same value at all sizes. -/
theorem evaluate_eq_of_referenced_eq_nil {condition : String}
    (h : Dimension.referenced condition = []) (row col height width height' width' : Int) :
    evaluate condition row col height width = evaluate condition row col height' width' := by
  have hnotMem (dimension : Dimension) : dimension ∉ Dimension.referenced condition := by
    simp [h]
  rw [evaluate, evaluate]
  cases htext : Expr.ofText condition with
  | error fault => rfl
  | ok e =>
      have heval := calc e.eval (cellEnv row col height width)
          _ = e.eval (cellEnv row col height' width) :=
            Dimension.eval_eq_of_notMem_referenced htext (hnotMem .height)
              (agreeExcept_cellEnv (fun hne => absurd rfl hne) (fun _ => rfl) row col)
          _ = e.eval (cellEnv row col height' width') :=
            Dimension.eval_eq_of_notMem_referenced htext (hnotMem .width)
              (agreeExcept_cellEnv (fun _ => rfl) (fun hne => absurd rfl hne) row col)
      simp only [heval]

theorem Moves.referenced_ne_nil {condition : String} (h : Moves condition) :
    Dimension.referenced condition ≠ [] := by
  obtain ⟨row, col, height, width, height', width', value, value', -, -, -, heval, heval',
    hdiffer⟩ := h
  intro hnone
  have hsame := evaluate_eq_of_referenced_eq_nil hnone row col height width height' width'
  obtain rfl : value = value' := Except.ok.inj (heval.symm.trans (hsame.trans heval'))
  exact hdiffer Iff.rfl

theorem mem_of_standsAlone {letter : Char} {text : List Char} {inWord : Bool}
    (h : Dimension.standsAlone letter inWord text = true) : letter ∈ text := by
  fun_induction Dimension.standsAlone letter inWord text with
  | case1 => cases h
  | case2 inWord c rest ih =>
      rw [Bool.or_eq_true] at h
      rcases h with hhere | hlater
      · obtain rfl : c = letter := by simp_all
        exact .head _
      · exact .tail _ (ih hlater)

/-- A text without the letters of the sides refers to no dimension. -/
theorem referenced_eq_nil {condition : String}
    (h : ∀ dimension : Dimension, dimension.letter ∉ condition.toList) :
    Dimension.referenced condition = [] := by
  rw [Dimension.referenced, List.filter_eq_nil_iff]
  intro dimension _ halone
  exact h dimension (mem_of_standsAlone halone)

/-! ### Lines -/

/-- What a finding says about its condition at other sizes is right. -/
structure Finding.IsHonest (finding : Finding) : Prop where
  evaluates : ∃ shape, Draws finding.condition shape
  moves : finding.scalable = true → Moves finding.condition
  fixed : finding.scalable = false → Dimension.referenced finding.condition = []
  confidence : finding.confidence.text = "1.0" ↔ finding.scalable = true

theorem confidence_ofPositions (condition : String) (scalable : Bool) {literal : Confidence}
    (h : literal.text ≠ "1.0") :
    (Finding.ofPositions condition scalable literal).confidence.text = "1.0" ↔
      (Finding.ofPositions condition scalable literal).scalable = true := by
  cases scalable with
  | false => exact iff_of_false h (by simp [Finding.ofPositions])
  | true => exact iff_of_true rfl rfl

/-- The variable of the index along a side. -/
def Dimension.index : Dimension → String
  | .height => "r"
  | .width => "c"

theorem writes_index (dimension : Dimension) :
    Writes 7 dimension.index.toList (.var dimension.index) := by
  cases dimension with
  | height => exact writes_row
  | width => exact writes_col

theorem eval_index (dimension : Dimension) {row col height width : Int} :
    Expr.eval (cellEnv row col height width) (.var dimension.index) =
      .ok (dimension.along row col) := by
  cases dimension <;> rfl

theorem along_nonneg (dimension : Dimension) {height width : Int} (hheight : 1 ≤ height)
    (hwidth : 1 ≤ width) : 0 ≤ dimension.along height width := by
  cases dimension <;> simp only [Dimension.along] <;> omega

theorem draws_line (h : Tracks text dimension position) :
    Draws (dimension.index ++ " == " ++ text) fun row col height width =>
      dimension.along row col = position (dimension.along height width) := by
  obtain ⟨e, hwrites, heval⟩ := h.writes
  have hequal := (writes_index dimension).operator .equal hwrites (by decide)
  refine draws_of_decides (hequal.looser (by decide) (by decide)) ?_
  intro row col height width hheight hwidth
  exact decides_equal (eval_index dimension)
    (heval _ _ (along_nonneg dimension hheight hwidth) (get?_dimension dimension))

/-- A line at a position on a side. -/
theorem isHonest_line (h : Tracks text dimension position) {side : Nat} (hside : 1 ≤ side)
    (hposition : 0 ≤ position side) :
    (Finding.ofPositions (dimension.index ++ " == " ++ text)
      (Finding.isRelative text dimension) .literalLine).IsHonest where
  evaluates := ⟨_, draws_line h⟩
  moves hmoves := by
    obtain ⟨size, hsize, hlater⟩ := (h.moving hmoves).unbounded (position side)
    have hsame (i : Int) : dimension.along i i = i := by cases dimension <;> rfl
    have hside : (1 : Int) ≤ side := by omega
    -- On squares both sides have the size that matters, so the cell may lie on the diagonal.
    refine (draws_line h).moves ⟨hposition, hposition⟩ ⟨hside, hside⟩ ⟨hsize, hsize⟩ ?_ ?_
    · simp only [hsame]
    · simp only [hsame]
      omega
  fixed hfixed := by
    refine referenced_eq_nil fun d => ?_
    have htext := (h.fixed hfixed).2 d
    have hplain : d.letter ∉ (dimension.index ++ " == ").toList := by
      cases d <;> cases dimension <;> decide
    simp only [Finding.ofPositions, String.toList_append, List.mem_append, not_or] at hplain ⊢
    exact ⟨hplain, htext⟩
  confidence := confidence_ofPositions _ _ (by decide)

/-! ### Rectangles -/

/-- The index lies between two bounds along a side. -/
def Between (first last : Int → Int) (size index : Int) : Prop :=
  first size ≤ index ∧ index < last size

/-- If a bound between which there is an index moves, then some index is gained or lost. -/
theorem exists_between {first last : String} {f g : Int → Int} (hfirst : Tracks first dimension f)
    (hlast : Tracks last dimension g)
    (hmoves : (Finding.isRelative first dimension || Finding.isRelative last dimension) = true)
    {side : Int} (hside : 1 ≤ side) (hnonneg : 0 ≤ f side) (hlt : f side < g side) :
    ∃ index size size', 0 ≤ index ∧ 1 ≤ size ∧ 1 ≤ size' ∧ Between f g size index ∧
      ¬ Between f g size' index := by
  cases hrelative : Finding.isRelative first dimension with
  | true =>
      obtain ⟨size, hsize, hlater⟩ := (hfirst.moving hrelative).unbounded (f side)
      exact ⟨f side, side, size, hnonneg, hside, hsize, ⟨le_rfl, hlt⟩, fun h => not_le.2 hlater h.1⟩
  | false =>
      have hmoving : Moving g := hlast.moving (by simpa [hrelative] using hmoves)
      obtain ⟨size, hsize, hlater⟩ := hmoving.unbounded (max (f side) 1)
      have hsame : f size = f side := (hfirst.fixed hrelative).1 size side
      have hlow := hmoving.low
      -- The first bound stays, so the indices from it on are all lost at size one.
      exact ⟨max (f side) 1, size, 1, by omega, hsize, le_rfl, ⟨by omega, hlater⟩,
        fun h => by have := h.2; omega⟩

theorem draws_rectangle {top bottom left right : String} {f₁ f₂ f₃ f₄ : Int → Int}
    (htop : Tracks top .height f₁) (hbottom : Tracks bottom .height f₂)
    (hleft : Tracks left .width f₃) (hright : Tracks right .width f₄) :
    Draws ("r >= " ++ top ++ " && r < " ++ bottom ++ " && c >= " ++ left ++ " && c < " ++ right)
      fun row col height width => Between f₁ f₂ height row ∧ Between f₃ f₄ width col := by
  obtain ⟨e₁, hwrites₁, heval₁⟩ := htop.writes
  obtain ⟨e₂, hwrites₂, heval₂⟩ := hbottom.writes
  obtain ⟨e₃, hwrites₃, heval₃⟩ := hleft.writes
  obtain ⟨e₄, hwrites₄, heval₄⟩ := hright.writes
  refine draws_of_decides (writes_rectangle hwrites₁ hwrites₂ hwrites₃ hwrites₄) ?_
  intro row col height width hheight hwidth
  have hheight : 0 ≤ height := by omega
  have hwidth : 0 ≤ width := by omega
  exact decides_rectangle (heval₁ _ _ hheight (get?_dimension .height))
    (heval₂ _ _ hheight (get?_dimension .height)) (heval₃ _ _ hwidth (get?_dimension .width))
    (heval₄ _ _ hwidth (get?_dimension .width))

/-- A rectangle with bounds along both sides. -/
theorem isHonest_rectangle {top bottom left right : String} {f₁ f₂ f₃ f₄ : Int → Int}
    (htop : Tracks top .height f₁) (hbottom : Tracks bottom .height f₂)
    (hleft : Tracks left .width f₃) (hright : Tracks right .width f₄) {height width : Int}
    (hheight : 1 ≤ height) (hwidth : 1 ≤ width) (hrows : 0 ≤ f₁ height ∧ f₁ height < f₂ height)
    (hcolumns : 0 ≤ f₃ width ∧ f₃ width < f₄ width) :
    (Finding.ofPositions
      ("r >= " ++ top ++ " && r < " ++ bottom ++ " && c >= " ++ left ++ " && c < " ++ right)
      (Finding.isRelative top .height || Finding.isRelative bottom .height ||
        Finding.isRelative left .width || Finding.isRelative right .width)
      .literalRectangle).IsHonest where
  evaluates := ⟨_, draws_rectangle htop hbottom hleft hright⟩
  moves hmoves := by
    have hdraws := draws_rectangle htop hbottom hleft hright
    simp only [Finding.ofPositions, Bool.or_assoc] at hmoves
    rw [← Bool.or_assoc, Bool.or_eq_true] at hmoves
    rcases hmoves with hmoves | hmoves
    · obtain ⟨row, size, size', hrow, hsize, hsize', hinside, houtside⟩ :=
        exists_between htop hbottom hmoves hheight hrows.1 hrows.2
      exact hdraws.moves ⟨hrow, hcolumns.1⟩ ⟨hsize, hwidth⟩ ⟨hsize', hwidth⟩
        ⟨hinside, le_rfl, hcolumns.2⟩ fun h => houtside h.1
    · obtain ⟨col, size, size', hcol, hsize, hsize', hinside, houtside⟩ :=
        exists_between hleft hright hmoves hwidth hcolumns.1 hcolumns.2
      exact hdraws.moves ⟨hrows.1, hcol⟩ ⟨hheight, hsize⟩ ⟨hheight, hsize'⟩
        ⟨⟨le_rfl, hrows.2⟩, hinside⟩ fun h => houtside h.2
  fixed hfixed := by
    simp only [Finding.ofPositions, Bool.or_eq_false_iff] at hfixed
    obtain ⟨⟨⟨htop', hbottom'⟩, hleft'⟩, hright'⟩ := hfixed
    refine referenced_eq_nil fun d => ?_
    have hplain : ∀ text ∈ ["r >= ", " && r < ", " && c >= ", " && c < "],
        d.letter ∉ text.toList := by
      cases d <;> decide
    simp only [Finding.ofPositions, String.toList_append, List.mem_append, not_or]
    exact ⟨⟨⟨⟨⟨⟨⟨hplain _ (by simp), (htop.fixed htop').2 d⟩, hplain _ (by simp)⟩,
      (hbottom.fixed hbottom').2 d⟩, hplain _ (by simp)⟩, (hleft.fixed hleft').2 d⟩,
      hplain _ (by simp)⟩, (hright.fixed hright').2 d⟩
  confidence := confidence_ofPositions _ _ (by decide)

/-! ### Discovered rules -/

variable {mask : Mask} {finding : Finding}

theorem horizontalLine?_isHonest (h : Finding.find? mask .horizontalLine = .ok (some finding)) :
    finding.IsHonest := by
  obtain ⟨r, hr, -, text, htext, rfl⟩ := horizontalLine?_eq_some h
  obtain ⟨position, htracks, hposition⟩ := exists_tracks htext
  exact isHonest_line htracks (Nat.one_le_of_lt hr) (hposition ▸ Int.natCast_nonneg r)

theorem verticalLine?_isHonest (h : Finding.find? mask .verticalLine = .ok (some finding)) :
    finding.IsHonest := by
  obtain ⟨c, hc, -, text, htext, rfl⟩ := verticalLine?_eq_some h
  obtain ⟨position, htracks, hposition⟩ := exists_tracks htext
  exact isHonest_line htracks (Nat.one_le_of_lt hc) (hposition ▸ Int.natCast_nonneg c)

theorem filledRectangle?_isHonest
    (h : Finding.find? mask .filledRectangle = .ok (some finding)) : finding.IsHonest := by
  obtain ⟨top, bottom, left, right, hrows, hcolumns, -, hrectangle⟩ := filledRectangle?_eq_some h
  obtain ⟨r₁, r₂, c₁, c₂, h₁, h₂, h₃, h₄, rfl⟩ := rectangle_eq_ok hrectangle
  obtain ⟨f₁, htracks₁, hf₁⟩ := exists_tracks h₁
  obtain ⟨f₂, htracks₂, hf₂⟩ := exists_tracks h₂
  obtain ⟨f₃, htracks₃, hf₃⟩ := exists_tracks h₃
  obtain ⟨f₄, htracks₄, hf₄⟩ := exists_tracks h₄
  exact isHonest_rectangle htracks₁ htracks₂ htracks₃ htracks₄
    (show (1 : Int) ≤ mask.height by omega) (show (1 : Int) ≤ mask.width by omega)
    (by omega) (by omega)

/-- What is found for a line or a rectangle says the right thing about its condition. -/
theorem find?_isHonest {family : Family}
    (hfamily : family = .horizontalLine ∨ family = .verticalLine ∨ family = .filledRectangle)
    (h : Finding.find? mask family = .ok (some finding)) : finding.IsHonest := by
  rcases hfamily with rfl | rfl | rfl
  · exact horizontalLine?_isHonest h
  · exact verticalLine?_isHonest h
  · exact filledRectangle?_isHonest h

namespace Rule

/-- A line or a rectangle that is discovered has a value at every cell of every size. It is reported
as one that scales exactly if the truth of its condition at some cell differs between two sizes,
exactly if it has a parameter, and exactly if its confidence is full. -/
theorem discover_moves {cells : List Coord} {symbol : String} {height width : Int} {rule : Rule}
    (h : discover cells symbol height width = .ok rule)
    (hfamily : rule.family = .horizontalLine ∨ rule.family = .verticalLine ∨
      rule.family = .filledRectangle) :
    (∀ row col height' width', 1 ≤ height' → 1 ≤ width' →
      ∃ value, evaluate rule.condition row col height' width' = .ok value) ∧
    (rule.scalable = true ↔ Moves rule.condition) ∧
    (rule.scalable = true ↔ rule.parameters ≠ []) ∧
    (rule.confidence.text = "1.0" ↔ rule.scalable = true) := by
  have hlisted : rule.family ≠ .coordinateSet := by
    rcases hfamily with h | h | h <;> simp [h]
  obtain ⟨finding, hfinding, heq⟩ := eq_ofFinding_of_discover h hlisted
  have hhonest := find?_isHonest hfamily hfinding
  have hparameters : rule.parameters = Dimension.referenced rule.condition := by
    rw [parameters, if_neg hlisted]
  rw [hparameters, heq]
  dsimp only [ofFinding]
  have hscalable : Dimension.referenced finding.condition ≠ [] → finding.scalable = true := by
    intro hreferenced
    by_contra hfixed
    exact hreferenced (hhonest.fixed (by simpa using hfixed))
  refine ⟨?_, ?_, ?_, hhonest.confidence⟩
  · intro row col height' width' hheight' hwidth'
    obtain ⟨shape, hdraws⟩ := hhonest.evaluates
    obtain ⟨value, heval, -⟩ := hdraws row col height' width' hheight' hwidth'
    exact ⟨value, heval⟩
  · exact ⟨hhonest.moves, fun hmoves => hscalable hmoves.referenced_ne_nil⟩
  · exact ⟨fun hscale => (hhonest.moves hscale).referenced_ne_nil, hscalable⟩

/-- The second of four rows moves along with the height, the second of five rows stays. -/
theorem discover_moves_fourth :
    (∃ rule, discover [⟨1, 0⟩, ⟨1, 1⟩] "=" 4 2 = .ok rule ∧ rule.condition = "r == H/4" ∧
      Moves rule.condition ∧ rule.parameters ≠ []) ∧
    ∃ rule, discover [⟨1, 0⟩, ⟨1, 1⟩] "=" 5 2 = .ok rule ∧ rule.condition = "r == 1" ∧
      ¬ Moves rule.condition ∧ rule.confidence.text ≠ "1.0" := by
  have hfourth : discover [⟨1, 0⟩, ⟨1, 1⟩] "=" 4 2 =
      .ok (ofFinding .horizontalLine "=" (.ofPositions "r == H/4" true .literalLine)) := by
    rfl
  have hsecond : discover [⟨1, 0⟩, ⟨1, 1⟩] "=" 5 2 =
      .ok (ofFinding .horizontalLine "=" (.ofPositions "r == 1" false .literalLine)) := by
    decide +kernel
  constructor
  · obtain ⟨-, hmoves, hparameters, -⟩ := discover_moves hfourth (.inl rfl)
    exact ⟨_, hfourth, rfl, hmoves.1 rfl, hparameters.1 rfl⟩
  · obtain ⟨-, hmoves, -, hconfidence⟩ := discover_moves hsecond (.inl rfl)
    have hfixed : (ofFinding .horizontalLine "="
        (.ofPositions "r == 1" false .literalLine)).scalable ≠ true := by decide
    exact ⟨_, hsecond, rfl, mt hmoves.2 hfixed, mt hconfidence.1 hfixed⟩

end Rule

end GridRules
