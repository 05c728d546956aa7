import GridRules.Proofs.Rule.Discovery

/-!
# Rules at other sizes

The rule that is discovered for cells of an area can be drawn on an area of another size. A rule
without positions keeps its shape there; an anti-diagonal does so exactly if the same side is the
shorter one.
-/

namespace GridRules

open Program

/-- On every cell of an area the condition of the rule has a value, which is not zero exactly on the
cells of a shape. -/
def Rule.DrawsAt (rule : Rule) (height width : Int) (shape : (row col : Int) → Prop) : Prop :=
  ∀ row col, 0 ≤ row → row < height → 0 ≤ col → col < width →
    ∃ value, evaluate rule.condition row col height width = .ok value ∧ (value ≠ 0 ↔ shape row col)

/-- A rule whose condition means a shape draws it at every size. -/
theorem Means.drawsAt {condition : String} {shape : Shape} (h : Means condition shape) {rule : Rule}
    (hrule : condition = rule.condition) (height width : Int) :
    rule.DrawsAt height width fun row col => shape row col height width := by
  subst hrule
  obtain ⟨e, hwrites, hdecides⟩ := h
  intro row col hrow _ hcol _
  obtain ⟨value, heval, hvalue⟩ := (hdecides row col height width hrow hcol).exists_value
  exact ⟨value, by simp [evaluate, hwrites.ofText, heval], hvalue⟩

namespace Rule

variable {height width height' width' : Int} {rule : Rule}

/-- A rule draws one shape only. -/
theorem DrawsAt.unique {shape other : (row col : Int) → Prop} (h : rule.DrawsAt height width shape)
    (h' : rule.DrawsAt height width other) {row col : Int} (hrow : 0 ≤ row ∧ row < height)
    (hcol : 0 ≤ col ∧ col < width) : shape row col ↔ other row col := by
  obtain ⟨value, heval, hvalue⟩ := h row col hrow.1 hrow.2 hcol.1 hcol.2
  obtain ⟨value', heval', hvalue'⟩ := h' row col hrow.1 hrow.2 hcol.1 hcol.2
  obtain rfl : value = value' := Except.ok.inj (heval.symm.trans heval')
  exact hvalue.symm.trans hvalue'

theorem DrawsAt.congr {shape other : (row col : Int) → Prop} (h : rule.DrawsAt height width shape)
    (hshape : ∀ row col, 0 ≤ row → row < height → 0 ≤ col → col < width →
      (shape row col ↔ other row col)) : rule.DrawsAt height width other := by
  intro row col hrow hrow' hcol hcol'
  obtain ⟨value, heval, hvalue⟩ := h row col hrow hrow' hcol hcol'
  exact ⟨value, heval, hvalue.trans (hshape row col hrow hrow' hcol hcol')⟩

/-! ### The families without positions -/

/-- A discovered rule that does not list its cells has the condition that the test of its family
finds. -/
theorem exists_finding_of_discover {cells : List Coord} {symbol : String}
    (h : discover cells symbol height width = .ok rule) {family : Family}
    (hfamily : rule.family = family) (hlisted : family ≠ .coordinateSet := by decide) :
    ∃ finding, Finding.find? (Mask.ofCells height.toNat width.toNat cells) family =
        .ok (some finding) ∧
      finding.condition = rule.condition := by
  subst hfamily
  obtain ⟨finding, hfinding, heq⟩ := eq_ofFinding_of_discover h hlisted
  exact ⟨finding, hfinding, (congrArg Rule.condition heq).symm⟩

/-- The condition of a checkerboard means the parity of every given cell, and there is one. -/
theorem means_of_checkerboard? {height width : Nat} {cells : List Coord}
    (hcells : ∀ cell ∈ cells, Mask.Holds height width cell) {finding : Finding}
    (h : Finding.find? (Mask.ofCells height width cells) .checkerboard = .ok (some finding)) :
    cells ≠ [] ∧ ∀ cell ∈ cells, Means finding.condition
      fun row col _ _ => (row + col) % 2 = (cell.row + cell.col) % 2 := by
  obtain ⟨hcount, parity, hparity, hcondition, hagrees⟩ := checkerboard?_eq_some h
  constructor
  · rintro rfl
    refine hcount ?_
    rw [Mask.count_eq_card, Finset.card_eq_zero, Finset.eq_empty_iff_forall_notMem]
    intro place hplace
    have hmarked := (Mask.isMarked_ofCells hcells place.1 place.2).1 (Mask.mem_marked.1 hplace)
    cases hmarked
  · intro cell hcell
    obtain ⟨r, c, rfl⟩ := (hcells cell hcell).exists_ofNat
    have hmarked := (Mask.isMarked_ofCells hcells r c).2 hcell
    rw [Mask.agrees_iff_isMarked.1 hagrees r (by simp) c (by simp), beq_iff_eq] at hmarked
    have hvalue : ((Coord.ofNat r c).row + (Coord.ofNat r c).col) % 2 = parity := by
      simp only [Coord.ofNat]
      omega
    rw [hcondition, hvalue]
    exact means_parity parity hparity

/-- The condition of an anti-diagonal follows the side that was the shorter one. -/
theorem means_of_antiDiagonal? {mask : Mask} {finding : Finding}
    (h : Finding.find? mask .antiDiagonal = .ok (some finding)) :
    Means finding.condition fun row col height width =>
      if mask.height ≤ mask.width then row + col = height - 1 ∧ col < height
      else row + col = width - 1 ∧ row < width := by
  rw [(antiDiagonal?_eq_some h).1]
  split
  · exact means_antiDiagonal_height
  · exact means_antiDiagonal_width

/-- A rule that follows one side draws the anti-diagonal of an area exactly if this side is not the
longer one. -/
theorem drawsAt_antiDiagonal_iff (hheight' : 1 ≤ height') (hwidth' : 1 ≤ width')
    (h : rule.DrawsAt height' width' fun row col =>
      if height ≤ width then row + col = height' - 1 ∧ col < height'
      else row + col = width' - 1 ∧ row < width') :
    (rule.DrawsAt height' width' fun row col => row + col = min height' width' - 1) ↔
      height ≤ width ∧ height' ≤ width' ∨ width < height ∧ width' ≤ height' := by
  constructor
  · intro htarget
    -- The anti-diagonal of the area ends in the first column.
    have hrow : 0 ≤ min height' width' - 1 ∧ min height' width' - 1 < height' := by omega
    have hcol : (0 : Int) ≤ 0 ∧ 0 < width' := by omega
    have hcorner := (h.unique htarget hrow hcol).2 (by omega)
    split at hcorner <;> omega
  · intro hside
    refine h.congr ?_
    intro row col _ _ _ _
    split <;> omega

/-- A rule that is discovered at one size for all cells, the outline, the diagonal, an anti-diagonal
or a checkerboard has a value on every cell of an area of another size. It holds there on all cells,
on the outline, on the diagonal, and on the cells of the same parity as those given. It holds on the
anti-diagonal there exactly if the side that was the shorter one at the first size, the height if
the sides were equal, is not the longer one. -/
theorem discover_scales {cells : List Coord} {symbol : String} (hheight : 1 ≤ height)
    (hwidth : 1 ≤ width) (hheight' : 1 ≤ height') (hwidth' : 1 ≤ width')
    (hcells : ∀ cell ∈ cells, (0 ≤ cell.row ∧ cell.row < height) ∧ 0 ≤ cell.col ∧ cell.col < width)
    (h : discover cells symbol height width = .ok rule) :
    (rule.family = .fill → rule.DrawsAt height' width' fun _ _ => True) ∧
    (rule.family = .border → rule.DrawsAt height' width' fun row col =>
      row = 0 ∨ row = height' - 1 ∨ col = 0 ∨ col = width' - 1) ∧
    (rule.family = .diagonal → rule.DrawsAt height' width' fun row col => row = col) ∧
    (rule.family = .checkerboard → cells ≠ [] ∧ ∀ cell ∈ cells,
      rule.DrawsAt height' width' fun row col => (row + col) % 2 = (cell.row + cell.col) % 2) ∧
    (rule.family = .antiDiagonal → (∃ shape, rule.DrawsAt height' width' shape) ∧
      ((rule.DrawsAt height' width' fun row col => row + col = min height' width' - 1) ↔
        height ≤ width ∧ height' ≤ width' ∨ width < height ∧ width' ≤ height')) := by
  obtain ⟨m, rfl⟩ := Int.eq_ofNat_of_zero_le (by omega : 0 ≤ height)
  obtain ⟨n, rfl⟩ := Int.eq_ofNat_of_zero_le (by omega : 0 ≤ width)
  refine ⟨?_, ?_, ?_, ?_, ?_⟩
  · intro hfamily
    obtain ⟨finding, hfinding, hrule⟩ := exists_finding_of_discover h hfamily
    have hcondition := (fill?_eq_some hfinding).1
    exact means_fill.drawsAt (hcondition.symm.trans hrule) height' width'
  · intro hfamily
    obtain ⟨finding, hfinding, hrule⟩ := exists_finding_of_discover h hfamily
    have hcondition := (border?_eq_some hfinding).1
    exact means_border.drawsAt (hcondition.symm.trans hrule) height' width'
  · intro hfamily
    obtain ⟨finding, hfinding, hrule⟩ := exists_finding_of_discover h hfamily
    have hcondition := (diagonal?_eq_some hfinding).1
    exact means_diagonal.drawsAt (hcondition.symm.trans hrule) height' width'
  · intro hfamily
    obtain ⟨finding, hfinding, hrule⟩ := exists_finding_of_discover h hfamily
    obtain ⟨hne, hmeans⟩ := means_of_checkerboard? (by simpa [Mask.Holds] using hcells) hfinding
    exact ⟨hne, fun cell hcell => (hmeans cell hcell).drawsAt hrule height' width'⟩
  · intro hfamily
    obtain ⟨finding, hfinding, hrule⟩ := exists_finding_of_discover h hfamily
    have hdraws := (means_of_antiDiagonal? hfinding).drawsAt hrule height' width'
    rw [Mask.height_ofCells, Mask.width_ofCells] at hdraws
    exact ⟨⟨_, hdraws⟩, drawsAt_antiDiagonal_iff hheight' hwidth' (by simpa using hdraws)⟩

/-- The anti-diagonal of an area of two rows and three columns is one of four rows and columns, but
not one of three rows and two columns. -/
theorem discover_scales_antiDiagonal :
    ∃ rule, discover [⟨0, 1⟩, ⟨1, 0⟩] "/" 2 3 = .ok rule ∧ rule.family = .antiDiagonal ∧
      (rule.DrawsAt 4 4 fun row col => row + col = min 4 4 - 1) ∧
      ¬ rule.DrawsAt 3 2 fun row col => row + col = min 3 2 - 1 := by
  have hdiscover : discover [⟨0, 1⟩, ⟨1, 0⟩] "/" 2 3 =
      .ok (ofFinding .antiDiagonal "/" { condition := "r + c == H - 1 && c < H" }) := by
    rfl
  refine ⟨_, hdiscover, rfl, ?_, ?_⟩
  · obtain ⟨-, -, -, -, hsquare⟩ := discover_scales (by decide) (by decide)
      (show (1 : Int) ≤ 4 by decide) (show (1 : Int) ≤ 4 by decide) (by decide) hdiscover
    exact (hsquare rfl).2.2 (by decide)
  · obtain ⟨-, -, -, -, htall⟩ := discover_scales (by decide) (by decide)
      (show (1 : Int) ≤ 3 by decide) (show (1 : Int) ≤ 2 by decide) (by decide) hdiscover
    intro hdraws
    exact absurd ((htall rfl).2.1 hdraws) (by decide)

end Rule

end GridRules
