import GridRules.Proofs.Rule.Shape

/-!
# Discovered rules

A rule that is discovered for the cells of an area holds exactly on these cells, if it does not list
them, and else it lists them as they were given.
-/

namespace GridRules

open Program

namespace Rule

/-- The rule of the first test that a mask passes is what the test of its family finds, and the
tests before it find nothing. -/
theorem firstOf?_eq_some {mask : Mask} {symbol : String} {families : List Family} {rule : Rule}
    (h : firstOf? mask symbol families = .ok (some rule)) :
    ∃ earlier later finding, families = earlier ++ rule.family :: later ∧
      (∀ other ∈ earlier, Finding.find? mask other = .ok none) ∧
      Finding.find? mask rule.family = .ok (some finding) ∧
      rule = ofFinding rule.family symbol finding := by
  induction families with
  | nil => cases h
  | cons family families ih =>
      rw [firstOf?] at h
      split at h
      · cases h
      · next finding hfinding =>
          obtain rfl := Option.some.inj (Except.ok.inj h)
          exact ⟨[], families, finding, rfl, nofun, hfinding, rfl⟩
      · next hnothing =>
          obtain ⟨earlier, later, finding, rfl, hearlier, hfound⟩ := ih h
          exact ⟨family :: earlier, later, finding, rfl,
            List.forall_mem_cons.2 ⟨hnothing, hearlier⟩, hfound⟩

theorem firstOf?_eq_none {mask : Mask} {symbol : String} {families : List Family}
    (h : firstOf? mask symbol families = .ok none) :
    ∀ family ∈ families, Finding.find? mask family = .ok none := by
  induction families with
  | nil => exact nofun
  | cons family families ih =>
      rw [firstOf?] at h
      split at h
      · cases h
      · cases h
      · next hnothing => exact List.forall_mem_cons.2 ⟨hnothing, ih h⟩

/-- If no test fails, the families can be tried in order. -/
theorem exists_firstOf? {mask : Mask} (symbol : String) {families : List Family}
    (h : ∀ family ∈ families, ∃ found, Finding.find? mask family = .ok found) :
    ∃ found, firstOf? mask symbol families = .ok found := by
  induction families with
  | nil => exact ⟨none, rfl⟩
  | cons family families ih =>
      obtain ⟨⟨found, hfound⟩, hrest⟩ := List.forall_mem_cons.1 h
      rw [firstOf?, hfound]
      cases found with
      | none => exact ih hrest
      | some finding => exact ⟨_, rfl⟩

theorem family_ne_of_firstOf? {mask : Mask} {symbol : String} {families : List Family} {rule : Rule}
    (h : firstOf? mask symbol families = .ok (some rule)) : rule.family ≠ .coordinateSet := by
  intro hset
  obtain ⟨-, -, finding, -, -, hfinding, -⟩ := firstOf?_eq_some h
  rw [hset] at hfinding
  cases hfinding

/-- At the size of the mask a condition that describes it has a value on every cell, which is not
zero exactly on the marked ones. -/
theorem exists_evaluate_of_describes {condition : String} {mask : Mask}
    (h : Describes condition mask) {r c : Nat} (hr : r < mask.height) (hc : c < mask.width) :
    ∃ value, evaluate condition r c mask.height mask.width = .ok value ∧
      (value ≠ 0 ↔ mask.isMarked r c = true) := by
  obtain ⟨e, hwrites, hdecides⟩ := h
  obtain ⟨value, heval, hvalue⟩ := (hdecides r hr c hc).exists_value
  exact ⟨value, by simp [evaluate, hwrites.ofText, heval], hvalue⟩

theorem ofCells?_eq_ok {cells : List Coord} {height width : Int} {mask : Mask}
    (h : Mask.ofCells? cells height width = .ok mask) :
    mask = Mask.ofCells height.toNat width.toNat cells ∧
      max 1 height.toNat * max 1 width.toNat < Mask.cellLimit := by
  unfold Mask.ofCells? at h
  split at h
  · cases h
  split at h
  · cases h
  split at h
  · cases h
  · exact ⟨(Except.ok.inj h).symm, by omega⟩

theorem lt_of_lt_cellLimit {n : Nat} (h : n < Mask.cellLimit) : n < Text.leastLong :=
  Text.lt_leastLong_of_le_pow h.le

/-- A rule is discovered for cells of an area whose sides have not too many digits: that of the
first test passed, or the listing of the cells. -/
theorem discover_cases {height width : Int} {cells : List Coord} {symbol : String} {rule : Rule}
    (h : discover cells symbol height width = .ok rule) :
    (height.toNat < Text.leastLong ∧ width.toNat < Text.leastLong) ∧
      (firstOf? (Mask.ofCells height.toNat width.toNat cells) symbol Family.all = .ok (some rule) ∨
        ∃ c, symbol = String.singleton c ∧ rule = coordinateSet c cells) := by
  unfold discover at h
  split at h
  · cases h
  · next mask hmask =>
      obtain ⟨rfl, hlimit⟩ := ofCells?_eq_ok hmask
      have hheight := Nat.le_mul_of_pos_right (max 1 height.toNat)
        (by omega : 0 < max 1 width.toNat)
      have hwidth := Nat.le_mul_of_pos_left (max 1 width.toNat)
        (by omega : 0 < max 1 height.toNat)
      refine ⟨⟨lt_of_lt_cellLimit (by omega), lt_of_lt_cellLimit (by omega)⟩, ?_⟩
      split at h
      · cases h
      · next found hfound =>
          obtain rfl := Except.ok.inj h
          exact .inl hfound
      · split at h
        · next c hsymbol =>
            obtain rfl := Except.ok.inj h
            exact .inr ⟨c, by rw [← String.ofList_toList (s := symbol), hsymbol]; rfl, rfl⟩
        · cases h

/-- A discovered rule that does not list its cells is what the test of its family finds. -/
theorem eq_ofFinding_of_discover {height width : Int} {cells : List Coord} {symbol : String}
    {rule : Rule} (h : discover cells symbol height width = .ok rule)
    (hlisted : rule.family ≠ .coordinateSet) :
    ∃ finding, Finding.find? (Mask.ofCells height.toNat width.toNat cells) rule.family =
        .ok (some finding) ∧
      rule = ofFinding rule.family symbol finding := by
  obtain ⟨-, hfound | ⟨c, -, rfl⟩⟩ := discover_cases h
  · obtain ⟨-, -, finding, -, -, hfinding, heq⟩ := firstOf?_eq_some hfound
    exact ⟨finding, hfinding, heq⟩
  · exact absurd rfl hlisted

/-- A discovered rule describes its cells or lists them. -/
theorem describes_of_discover {height width : Int} {cells : List Coord} {symbol : String}
    {rule : Rule} (h : discover cells symbol height width = .ok rule) :
    rule.symbol = symbol ∧
      (rule.family ≠ .coordinateSet ∧
          Describes rule.condition (Mask.ofCells height.toNat width.toNat cells) ∨
        ∃ c, symbol = String.singleton c ∧ rule = coordinateSet c cells) := by
  obtain ⟨-, hfound | ⟨c, hsymbol, rfl⟩⟩ := discover_cases h
  · obtain ⟨-, -, finding, -, -, hfinding, heq⟩ := firstOf?_eq_some hfound
    have hcondition : rule.condition = finding.condition := by rw [heq]; rfl
    refine ⟨by rw [heq]; rfl, .inl ⟨family_ne_of_firstOf? hfound, ?_⟩⟩
    rw [hcondition]
    exact find?_describes hfinding
  · exact ⟨hsymbol.symm, .inr ⟨c, hsymbol, rfl⟩⟩

/-- A rule discovered for cells of an area has on every cell of the area a value, which is not zero
exactly on the given cells, unless it lists the cells; then it lists those given. -/
theorem discover_exact {height width : Int} {cells : List Coord} {symbol : Char} {rule : Rule}
    (hheight : 1 ≤ height) (hwidth : 1 ≤ width)
    (hcells : ∀ cell ∈ cells, (0 ≤ cell.row ∧ cell.row < height) ∧ 0 ≤ cell.col ∧ cell.col < width)
    (h : discover cells (String.singleton symbol) height width = .ok rule) :
    (rule.family ≠ .coordinateSet → ∀ row col, 0 ≤ row → row < height → 0 ≤ col → col < width →
      ∃ value, evaluate rule.condition row col height width = .ok value ∧
        (value ≠ 0 ↔ ⟨row, col⟩ ∈ cells)) ∧
    (rule.family = .coordinateSet → rule.cells = cells) := by
  obtain ⟨m, rfl⟩ := Int.eq_ofNat_of_zero_le (by omega : 0 ≤ height)
  obtain ⟨n, rfl⟩ := Int.eq_ofNat_of_zero_le (by omega : 0 ≤ width)
  obtain ⟨-, ⟨hfamily, hdescribes⟩ | ⟨c, -, rfl⟩⟩ := describes_of_discover h
  · simp only [Int.toNat_natCast] at hdescribes
    refine ⟨?_, fun hset => absurd hset hfamily⟩
    intro _ row col hrow hrow' hcol hcol'
    obtain ⟨r, rfl⟩ := Int.eq_ofNat_of_zero_le hrow
    obtain ⟨c, rfl⟩ := Int.eq_ofNat_of_zero_le hcol
    obtain ⟨value, heval, hvalue⟩ := exists_evaluate_of_describes hdescribes
      (r := r) (c := c) (by simpa using hrow') (by simpa using hcol')
    rw [Mask.isMarked_ofCells hcells] at hvalue
    exact ⟨value, by simpa using heval, hvalue⟩
  · exact ⟨fun hset => absurd rfl hset, fun _ => rfl⟩

/-- The middle column of an area of three rows and columns. -/
theorem discover_exact_column :
    ∃ rule, discover [⟨0, 1⟩, ⟨2, 1⟩, ⟨1, 1⟩, ⟨0, 1⟩] "#" 3 3 = .ok rule ∧
      rule.family = .verticalLine ∧
      ∀ row col, 0 ≤ row → row < 3 → 0 ≤ col → col < 3 →
        ∃ value, evaluate rule.condition row col 3 3 = .ok value ∧
          (value ≠ 0 ↔ ⟨row, col⟩ ∈ [(⟨0, 1⟩ : Coord), ⟨2, 1⟩, ⟨1, 1⟩, ⟨0, 1⟩]) := by
  have hdiscover : discover [⟨0, 1⟩, ⟨2, 1⟩, ⟨1, 1⟩, ⟨0, 1⟩] (String.singleton '#') 3 3 =
      .ok (ofFinding .verticalLine "#" (.ofPositions "c == W/2" true .literalLine)) := by
    rfl
  exact ⟨_, hdiscover, rfl, (discover_exact (by decide) (by decide) (by decide) hdiscover).1
    (by decide)⟩

end Rule

end GridRules
