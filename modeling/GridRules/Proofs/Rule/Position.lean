import GridRules.Proofs.Program.Evaluation
import GridRules.Proofs.Program.ExprText
import GridRules.Rule.Dimension

/-!
# Positions along a side

The text of a position is an expression over the name of the side, and at the size for which it was
written it has the position as its value.
-/

namespace GridRules

open Program

/-- The texts in which a position is written relative to the name of a side, with the operator and
the number behind the name. -/
def relativeSuffixes : List (String × BinaryOperator × Nat) :=
  [("-1", .minus, 1), ("/2", .divide, 2), ("-2", .minus, 2), ("/4", .divide, 4), ("/3", .divide, 3)]

theorem writes_relativeSuffix (name : String) {suffix : String} {op : BinaryOperator} {n : Nat}
    (hname : name ∈ ["H", "W"]) (hsuffix : (suffix, op, n) ∈ relativeSuffixes) :
    Writes 5 (name ++ suffix).toList (.binary op (.var name) (.number n)) := by
  have hall : ∀ name ∈ ["H", "W"], ∀ entry ∈ relativeSuffixes,
      frontLexemes? 3 (name ++ entry.1).toList =
          some ([⟨.name, name⟩, symbol entry.2.1.text, ⟨.number, entry.2.2.repr⟩], []) ∧
        (¬ ['/', '/'] <:+: (name ++ entry.1).toList ∧ '#' ∉ (name ++ entry.1).toList) ∧
        5 ≤ entry.2.1.level ∧
        Lexeme.IsShort ⟨.number, entry.2.2.repr⟩ := by
    decide +kernel
  obtain ⟨hfront, hplain, hlevel, hshort⟩ := hall name hname _ hsuffix
  have hvariable : Derives op.level [⟨.name, name⟩] (.var name) :=
    (derives_variable (List.mem_of_mem_drop (show name ∈ ["r", "c", "H", "W"].drop 2 from
      hname))).looser (by have := op.level_le; omega) le_rfl
  have hnumber : Derives (op.level + 1) [⟨.number, n.repr⟩] (.number n) := by
    have hderives := Derives.number n.repr
    rw [Text.decimalValue_repr] at hderives
    exact hderives.looser (by have := op.level_le; omega) le_rfl
  have hderives := Derives.binary op rfl hvariable hnumber
  refine writes_of_frontLexemes? hfront hplain
    (hderives.looser hlevel (by have := op.level_le; omega)) ?_
  simpa [symbol_isShort, Lexeme.IsShort, symbol] using hshort

theorem eval_divide_number {env : Env} {name : String} {size : Int} (hsize : 0 ≤ size)
    (h : env.get? name = some size) (n : Nat) (hn : n ≠ 0) :
    Expr.eval env (.binary .divide (.var name) (.number n)) = .ok (size.fdiv n) := by
  have hvariable : Expr.eval env (.var name) = .ok size := by simp [h]
  rw [eval_divide hvariable (b := n) rfl (by omega), Int.tdiv_eq_ediv_of_nonneg hsize,
    Int.fdiv_eq_ediv_of_nonneg _ (by omega)]

/-- Whether a position is written relative to a side of the given size. -/
def IsRelative (position size : Int) : Prop :=
  position = size ∨ position = size - 1 ∨ position = size.fdiv 2 ∨ position = size - 2 ∨
    size.fmod 4 = 0 ∧ position = size.fdiv 4 ∨ size.fmod 3 = 0 ∧ position = size.fdiv 3

instance (position size : Int) : Decidable (IsRelative position size) :=
  inferInstanceAs (Decidable (_ ∨ _))

/-- Any other position is written as a number, if it can be. -/
theorem relativeText?_of_not_isRelative {position size : Int} (h : ¬ IsRelative position size)
    (name : String) : relativeText? position size name = Text.wholeNumberText? position := by
  simp only [IsRelative, not_or] at h
  obtain ⟨hfull, hlast, hhalf, hlast', hfourth, hthird⟩ := h
  by_cases hzero : position = 0
  · have hshort := Text.lt_leastLong_of_lt_ten (show (0 : Int).natAbs < 10 by decide)
    rw [relativeText?, if_pos hzero, hzero, Text.wholeNumberText?_of_lt hshort]
    rfl
  · rw [relativeText?, if_neg hzero, if_neg hfull, if_neg hlast, if_neg hhalf, if_neg hlast',
      if_neg hfourth, if_neg hthird]

/-- The text of a position that is written relative to a side is an expression whose value is the
position, if the variable of the side holds its size. -/
theorem writes_of_isRelative {position size : Int} (h : IsRelative position size)
    (dimension : Dimension) (hsize : 0 ≤ size) :
    ∃ text e, relativeText? position size dimension.name = some text ∧ Writes 5 text.toList e ∧
      ∀ env : Env, env.get? dimension.name = some size → e.eval env = .ok position := by
  have hname : dimension.name ∈ ["H", "W"] := by cases dimension <;> decide
  have hsuffix {suffix op n} (h : (suffix, op, n) ∈ relativeSuffixes) :=
    writes_relativeSuffix dimension.name hname h
  unfold relativeText?
  split
  · next hzero =>
      have hwrites := writes_repr (Text.lt_leastLong_of_lt_ten (show 0 < 10 by decide))
      exact ⟨_, .number 0, rfl, hwrites.looser (by omega) le_rfl, fun _ _ => by simp [hzero]⟩
  split
  · next hfull =>
      have hwrites := writes_variable (List.mem_of_mem_drop
        (show dimension.name ∈ ["r", "c", "H", "W"].drop 2 from hname))
      exact ⟨_, .var dimension.name, rfl, hwrites.looser (by omega) le_rfl,
        fun env h => by simp [h, hfull]⟩
  split
  · next hlast =>
      exact ⟨_, _, rfl, hsuffix (.head _), fun env h => by
        rw [eval_minus (a := size) (b := 1) (by simp [h]) rfl, hlast]⟩
  split
  · next hhalf =>
      exact ⟨_, _, rfl, hsuffix (.tail _ (.head _)), fun env h => by
        rw [eval_divide_number hsize h 2 (by decide), hhalf]
        rfl⟩
  split
  · next hlast =>
      exact ⟨_, _, rfl, hsuffix (.tail _ (.tail _ (.head _))), fun env h => by
        rw [eval_minus (a := size) (b := 2) (by simp [h]) rfl, hlast]⟩
  split
  · next hfourth =>
      exact ⟨_, _, rfl, hsuffix (.tail _ (.tail _ (.tail _ (.head _)))), fun env h => by
        rw [eval_divide_number hsize h 4 (by decide), hfourth.2]
        rfl⟩
  split
  · next hthird =>
      exact ⟨_, _, rfl, hsuffix (.tail _ (.tail _ (.tail _ (.tail _ (.head _))))), fun env h => by
        rw [eval_divide_number hsize h 3 (by decide), hthird.2]
        rfl⟩
  · next hfull hlast hhalf hlast' hfourth hthird =>
      rcases h with h | h | h | h | h | h
      · exact absurd h hfull
      · exact absurd h hlast
      · exact absurd h hhalf
      · exact absurd h hlast'
      · exact absurd h hfourth
      · exact absurd h hthird

/-- A position has a text exactly if it is written relative to the side or is not too long a
number. -/
theorem isSome_relativeText?_iff (position size : Int) (dimension : Dimension) (hsize : 0 ≤ size) :
    (relativeText? position size dimension.name).isSome = true ↔
      IsRelative position size ∨ position.natAbs < Text.leastLong := by
  by_cases hrelative : IsRelative position size
  · obtain ⟨text, e, htext, -, -⟩ := writes_of_isRelative hrelative dimension hsize
    simp [htext, hrelative]
  · rw [relativeText?_of_not_isRelative hrelative, Text.wholeNumberText?, Option.isSome_ite]
    simp [hrelative]

/-- The text of a position along a side is an expression whose value is the position, if the
variable of the side holds its size. -/
theorem writes_relativeText? {position size : Int} {dimension : Dimension} {text : String}
    (h : relativeText? position size dimension.name = some text) (hsize : 0 ≤ size) :
    ∃ e, Writes 5 text.toList e ∧
      ∀ env : Env, env.get? dimension.name = some size → e.eval env = .ok position := by
  by_cases hrelative : IsRelative position size
  · obtain ⟨other, e, hother, hwrites⟩ := writes_of_isRelative hrelative dimension hsize
    obtain rfl : other = text := Option.some.inj (hother.symm.trans h)
    exact ⟨e, hwrites⟩
  · rw [relativeText?_of_not_isRelative hrelative] at h
    obtain ⟨hshort, rfl⟩ := Option.ite_some_none_eq_some.1 h
    exact ⟨_, (writes_ofInt hshort).looser (by omega) le_rfl,
      fun env _ => Expr.eval_ofInt env position⟩

/-- A position along a side has a text exactly if it is written relative to the side or is not too
long a number. The text is then an expression, whose value is the position if the variable of the
side holds its size. -/
theorem ofText_relativeText (position : Int) {size : Int} (dimension : Dimension)
    (hsize : 0 ≤ size) :
    ((relativeText? position size dimension.name).isSome = true ↔
      IsRelative position size ∨ position.natAbs < Text.leastLong) ∧
    ∀ text, relativeText? position size dimension.name = some text →
      ∃ e, Expr.ofText text = .ok e ∧
        ∀ env : Env, env.get? dimension.name = some size → e.eval env = .ok position := by
  refine ⟨isSome_relativeText?_iff position size dimension hsize, ?_⟩
  intro text htext
  obtain ⟨e, hwrites, heval⟩ := writes_relativeText? htext hsize
  exact ⟨e, hwrites.looser.ofText, heval⟩

/-- The fourth of a side, with a height that does not matter. -/
theorem ofText_relativeText_fourth :
    relativeText? 3 12 "W" = some "W/4" ∧ (0 : Int) ≤ 12 ∧
      ∃ e, Expr.ofText "W/4" = .ok e ∧ e.eval [("H", 7), ("W", 12)] = .ok 3 := by
  have hsize : (0 : Int) ≤ 12 := by decide
  have htext : relativeText? 3 12 "W" = some "W/4" := by decide
  obtain ⟨e, he, heval⟩ := (ofText_relativeText 3 .width hsize).2 _ htext
  exact ⟨htext, hsize, e, he, heval _ rfl⟩

/-- A position with one digit too many along an empty side has no text. -/
theorem relativeText_longPosition_refused :
    ¬ ∃ text e, relativeText? Text.leastLong 0 "H" = some text ∧ Expr.ofText text = .ok e := by
  have hpositive : (0 : Int) < Text.leastLong :=
    Int.natCast_pos.2 (Text.lt_leastLong_of_lt_ten (by decide))
  have hrelative : ¬ IsRelative Text.leastLong 0 := by
    simp only [IsRelative, Int.zero_fdiv]
    omega
  rintro ⟨text, e, htext, -⟩
  rw [relativeText?_of_not_isRelative hrelative] at htext
  obtain ⟨hshort, -⟩ := Option.ite_some_none_eq_some.1 htext
  exact hshort.ne (Int.natAbs_natCast _)

end GridRules
