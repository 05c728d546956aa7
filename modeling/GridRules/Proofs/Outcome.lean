import Mathlib.Data.List.Forall2

/-!
# Computations that may fail

What is known of the steps of a computation that ends well, and of its results.
-/

namespace GridRules

variable {ε α β : Type}

theorem ok_bind (a : α) (next : α → Except ε β) : (.ok a >>= next) = next a :=
  rfl

/-- Of two computations in a row that end well the first one ends well. -/
theorem bind_eq_ok {first : Except ε α} {next : α → Except ε β} {b : β}
    (h : first >>= next = .ok b) : ∃ a, first = .ok a ∧ next a = .ok b := by
  cases first with
  | error fault => cases h
  | ok a => exact ⟨a, rfl, h⟩

/-- Of two computations in a row that fail the first one fails, or the second one where the first
ends well. -/
theorem bind_eq_error {first : Except ε α} {next : α → Except ε β} {fault : ε}
    (h : first >>= next = .error fault) :
    first = .error fault ∨ ∃ a, first = .ok a ∧ next a = .error fault := by
  cases first with
  | error other => exact .inl (by cases h; rfl)
  | ok a => exact .inr ⟨a, rfl, h⟩

theorem map_eq_ok {first : Except ε α} {f : α → β} {b : β} (h : first.map f = .ok b) :
    ∃ a, first = .ok a ∧ f a = b := by
  cases first with
  | error fault => cases h
  | ok a => exact ⟨a, rfl, Except.ok.inj h⟩

/-! ### One computation for each member of a list -/

variable {f : α → Except ε β} {xs : List α} {ys : List β}

/-- The results of computations that all end well stand in the order of the members. -/
theorem forall₂_of_mapM (h : xs.mapM f = .ok ys) : List.Forall₂ (fun x y => f x = .ok y) xs ys := by
  induction xs generalizing ys with
  | nil =>
      obtain rfl : [] = ys := Except.ok.inj h
      exact .nil
  | cons x xs ih =>
      rw [List.mapM_cons] at h
      obtain ⟨first, hfirst, h⟩ := bind_eq_ok h
      obtain ⟨rest, hrest, h⟩ := bind_eq_ok h
      obtain rfl := Except.ok.inj h
      exact .cons hfirst (ih hrest)

theorem mem_of_mapM (h : xs.mapM f = .ok ys) (y : β) : y ∈ ys ↔ ∃ x ∈ xs, f x = .ok y := by
  replace h := forall₂_of_mapM h
  induction h with
  | nil => simp
  | cons hfirst _ ih => simp [ih, hfirst, eq_comm]

theorem exists_of_mapM (h : xs.mapM f = .ok ys) : ∀ x ∈ xs, ∃ y, f x = .ok y := by
  replace h := forall₂_of_mapM h
  induction h with
  | nil => exact nofun
  | cons hfirst _ ih => exact List.forall_mem_cons.2 ⟨⟨_, hfirst⟩, ih⟩

/-- Computations that end well for all members end well in a row, with results as those of the
members. -/
theorem exists_mapM {r : α → β → Prop} (h : ∀ x ∈ xs, ∃ y, f x = .ok y ∧ r x y) :
    ∃ ys, xs.mapM f = .ok ys ∧ List.Forall₂ r xs ys := by
  induction xs with
  | nil => exact ⟨[], rfl, .nil⟩
  | cons x xs ih =>
      obtain ⟨⟨y, hy, hr⟩, hrest⟩ := List.forall_mem_cons.1 h
      obtain ⟨ys, hys, hall⟩ := ih hrest
      exact ⟨y :: ys, by rw [List.mapM_cons, hy, hys]; rfl, .cons hr hall⟩

end GridRules
