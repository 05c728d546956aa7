import GridRules.Proofs.Text.Decimal
import GridRules.Program.Running

/-!
# Runs under larger budgets

A run that its budget suffices for ends in the same way under a larger budget, and what is added to
the budget is left over.
-/

namespace GridRules.Program

/-! ### Reports of exceeded limits -/

/-- A limit without too many digits is named in the report of a run that exceeds it. -/
theorem RunFault.failure_stepLimit {limit : Int} (h : limit.natAbs < Text.leastLong) :
    (RunFault.stepLimit limit).failure.category = .execution ∧
      (RunFault.stepLimit limit).failure.code = "STEP_LIMIT_EXCEEDED" := by
  unfold RunFault.failure
  simp only [Text.wholeNumberText?_of_lt h, and_self]

/-- An exceeded limit is reported of no other fault, and of a limit only if that can be shown. -/
theorem RunFault.code_failure_eq_iff {fault : RunFault} :
    fault.failure.code = some "STEP_LIMIT_EXCEEDED" ↔
      ∃ limit, fault = .stepLimit limit ∧ limit.natAbs < Text.leastLong := by
  constructor
  · intro h
    cases fault with
    | evaluation fault =>
        have hcode : fault.failure.code = some "STEP_LIMIT_EXCEEDED" := h
        cases fault <;> simp [EvalFault.failure] at hcode
    | stepLimit limit =>
        unfold RunFault.failure at h
        dsimp only at h
        split at h
        · cases h
        · next htext => exact ⟨limit, rfl, (Option.ite_none_right_eq_some.1 htext).1⟩
    | nonzeroExit status =>
        unfold RunFault.failure at h
        dsimp only at h
        split at h
        · cases h
        · simp at h
  · rintro ⟨limit, rfl, hshort⟩
    exact (RunFault.failure_stepLimit hshort).2

/-! ### More of the budget -/

/-- The state with a larger budget. -/
def State.extend (state : State) (more : Nat) : State :=
  { state with budget := state.budget + more }

/-- The outcome with more of the budget left over. -/
def Outcome.extend (outcome : Outcome) (more : Nat) : Outcome :=
  match outcome with
  | .done state => .done (state.extend more)
  | .exited status state => .exited status (state.extend more)
  | other => other

/-- A run that its budget suffices for ends in the same way under a larger budget. -/
def Extends (run : State → Outcome) : Prop :=
  ∀ state more, run state ≠ .exhausted → run (state.extend more) = (run state).extend more

theorem Extends.andThen {run next : State → Outcome} (h : Extends run) (hnext : Extends next) :
    Extends fun state => (run state).andThen next := by
  intro state more hne
  dsimp only at hne ⊢
  have hrun : run state ≠ .exhausted := by
    intro hexhausted
    simp [hexhausted, Outcome.andThen] at hne
  rw [h state more hrun]
  cases houtcome : run state with
  | done after =>
      rw [houtcome] at hne
      exact hnext after more hne
  | _ => rfl

theorem extends_withValue (expr : Expr) (next : Int → State → Outcome)
    (h : ∀ value, Extends (next value)) :
    Extends fun state => state.withValue expr fun value => next value state := by
  intro state more hne
  dsimp only [State.withValue, State.extend] at hne ⊢
  cases hvalue : expr.eval state.env with
  | error fault => rfl
  | ok value =>
      rw [hvalue] at hne
      exact h value state more hne

/-! ### Loops -/

section Loops

variable {condition : Expr} {counter : String} {body : State → Outcome} {state : State}
  {value : Int} {rounds : Nat}

/-- A loop ends where its condition is false, and else it is a run of the body, which is paid from
the budget, and the rest of the loop. -/
theorem iterate_eq (rounds : Nat) (state : State) :
    iterate condition counter body rounds state =
      state.withValue condition fun value =>
        if value = 0 then
          .done state
        else if rounds = 0 ∨ state.budget = 0 then
          .exhausted
        else
          (body { state with budget := state.budget - 1 }).andThen fun after =>
            iterate condition counter body (rounds - 1) (after.increment counter) := by
  rw [iterate.eq_def, State.withValue]
  dsimp only
  cases condition.eval state.env with
  | error fault => rfl
  | ok value =>
      by_cases hvalue : value = 0
      · simp only [hvalue, if_true]
      simp only [hvalue, if_false]
      cases rounds with
      | zero => rfl
      | succ rounds =>
          cases state.budget with
          | zero => rfl
          | succ budget =>
              simp only [Nat.add_one_ne_zero, or_self, if_false, Nat.add_sub_cancel]
              cases body { state with budget } <;> rfl

theorem iterate_fault {fault : EvalFault} (h : condition.eval state.env = .error fault) :
    iterate condition counter body rounds state = .failed fault := by
  rw [iterate_eq, State.withValue, h]

theorem iterate_end (h : condition.eval state.env = .ok 0) :
    iterate condition counter body rounds state = .done state := by
  rw [iterate_eq, State.withValue, h]
  rfl

/-- A round runs the body and adds one to the counter. -/
theorem iterate_round {budget : Nat} (h : condition.eval state.env = .ok value) (hvalue : value ≠ 0)
    (hbudget : state.budget = budget + 1) :
    iterate condition counter body (rounds + 1) state =
      (body { state with budget }).andThen fun after =>
        iterate condition counter body rounds (after.increment counter) := by
  rw [iterate_eq, State.withValue, h]
  simp [hvalue, hbudget]

theorem iterate_exhausted (h : condition.eval state.env = .ok value) (hvalue : value ≠ 0)
    (hnone : rounds = 0 ∨ state.budget = 0) :
    iterate condition counter body rounds state = .exhausted := by
  rw [iterate_eq, State.withValue, h]
  simp only [hvalue, hnone, if_false, if_true]

theorem increment_extend (state : State) (more : Nat) (counter : String) :
    (state.extend more).increment counter = (state.increment counter).extend more := by
  unfold State.increment
  cases hvalue : state.env.get? counter <;> simp [State.extend, hvalue, State.assign]

/-- Under a larger budget a loop may run more rounds as well. -/
theorem iterate_extend (hbody : Extends body) (rounds more : Nat) (state : State)
    (h : iterate condition counter body rounds state ≠ .exhausted) :
    iterate condition counter body (rounds + more) (state.extend more) =
      (iterate condition counter body rounds state).extend more := by
  cases heval : condition.eval state.env with
  | error fault =>
      have heval' : condition.eval (state.extend more).env = .error fault := heval
      rw [iterate_fault heval, iterate_fault heval']
      rfl
  | ok value =>
      have heval' : condition.eval (state.extend more).env = .ok value := heval
      by_cases hvalue : value = 0
      · subst hvalue
        rw [iterate_end heval, iterate_end heval']
        rfl
      match rounds, hbudget : state.budget with
      | 0, _ => exact absurd (iterate_exhausted heval hvalue (.inl rfl)) h
      | _ + 1, 0 => exact absurd (iterate_exhausted heval hvalue (.inr hbudget)) h
      | rounds + 1, budget + 1 =>
          have hleft : (state.extend more).budget = budget + more + 1 := by
            simp only [State.extend, hbudget]
            omega
          rw [iterate_round heval hvalue hbudget] at h ⊢
          rw [show rounds + 1 + more = rounds + more + 1 by omega,
            iterate_round heval' hvalue hleft]
          have hrun : body { state with budget } ≠ .exhausted := by
            intro hexhausted
            simp [hexhausted, Outcome.andThen] at h
          have hextend := hbody { state with budget } more hrun
          dsimp only [State.extend] at hextend ⊢
          rw [hextend]
          cases houtcome : body { state with budget } with
          | done after =>
              rw [houtcome] at h
              have hnext := iterate_extend hbody rounds more (after.increment counter) h
              rw [← increment_extend] at hnext
              exact hnext
          | _ => rfl

end Loops

/-! ### Statements -/

mutual

/-- A statement that its budget suffices for runs in the same way under a larger budget. -/
theorem Statement.extends_run (statement : Statement) : Extends statement.run := by
  cases statement with
  | declare name value =>
      intro state more h
      rw [Statement.run, Statement.run]
      exact extends_withValue value (fun value state => .done (state.assign name value))
        (fun _ _ _ _ => rfl) state more (by simpa [Statement.run] using h)
  | loop counter start condition body =>
      have hbody := extends_runAll body
      intro state more h
      rw [Statement.run] at h
      rw [Statement.run, Statement.run]
      refine extends_withValue start (fun value state =>
        iterate condition counter (runAll body) state.budget (state.assign counter value))
        (fun value state more h => ?_) state more h
      exact iterate_extend hbody state.budget more (state.assign counter value) h
  | choose branches otherwise =>
      have hotherwise := extends_runAll otherwise
      intro state more h
      rw [Statement.run] at h
      rw [Statement.run, Statement.run]
      exact extends_runFirst branches hotherwise state more h
  | print glyphs =>
      intro state more _
      rw [Statement.run, Statement.run]
      rfl
  | exit status =>
      intro state more h
      rw [Statement.run] at h
      rw [Statement.run, Statement.run]
      exact extends_withValue status (fun value state => .exited value state)
        (fun _ _ _ _ => rfl) state more h

theorem extends_runAll (statements : List Statement) : Extends (runAll statements) := by
  cases statements with
  | nil =>
      intro state more _
      rw [runAll, runAll]
      rfl
  | cons statement rest =>
      have hrun := statement.extends_run.andThen (extends_runAll rest)
      intro state more h
      rw [runAll] at h
      rw [runAll, runAll]
      exact hrun state more h

theorem extends_runFirst (branches : List (Expr × List Statement)) {otherwise : State → Outcome}
    (h : Extends otherwise) : Extends (runFirst branches otherwise) := by
  match branches with
  | [] =>
      intro state more hne
      rw [runFirst] at hne
      rw [runFirst, runFirst]
      exact h state more hne
  | (condition, body) :: rest =>
      have hbody := extends_runAll body
      have hrest := extends_runFirst rest h
      intro state more hne
      rw [runFirst] at hne
      rw [runFirst, runFirst]
      refine extends_withValue condition (fun value state =>
        if value = 0 then runFirst rest otherwise state else runAll body state)
        (fun value state more hne => ?_) state more hne
      by_cases hzero : value = 0
      · simp only [hzero, if_true] at hne ⊢
        exact hrest state more hne
      · simp only [hzero, if_false] at hne ⊢
        exact hbody state more hne

end

end GridRules.Program
