import GridRules.Proofs.Program.Budget
import GridRules.Proofs.Program.Machine
import Mathlib.Order.Nat

/-!
# Budgets and machines

A run that pays its loop bodies from a budget has the output of the machine that counts them, since
what is left of the budget and what the machine has begun always add up to the limit.
-/

namespace GridRules.Program

/-- The machine that has run what is paid from a budget, with tasks that are left. -/
def State.machine (limit : Int) (state : State) (tasks : List Task) : Machine where
  tasks := tasks
  env := state.env
  printed := state.printed
  begun := limit.toNat - state.budget

/-- The output of a run that the machine goes on with if it is done. -/
def Outcome.resume (limit : Int) (tasks : List Task) : Outcome → Except RunFault String
  | .done state => (state.machine limit tasks).outcome limit
  | other => other.output limit

/-- The machine runs its first tasks as the run of a part of the program does, which does not add to
the budget. -/
structure SimulatesAt (limit : Int) (run : State → Outcome) (front : List Task) (state : State) :
    Prop where
  outcome : ∀ tasks, (state.machine limit (front ++ tasks)).outcome limit =
    (run state).resume limit tasks
  budget_le : ∀ after, run state = .done after → after.budget ≤ state.budget

/-- The machine runs its first tasks as the run of a part of the program does, from every state with
a budget within the limit. -/
def Simulates (limit : Int) (run : State → Outcome) (front : List Task) : Prop :=
  ∀ state, state.budget ≤ limit.toNat → SimulatesAt limit run front state

variable {limit : Int} {run next : State → Outcome} {state after : State} {task : Task}

/-! ### Single tasks -/

theorem simulatesAt_done (state : State) : SimulatesAt limit .done [] state := by
  constructor
  · intro tasks
    rfl
  · intro after hafter
    obtain rfl := Outcome.done.inj hafter
    exact le_rfl

/-- A task at which the machine ends is simulated if the run ends there in the same way. -/
theorem simulatesAt_of_ends (hdone : ∀ after, run state ≠ .done after)
    (hends : ∀ tasks, (state.machine limit (task :: tasks)).Ends limit ((run state).output limit)) :
    SimulatesAt limit run [task] state := by
  constructor
  · intro tasks
    have hresume : (run state).resume limit tasks = (run state).output limit := by
      cases hrun : run state with
      | done after => exact absurd hrun (hdone after)
      | _ => rfl
    rw [hresume]
    exact Machine.outcome_of_ends (hends tasks)
  · intro after hafter
    exact absurd hafter (hdone after)

/-- A task that leads to other tasks is simulated as these are. -/
theorem SimulatesAt.of_advances {front : List Task} (h : SimulatesAt limit next front after)
    (hrun : run state = next after) (hbudget : after.budget ≤ state.budget)
    (hadvances : ∀ tasks, (state.machine limit (task :: tasks)).Advances limit
      (after.machine limit (front ++ tasks))) :
    SimulatesAt limit run [task] state := by
  constructor
  · intro tasks
    rw [hrun, ← h.outcome tasks]
    exact Machine.outcome_of_advances (hadvances tasks)
  · intro last hlast
    rw [hrun] at hlast
    exact (h.budget_le last hlast).trans hbudget

section Values

variable {expr : Expr} {tasks : List Task} {move : Int → Move}

theorem withValue_machine {value : Int} (h : expr.eval state.env = .ok value) :
    (state.machine limit tasks).withValue expr move = move value := by
  simp [Machine.withValue, State.machine, h]

theorem withValue_machine_fault {fault : EvalFault} (h : expr.eval state.env = .error fault) :
    (state.machine limit tasks).withValue expr move = .fails fault := by
  simp [Machine.withValue, State.machine, h]

end Values

/-- A task that evaluates an expression is simulated if it is so with each value. -/
theorem simulatesAt_withValue {expr : Expr} {next : Int → Outcome} {move : List Task → Int → Move}
    (hrun : run state = state.withValue expr next)
    (hmove : ∀ tasks, (state.machine limit (task :: tasks)).move =
      (state.machine limit tasks).withValue expr (move tasks))
    (h : ∀ value, run state = next value →
      (∀ tasks, (state.machine limit (task :: tasks)).move = move tasks value) →
      SimulatesAt limit run [task] state) :
    SimulatesAt limit run [task] state := by
  cases heval : expr.eval state.env with
  | error fault =>
      have hfailed : run state = .failed fault := by rw [hrun, State.withValue, heval]
      apply simulatesAt_of_ends
      · simp [hfailed]
      · intro tasks
        rw [hfailed]
        exact .fails ((hmove tasks).trans (withValue_machine_fault heval))
  | ok value =>
      have hvalue : run state = next value := by rw [hrun, State.withValue, heval]
      exact h value hvalue fun tasks => (hmove tasks).trans (withValue_machine heval)

/-! ### Sequences and loops -/

theorem SimulatesAt.andThen {front back : List Task} (h : SimulatesAt limit run front state)
    (hnext : ∀ after, run state = .done after → SimulatesAt limit next back after) :
    SimulatesAt limit (fun state => (run state).andThen next) (front ++ back) state := by
  constructor
  · intro tasks
    rw [List.append_assoc, h.outcome]
    cases hrun : run state with
    | done after => exact (hnext after hrun).outcome tasks
    | _ => rfl
  · intro last hlast
    cases hrun : run state with
    | done after =>
        rw [hrun] at hlast
        exact ((hnext after hrun).budget_le last hlast).trans (h.budget_le after hrun)
    | _ =>
        rw [hrun] at hlast
        cases hlast

theorem increment_machine (state : State) (counter : String) (tasks : List Task) :
    (state.machine limit tasks).increment counter =
      (state.increment counter).machine limit tasks := by
  unfold Machine.increment State.increment
  cases h : state.env.get? counter <;> simp [State.machine, h, Machine.assign, State.assign]

theorem budget_increment (state : State) (counter : String) :
    (state.increment counter).budget = state.budget := by
  unfold State.increment
  split <;> rfl

theorem simulatesAt_increment (counter : String) (state : State) :
    SimulatesAt limit (fun state => .done (state.increment counter)) [.count counter] state :=
  (simulatesAt_done _).of_advances rfl (budget_increment state counter).le fun tasks =>
    .inl (congrArg Move.goesOn (increment_machine state counter tasks))

section Loops

variable {condition : Expr} {counter : String} {body : List Statement} {value : Int}

theorem move_round (h : condition.eval state.env = .ok value) (hvalue : value ≠ 0)
    (tasks : List Task) :
    (state.machine limit (.round counter condition body :: tasks)).move = .beginsBody
      { tasks := tasksOf body ++ [.count counter, .round counter condition body] ++ tasks,
        env := state.env, printed := state.printed, begun := limit.toNat - state.budget + 1 } :=
  (withValue_machine h).trans (if_neg hvalue)

/-- A round that is paid from the budget begins a loop body within the limit. -/
theorem advances_round {budget : Nat} (h : condition.eval state.env = .ok value)
    (hvalue : value ≠ 0)
    (hbudget : state.budget = budget + 1) (hstate : state.budget ≤ limit.toNat)
    (tasks : List Task) :
    (state.machine limit (.round counter condition body :: tasks)).Advances limit
      (State.machine limit { state with budget }
        (tasksOf body ++ ([.count counter] ++ [.round counter condition body]) ++ tasks)) := by
  refine .inr ⟨?_, ?_⟩
  · rw [move_round h hvalue, State.machine, hbudget]
    simp only [List.append_assoc, List.cons_append, List.nil_append, Move.beginsBody.injEq,
      Machine.mk.injEq, true_and]
    omega
  · simp only [State.machine]
    omega

/-- A loop with at least as many rounds as its budget is simulated by a machine that has no bound
for the rounds, since every round takes from the budget. -/
theorem simulatesAt_iterate (hbody : Simulates limit (runAll body) (tasksOf body)) (rounds : Nat)
    (state : State) (hrounds : state.budget ≤ rounds) (hstate : state.budget ≤ limit.toNat) :
    SimulatesAt limit (iterate condition counter (runAll body) rounds)
      [.round counter condition body] state := by
  cases heval : condition.eval state.env with
  | error fault =>
      have hfailed : iterate condition counter (runAll body) rounds state = .failed fault :=
        iterate_fault heval
      apply simulatesAt_of_ends
      · simp [hfailed]
      · intro tasks
        rw [hfailed]
        exact .fails (withValue_machine_fault heval)
  | ok value =>
      by_cases hvalue : value = 0
      · subst hvalue
        exact (simulatesAt_done state).of_advances (iterate_end heval) le_rfl fun tasks =>
          .inl ((withValue_machine heval).trans (if_pos rfl))
      -- Without budget both runs stop here; else both begin a body, and rounds are left for the
      -- rest.
      match hbudget : state.budget, rounds with
      | 0, rounds =>
          have hexhausted : iterate condition counter (runAll body) rounds state = .exhausted :=
            iterate_exhausted heval hvalue (.inr hbudget)
          apply simulatesAt_of_ends
          · simp [hexhausted]
          · intro tasks
            rw [hexhausted]
            apply Machine.Ends.stops (move_round heval hvalue tasks)
            dsimp only
            omega
      | budget + 1, 0 => omega
      | budget + 1, rounds + 1 =>
          have hfirst := hbody { state with budget } (by dsimp only; omega)
          have hothers (after : State) (hafter : runAll body { state with budget } = .done after) :
              SimulatesAt limit (fun after => (Outcome.done (after.increment counter)).andThen
                (iterate condition counter (runAll body) rounds))
                ([.count counter] ++ [.round counter condition body]) after := by
            have hle : after.budget ≤ budget := hfirst.budget_le after hafter
            apply (simulatesAt_increment counter after).andThen
            intro next hnext
            obtain rfl := Outcome.done.inj hnext
            rw [← budget_increment after counter] at hle
            exact simulatesAt_iterate hbody rounds _ (by omega) (by omega)
          exact (hfirst.andThen hothers).of_advances (iterate_round heval hvalue hbudget)
            (by dsimp only; omega) (advances_round heval hvalue hbudget hstate)

end Loops

/-! ### Statements -/

mutual

/-- A machine runs a statement as it is run from a budget. -/
theorem Statement.simulates_run (statement : Statement) :
    Simulates limit statement.run [.statement statement] := by
  intro state hstate
  cases statement with
  | declare name value =>
      refine simulatesAt_withValue (by rw [Statement.run]) (fun _ => rfl) ?_
      intro value hrun hmove
      exact (simulatesAt_done _).of_advances hrun le_rfl fun tasks => .inl (hmove tasks)
  | loop counter start condition body =>
      have hbody := simulates_runAll body
      refine simulatesAt_withValue (by rw [Statement.run]) (fun _ => rfl) ?_
      intro value hrun hmove
      exact (simulatesAt_iterate hbody state.budget (state.assign counter value) le_rfl
        hstate).of_advances hrun le_rfl fun tasks => .inl (hmove tasks)
  | choose branches otherwise =>
      have hchain := simulates_runFirst branches (simulates_runAll otherwise) state hstate
      have hrun : Statement.run (.choose branches otherwise) =
          runFirst branches (runAll otherwise) := by
        funext state
        rw [Statement.run]
      rwa [hrun]
  | print glyphs =>
      exact (simulatesAt_done (state.print glyphs)).of_advances (by rw [Statement.run]) le_rfl
        fun _ => .inl rfl
  | exit status =>
      refine simulatesAt_withValue (by rw [Statement.run]) (fun _ => rfl) ?_
      intro value hrun hmove
      apply simulatesAt_of_ends
      · simp [hrun]
      · intro tasks
        rw [hrun]
        exact .exits (hmove tasks)

theorem simulates_runAll (statements : List Statement) :
    Simulates limit (runAll statements) (tasksOf statements) := by
  intro state hstate
  cases statements with
  | nil =>
      have hrun : runAll [] = .done := by
        funext state
        rw [runAll]
      exact hrun ▸ simulatesAt_done state
  | cons statement rest =>
      have hfirst := statement.simulates_run state hstate
      have hrun : runAll (statement :: rest) =
          fun state => (statement.run state).andThen (runAll rest) := by
        funext state
        rw [runAll]
      rw [hrun]
      exact hfirst.andThen fun after hafter =>
        simulates_runAll rest after ((hfirst.budget_le after hafter).trans hstate)

theorem simulates_runFirst (branches : List (Expr × List Statement)) {otherwise : List Statement}
    (h : Simulates limit (runAll otherwise) (tasksOf otherwise)) :
    Simulates limit (runFirst branches (runAll otherwise))
      [.statement (.choose branches otherwise)] := by
  intro state hstate
  match branches with
  | [] => exact (h state hstate).of_advances (by rw [runFirst]) le_rfl fun _ => .inl rfl
  | (condition, body) :: rest =>
      have hbody := simulates_runAll body state hstate
      have hrest := simulates_runFirst rest h state hstate
      refine simulatesAt_withValue (by rw [runFirst]) (fun _ => rfl) ?_
      intro value hrun hmove
      by_cases hvalue : value = 0
      · exact hrest.of_advances (hrun.trans (if_pos hvalue)) le_rfl fun tasks =>
          .inl ((hmove tasks).trans (if_pos hvalue))
      · exact hbody.of_advances (hrun.trans (if_neg hvalue)) le_rfl fun tasks =>
          .inl ((hmove tasks).trans (if_neg hvalue))

end

/-! ### Programs -/

theorem resume_nil (outcome : Outcome) : outcome.resume limit [] = outcome.output limit := by
  cases outcome with
  | done state =>
      have hends : (state.machine limit []).Ends limit (exitOutput 0 state.printed) := .exits rfl
      exact Machine.outcome_of_ends hends
  | _ => rfl

/-- The output of a program is that of the machine under the limit. -/
theorem output_eq_outcome (statements : List Statement) (limit : Int) :
    output statements limit = (Machine.start statements).outcome limit := by
  have hsimulates : Simulates limit (runAll statements) (tasksOf statements) :=
    simulates_runAll statements
  have houtcome := (hsimulates { budget := limit.toNat } le_rfl).outcome []
  rw [resume_nil, List.append_nil, State.machine, Nat.sub_self] at houtcome
  exact houtcome.symm

theorem interpret_eq_outcome {source : String} {statements : List Statement}
    (h : ofText source = .ok statements) (limit : Int) : interpret source limit =
      ((Machine.start statements).outcome limit).mapError .unfinished := by
  rw [interpret, h, ← output_eq_outcome]
  dsimp only
  cases output statements limit <;> rfl

end GridRules.Program
