import GridRules.Program.Interpreter
import Mathlib.Logic.Relation

/-!
# Programs step by step

A machine runs a program in single steps and without a budget. It keeps what is left to do and
counts the loop bodies that it has begun. Between two loop bodies what is left to do becomes less
with every step; so under a limit for the number of loop bodies there is no endless run, whatever a
body does to the counter of its loop and however loops are nested.
-/

namespace GridRules.Program

/-- A part of what is left to do: a statement, the next round of a loop, or adding one to the
counter of a loop. -/
inductive Task where
  | statement (statement : Statement)
  | round (counter : String) (condition : Expr) (body : List Statement)
  | count (counter : String)

/-- A program in the middle of its run: what is left to do, the variables, what was printed with the
last character first, and the number of loop bodies that were begun. -/
structure Machine where
  tasks : List Task
  env : Env := []
  printed : List Char := []
  begun : Nat := 0

/-- What the next step of a machine leads to. -/
inductive Move where
  | goesOn (next : Machine)
  | beginsBody (next : Machine)
  | exits (status : Int)
  | fails (fault : EvalFault)

/-- The tasks of statements, one after the other. -/
def tasksOf (statements : List Statement) : List Task :=
  statements.map .statement

namespace Machine

/-- The machine with further tasks before the others. -/
def push (machine : Machine) (tasks : List Task) : Machine :=
  { machine with tasks := tasks ++ machine.tasks }

/-- The machine after an assignment. -/
def assign (machine : Machine) (name : String) (value : Int) : Machine :=
  { machine with env := machine.env.set name value }

/-- The machine after one has been added to a variable. -/
def increment (machine : Machine) (name : String) : Machine :=
  match machine.env.get? name with
  | some value => machine.assign name (value + 1)
  | none => machine

/-- Evaluates an expression and moves on with its value. -/
def withValue (machine : Machine) (expr : Expr) (next : Int → Move) : Move :=
  match expr.eval machine.env with
  | .error fault => .fails fault
  | .ok value => next value

end Machine

/-- What the first task of a machine leads to, which has the other tasks left. A chain of
alternatives is looked through branch by branch. -/
def Task.move (machine : Machine) : Task → Move
  | .statement (.declare name value) =>
    machine.withValue value fun value => .goesOn (machine.assign name value)
  | .statement (.loop counter start condition body) =>
    machine.withValue start fun value =>
      .goesOn ((machine.assign counter value).push [.round counter condition body])
  | .statement (.choose [] otherwise) => .goesOn (machine.push (tasksOf otherwise))
  | .statement (.choose ((condition, body) :: branches) otherwise) =>
    machine.withValue condition fun value =>
      if value = 0 then .goesOn (machine.push [.statement (.choose branches otherwise)])
      else .goesOn (machine.push (tasksOf body))
  | .statement (.print glyphs) =>
    .goesOn { machine with printed := glyphs.reverse ++ machine.printed }
  | .statement (.exit status) => machine.withValue status .exits
  | .round counter condition body =>
    machine.withValue condition fun value =>
      if value = 0 then .goesOn machine
      else .beginsBody (Machine.push { machine with begun := machine.begun + 1 }
        (tasksOf body ++ [.count counter, .round counter condition body]))
  | .count counter => .goesOn (machine.increment counter)

/-- What the next step of a machine leads to. Without tasks it exits. -/
def Machine.move (machine : Machine) : Move :=
  match machine.tasks with
  | [] => .exits 0
  | task :: tasks => task.move { machine with tasks }

/-- The machine at the start of a program. -/
def Machine.start (statements : List Statement) : Machine where
  tasks := tasksOf statements

/-! ### What is left to do -/

mutual

/-- The weight of a statement: more than the number of steps up to the next loop body. -/
def Statement.weight : Statement → Nat
  | .declare _ _ | .print _ | .exit _ => 1
  | .loop _ _ _ _ => 2
  | .choose branches otherwise => branchesWeight branches + weightAll otherwise + 1

/-- The weight of statements. -/
def weightAll : List Statement → Nat
  | [] => 0
  | statement :: rest => statement.weight + weightAll rest

/-- The weight of branches. -/
def branchesWeight : List (Expr × List Statement) → Nat
  | [] => 0
  | (_, body) :: rest => weightAll body + 1 + branchesWeight rest

end

/-- The weight of a task. -/
def Task.weight : Task → Nat
  | .statement first => first.weight
  | .round _ _ _ | .count _ => 1

/-- The weight of tasks. -/
def tasksWeight : List Task → Nat
  | [] => 0
  | task :: rest => task.weight + tasksWeight rest

/-- The weight of what a machine has left to do. -/
def Machine.weight (machine : Machine) : Nat :=
  tasksWeight machine.tasks

theorem tasksWeight_tasksOf (statements : List Statement) :
    tasksWeight (tasksOf statements) = weightAll statements := by
  induction statements with
  | nil => rfl
  | cons statement rest ih => rw [weightAll, ← ih]; rfl

theorem Machine.weight_push (machine : Machine) (tasks : List Task) :
    (machine.push tasks).weight = tasksWeight tasks + machine.weight := by
  induction tasks with
  | nil => exact (Nat.zero_add _).symm
  | cons task tasks ih => rw [tasksWeight, Nat.add_assoc, ← ih]; rfl

/-- What a step does to the number of loop bodies begun and to the weight. -/
def Move.Descends (begun weight : Nat) : Move → Prop
  | .goesOn next => next.begun = begun ∧ next.weight < weight
  | .beginsBody next => next.begun = begun + 1
  | .exits _ | .fails _ => True

theorem Machine.descends_withValue {begun weight : Nat} (machine : Machine) (expr : Expr)
    {next : Int → Move} (h : ∀ value, (next value).Descends begun weight) :
    (machine.withValue expr next).Descends begun weight := by
  unfold Machine.withValue
  split
  · trivial
  · exact h _

theorem Machine.increment_spec (machine : Machine) (name : String) :
    (machine.increment name).begun = machine.begun ∧
      (machine.increment name).weight = machine.weight := by
  unfold Machine.increment
  split <;> exact ⟨rfl, rfl⟩

theorem Task.descends_move (machine : Machine) (task : Task) :
    (task.move machine).Descends machine.begun (task.weight + machine.weight) := by
  match task with
  | .statement (.declare name value) =>
      apply machine.descends_withValue
      intro value
      exact ⟨rfl, Nat.lt_add_of_pos_left Nat.one_pos⟩
  | .statement (.loop counter start condition body) =>
      apply machine.descends_withValue
      intro value
      exact ⟨rfl, Nat.add_lt_add_right Nat.one_lt_two machine.weight⟩
  | .statement (.choose [] otherwise) =>
      refine ⟨rfl, ?_⟩
      simp only [Machine.weight_push, tasksWeight_tasksOf, Task.weight, Statement.weight,
        branchesWeight]
      omega
  | .statement (.choose ((condition, body) :: branches) otherwise) =>
      apply machine.descends_withValue
      intro value
      have hweight : Statement.weight (.choose ((condition, body) :: branches) otherwise) =
          weightAll body + Statement.weight (.choose branches otherwise) + 1 := by
        simp only [Statement.weight, branchesWeight]
        omega
      split
      · refine ⟨rfl, ?_⟩
        simp only [Machine.weight_push, tasksWeight, Task.weight, hweight]
        omega
      · refine ⟨rfl, ?_⟩
        simp only [Machine.weight_push, tasksWeight_tasksOf, Task.weight, hweight]
        omega
  | .statement (.print glyphs) => exact ⟨rfl, Nat.lt_add_of_pos_left Nat.one_pos⟩
  | .statement (.exit status) => exact machine.descends_withValue status fun _ => trivial
  | .round counter condition body =>
      apply machine.descends_withValue
      intro value
      split
      · exact ⟨rfl, Nat.lt_add_of_pos_left Nat.one_pos⟩
      · exact rfl
  | .count counter =>
      obtain ⟨hbegun, hweight⟩ := machine.increment_spec counter
      exact ⟨hbegun, hweight ▸ Nat.lt_add_of_pos_left Nat.one_pos⟩

/-- A step that begins no loop body leaves less to do, and one that begins a loop body counts it. -/
theorem Machine.descends_move (machine : Machine) :
    machine.move.Descends machine.begun machine.weight := by
  unfold Machine.move
  split
  · trivial
  · next task tasks htasks =>
      have hweight : machine.weight = task.weight + ({ machine with tasks } : Machine).weight := by
        rw [Machine.weight, htasks]
        rfl
      rw [hweight]
      exact task.descends_move { machine with tasks }

theorem Machine.begun_of_goesOn {machine next : Machine} (h : machine.move = .goesOn next) :
    next.begun = machine.begun ∧ next.weight < machine.weight := by
  have hdescends := machine.descends_move
  rwa [h] at hdescends

theorem Machine.begun_of_beginsBody {machine next : Machine} (h : machine.move = .beginsBody next) :
    next.begun = machine.begun + 1 := by
  have hdescends := machine.descends_move
  rwa [h] at hdescends

/-! ### Runs under a limit -/

/-- One machine leads to the other in one step. -/
def Machine.Steps (machine next : Machine) : Prop :=
  machine.move = .goesOn next ∨ machine.move = .beginsBody next

/-- One machine leads to the other in one step, which begins no loop body beyond the limit. -/
def Machine.Advances (limit : Int) (machine next : Machine) : Prop :=
  machine.move = .goesOn next ∨ machine.move = .beginsBody next ∧ next.begun ≤ limit

/-- The number of loop bodies that may still be begun under a limit, and the weight of what is left
to do before the next one. -/
def Machine.room (limit : Int) (machine : Machine) : Nat × Nat :=
  (limit.toNat - machine.begun, machine.weight)

theorem Machine.Advances.room_lt {limit : Int} {machine next : Machine}
    (h : machine.Advances limit next) :
    Prod.Lex (· < ·) (· < ·) (next.room limit) (machine.room limit) := by
  rcases h with hgoes | ⟨hbegins, hlimit⟩
  · obtain ⟨hbegun, hweight⟩ := begun_of_goesOn hgoes
    rw [Machine.room, hbegun]
    exact .right _ hweight
  · have hbegun := begun_of_beginsBody hbegins
    exact .left _ _ (by omega)

/-- Under a limit no run is endless, from whatever machine it starts. -/
theorem Machine.wellFounded_advances (limit : Int) :
    WellFounded fun next machine : Machine => machine.Advances limit next := by
  have hlex : WellFounded (Prod.Lex (fun a b : Nat => a < b) (fun a b : Nat => a < b)) :=
    (Prod.lex Nat.lt_wfRel Nat.lt_wfRel).wf
  exact Subrelation.wf Advances.room_lt (InvImage.wf (Machine.room limit) hlex)

/-- What the exit of a program with a status means for its output. -/
def exitOutput (status : Int) (printed : List Char) : Except RunFault String :=
  if status = 0 then .ok (String.ofList printed.reverse) else .error (.nonzeroExit status)

/-- The output of a machine under a limit, and the number of loop bodies that it counts: those that
it begins and the one that it is refused. -/
def Machine.finish (limit : Int) (machine : Machine) : Except RunFault String × Nat :=
  match h : machine.move with
  | .goesOn next =>
    have : machine.Advances limit next := .inl h
    next.finish limit
  | .beginsBody next =>
    if hlimit : next.begun ≤ limit then
      have : machine.Advances limit next := .inr ⟨h, hlimit⟩
      next.finish limit
    else (.error (.stepLimit limit), next.begun)
  | .exits status => (exitOutput status machine.printed, machine.begun)
  | .fails fault => (.error (.evaluation fault), machine.begun)
termination_by machine.room limit
decreasing_by all_goals exact Machine.Advances.room_lt ‹_›

/-- The output of a machine under a limit. -/
def Machine.outcome (limit : Int) (machine : Machine) : Except RunFault String :=
  (machine.finish limit).1

theorem Machine.outcome_eq (limit : Int) (machine : Machine) :
    machine.outcome limit =
      match machine.move with
      | .goesOn next => next.outcome limit
      | .beginsBody next =>
        if next.begun ≤ limit then next.outcome limit else .error (.stepLimit limit)
      | .exits status => exitOutput status machine.printed
      | .fails fault => .error (.evaluation fault) := by
  rw [Machine.outcome, Machine.finish]
  split
  · next hgoes => simp [hgoes, Machine.outcome]
  · next next hbegins =>
      by_cases hlimit : next.begun ≤ limit <;> simp [hbegins, hlimit, Machine.outcome]
  · next hexits => simp [hexits]
  · next hfails => simp [hfails]

theorem Machine.outcome_of_advances {limit : Int} {machine next : Machine}
    (h : machine.Advances limit next) : machine.outcome limit = next.outcome limit := by
  rw [Machine.outcome_eq]
  rcases h with hgoes | ⟨hbegins, hlimit⟩
  · rw [hgoes]
  · rw [hbegins]
    exact if_pos hlimit

/-- The run of a machine under a limit ends here. -/
inductive Machine.Ends (limit : Int) (machine : Machine) : Except RunFault String → Prop
  | exits {status} (h : machine.move = .exits status) :
      machine.Ends limit (exitOutput status machine.printed)
  | fails {fault} (h : machine.move = .fails fault) :
      machine.Ends limit (.error (.evaluation fault))
  | stops {next} (h : machine.move = .beginsBody next) (hlimit : limit < next.begun) :
      machine.Ends limit (.error (.stepLimit limit))

theorem Machine.outcome_of_ends {limit : Int} {machine : Machine} {outcome : Except RunFault String}
    (h : machine.Ends limit outcome) : machine.outcome limit = outcome := by
  rw [Machine.outcome_eq]
  cases h with
  | exits h => rw [h]
  | fails h => rw [h]
  | stops h hlimit =>
      rw [h]
      exact if_neg (by omega)

/-- Every machine advances to an end. -/
theorem Machine.exists_ends (limit : Int) (machine : Machine) :
    ∃ last, Relation.ReflTransGen (Machine.Advances limit) machine last ∧
      last.Ends limit (machine.outcome limit) := by
  induction machine using (wellFounded_advances limit).induction with
  | _ machine ih =>
      have hon {next : Machine} (h : machine.Advances limit next) :
          ∃ last, Relation.ReflTransGen (Machine.Advances limit) machine last ∧
            last.Ends limit (machine.outcome limit) := by
        obtain ⟨last, hreaches, hends⟩ := ih next h
        exact ⟨last, hreaches.head h, outcome_of_advances h ▸ hends⟩
      cases hmove : machine.move with
      | goesOn next => exact hon (.inl hmove)
      | beginsBody next =>
          by_cases hlimit : next.begun ≤ limit
          · exact hon (.inr ⟨hmove, hlimit⟩)
          · have hends := Ends.stops hmove (by omega : limit < next.begun)
            exact ⟨machine, .refl, outcome_of_ends hends ▸ hends⟩
      | exits status =>
          have hends : machine.Ends limit _ := .exits hmove
          exact ⟨machine, .refl, outcome_of_ends hends ▸ hends⟩
      | fails fault =>
          have hends : machine.Ends limit _ := .fails hmove
          exact ⟨machine, .refl, outcome_of_ends hends ▸ hends⟩

/-! ### Runs up to the limit -/

open Relation (ReflTransGen)

variable {limit : Int}

theorem Machine.Steps.begun_le {machine next : Machine} (h : machine.Steps next) :
    machine.begun ≤ next.begun := by
  rcases h with hgoes | hbegins
  · exact Nat.le_of_eq (Machine.begun_of_goesOn hgoes).1.symm
  · have hbegun := Machine.begun_of_beginsBody hbegins
    omega

theorem Machine.Advances.steps {machine next : Machine} (h : machine.Advances limit next) :
    machine.Steps next :=
  h.imp_right And.left

/-- Under a limit a machine never begins more loop bodies. -/
theorem Machine.begun_le_of_reaches {machine last : Machine}
    (h : ReflTransGen (Machine.Advances limit) machine last)
    (hmachine : machine.begun ≤ limit.toNat) : last.begun ≤ limit.toNat := by
  induction h with
  | refl => exact hmachine
  | tail _ hadvances ih =>
      rcases hadvances with hgoes | ⟨-, hlimit⟩
      · rwa [(Machine.begun_of_goesOn hgoes).1]
      · omega

theorem Machine.outcome_of_reaches {machine last : Machine}
    (h : ReflTransGen (Machine.Advances limit) machine last) :
    machine.outcome limit = last.outcome limit := by
  induction h with
  | refl => rfl
  | tail _ hadvances ih => exact ih.trans (outcome_of_advances hadvances)

/-- Without limit a machine takes the same steps as long as it has not begun more loop bodies. -/
theorem Machine.reaches_of_steps {machine last : Machine}
    (h : ReflTransGen Machine.Steps machine last)
    (hlast : last.begun ≤ limit.toNat) : ReflTransGen (Machine.Advances limit) machine last := by
  induction h with
  | refl => exact .refl
  | tail _ hsteps ih =>
      refine (ih (Nat.le_trans hsteps.begun_le hlast)).tail ?_
      refine hsteps.imp_right fun hbegins => ⟨hbegins, ?_⟩
      have hbegun := begun_of_beginsBody hbegins
      omega

/-- A machine is stopped by the limit exactly if without limit it comes to begin one loop body more
than the limit allows. -/
theorem Machine.outcome_eq_stepLimit_iff {machine : Machine}
    (hmachine : machine.begun ≤ limit.toNat) :
    machine.outcome limit = .error (.stepLimit limit) ↔
      ∃ last next, ReflTransGen Machine.Steps machine last ∧ last.move = .beginsBody next ∧
        last.begun = limit.toNat := by
  constructor
  · intro h
    obtain ⟨last, hreaches, hends⟩ := machine.exists_ends limit
    have hlast := begun_le_of_reaches hreaches hmachine
    rw [h] at hends
    generalize houtcome : Except.error (RunFault.stepLimit limit) = outcome at hends
    cases hends with
    | exits hmove =>
        unfold exitOutput at houtcome
        split at houtcome <;> cases houtcome
    | fails hmove => cases houtcome
    | stops hmove hlimit =>
        have hbegun := begun_of_beginsBody hmove
        exact ⟨last, _, hreaches.lift id fun _ _ => Advances.steps, hmove, by omega⟩
  · rintro ⟨last, next, hreaches, hmove, hlast⟩
    rw [outcome_of_reaches (reaches_of_steps hreaches (Nat.le_of_eq hlast))]
    have hbegun := begun_of_beginsBody hmove
    exact outcome_of_ends (.stops hmove (by omega))

end GridRules.Program
