import GridRules.Proofs.Program.Budget
import GridRules.Proofs.Program.Names
import GridRules.Proofs.Rule.Drawing
import GridRules.Proofs.Synthesis.Listing

/-!
# Runs of listings

The statements of a listing print the drawing of its rules, cell by cell. A cell prints the symbol
of the first branch that holds, a row its cells and a line feed, and every cell and every row is
paid from the budget.
-/

namespace GridRules

open Program

/-! ### Variables -/

theorem Program.Env.set_set (env : Env) (name : String) (a b : Int) :
    (env.set name a).set name b = env.set name b := by
  induction env with
  | nil => simp [Env.set]
  | cons entry rest ih =>
      by_cases h : entry.1 = name <;> simp [Env.set, h, ih]

/-- An expression depends on the values of the variables alone. -/
theorem Program.Expr.eval_congr {env env' : Env} (h : ∀ name, env.get? name = env'.get? name)
    (e : Expr) : e.eval env = e.eval env' :=
  e.eval_congr_of_mentions fun name _ => h name

/-- The variables are those of a cell. -/
def IsCellEnv (env : Env) (cell : Coord) (height width : Int) : Prop :=
  ∀ name, env.get? name = (cellEnv cell.row cell.col height width).get? name

/-- In whatever column, the variables are those of a cell in the row. -/
def IsRowEnv (env : Env) (row height width : Int) : Prop :=
  ∀ col, IsCellEnv (env.set "c" col) ⟨row, col⟩ height width

variable {env : Env} {row col height width : Int}

theorem IsRowEnv.set_col (h : IsRowEnv env row height width) (col : Int) :
    IsRowEnv (env.set "c" col) row height width := by
  intro other
  rw [Env.set_set]
  exact h other

theorem IsRowEnv.set_row (h : IsRowEnv env row height width) (row' : Int) :
    IsRowEnv (env.set "r" row') row' height width := by
  intro col name
  have hname := h col name
  simp only [cellEnv, Env.get?, Env.get?_set] at hname ⊢
  by_cases hr : "r" = name
  · subst hr
    simp
  · simpa [hr] using hname

theorem IsRowEnv.get?_row (h : IsRowEnv env row height width) : env.get? "r" = some row := by
  simpa [cellEnv, Env.get?] using h 0 "r"

theorem IsRowEnv.get?_height (h : IsRowEnv env row height width) :
    env.get? "H" = some height := by
  simpa [cellEnv, Env.get?] using h 0 "H"

/-! ### Cells -/

/-- A branch prints what a rule draws, where the test of the rule holds. -/
def Matches (height width : Int) (entry : String × Test) (branch : Expr × Char) : Prop :=
  entry.1 = String.singleton branch.2 ∧
    ∀ env cell, IsCellEnv env cell height width →
      (branch.1.eval env).map (· != 0) = entry.2.holds cell height width

variable {tests : List (String × Test)} {branches : List (Expr × Char)}

theorem runAll_single (statement : Statement) (state : State) :
    runAll [statement] state = statement.run state := by
  rw [runAll]
  cases statement.run state <;> simp [Outcome.andThen, runAll]

/-- A chain of alternatives prints what is drawn on the cell. -/
theorem run_cellStatements (h : List.Forall₂ (Matches height width) tests branches) {cell : Coord}
    {state : State} (henv : IsCellEnv state.env cell height width) :
    runAll (cellStatements branches) state =
      match drawCell " " height width cell tests with
      | .error fault => .failed fault
      | .ok text => .done (state.print text.toList) := by
  have hchain : runFirst (branches.map fun branch => (branch.1, [.print [branch.2]]))
      (runAll [.print [' ']]) state =
        match drawCell " " height width cell tests with
        | .error fault => .failed fault
        | .ok text => .done (state.print text.toList) := by
    induction h with
    | nil => simp [runFirst, runAll_single, Statement.run, drawCell]
    | @cons entry branch tests branches hmatches _ ih =>
        obtain ⟨hsymbol, hholds⟩ := hmatches
        obtain ⟨symbol, test⟩ := entry
        have hvalue := hholds state.env cell henv
        simp only [List.map_cons, runFirst, State.withValue, drawCell, ← hvalue]
        cases heval : branch.1.eval state.env with
        | error fault => rfl
        | ok value =>
            by_cases hzero : value = 0
            · simpa [hzero, Except.map] using ih
            · have htrue : (value != 0) = true := by simpa using hzero
              have hsymbol' : symbol = String.singleton branch.2 := hsymbol
              simp [hzero, htrue, hsymbol', Except.map, runAll_single, Statement.run]
  cases branches with
  | nil => simpa [cellStatements, runFirst] using hchain
  | cons branch branches =>
      rw [cellStatements, runAll_single, Statement.run]
      exact hchain

/-! ### Rows -/

theorem exists_eval_less {name bound : String} {a b : Int} (ha : env.get? name = some a)
    (hb : env.get? bound = some b) :
    ∃ value, Expr.eval env (.binary .less (.var name) (.var bound)) = .ok value ∧
      (value ≠ 0 ↔ a < b) :=
  (decides_less (by simp [ha]) (by simp [hb])).exists_value

theorem IsRowEnv.exists_eval_col (h : IsRowEnv env row height width) (col : Int) :
    ∃ value, Expr.eval (env.set "c" col) (.binary .less (.var "c") (.var "W")) = .ok value ∧
      (value ≠ 0 ↔ col < width) :=
  exists_eval_less (h col "c") (h col "W")

theorem IsRowEnv.exists_eval_row (h : IsRowEnv env row height width) :
    ∃ value, Expr.eval env (.binary .less (.var "r") (.var "H")) = .ok value ∧
      (value ≠ 0 ↔ row < height) :=
  exists_eval_less h.get?_row h.get?_height

/-- The loop over columns prints what is drawn on the cells of a row that are left. Every cell is
paid from the budget. -/
theorem iterate_columns (h : List.Forall₂ (Matches height width) tests branches)
    (henv : IsRowEnv env row height width) (printed : List Char) {count budget rounds : Nat}
    (hcount : count = (width - col).toNat) (hbudget : count ≤ budget) (hrounds : budget ≤ rounds) :
    iterate (.binary .less (.var "c") (.var "W")) "c" (runAll (cellStatements branches)) rounds
        ⟨env.set "c" col, printed, budget⟩ =
      match drawRow tests " " height width row count col with
      | .error fault => .failed fault
      | .ok line => .done ⟨env.set "c" (col + count), line.reverse ++ printed, budget - count⟩ := by
  induction count generalizing col printed budget rounds with
  | zero =>
      obtain ⟨value, heval, hvalue⟩ := henv.exists_eval_col col
      have hzero : value = 0 := by
        by_contra hne
        have hlt := hvalue.1 hne
        omega
      rw [iterate_end (by rw [heval, hzero])]
      simp [drawRow]
  | succ count ih =>
      obtain ⟨value, heval, hvalue⟩ := henv.exists_eval_col col
      obtain ⟨budget, rfl⟩ : ∃ n, budget = n + 1 := ⟨budget - 1, by omega⟩
      obtain ⟨rounds, rfl⟩ : ∃ n, rounds = n + 1 := ⟨rounds - 1, by omega⟩
      rw [iterate_round heval (hvalue.2 (by omega)) rfl, run_cellStatements h (henv col), drawRow]
      cases drawCell " " height width ⟨row, col⟩ tests with
      | error fault => rfl
      | ok text =>
          have hnext (glyphs : List Char) :
              State.increment ⟨env.set "c" col, glyphs, budget⟩ "c" =
                ⟨env.set "c" (col + 1), glyphs, budget⟩ := by
            simp [State.increment, State.assign, Env.set_set]
          simp only [Outcome.andThen, State.print]
          rw [hnext, ih _ (by omega) (by omega) (by omega)]
          cases drawRow tests " " height width row count (col + 1) with
          | error fault => rfl
          | ok line => simp [Int.add_assoc, Int.add_comm 1]

/-- A row prints what is drawn on its cells, and a line feed. -/
theorem run_rowStatements (h : List.Forall₂ (Matches height width) tests branches)
    (henv : IsRowEnv env row height width) (printed : List Char) {budget : Nat}
    (hbudget : width.toNat ≤ budget) :
    runAll (rowStatements branches) ⟨env, printed, budget⟩ =
      match drawRow tests " " height width row width.toNat 0 with
      | .error fault => .failed fault
      | .ok line =>
        .done ⟨env.set "c" width.toNat, '\n' :: (line.reverse ++ printed),
          budget - width.toNat⟩ := by
  have hcolumns := iterate_columns h henv printed
    (show width.toNat = (width - 0).toNat by simp) hbudget le_rfl
  rw [rowStatements, runAll, Statement.run]
  simp only [State.withValue, Expr.eval, State.assign, Int.natCast_zero]
  rw [hcolumns]
  cases drawRow tests " " height width row width.toNat 0 with
  | error fault => rfl
  | ok line => simp [Outcome.andThen, runAll_single, Statement.run, State.print]

/-- The loop over rows prints what is drawn on the rows that are left. Every row is paid from the
budget, and so are its cells. -/
theorem iterate_rows (h : List.Forall₂ (Matches height width) tests branches)
    (henv : IsRowEnv env row height width) (printed : List Char) {count budget rounds : Nat}
    (hcount : count = (height - row).toNat) (hbudget : count * (1 + width.toNat) ≤ budget)
    (hrounds : budget ≤ rounds) :
    match drawRows tests " " height width count row with
    | .error fault =>
      iterate (.binary .less (.var "r") (.var "H")) "r" (runAll (rowStatements branches)) rounds
        ⟨env, printed, budget⟩ = .failed fault
    | .ok lines =>
      ∃ env', iterate (.binary .less (.var "r") (.var "H")) "r" (runAll (rowStatements branches))
          rounds ⟨env, printed, budget⟩ =
        .done ⟨env', (endedLines lines).reverse ++ printed,
          budget - count * (1 + width.toNat)⟩ := by
  induction count generalizing env row printed budget rounds with
  | zero =>
      obtain ⟨value, heval, hvalue⟩ := henv.exists_eval_row
      have hzero : value = 0 := by
        by_contra hne
        have hlt := hvalue.1 hne
        omega
      exact ⟨env, by rw [iterate_end (by rw [heval, hzero])]; simp [endedLines]⟩
  | succ count ih =>
      obtain ⟨value, heval, hvalue⟩ := henv.exists_eval_row
      rw [Nat.add_one_mul] at hbudget ⊢
      obtain ⟨budget, rfl⟩ : ∃ n, budget = n + 1 := ⟨budget - 1, by omega⟩
      obtain ⟨rounds, rfl⟩ : ∃ n, rounds = n + 1 := ⟨rounds - 1, by omega⟩
      rw [iterate_round heval (hvalue.2 (by omega)) rfl,
        run_rowStatements h henv printed (by omega : width.toNat ≤ budget), drawRows]
      cases drawRow tests " " height width row width.toNat 0 with
      | error fault => rfl
      | ok line =>
          have hset := henv.set_col width.toNat
          have hnext (glyphs : List Char) (left : Nat) :
              State.increment ⟨env.set "c" width.toNat, glyphs, left⟩ "r" =
                ⟨(env.set "c" width.toNat).set "r" (row + 1), glyphs, left⟩ := by
            rw [State.increment, hset.get?_row]
            rfl
          simp only [Outcome.andThen]
          rw [hnext]
          have hrows := ih (hset.set_row (row + 1)) ('\n' :: (line.reverse ++ printed)) (by omega)
            (by omega : count * (1 + width.toNat) ≤ budget - width.toNat)
            (by omega : budget - width.toNat ≤ rounds)
          cases hdraw : drawRows tests " " height width count (row + 1) with
          | error fault => simpa [hdraw] using hrows
          | ok lines =>
              simp only [hdraw] at hrows ⊢
              obtain ⟨env', hrun⟩ := hrows
              refine ⟨env', ?_⟩
              rw [hrun]
              simp [endedLines]
              omega

/-! ### Programs -/

theorem isRowEnv_start (height width : Int) :
    IsRowEnv [("H", height), ("W", width), ("r", 0)] 0 height width := by
  intro col name
  by_cases hr : "r" = name
  · subst hr
    simp [cellEnv, Env.get?]
  by_cases hc : "c" = name
  · subst hc
    simp [cellEnv, Env.get?]
  · simp [cellEnv, Env.get?, hr, hc]

variable {eh ew : Expr} (heh : ∀ env, eh.eval env = .ok height)
  (hew : ∀ env, ew.eval env = .ok width)

include heh hew

/-- The program prints the drawing and ends with status zero. Every row and every cell is paid from
the budget. -/
theorem run_programStatements (h : List.Forall₂ (Matches height width) tests branches)
    {budget : Nat} (hbudget : height.toNat * (1 + width.toNat) ≤ budget) :
    match drawRows tests " " height width height.toNat 0 with
    | .error fault => runAll (programStatements eh ew branches) { budget } = .failed fault
    | .ok lines =>
      ∃ env, runAll (programStatements eh ew branches) { budget } =
        .exited 0 ⟨env, (endedLines lines).reverse,
          budget - height.toNat * (1 + width.toNat)⟩ := by
  have hrows := iterate_rows h (isRowEnv_start height width) []
    (show height.toNat = (height - 0).toNat by simp) hbudget le_rfl
  have hstart : runAll (programStatements eh ew branches) { budget } =
      (iterate (.binary .less (.var "r") (.var "H")) "r" (runAll (rowStatements branches)) budget
        ⟨[("H", height), ("W", width), ("r", 0)], [], budget⟩).andThen
          (runAll [.exit (.number 0)]) := by
    simp [programStatements, runAll, Statement.run, State.withValue, heh, hew, Outcome.andThen,
      State.assign, Env.set]
  rw [hstart]
  cases hdraw : drawRows tests " " height width height.toNat 0 with
  | error fault =>
      simp only [hdraw] at hrows ⊢
      rw [hrows]
      rfl
  | ok lines =>
      simp only [hdraw] at hrows ⊢
      obtain ⟨env, hrun⟩ := hrows
      refine ⟨env, ?_⟩
      rw [hrun]
      simp [Outcome.andThen, runAll_single, Statement.run, State.withValue]

/-- Under a limit that suffices for every row and every cell, the output is the drawing. -/
theorem output_programStatements (h : List.Forall₂ (Matches height width) tests branches)
    {limit : Int} (hlimit : height.toNat * (1 + width.toNat) ≤ limit.toNat) :
    output (programStatements eh ew branches) limit =
      match drawRows tests " " height width height.toNat 0 with
      | .error fault => .error (.evaluation fault)
      | .ok lines => .ok (String.ofList (endedLines lines)) := by
  have hrun := run_programStatements heh hew h hlimit
  cases hdraw : drawRows tests " " height width height.toNat 0 with
  | error fault =>
      simp only [hdraw] at hrun ⊢
      rw [output, hrun]
      rfl
  | ok lines =>
      simp only [hdraw] at hrun ⊢
      obtain ⟨env, hrun⟩ := hrun
      rw [output, hrun]
      simp [Outcome.output]

/-- Under a smaller limit the run of a program whose rules can be drawn does not end: if it did, it
would end in the same way under the limit that suffices, which it uses up. -/
theorem output_programStatements_exhausted
    (h : List.Forall₂ (Matches height width) tests branches) {lines : List (List Char)}
    (hdraw : drawRows tests " " height width height.toNat 0 = .ok lines) {limit : Int}
    (hlimit : limit.toNat < height.toNat * (1 + width.toNat)) :
    output (programStatements eh ew branches) limit = .error (.stepLimit limit) := by
  have hexhausted : runAll (programStatements eh ew branches) { budget := limit.toNat } =
      .exhausted := by
    by_contra hne
    obtain ⟨more, hmore⟩ := Nat.exists_eq_add_of_lt hlimit
    have hrun := run_programStatements heh hew h (le_refl (height.toNat * (1 + width.toNat)))
    simp only [hdraw] at hrun
    obtain ⟨env, hrun⟩ := hrun
    have hextend := extends_runAll _ _ (more + 1) hne
    dsimp only [State.extend] at hextend
    rw [← Nat.add_assoc, ← hmore, hrun] at hextend
    cases houtcome : runAll (programStatements eh ew branches) { budget := limit.toNat } with
    | exited status state =>
        rw [houtcome, Outcome.extend, Outcome.exited.injEq] at hextend
        have hleft := congrArg State.budget hextend.2
        simp only [State.extend] at hleft
        omega
    | _ => simp [houtcome, Outcome.extend] at hextend
  rw [output, hexhausted]
  rfl

end GridRules
