import GridRules.Proofs.Program.ProgramText
import GridRules.Proofs.Program.Simulation

/-!
# Interpreters

An interpreter counts the loop bodies of its latest run. It counts anew in every run, so that what
comes of a text does not depend on the texts before it; and it ends every run within its limit. A
text that is not stopped at a limit comes to the same end under every larger one.
-/

namespace GridRules.Program

open Relation (ReflTransGen)

/-! ### Loops that count up -/

/-- The head of a loop whose counter runs from zero while it is less than a number. -/
def countingHead (counter digits : String) : List Lexeme :=
  loopHead counter [⟨.number, "0"⟩] [word counter, symbol "<", ⟨.number, digits⟩]
    ([word counter] ++ [symbol "++"])

theorem forms_countingLoop {counter : String} (digits : String) {isOpen : Bool}
    {body : List Statement} {bs : List Lexeme} (hcounter : nameExpr counter = .var counter)
    (hbody : Forms (.body isOpen body) bs) :
    Forms (.statement isOpen (.loop counter (.number 0)
        (.binary .less (.var counter) (.number (Text.decimalValue digits.toList))) body))
      ([word "for"] ++ (countingHead counter digits ++ bs)) := by
  have hzero : Derives 1 [⟨.number, "0"⟩] (.number 0) := (Derives.number "0").looser
  have hname : Derives 4 [word counter] (.var counter) := hcounter ▸ (Derives.name counter).looser
  have hbound : Derives 5 [⟨.number, digits⟩] (.number (Text.decimalValue digits.toList)) :=
    (Derives.number digits).looser
  exact .loop hzero (Derives.binary .less rfl hname hbound).looser .behind hbody

/-! ### Runs one after the other -/

/-- An interpreter with a limit, and the number of loop bodies counted in the latest run of a text
that is a program. -/
structure Interpreter where
  limit : Int
  counted : Nat := 0

namespace Interpreter

/-- What comes of a text, and the interpreter afterwards. Once the text has been read the
interpreter counts anew. -/
def run (interpreter : Interpreter) (source : String) : Except Fault String × Interpreter :=
  match ofText source with
  | .error fault => (.error (.malformed fault), interpreter)
  | .ok statements =>
    let ready := { interpreter with counted := 0 }
    let ending := Machine.finish ready.limit
      { tasks := tasksOf statements, begun := ready.counted }
    (ending.1.mapError .unfinished, { ready with counted := ending.2 })

/-- The interpreter after texts, whatever came of them. -/
def after (interpreter : Interpreter) (earlier : List String) : Interpreter :=
  earlier.foldl (fun interpreter source => (interpreter.run source).2) interpreter

theorem limit_run (interpreter : Interpreter) (source : String) :
    (interpreter.run source).2.limit = interpreter.limit := by
  unfold run
  split <;> rfl

theorem limit_after (interpreter : Interpreter) (earlier : List String) :
    (interpreter.after earlier).limit = interpreter.limit := by
  induction earlier generalizing interpreter with
  | nil => rfl
  | cons source earlier ih => exact (ih _).trans (interpreter.limit_run source)

theorem run_eq_interpret (interpreter : Interpreter) (source : String) :
    (interpreter.run source).1 = interpret source interpreter.limit := by
  unfold run
  split
  · next fault h => simp [interpret, h]
  · next statements h => exact (interpret_eq_outcome h interpreter.limit).symm

theorem eq_of_output_stepLimit {statements : List Statement} {limit other : Int}
    (h : output statements limit = .error (.stepLimit other)) : other = limit := by
  unfold output Outcome.output at h
  split at h
  · cases h
  · split at h <;> cases h
  · cases h
  · cases h
    rfl

theorem exists_ofText_of_unfinished {source : String} {limit : Int} {fault : RunFault}
    (h : interpret source limit = .error (.unfinished fault)) :
    ∃ statements, ofText source = .ok statements ∧ output statements limit = .error fault := by
  unfold interpret at h
  split at h
  · cases h
  · next statements hstatements =>
      refine ⟨statements, hstatements, ?_⟩
      split at h
      · next houtput =>
          cases h
          exact houtput
      · cases h

/-- A text is reported to exceed a limit exactly if its run is stopped there and the limit can be
shown. -/
theorem code_interpret_eq_iff {source : String} {limit : Int} :
    (∃ fault, interpret source limit = .error fault ∧
        fault.failure.code = some "STEP_LIMIT_EXCEEDED") ↔
      interpret source limit = .error (.unfinished (.stepLimit limit)) ∧
        limit.natAbs < Text.leastLong := by
  constructor
  · rintro ⟨fault, hfault, hcode⟩
    cases fault with
    | malformed fault =>
        cases fault <;> simp [Fault.failure, SyntaxFault.failure, Failure.plain] at hcode
    | unfinished fault =>
        obtain ⟨other, rfl, hshort⟩ := RunFault.code_failure_eq_iff.1 hcode
        obtain ⟨statements, -, houtput⟩ := exists_ofText_of_unfinished hfault
        obtain rfl : other = limit := eq_of_output_stepLimit houtput
        exact ⟨hfault, hshort⟩
  · rintro ⟨hstopped, hshort⟩
    exact ⟨_, hstopped, (RunFault.failure_stepLimit hshort).2⟩

/-- What comes of a text does not depend on the texts before it. A program never runs endlessly
within its limit: it comes to an end that is its outcome, with no more loop bodies begun than the
limit, and it ends at the limit exactly if it would begin one loop body after these. This is what is
reported of it exactly if the limit, which the report shows, has not too many digits. -/
theorem run_within_limit (interpreter : Interpreter) (earlier : List String) (source : String) :
    ((interpreter.after earlier).run source).1 = interpret source interpreter.limit ∧
    WellFounded (fun next machine : Machine => machine.Advances interpreter.limit next) ∧
    ∀ statements, ofText source = .ok statements →
      (∃ last outcome,
        ReflTransGen (Machine.Advances interpreter.limit) (.start statements) last ∧
        last.Ends interpreter.limit outcome ∧
        interpret source interpreter.limit = outcome.mapError .unfinished) ∧
      (∀ machine, ReflTransGen (Machine.Advances interpreter.limit) (.start statements) machine →
        machine.begun ≤ interpreter.limit.toNat) ∧
      (interpret source interpreter.limit = .error (.unfinished (.stepLimit interpreter.limit)) ↔
        ∃ last next, ReflTransGen Machine.Steps (.start statements) last ∧
          last.move = .beginsBody next ∧ last.begun = interpreter.limit.toNat) ∧
      ((∃ fault, ((interpreter.after earlier).run source).1 = .error fault ∧
          fault.failure.code = "STEP_LIMIT_EXCEEDED") ↔
        (∃ last next, ReflTransGen Machine.Steps (.start statements) last ∧
          last.move = .beginsBody next ∧ last.begun = interpreter.limit.toNat) ∧
        interpreter.limit.natAbs < Text.leastLong) := by
  have hrun : ((interpreter.after earlier).run source).1 = interpret source interpreter.limit := by
    rw [run_eq_interpret, limit_after]
  refine ⟨hrun, Machine.wellFounded_advances _, ?_⟩
  intro statements h
  have houtcome := interpret_eq_outcome h interpreter.limit
  have hlimit : interpret source interpreter.limit =
        .error (.unfinished (.stepLimit interpreter.limit)) ↔
      ∃ last next, ReflTransGen Machine.Steps (.start statements) last ∧
        last.move = .beginsBody next ∧ last.begun = interpreter.limit.toNat := by
    rw [← Machine.outcome_eq_stepLimit_iff (Nat.zero_le _), houtcome]
    cases (Machine.start statements).outcome interpreter.limit <;> simp [Except.mapError]
  refine ⟨?_, ?_, hlimit, ?_⟩
  · obtain ⟨last, hreaches, hends⟩ := (Machine.start statements).exists_ends interpreter.limit
    exact ⟨last, _, hreaches, hends, houtcome⟩
  · exact fun machine hreaches => Machine.begun_le_of_reaches hreaches (Nat.zero_le _)
  · rw [hrun, ← hlimit]
    exact code_interpret_eq_iff

/-- Two nested loops, the inner one of which sets the counter of the outer one back to the negative
of a number. -/
def resettingText (n : Nat) : String :=
  "int main()\x7bfor(int i=0;i<1;i++)for(int j=0;j<1;j++)int i =" ++ " " ++ "-" ++ n.repr ++ ";\x7d"

/-- The statements of the text. -/
def resettingProgram (n : Nat) : List Statement :=
  let below (counter : String) := Expr.binary .less (.var counter) (.number 1)
  [.loop "i" (.number 0) (below "i")
    [.loop "j" (.number 0) (below "j") [.declare "i" (.negate (.number n))]]]

/-- The lexemes of the text. -/
def resettingLexemes (n : Nat) : List Lexeme :=
  mainHead ++ braced ([word "for"] ++ (countingHead "i" "1" ++ ([word "for"] ++
    (countingHead "j" "1" ++ ([word "int"] ++ binding "i" [symbol "-", ⟨.number, n.repr⟩])))))

theorem lexed_resettingText (n : Nat) : Lexed (resettingText n).toList (resettingLexemes n) := by
  have hfront : frontLexemes? 60
      "int main()\x7bfor(int i=0;i<1;i++)for(int j=0;j<1;j++)int i =".toList =
      some (mainHead ++ ([symbol "\x7b", word "for"] ++ (countingHead "i" "1" ++ ([word "for"] ++
        (countingHead "j" "1" ++ [word "int", word "i", symbol "="])))), []) := by
    decide +kernel
  have hstart := (open_of_frontLexemes? hfront (by decide +kernel)).closed_blank
    (show isEnd ' ' = true by decide) (by decide)
  have hsign : Closed ['-'] [symbol "-"] := closed_of_piece? fun _ => rfl
  have hend := (open_repr n).append_closed closed_blockEnd (by simp [Ends, isEnd]) (by simp)
  unfold resettingText resettingLexemes
  simpa [braced, binding] using ((hstart.append hsign).append hend).lexed

theorem isProgram_resettingText (n : Nat) :
    IsProgram (resettingLexemes n) (resettingProgram n) := by
  have hdeclare : Forms (.statement false (.declare "i" (.negate (.number n))))
      ([word "int"] ++ binding "i" [symbol "-", ⟨.number, n.repr⟩]) :=
    .declare (Derives.signed .negate (derives_repr n)).looser
  have hinner := forms_countingLoop "1" (show nameExpr "j" = .var "j" by decide) (.single hdeclare)
  have houter := forms_countingLoop "1" (show nameExpr "i" = .var "i" by decide) (.single hinner)
  exact .intro .absent houter.one

/-- Two of the texts differ in their numbers alone. -/
theorem mem_resettingLexemes {m n : Nat} {w : Lexeme} (hw : w ∈ resettingLexemes n) :
    w ∈ resettingLexemes m ∨ w = ⟨.number, n.repr⟩ := by
  simp only [resettingLexemes, braced, binding, List.mem_append, List.mem_cons] at hw ⊢
  tauto

theorem ofText_resettingText {n : Nat} (h : n < Text.leastLong) :
    ofText (resettingText n) = .ok (resettingProgram n) := by
  refine ofText_of_isProgram (lexed_resettingText n) ?_ (isProgram_resettingText n)
  have hone : ∀ w ∈ resettingLexemes 1, w.IsShort := by decide
  intro w hw
  rcases mem_resettingLexemes hw with hmem | rfl
  · exact hone w hmem
  · exact isShort_repr.2 h

/-- The loops are stopped at once where no loop body may begin. -/
theorem output_resettingProgram (n : Nat) {limit : Int} (h : limit ≤ 0) :
    output (resettingProgram n) limit = .error (.stepLimit limit) := by
  rw [output, Int.toNat_of_nonpos h]
  rfl

theorem exists_beginsBody_resettingProgram (n : Nat) :
    ∃ last next, ReflTransGen Machine.Steps (.start (resettingProgram n)) last ∧
      last.move = .beginsBody next ∧ last.begun = 0 := by
  have hstopped : (Machine.start (resettingProgram n)).outcome 0 = .error (.stepLimit 0) := by
    rw [← output_eq_outcome]
    exact output_resettingProgram n le_rfl
  exact (Machine.outcome_eq_stepLimit_iff le_rfl).1 hstopped

/-- Behind a text that is no program and a program that fails, the two loops are stopped after five
loop bodies. -/
theorem run_within_limit_endless :
    (((Interpreter.mk 5 0).after ["return", "int main()\x7breturn 1;\x7d"]).run
        (resettingText 1)).1 = .error (.unfinished (.stepLimit 5)) ∧
      ∃ last next, ReflTransGen Machine.Steps (.start (resettingProgram 1)) last ∧
        last.move = .beginsBody next ∧ last.begun = 5 := by
  have htext : ofText (resettingText 1) = .ok (resettingProgram 1) :=
    ofText_resettingText (Text.lt_leastLong_of_lt_ten (by decide))
  obtain ⟨hrun, -, hall⟩ := run_within_limit (Interpreter.mk 5 0)
    ["return", "int main()\x7breturn 1;\x7d"] (resettingText 1)
  obtain ⟨-, -, hlimit, -⟩ := hall (resettingProgram 1) htext
  have hstopped : interpret (resettingText 1) 5 = .error (.unfinished (.stepLimit 5)) := by
    rw [interpret, htext]
    rfl
  exact ⟨hrun.trans hstopped, hlimit.1 hstopped⟩

/-- The end at a limit is not reported where the limit has one digit too many, nor is it where a
number of the program has. -/
theorem run_longNumber_unreported :
    (ofText (resettingText 1) = .ok (resettingProgram 1) ∧
      (∃ last next, ReflTransGen Machine.Steps (.start (resettingProgram 1)) last ∧
        last.move = .beginsBody next ∧ last.begun = (-Text.leastLong : Int).toNat) ∧
      ¬ ∃ fault, ((Interpreter.mk (-Text.leastLong) 0).run (resettingText 1)).1 = .error fault ∧
        fault.failure.code = "STEP_LIMIT_EXCEEDED") ∧
    ∃ tokens, tokenize (resettingText Text.leastLong) = .ok tokens ∧
      IsProgram (tokens.map Token.lexeme) (resettingProgram Text.leastLong) ∧
      (∃ last next, ReflTransGen Machine.Steps (.start (resettingProgram Text.leastLong)) last ∧
        last.move = .beginsBody next ∧ last.begun = 0) ∧
      ¬ ∃ fault, ((Interpreter.mk 0 0).run (resettingText Text.leastLong)).1 = .error fault ∧
        fault.failure.code = "STEP_LIMIT_EXCEEDED" := by
  have htoNat : (-Text.leastLong : Int).toNat = 0 := Int.toNat_of_nonpos (by omega)
  obtain ⟨tokens, htokens, hws⟩ := tokenize_of_lexed (lexed_resettingText Text.leastLong)
  refine ⟨⟨ofText_resettingText (Text.lt_leastLong_of_lt_ten (by decide)), ?_, ?_⟩, tokens, htokens,
    hws ▸ isProgram_resettingText Text.leastLong,
    exists_beginsBody_resettingProgram Text.leastLong, ?_⟩
  · rw [htoNat]
    exact exists_beginsBody_resettingProgram 1
  · rw [run_eq_interpret, code_interpret_eq_iff]
    rintro ⟨-, hshort⟩
    rw [Int.natAbs_neg, Int.natAbs_natCast] at hshort
    exact lt_irrefl _ hshort
  · rw [run_eq_interpret, code_interpret_eq_iff]
    rintro ⟨hstopped, -⟩
    obtain ⟨statements, hstatements, -⟩ := exists_ofText_of_unfinished hstopped
    have hlt : Text.leastLong < Text.leastLong :=
      lt_leastLong_of_ofText (lexed_resettingText _) (by simp [resettingLexemes, braced, binding])
        hstatements
    exact lt_irrefl _ hlt

end Interpreter

/-! ### Larger limits -/

theorem Outcome.output_extend {outcome : Outcome} (h : outcome ≠ .exhausted) (limit larger : Int)
    (more : Nat) : (outcome.extend more).output larger = outcome.output limit := by
  cases outcome with
  | exhausted => exact absurd rfl h
  | _ => rfl

/-- A program that a limit does not stop has the same output, or ends in the same fault, under a
larger limit. -/
theorem output_of_limit_le {statements : List Statement} {limit larger : Int}
    (hle : limit ≤ larger) (h : output statements limit ≠ .error (.stepLimit limit)) :
    output statements larger = output statements limit := by
  obtain ⟨more, hmore⟩ := Nat.exists_eq_add_of_le (Int.toNat_le_toNat hle)
  have hended : runAll statements { budget := limit.toNat } ≠ .exhausted := by
    intro hexhausted
    exact h (by rw [output, hexhausted, Outcome.output])
  have hrun : runAll statements { budget := larger.toNat } =
      (runAll statements { budget := limit.toNat }).extend more := by
    rw [hmore]
    exact extends_runAll statements { budget := limit.toNat } more hended
  rw [output, hrun, Outcome.output_extend hended limit, output]

/-- A text that is not stopped at a limit comes to the same end under every larger one: it has the
same output, or is refused or fails for the same reason. -/
theorem interpret_of_limit_le {source : String} {limit larger : Int} (hle : limit ≤ larger)
    (hended : interpret source limit ≠ .error (.unfinished (.stepLimit limit))) :
    interpret source larger = interpret source limit := by
  unfold interpret at hended ⊢
  cases hsource : ofText source with
  | error fault => rfl
  | ok statements =>
      have houtput : output statements limit ≠ .error (.stepLimit limit) := by
        intro hstopped
        simp [hsource, hstopped] at hended
      simp only [output_of_limit_le hle houtput]

/-- A loop that prints two characters and needs no more than two loop bodies. -/
theorem interpret_of_limit_le_twice :
    let source := "int main()\x7bfor(int i=0;i<2;i++)cout<<'#';\x7d"
    interpret source 2 = .ok "##" ∧ interpret source 2 ≠ .error (.unfinished (.stepLimit 2)) ∧
      interpret source 700 = interpret source 2 := by
  intro source
  have hfront : frontLexemes? 60 source.toList =
      some (mainHead ++ braced ([word "for"] ++ (countingHead "i" "2" ++
        ([] ++ ([word "cout"] ++ ([symbol "<<"] ++ ([⟨.character, "'#'"⟩] ++ []) ++
          [symbol ";"]))))), []) := by
    decide +kernel
  have hprint : Forms (.statement false (.print ['#']))
      ([] ++ ([word "cout"] ++ ([symbol "<<"] ++ ([⟨.character, "'#'"⟩] ++ []) ++ [symbol ";"]))) :=
    .print .absent (.cons (.plain (by decide) (by decide)) .nil) (by decide)
  have hloop := forms_countingLoop "2" (show nameExpr "i" = .var "i" by decide) (.single hprint)
  have htext := ofText_of_isProgram (lexed_of_frontLexemes? hfront) (by decide)
    (.intro .absent hloop.one)
  have hrun : interpret source 2 = .ok "##" := by
    rw [interpret, htext]
    rfl
  have hended : interpret source 2 ≠ .error (.unfinished (.stepLimit 2)) := by
    rw [hrun]
    intro hstopped
    cases hstopped
  exact ⟨hrun, hended, interpret_of_limit_le (by decide) hended⟩

end GridRules.Program
