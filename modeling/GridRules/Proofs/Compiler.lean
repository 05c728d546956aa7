import GridRules.Compiler
import GridRules.Proofs.Outcome

/-!
# Compiled programs on any system

Whatever the system does with commands and executable files, a program text has an output exactly if
two executions end well, the compiler's and then that of the file which the compiler has left. The
executable file is not started before that.
-/

namespace GridRules.Compiler

variable {host : Host} {compiler : Compiler} {stage : Stage} {file : String}
  {arguments : List String} {limit : Value} {files after : host.Files} {code text : String}

/-! ### Single executions -/

/-- An execution ends well if it is possible, ends within the limit with status zero, and writes
texts to both its channels. It then leaves files. -/
def EndsWell (host : Host) (file : String) (arguments : List String) (limit : Value)
    (files : host.Files) (text : String) (after : host.Files) : Prop :=
  ∃ execution time errors, host.execute? files file arguments = some execution ∧
    execution.status = some 0 ∧ TimeLimit.ofValue limit = .ok time ∧
    time.allows (some execution.time) = true ∧ decoded execution.output = .ok text ∧
    decoded execution.errors = .ok errors ∧ execution.files = after

theorem perform_eq_ok_iff :
    perform host stage file arguments limit files = .ok (text, after) ↔
      EndsWell host file arguments limit files text after := by
  unfold perform EndsWell
  constructor
  · intro h
    split at h
    · cases h
    next execution hexecution =>
    obtain ⟨time, htime, h⟩ := bind_eq_ok h
    split at h
    next hallowed =>
      obtain ⟨output, houtput, h⟩ := bind_eq_ok h
      obtain ⟨errors, herrors, h⟩ := bind_eq_ok h
      split at h
      next hstatus =>
        cases h
        rw [hstatus] at hallowed
        exact ⟨execution, time, errors, hexecution, hstatus, htime, hallowed, houtput, herrors, rfl⟩
      · cases h
    · cases h
  · rintro ⟨execution, time, errors, hexecution, hstatus, htime, hallowed, houtput, herrors, rfl⟩
    simp only [hexecution, htime, hstatus, Option.map_some, hallowed, houtput, herrors, ok_bind,
      if_true]
    rfl

theorem code_of_ofMilliseconds_error {n : Int} {fault : BuildFault}
    (h : TimeLimit.ofMilliseconds n = .error fault) : fault.failure.code = none := by
  unfold TimeLimit.ofMilliseconds at h
  split at h
  · cases h
    rfl
  · cases h

theorem code_of_ofValue_error {fault : BuildFault} (h : TimeLimit.ofValue limit = .error fault) :
    fault.failure.code = none := by
  cases limit with
  | null => cases h
  | int n => exact code_of_ofMilliseconds_error h
  | bool b => exact code_of_ofMilliseconds_error h
  | real x =>
      rw [TimeLimit.ofValue] at h
      split at h
      · cases h
        rfl
      · next negative _ =>
          cases negative <;> cases h
          rfl
      · exact code_of_ofMilliseconds_error h
  | _ =>
      cases h
      rfl

theorem code_of_decoded_error {bytes : ByteArray} {fault : BuildFault}
    (h : decoded bytes = .error fault) : fault.failure.code = none := by
  unfold decoded at h
  split at h
  · cases h
  · cases h
    rfl

/-- The code of a fault of an execution, if it has one, tells the stage or that time ran out. -/
theorem code_of_perform_error {fault : BuildFault}
    (h : perform host stage file arguments limit files = .error fault) :
    fault.failure.code = none ∨ fault.failure.code = "TIMEOUT" ∨
      fault.failure.code = stage.code := by
  unfold perform at h
  split at h
  · cases h
    exact .inr (.inr rfl)
  obtain htime | ⟨time, -, h⟩ := bind_eq_error h
  · exact .inl (code_of_ofValue_error htime)
  split at h
  · obtain houtput | ⟨output, -, h⟩ := bind_eq_error h
    · exact .inl (code_of_decoded_error houtput)
    obtain herrors | ⟨errors, -, h⟩ := bind_eq_error h
    · exact .inl (code_of_decoded_error herrors)
    split at h
    · cases h
    · cases h
      exact .inr (.inr rfl)
  · cases h
    exact .inr (.inl rfl)

/-! ### Compiled programs -/

/-- The compiler makes an executable file from a program text, and leaves files with it. -/
def Compiles (host : Host) (compiler : Compiler) (code : String) (files : host.Files) : Prop :=
  ∃ message, EndsWell host compiler.file (compiler.flags ++ ["-o", binaryFile, sourceFile])
    compiler.limit (host.filesWith sourceFile code) message files

/-- The executable file that is made from a program text prints a text. -/
def Prints (host : Host) (compiler : Compiler) (code text : String) : Prop :=
  ∃ files after, compiler.Compiles host code files ∧
    EndsWell host binaryFile [] compiler.limit files text after

/-- A program text has an output exactly if its executable file prints it. -/
theorem output_eq_ok_iff :
    compiler.output host code = .ok text ↔ compiler.Prints host code text := by
  unfold output Prints Compiles
  constructor
  · intro h
    obtain ⟨⟨message, files⟩, hcompiled, h⟩ := bind_eq_ok h
    obtain ⟨⟨printed, after⟩, hexecuted, h⟩ := bind_eq_ok h
    obtain rfl : printed = text := Except.ok.inj h
    exact ⟨files, after, ⟨message, perform_eq_ok_iff.1 hcompiled⟩, perform_eq_ok_iff.1 hexecuted⟩
  · rintro ⟨files, after, ⟨message, hcompiled⟩, hexecuted⟩
    simp only [perform_eq_ok_iff.2 hcompiled, ok_bind, perform_eq_ok_iff.2 hexecuted]
    rfl

/-- An executable file is only reported to fail if the compiler has made it. -/
theorem compiles_of_runFailed {fault : BuildFault} (h : compiler.output host code = .error fault)
    (hcode : fault.failure.code = "RUN_FAILED") : ∃ files, compiler.Compiles host code files := by
  obtain hfailed | ⟨⟨message, files⟩, hcompiled, -⟩ := bind_eq_error h
  · have hstage := code_of_perform_error hfailed
    rw [hcode] at hstage
    exact absurd hstage (by decide)
  · exact ⟨files, message, perform_eq_ok_iff.1 hcompiled⟩

end GridRules.Compiler
