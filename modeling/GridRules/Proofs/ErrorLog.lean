import GridRules.ErrorLog
import Mathlib.Data.List.DropRight

/-!
# Accounts of error logs

A program uses a log by handling failures, registering strategies, resetting counts and making
guarded calls, which may do the same before they end. Whatever it does, the log has one count for
each name under which a failure was handled, the number of these failures since the name was last
reset; and its history holds the latest failures that could be shown, as many as its capacity
allows.
-/

namespace GridRules.ErrorLog

/-! ### What a program does with a log -/

/-- What a program does with a log until it ends. It sees what comes of each failure that it handles
and of each guarded call. A guarded call holds what is done within it, and what comes of showing its
arguments. -/
inductive Activity where
  | ends (outcome : Except Raised Value)
  | handles (raised : Raised) (surroundings : Surroundings)
      (next : Except Raised (Option Value) → Activity)
  | registers (category : Category) (strategy : Strategy) (next : Activity)
  | resets (name : String) (next : Activity)
  | calls (name : String) (arguments : Except Raised ArgumentTexts) (within : Activity)
      (fallback : Value) (passOn : Bool) (next : Except Raised Value → Activity)

/-- What matters to the accounts: a failure was handled somewhere, or the count of a name was reset.
-/
inductive Event where
  | handled (raised : Raised) (surroundings : Surroundings)
  | reset (name : String)

/-- A call that ends in a failure leads to its being handled under the name of the call, once its
arguments are shown. -/
def Event.ofCall (name : String) :
    Except Raised ArgumentTexts → Except Raised Value → List Event
  | .ok arguments, .error raised => [.handled raised (surroundings name arguments)]
  | .ok _, .ok _ => []
  | .error _, _ => []

/-- A log after some events, with what came of the activity. -/
structure Ran where
  events : List Event
  log : ErrorLog
  outcome : Except Raised Value

/-- Carries out an activity. -/
def Activity.run : Activity → ErrorLog → Ran
  | .ends outcome, log => ⟨[], log, outcome⟩
  | .handles raised surroundings next, log =>
    let handled := log.handle raised surroundings
    let rest := (next handled.2).run handled.1
    { rest with events := .handled raised surroundings :: rest.events }
  | .registers category strategy next, log => next.run (log.register category strategy)
  | .resets name next, log =>
    let rest := next.run (log.reset name)
    { rest with events := .reset name :: rest.events }
  | .calls name arguments within fallback passOn next, log =>
    let inner := within.run log
    let guarded := inner.log.guard name arguments inner.outcome fallback passOn
    let rest := (next guarded.2).run guarded.1
    { rest with
      events := inner.events ++ Event.ofCall name arguments inner.outcome ++ rest.events }

/-! ### What the accounts are to say -/

/-- A failure of the given name was handled. -/
def Event.isHandled (name : String) : Event → Bool
  | .handled raised _ => raised.failure.category.name == name
  | .reset _ => false

/-- The count of the given name was reset. -/
def Event.isReset (name : String) : Event → Bool
  | .handled _ _ => false
  | .reset other => other == name

/-- The events after the last one that reset a name. -/
def sinceReset (name : String) (events : List Event) : List Event :=
  events.rtakeWhile fun event => !event.isReset name

/-- The number of failures of a name that were handled since the name was last reset; none if there
never was such a failure. -/
def countOf? (name : String) (events : List Event) : Option Nat :=
  if events.any (Event.isHandled name) then
    some ((sinceReset name events).countP (Event.isHandled name))
  else none

/-- The incident of a failure that was handled, if it can be shown. -/
def Event.incident? : Event → Option Incident
  | .handled (.shown failure text) surroundings =>
    some {
      function := (surroundings.lookup "function").getD (.text failure.category.name)
      name := failure.category.name
      code := failure.code
      message := text }
  | .handled (.textless _ _) _ => none
  | .reset _ => none

/-- The failures that were handled and could be shown, in order. -/
def incidents (events : List Event) : List Incident :=
  events.filterMap Event.incident?

/-- What the accounts of a log say after some events. -/
structure Accounts (capacity : Int) (events : List Event) (log : ErrorLog) : Prop where
  capacity_eq : log.capacity = capacity
  nodup : (log.counts.map Prod.fst).Nodup
  lookup : ∀ name, log.counts.lookup name = countOf? name events
  history : log.history = (incidents events).rtake capacity.toNat

variable {capacity : Int} {events : List Event} {log : ErrorLog} {name other : String}

/-! ### Counts -/

theorem lookup_setCount_self (name : String) (n : Nat) (counts : List (String × Nat)) :
    (setCount name n counts).lookup name = some n := by
  induction counts with
  | nil => simp [setCount]
  | cons entry rest ih =>
      rw [setCount]
      by_cases h : entry.1 = name
      · rw [if_pos h]
        simp
      · rw [if_neg h, List.lookup_cons, beq_eq_false_iff_ne.2 (Ne.symm h)]
        exact ih

theorem lookup_setCount_of_ne (h : other ≠ name) (n : Nat) (counts : List (String × Nat)) :
    (setCount name n counts).lookup other = counts.lookup other := by
  induction counts with
  | nil => rw [setCount, List.lookup_cons, beq_eq_false_iff_ne.2 h]
  | cons entry rest ih =>
      rw [setCount]
      by_cases hentry : entry.1 = name
      · rw [if_pos hentry, List.lookup_cons, List.lookup_cons, hentry,
          beq_eq_false_iff_ne.2 h]
      · rw [if_neg hentry, List.lookup_cons, List.lookup_cons, ih]

/-- A count is replaced where it stands, or added at the end. -/
theorem keys_setCount (name : String) (n : Nat) (counts : List (String × Nat)) :
    (setCount name n counts).map Prod.fst =
      if name ∈ counts.map Prod.fst then counts.map Prod.fst
      else counts.map Prod.fst ++ [name] := by
  induction counts with
  | nil => simp [setCount]
  | cons entry rest ih =>
      rw [setCount]
      by_cases h : entry.1 = name
      · simp [h]
      · rw [if_neg h, List.map_cons, ih]
        by_cases hmem : name ∈ rest.map Prod.fst <;> simp [hmem, Ne.symm h]

theorem nodup_setCount {counts : List (String × Nat)} (h : (counts.map Prod.fst).Nodup)
    (name : String) (n : Nat) : ((setCount name n counts).map Prod.fst).Nodup := by
  rw [keys_setCount]
  split
  · exact h
  · next hmem =>
      rw [List.nodup_append]
      refine ⟨h, List.pairwise_singleton _ name, ?_⟩
      intro key hkey added hadded heq
      rw [List.mem_singleton] at hadded
      rw [heq, hadded] at hkey
      exact hmem hkey

/-! ### One more event -/

theorem sinceReset_handled (name : String) (events : List Event) (raised : Raised)
    (surroundings : Surroundings) :
    sinceReset name (events ++ [.handled raised surroundings]) =
      sinceReset name events ++ [.handled raised surroundings] :=
  List.rtakeWhile_concat_pos _ _ _ rfl

theorem sinceReset_reset_self (name : String) (events : List Event) :
    sinceReset name (events ++ [.reset name]) = [] :=
  List.rtakeWhile_concat_neg _ _ _ (by simp [Event.isReset])

theorem sinceReset_reset_of_ne (h : other ≠ name) (events : List Event) :
    sinceReset other (events ++ [.reset name]) = sinceReset other events ++ [.reset name] :=
  List.rtakeWhile_concat_pos _ _ _ (by simp [Event.isReset, h.symm])

theorem countOf?_handled_self (events : List Event) (raised : Raised)
    (surroundings : Surroundings) :
    countOf? raised.failure.category.name (events ++ [.handled raised surroundings]) =
      some ((countOf? raised.failure.category.name events).getD 0 + 1) := by
  have hlast :
      Event.isHandled raised.failure.category.name (.handled raised surroundings) = true := by
    simp [Event.isHandled]
  rw [countOf?, if_pos (by simp [hlast]), sinceReset_handled, List.countP_append,
    List.countP_singleton, if_pos hlast, countOf?]
  split
  · rfl
  · next h =>
      -- Nothing was handled under the name, since its last reset or ever.
      have hnone : (sinceReset raised.failure.category.name events).countP
          (Event.isHandled raised.failure.category.name) = 0 := by
        rw [List.countP_eq_zero]
        intro event hevent hhandled
        apply h
        rw [List.any_eq_true]
        exact ⟨event, (List.rtakeWhile_suffix _ events).subset hevent, hhandled⟩
      rw [hnone]
      rfl

theorem countOf?_handled_of_ne {raised : Raised} (h : other ≠ raised.failure.category.name)
    (events : List Event) (surroundings : Surroundings) :
    countOf? other (events ++ [.handled raised surroundings]) = countOf? other events := by
  have hlast : Event.isHandled other (.handled raised surroundings) = false := by
    simpa [Event.isHandled] using h.symm
  simp [countOf?, sinceReset_handled, hlast]

theorem countOf?_reset_self (name : String) (events : List Event) :
    countOf? name (events ++ [.reset name]) = (countOf? name events).map fun _ => 0 := by
  have hlast : Event.isHandled name (.reset name) = false := rfl
  rw [countOf?, countOf?, sinceReset_reset_self, List.any_append]
  by_cases h : events.any (Event.isHandled name) = true <;> simp [h, hlast]

theorem countOf?_reset_of_ne (h : other ≠ name) (events : List Event) :
    countOf? other (events ++ [.reset name]) = countOf? other events := by
  have hlast : Event.isHandled other (.reset name) = false := rfl
  simp [countOf?, sinceReset_reset_of_ne h, hlast]

/-- The latest members of a list with one more at its end: where there is no room for one more the
oldest gives way. -/
theorem rtake_concat {α : Type} (xs : List α) (x : α) (capacity : Int) :
    (xs ++ [x]).rtake capacity.toNat =
      if capacity < ((xs.rtake capacity.toNat ++ [x]).length : Nat) then
        (xs.rtake capacity.toNat ++ [x]).drop 1
      else xs.rtake capacity.toNat ++ [x] := by
  simp only [List.rtake, List.length_append, List.length_drop, List.length_singleton]
  by_cases hroom : xs.length < capacity.toNat
  · rw [if_neg (by omega), Nat.sub_eq_zero_of_le (show xs.length + 1 ≤ capacity.toNat by omega),
      Nat.sub_eq_zero_of_le (Nat.le_of_lt hroom), List.drop_zero, List.drop_zero]
  · rw [if_pos (by omega)]
    rcases Nat.eq_zero_or_pos capacity.toNat with hzero | hpos
    · simp [hzero]
    · rw [List.drop_append_of_le_length (show xs.length + 1 - capacity.toNat ≤ xs.length by omega),
        List.drop_append_of_le_length (by rw [List.length_drop]; omega), List.drop_drop]
      congr 2
      omega

/-! ### Steps -/

/-- Every failure that is handled is counted. -/
theorem Accounts.lookup_tally (h : Accounts capacity events log) (raised : Raised)
    (surroundings : Surroundings) (name : String) :
    (log.tally raised.failure).counts.lookup name =
      countOf? name (events ++ [.handled raised surroundings]) := by
  rw [tally]
  by_cases hname : name = raised.failure.category.name
  · subst hname
    rw [lookup_setCount_self, countOf?_handled_self, count, h.lookup]
  · rw [lookup_setCount_of_ne hname, countOf?_handled_of_ne hname, h.lookup]

theorem Accounts.tally_textless (h : Accounts capacity events log) (failure : Failure)
    (reason : Raised) (surroundings : Surroundings) :
    Accounts capacity (events ++ [.handled (.textless failure reason) surroundings])
      (log.tally failure) where
  capacity_eq := h.capacity_eq
  nodup := nodup_setCount h.nodup _ _
  lookup := h.lookup_tally (.textless failure reason) surroundings
  history := by
    have hincidents : incidents (events ++ [.handled (.textless failure reason) surroundings]) =
        incidents events := by
      simp [incidents, Event.incident?]
    rw [hincidents]
    exact h.history

theorem Accounts.record_shown (h : Accounts capacity events log) (failure : Failure) (text : String)
    (surroundings : Surroundings) :
    Accounts capacity (events ++ [.handled (.shown failure text) surroundings])
      (log.record failure text surroundings) where
  capacity_eq := h.capacity_eq
  nodup := nodup_setCount h.nodup _ _
  lookup := h.lookup_tally (.shown failure text) surroundings
  history := by
    have hincidents : incidents (events ++ [.handled (.shown failure text) surroundings]) =
        incidents events ++ [incident failure text surroundings] := by
      simp [incidents, Event.incident?, incident]
    rw [ErrorLog.record, note, tally, hincidents, rtake_concat, ← h.history, h.capacity_eq]

theorem Accounts.handle (h : Accounts capacity events log) (raised : Raised)
    (surroundings : Surroundings) :
    Accounts capacity (events ++ [.handled raised surroundings])
      (log.handle raised surroundings).1 := by
  cases raised with
  | shown failure text => exact h.record_shown failure text surroundings
  | textless failure reason => exact h.tally_textless failure reason surroundings

theorem Accounts.register (h : Accounts capacity events log) (category : Category)
    (strategy : Strategy) : Accounts capacity events (log.register category strategy) :=
  ⟨h.capacity_eq, h.nodup, h.lookup, h.history⟩

theorem Accounts.reset (h : Accounts capacity events log) (name : String) :
    Accounts capacity (events ++ [.reset name]) (log.reset name) := by
  have hhistory : (incidents (events ++ [.reset name])).rtake capacity.toNat = log.history := by
    have hnothing : List.filterMap Event.incident? [.reset name] = [] := rfl
    rw [h.history, incidents, List.filterMap_append, hnothing, List.append_nil, incidents]
  have hlookup := h.lookup name
  rw [ErrorLog.reset]
  cases hcount : log.counts.lookup name with
  | none =>
      refine ⟨h.capacity_eq, h.nodup, ?_, hhistory.symm⟩
      intro other
      by_cases hname : other = name
      · subst hname
        rw [countOf?_reset_self, ← hlookup, hcount]
        rfl
      · rw [countOf?_reset_of_ne hname, h.lookup]
  | some n =>
      refine ⟨h.capacity_eq, nodup_setCount h.nodup _ _, ?_, hhistory.symm⟩
      intro other
      by_cases hname : other = name
      · subst hname
        rw [lookup_setCount_self, countOf?_reset_self, ← hlookup, hcount]
        rfl
      · rw [lookup_setCount_of_ne hname, countOf?_reset_of_ne hname, h.lookup]

/-- Where the arguments are shown, a guarded call leaves the log as handling its failure does. -/
theorem guard_error_fst (log : ErrorLog) (name : String) (arguments : ArgumentTexts)
    (raised : Raised) (fallback : Value) (passOn : Bool) :
    (log.guard name (.ok arguments) (.error raised) fallback passOn).1 =
      (log.handle raised (surroundings name arguments)).1 := by
  rw [ErrorLog.guard]
  split <;> next heq => rw [heq]

theorem Accounts.guard (h : Accounts capacity events log) (name : String)
    (arguments : Except Raised ArgumentTexts) (outcome : Except Raised Value) (fallback : Value)
    (passOn : Bool) :
    Accounts capacity (events ++ Event.ofCall name arguments outcome)
      (log.guard name arguments outcome fallback passOn).1 := by
  cases outcome with
  | ok value =>
      cases arguments <;> rw [Event.ofCall, List.append_nil] <;> exact h
  | error raised =>
      cases arguments with
      | error reason =>
          rw [Event.ofCall, List.append_nil]
          exact h
      | ok arguments =>
          rw [guard_error_fst]
          exact h.handle raised (surroundings name arguments)

/-! ### Runs -/

/-- The accounts are kept along every activity, also within guarded calls. -/
theorem Accounts.run (activity : Activity) (h : Accounts capacity events log) :
    Accounts capacity (events ++ (activity.run log).events) (activity.run log).log := by
  induction activity generalizing events log with
  | ends outcome =>
      rw [Activity.run, List.append_nil]
      exact h
  | handles raised surroundings next ih =>
      rw [Activity.run]
      have hrest := ih (log.handle raised surroundings).2 (h.handle raised surroundings)
      rw [List.append_assoc] at hrest
      exact hrest
  | registers category strategy next ih =>
      rw [Activity.run]
      exact ih (h.register category strategy)
  | resets name next ih =>
      rw [Activity.run]
      have hrest := ih (h.reset name)
      rw [List.append_assoc] at hrest
      exact hrest
  | calls name arguments within fallback passOn next ihWithin ihNext =>
      rw [Activity.run]
      have hguarded := (ihWithin h).guard name arguments (within.run log).outcome fallback passOn
      have hrest := ihNext ((within.run log).log.guard name arguments (within.run log).outcome
        fallback passOn).2 hguarded
      rw [List.append_assoc, List.append_assoc] at hrest
      rw [List.append_assoc]
      exact hrest

/-- A failure whose message is no text, which cannot be shown. -/
def textless : Raised :=
  .textless (.plain .configuration)
    (.shown { category := .badType, message := "__str__ returned non-string (type int)" }
      "__str__ returned non-string (type int)")

end GridRules.ErrorLog
