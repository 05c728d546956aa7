import GridRules.Proofs.Settings.Loading

/-!
# The history of a store of settings

A load keeps what it read even if that does not pass the check, and a change of a field is taken
back only if the check complains about it. So the settings that a store hands out need not pass the
check. They pass it exactly if the latest call that put settings into the store did not find fault
with them, whatever calls came before or behind it and however the files and variables changed
meanwhile.
-/

namespace GridRules

open Settings (StoreFault)

/-- What a failed call says about settings that it put into the store, if it put any there. -/
def Settings.StoreFault.verdict? : StoreFault → Option Bool
  | .rejected _ | .uncheckable _ => some false
  | .unshowable => some true
  | _ => none

namespace SettingsStore

/-- What a call says about the settings that it put into the store, if it put any there: whether
they pass the check. -/
def verdict? {α : Type} : Except StoreFault α → Option Bool
  | .ok _ => some true
  | .error fault => fault.verdict?

/-- The calls of a store, and a change of all that lies around it. -/
inductive Call where
  | load (path : Option String)
  | get
  | update (sectionName key : String) (value : Value)
  | save (path : Option String)
  | change (workspace : Workspace)

/-- A store in use, with what lies around it and the latest verdict on its settings. -/
structure Session where
  store : SettingsStore
  workspace : Workspace
  verdict : Option Bool := none

namespace Session

/-- The session after a call. -/
def after (session : Session) : Call → Session
  | .load path =>
    let (store, outcome) := session.store.load session.workspace path
    { session with store, verdict := (verdict? outcome).or session.verdict }
  | .get =>
    let (store, outcome) := session.store.get session.workspace
    let verdict := if session.store.settings.isSome then none else verdict? outcome
    { session with store, verdict := verdict.or session.verdict }
  | .update sectionName key value =>
    let (store, outcome) := session.store.update sectionName key value
    { session with store, verdict := (verdict? outcome).or session.verdict }
  | .save path => { session with workspace := (session.store.save session.workspace path).1 }
  | .change workspace => { session with workspace }

/-- The session after some calls, whether they fail or not. -/
def run (session : Session) (calls : List Call) : Session :=
  calls.foldl after session

end Session

/-! ### What a call puts into a store -/

/-- How a call goes on with the settings of a store: it keeps them and says nothing, or it puts
others there and says whether they pass the check. -/
inductive Settling (earlier : Option Settings) : Option Settings → Option Bool → Prop
  | kept : Settling earlier earlier none
  | put {settings : Settings} {passed : Bool} (hcheck : settings.check = .ok () ↔ passed = true) :
      Settling earlier (some settings) (some passed)

theorem Settling.passed {earlier : Option Settings} {settings : Settings}
    (h : settings.check = .ok ()) : Settling earlier (some settings) (some true) :=
  .put (iff_of_true h rfl)

theorem Settling.failed {earlier : Option Settings} {settings : Settings}
    {fault : Settings.CheckFault} (h : settings.check = .error fault) :
    Settling earlier (some settings) (some false) :=
  .put (by simp [h])

section Settling

variable (store : SettingsStore) (workspace : Workspace)

theorem verdict?_of_reading {path : Option String} {fault : StoreFault}
    (h : Reading store workspace path (.error fault)) : fault.verdict? = none := by
  cases h with
  | notFound hsource => rfl
  | badPath hsource => rfl
  | badFile hsource hfile => cases hfile <;> rfl

theorem settling_load (path : Option String) :
    Settling store.settings (store.load workspace path).1.settings
      (verdict? (store.load workspace path).2) := by
  have hload := loading store workspace path
  generalize (store.load workspace path).1.settings = kept,
    (store.load workspace path).2 = outcome at hload ⊢
  cases hload with
  | passed hread hcheck => exact .passed hcheck
  | rejected hread hcheck => exact .failed hcheck
  | uncheckable hread hcheck hfault => exact .failed hcheck
  | @unread fault hread =>
      have hreading := reading store workspace path
      rw [hread] at hreading
      rw [verdict?, verdict?_of_reading store workspace hreading]
      exact .kept

theorem settling_get :
    Settling store.settings (store.get workspace).1.settings
      (if store.settings.isSome then none else verdict? (store.get workspace).2) := by
  cases hsettings : store.settings with
  | some settings =>
      rw [get, hsettings]
      simp only [hsettings]
      exact .kept
  | none =>
      rw [get, hsettings]
      have hload := settling_load store workspace none
      rw [hsettings] at hload
      exact hload

theorem verdict?_of_change {settings : Settings} {sectionName key : String} {value : Value}
    {fault : StoreFault} (h : store.change settings sectionName key value = .error fault) :
    fault.verdict? = none := by
  rw [change] at h
  split at h
  · cases h
  · split at h
    · next outcome _ =>
        cases outcome with
        | ok changed => cases h
        | error failure =>
            cases h
            rfl
    · cases h
      rw [unknown]
      split <;> rfl

theorem settling_update (sectionName key : String) (value : Value) :
    Settling store.settings (store.update sectionName key value).1.settings
      (verdict? (store.update sectionName key value).2) := by
  rw [update]
  split
  · exact .kept
  · next settings hsettings =>
      split
      · next fault hchange =>
          rw [verdict?, verdict?_of_change store hchange]
          exact .kept
      · next changed hchange =>
          split
          · next hcheck =>
              split <;> exact .passed hcheck
          · exact .kept
          · next fault hfault hcheck => exact .failed hcheck

end Settling

/-! ### Runs -/

/-- What is known of a session: a store without settings got no verdict, and the latest verdict on
settings is what the check says. -/
structure Session.Agrees (session : Session) : Prop where
  empty : session.store.settings = none → session.verdict = none
  checked : ∀ settings, session.store.settings = some settings →
    ∃ passed, session.verdict = some passed ∧ (settings.check = .ok () ↔ passed = true)

theorem Session.Agrees.settle {session next : Session} {verdict : Option Bool} (h : session.Agrees)
    (hsettling : Settling session.store.settings next.store.settings verdict)
    (hverdict : next.verdict = verdict.or session.verdict) : next.Agrees := by
  generalize hkept : next.store.settings = kept at hsettling
  cases hsettling with
  | kept =>
      rw [Option.none_or] at hverdict
      constructor
      · intro hempty
        rw [hverdict]
        exact h.empty (hkept.symm.trans hempty)
      · intro settings hsettings
        rw [hverdict]
        exact h.checked settings (hkept.symm.trans hsettings)
  | @put settings passed hcheck =>
      constructor
      · intro hempty
        rw [hkept] at hempty
        cases hempty
      · intro other hother
        rw [hkept] at hother
        cases hother
        exact ⟨passed, hverdict, hcheck⟩

theorem Session.Agrees.after {session : Session} (h : session.Agrees) (call : Call) :
    (session.after call).Agrees := by
  cases call with
  | load path => exact h.settle (settling_load session.store session.workspace path) rfl
  | get => exact h.settle (settling_get session.store session.workspace) rfl
  | update sectionName key value =>
      exact h.settle (settling_update session.store sectionName key value) rfl
  | save path => exact h.settle .kept rfl
  | change workspace => exact h.settle .kept rfl

theorem Session.Agrees.run {session : Session} (h : session.Agrees) (calls : List Call) :
    (session.run calls).Agrees := by
  induction calls generalizing session with
  | nil => exact h
  | cons call calls ih => exact ih (h.after call)

/-- Settings that a store hands out after any calls pass the check exactly if the latest verdict of
these calls is not that they fail it. -/
theorem check_of_get (store : SettingsStore) (workspace : Workspace) (calls : List Call)
    {session : Session} {settings : Settings} (hnew : store.settings = none)
    (hrun : Session.run { store, workspace } calls = session)
    (hget : (session.store.get session.workspace).2 = .ok settings) :
    settings.check = .ok () ↔ session.verdict ≠ some false := by
  have hagrees : session.Agrees := by
    rw [← hrun]
    apply Session.Agrees.run
    exact ⟨fun _ => rfl, fun settings hsettings => by rw [hnew] at hsettings; cases hsettings⟩
  cases hsettings : session.store.settings with
  | none =>
      -- The store loads only now, and what a load gives passes the check.
      have hload := loading session.store session.workspace none
      rw [get, hsettings] at hget
      simp only at hget
      rw [hget] at hload
      generalize (session.store.load session.workspace none).1.settings = kept at hload
      cases hload with
      | passed hread hcheck => simp [hcheck, hagrees.empty hsettings]
  | some kept =>
      rw [get, hsettings] at hget
      cases hget
      obtain ⟨passed, hverdict, hchecked⟩ := hagrees.checked settings hsettings
      rw [hchecked, hverdict]
      cases passed <;> simp

/-- The variables give a mode that does not pass the check, so that loads fail until a change of the
field makes the settings usable. -/
theorem check_of_get_changed :
    ∃ session settings, Session.run
        { store := { directory := ⟨["config"]⟩ }
          workspace := { environment := [("GRIDSYNTH_EXECUTION_MODE", "fast")] } }
        [.load none, .get, .update "execution" "mode" (.text "compiler")] = session ∧
      (session.store.get session.workspace).2 = .ok settings ∧ session.verdict = some true ∧
      settings.check = .ok () := by
  have hget : ((Session.run
      { store := { directory := ⟨["config"]⟩ }
        workspace := { environment := [("GRIDSYNTH_EXECUTION_MODE", "fast")] } }
      [.load none, .get, .update "execution" "mode" (.text "compiler")]).store.get
      { environment := [("GRIDSYNTH_EXECUTION_MODE", "fast")] }).2 =
      .ok ((Settings.default.set .mode (.text "fast")).set .mode (.text "compiler")) := by
    with_unfolding_all rfl
  have hverdict : (Session.run
      { store := { directory := ⟨["config"]⟩ }
        workspace := { environment := [("GRIDSYNTH_EXECUTION_MODE", "fast")] } }
      [.load none, .get, .update "execution" "mode" (.text "compiler")]).verdict = some true := by
    with_unfolding_all rfl
  refine ⟨_, _, rfl, hget, hverdict, ?_⟩
  apply (check_of_get { directory := ⟨["config"]⟩ }
    { environment := [("GRIDSYNTH_EXECUTION_MODE", "fast")] }
    [.load none, .get, .update "execution" "mode" (.text "compiler")] rfl rfl hget).mpr
  rw [hverdict]
  decide

/-- Not all settings that a store hands out pass the check: a failed load leaves some that do not.
-/
theorem exists_get_unchecked :
    ¬ ∀ (store : SettingsStore) (workspace : Workspace) (calls : List Call) (settings : Settings),
      store.settings = none →
      ((Session.run { store, workspace } calls).store.get
        (Session.run { store, workspace } calls).workspace).2 = .ok settings →
      settings.check = .ok () := by
  intro hall
  have hcheck := hall { directory := ⟨["config"]⟩ }
    { environment := [("GRIDSYNTH_COMPILER_TIMEOUT", "-1")] } [.load none]
    (Settings.default.set .timeout (.int (-1))) rfl (by with_unfolding_all rfl)
  cases hcheck

end SettingsStore

end GridRules
