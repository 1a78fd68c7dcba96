import Kots.UpdateChecker.Registry

namespace Kots.UpdateChecker

inductive Request where
  | saving (cadence : String)
  | reading
  | locking (a : App)
  | returned (err : Option String)
  deriving DecidableEq, Repr

def Request.isReturned : Request → Bool
  | .returned _ => true
  | _ => false

structure Settings where
  app : App
  jobs : Jobs
  requests : List Request

namespace Settings

def Installs (now : Clock) (w : Settings) : Prop :=
  Scheduled (w.jobs w.app.id) w.app.id (resolve w.app.updateCheckerSpec now)

instance (now : Clock) (w : Settings) : Decidable (w.Installs now) := inferInstanceAs (Decidable (Scheduled ..))

def twoRequests : Settings :=
  ⟨⟨"app", "app", false, 1, "@never"⟩, fun _ => none, [.saving "0 * * * *", .saving "30 * * * *"]⟩

section Steps

variable (parse : String → Option String) (now : Clock)

/-- Request `i` takes its next atomic step: the store write, `GetApp`, or the part of `Configure`
    that `mtx` serializes. `none` when request `i` has returned. -/
def step (w : Settings) (i : Nat) : Option Settings :=
  match w.requests[i]? with
  | some (.saving cadence) =>
    some { w with app := { w.app with updateCheckerSpec := cadence }, requests := w.requests.set i .reading }
  | some .reading => some { w with requests := w.requests.set i (.locking w.app) }
  | some (.locking a) =>
    let (err, jobs) := configure parse (.ok a) now w.jobs
    some { w with jobs := jobs, requests := w.requests.set i (.returned err) }
  | some (.returned _) | none => none

def run (w : Settings) (schedule : List Nat) : Option Settings :=
  schedule.foldlM (fun w i => w.step parse now i) w

theorem run_preserves (P : Settings → Prop)
    (preserved : ∀ w w' i, w.step parse now i = some w' → P w → P w') {w w' : Settings}
    (schedule : List Nat) (ran : w.run parse now schedule = some w') (holds : P w) : P w' := by
  induction schedule generalizing w with
  | nil =>
    cases ran
    exact holds
  | cons i schedule ih =>
    obtain ⟨mid, stepped, ran⟩ := Option.bind_eq_some.mp ran
    exact ih ran (preserved w mid i stepped holds)

theorem run_cons (w : Settings) (i : Nat) (schedule : List Nat) :
    w.run parse now (i :: schedule) = (w.step parse now i).bind fun w => w.run parse now schedule :=
  rfl

theorem step_save {w : Settings} {i : Nat} {cadence : String} (found : w.requests[i]? = some (.saving cadence)) :
    w.step parse now i =
      some { w with app := { w.app with updateCheckerSpec := cadence }, requests := w.requests.set i .reading } := by
  simp [step, found]

theorem step_read {w : Settings} {i : Nat} (found : w.requests[i]? = some .reading) :
    w.step parse now i = some { w with requests := w.requests.set i (.locking w.app) } := by
  simp [step, found]

theorem step_lock {w : Settings} {i : Nat} {a : App} (found : w.requests[i]? = some (.locking a)) :
    w.step parse now i =
      some { w with jobs := (configure parse (.ok a) now w.jobs).2,
                    requests := w.requests.set i (.returned (configure parse (.ok a) now w.jobs).1) } := by
  simp [step, found]

theorem step_atMostOne {w w' : Settings} {i : Nat} (stepped : w.step parse now i = some w')
    (one : AtMostOneEntry w.jobs) : AtMostOneEntry w'.jobs := by
  unfold step at stepped
  split at stepped <;> simp only [Option.some.injEq, reduceCtorEq] at stepped <;> subst stepped
  · exact one
  · exact one
  · exact configure_atMostOne parse one

/-- `mtx` serializes the replacement of entries: under any interleaving of the requests, no job
    holds two entries. -/
theorem concurrent_requests_atMostOne {w w' : Settings} (schedule : List Nat)
    (ran : w.run parse now schedule = some w') (one : AtMostOneEntry w.jobs) : AtMostOneEntry w'.jobs :=
  run_preserves parse now (fun w => AtMostOneEntry w.jobs) (fun _ _ _ => step_atMostOne parse now) schedule ran one

theorem interleaved_requests_atMostOne :
    ∃ w, twoRequests.run fiveFields ⟨0, 0⟩ [0, 0, 1, 1, 1, 0] = some w ∧ AtMostOneEntry w.jobs :=
  ⟨_, rfl, @concurrent_requests_atMostOne fiveFields ⟨0, 0⟩ twoRequests _ [0, 0, 1, 1, 1, 0] rfl atMostOne_empty⟩

/-- A request that runs alone, its three steps not interleaved with another's, installs the
    cadence it saved, whatever the requests before it left. -/
theorem uninterrupted_request_installs {w w' : Settings} {i : Nat} {cadence : String}
    (airgap : w.app.isAirgap = false) (fresh : w.requests[i]? = some (.saving cadence))
    (ran : w.run parse now [i, i, i] = some w') (ok : w'.requests[i]? = some (.returned none)) :
    w'.Installs now := by
  have bound : i < w.requests.length := (List.getElem?_eq_some_iff.mp fresh).1
  simp only [run_cons, step, fresh, Option.some_bind, List.getElem?_set_self, List.length_set, bound] at ran
  cases ran
  simp only [List.set_set, List.getElem?_set_self, List.length_set, bound, Option.some.injEq,
    Request.returned.injEq] at ok
  simp only [Installs, configure, airgap, Bool.false_eq_true, if_false] at ok ⊢
  exact configureLocked_scheduled parse ok

theorem first_request_alone_installs :
    ∃ w, twoRequests.run fiveFields ⟨0, 0⟩ [0, 0, 0] = some w ∧ w.Installs ⟨0, 0⟩ :=
  ⟨_, rfl, @uninterrupted_request_installs fiveFields ⟨0, 0⟩ twoRequests _ 0 "0 * * * *" rfl rfl rfl (by decide)⟩

end Steps

/-- The first request reads the app back before the second saves, and takes `mtx` after the
    second has returned: the cadence it read, no longer the store's, is the one installed. -/
theorem stale_cadence_installed :
    ∃ w, twoRequests.run fiveFields ⟨0, 0⟩ [0, 0, 1, 1, 1, 0] = some w ∧ w.requests.all Request.isReturned ∧
      w.app.updateCheckerSpec = "30 * * * *" ∧ Scheduled (w.jobs "app") "app" (some "0 * * * *") ∧
      ¬ w.Installs ⟨0, 0⟩ :=
  ⟨_, rfl, by decide⟩

end Settings

end Kots.UpdateChecker
