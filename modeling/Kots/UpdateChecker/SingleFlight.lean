import Kots.UpdateChecker.World
import Kots.UpdateChecker.Runs
import Kots.UpdateChecker.Staging

namespace Kots.UpdateChecker

open Kots.Effect

theorem append_cons_eq_append_pair {α : Type} {l l' m : List α} {x y z : α}
    (h : l ++ x :: l' = m ++ [y, z]) (fresh : x ∉ m ++ [y]) : l = m ++ [y] ∧ x = z ∧ l' = [] := by
  rcases List.append_eq_append_iff.mp h with ⟨a, rfl, rest⟩ | ⟨c, rfl, rest⟩
  · cases a with
    | nil => simp at rest; simp [rest.1] at fresh
    | cons w a => simp at rest; simp [rest.1] at fresh
  · match c, rest with
    | [], rest => simp at rest; simp [rest.1] at fresh
    | [y'], rest => simp at rest; simp [rest]
    | y' :: z' :: c, rest => simp at rest

theorem LatestRun.starts_nothing {appID : String} {t : List Event} {r : Except Exit Nat}
    (latest : LatestRun appID t r) : t.filterMap (fun e => e.1.started) = [] := by
  cases latest <;> rfl

theorem ArchiveRun.starts_nothing {a : App} {archiveDir : String} {deploy skipPreflights isCLI : Bool}
    {t : List Event} {r : Except Exit Nat} (run : ArchiveRun a archiveDir deploy skipPreflights isCLI t r true) :
    t.filterMap (fun e => e.1.started) = [] := by
  cases run with
  | ensureLatest kotsKinds license info redeploy t r latest =>
    rw [List.filterMap_append, latest.starts_nothing, List.append_nil]
    rfl
  | _ => rfl

theorem checkForUpdates_starts_after_set {appID : String} {deploy skipPreflights isCLI : Bool}
    {t : List Event} {c : Call} {k : c.Response → Prog (Except Exit Nat)}
    (h : Prog.Steps (checkForUpdatesRoutine appID deploy skipPreflights isCLI) t (.call c k))
    {o : Routine} (starts : c.started = some o) (r : c.Response) :
    (∃ g, c = .goStaging g) ∧ (∃ t' message, t = t' ++ [⟨.setTaskStatus updateDownload message "running", none⟩]) ∧
      ∃ x, k r = .pure x := by
  obtain ⟨t', x, run⟩ := h.completes r
  have rest : t' = [] → k r = .pure x := fun none => (h.snoc r).det (by simpa [none] using run)
  have spawned : o ∈ (t ++ ⟨c, r⟩ :: t').filterMap fun e => e.1.started :=
    List.mem_filterMap.mpr ⟨⟨c, r⟩, by simp, starts⟩
  have fresh : ∀ l : List Event, l.filterMap (fun e => e.1.started) = [] → (⟨c, r⟩ : Event) ∉ l :=
    fun l none member => by
      simpa [none] using List.mem_filterMap.mpr (⟨⟨c, r⟩, member, starts⟩ : ∃ e ∈ l, e.1.started = some o)
  generalize trace : t ++ ⟨c, r⟩ :: t' = T at run spawned
  cases CheckRun.of_run run with
  | archived status message idle a reloaded archiveDir t r flag run removed =>
    cases flag with
    | true =>
      rw [List.filterMap_append, List.filterMap_append, run.starts_nothing] at spawned
      cases (show o ∈ ([] : List Routine) from spawned)
    | false =>
      cases run with
      | staged kotsKinds license info updates found =>
        rw [show ∀ l : List Event, ∀ x y z, l ++ (discovered reloaded archiveDir kotsKinds license info updates ++
          [x, y, z]) ++ cleanup archiveDir false removed =
            (l ++ discovered reloaded archiveDir kotsKinds license info updates ++ [x]) ++ [y, z]
          by simp [cleanup]] at trace
        obtain ⟨rfl, same, rfl⟩ := append_cons_eq_append_pair trace (fresh _ rfl)
        simp only [Sigma.mk.inj_iff] at same
        exact ⟨⟨_, same.1⟩, ⟨_, _, rfl⟩, _, rest rfl⟩
  | _ => cases (show o ∈ ([] : List Routine) from spawned)

def Call.touchesGate : Call → Bool
  | .clearTaskStatus _ | .setTaskStatus .. | .goStaging _ => true
  | _ => false

theorem Tasks.answer_quiet {tasks tasks' : Tasks} {c : Call} {r : c.Response} (quiet : c.touchesGate = false)
    (answered : tasks.answer c r = some tasks') : tasks' = tasks := by
  cases c with
  | getTaskStatus id =>
    cases r with
    | ok s =>
      simp only [Tasks.answer] at answered
      split at answered
      · exact (Option.some.inj answered).symm
      · cases answered
    | error => exact (Option.some.inj answered).symm
  | clearTaskStatus | setTaskStatus | goStaging => cases quiet
  | _ => exact (Option.some.inj answered).symm

theorem quiet_prepend {e : Event} {t : List Event} (call : e.1.touchesGate = false)
    (quiet : ∀ e ∈ t, e.1.touchesGate = false) : ∀ e' ∈ [e] ++ t, e'.1.touchesGate = false :=
  List.forall_mem_cons.mpr ⟨call, quiet⟩

theorem stagingLoop_quiet (g : Staging) (l : List (Nat × Update)) :
    Prog.wp (stagingLoop g l) fun t _ => ∀ e ∈ t, e.1.touchesGate = false := by
  induction l with
  | nil => simp [stagingLoop]
  | cons p l ih =>
    simp only [stagingLoop, Prog.wp_bind, Prog.wp_invoke]
    intro r
    cases r with
    | error => exact Prog.wp_mono ih fun t _ quiet => quiet_prepend rfl quiet
    | ok sequence =>
      rw [Prog.wp_ite]
      split
      · simp only [Prog.wp_bind, Prog.wp_invoke]
        exact fun _ _ => Prog.wp_mono ih fun t _ quiet => quiet_prepend rfl (quiet_prepend rfl (quiet_prepend rfl quiet))
      · simp only [Prog.wp_bind, Prog.wp_pure, List.nil_append]
        exact Prog.wp_mono ih fun t _ quiet => quiet_prepend rfl quiet

theorem Routine.next_quiet {o : Routine} (started : o.isCheck = false) {t : List Event} {c : Call}
    {k : c.Response → Prog o.Result} (h : Prog.Steps o.body t (.call c k)) : c.touchesGate = false := by
  have r : c.Response := Classical.choice inferInstance
  obtain ⟨t', x, run⟩ := h.completes r
  cases o with
  | checkForUpdates => cases started
  | staging g =>
    have quiet := (Prog.wp_iff _ _).mp (show Prog.wp (Kots.UpdateChecker.staging g) fun t _ => ∀ e ∈ t, e.1.touchesGate = false by
      simp only [Kots.UpdateChecker.staging, Prog.wp_bind, Prog.wp_invoke, Prog.wp_pure]
      exact Prog.wp_mono (stagingLoop_quiet g _) fun t _ quiet r e member => by
        rcases List.mem_append.mp member with member | member
        · exact quiet e member
        · simp [List.mem_singleton.mp member, Call.touchesGate]) _ _ run
    exact quiet ⟨c, r⟩ (by simp)
  | report rep =>
    have quiet := (Prog.wp_iff _ _).mp (show Prog.wp (Kots.UpdateChecker.report rep) fun t _ => ∀ e ∈ t, e.1.touchesGate = false by
      simp [Kots.UpdateChecker.report, Call.touchesGate]) _ _ run
    exact quiet ⟨c, r⟩ (by simp)

def World.stagings (w : World) : Nat := w.spawns.countP fun s => s.1.isStaging

def World.reopened (w : World) : Nat := w.writes.countP fun x => x.2.1 != "running"

def World.Idle (w : World) (j : Nat) : Prop :=
  ∀ h, w.goroutines[j]? = some h → h.routine.isCheck → w.trace j = [] ∨ h.done

def serialCalls (w : World) (i : Nat) : Prop :=
  ∀ g, w.goroutines[i]? = some g → g.routine.isCheck → ∀ j, j ≠ i → w.Idle j

theorem World.Idle.fresh {w : World} {j : Nat} (idle : w.Idle j) {h : Goroutine} (found : w.goroutines[j]? = some h)
    (check : h.routine.isCheck) (busy : h.done = false) : w.trace j = [] :=
  (idle h found check).resolve_right (by simp [busy])

theorem Call.started_isCheck {c : Call} {o : Routine} (h : c.started = some o) : o.isCheck = false := by
  cases c <;> simp [Call.started] at h <;> simp [← h, Routine.isCheck]

section Called

variable {w : World} {tasks : Tasks} {i : Nat} {g : Goroutine} {c : Call}
  {k : c.Response → Prog g.routine.Result} {r : c.Response}

@[simp] theorem World.called_tasks : (w.called tasks i g c k r).tasks = tasks := rfl

@[simp] theorem World.called_reopened : (w.called tasks i g c k r).reopened = w.reopened := rfl

theorem World.called_stagings (found : w.goroutines[i]? = some g) :
    (w.called tasks i g c k r).stagings =
      w.stagings + ((c.started.map fun o => (o, some i)).toList.countP fun s => s.1.isStaging) := by
  rw [World.stagings, World.called_spawns found, List.countP_append, World.stagings]

theorem World.called_check (found : w.goroutines[i]? = some g) {j : Nat} (other : i ≠ j) {h : Goroutine}
    (found' : (w.called tasks i g c k r).goroutines[j]? = some h) (check : h.routine.isCheck) :
    w.goroutines[j]? = some h := by
  rw [World.called_goroutine found, if_neg other] at found'
  split at found'
  · exact found'
  · cases started : c.started <;> simp only [started, Option.map_none', Option.map_some',
      Option.toList_none, Option.toList_some] at found'
    · simp at found'
    · obtain rfl := List.mem_singleton.mp (List.getElem?_mem found')
      simp [Call.started_isCheck started] at check

theorem World.called_idle (found : w.goroutines[i]? = some g) {j : Nat} (other : i ≠ j) (idle : w.Idle j) :
    (w.called tasks i g c k r).Idle j := by
  intro h found' check
  rw [World.called_trace, if_neg other]
  exact idle h (World.called_check found other found' check) check

theorem World.called_idle_self (found : w.goroutines[i]? = some g) {x : g.routine.Result} (done : k r = .pure x) :
    (w.called tasks i g c k r).Idle i := by
  intro h found' _
  rw [World.called_goroutine found, if_pos rfl] at found'
  cases found'
  simp [Goroutine.done, done]

theorem World.called_idle_routine (found : w.goroutines[i]? = some g) (check : g.routine.isCheck = false) :
    (w.called tasks i g c k r).Idle i := by
  intro h found' check'
  rw [World.called_goroutine found, if_pos rfl] at found'
  cases found'
  simp [check] at check'

theorem World.called_all_idle (found : w.goroutines[i]? = some g) (self : (w.called tasks i g c k r).Idle i)
    (idle : ∀ j, i ≠ j → w.Idle j) (j : Nat) : (w.called tasks i g c k r).Idle j := by
  by_cases other : i = j
  · exact other ▸ self
  · exact World.called_idle found other (idle j other)

end Called

theorem checkForUpdates_reads_gate (a : CheckArgs) :
    ∃ k, (Routine.checkForUpdates a).body = .call (.getTaskStatus updateDownload) k ∧
      ∀ r, (∀ s, r = .ok s → s.1 = "running") → ∃ x, k r = .pure x := by
  refine ⟨_, rfl, fun r running => ?_⟩
  cases r with
  | error => exact ⟨_, rfl⟩
  | ok s =>
    obtain ⟨status, message⟩ := s
    obtain rfl : status = "running" := running _ rfl
    exact ⟨_, rfl⟩

theorem Goroutine.first_call {g : Goroutine} (check : g.routine.isCheck) {c : Call}
    {k : c.Response → Prog g.routine.Result} (h : Prog.Steps g.routine.body [] (.call c k)) :
    c.touchesGate = false ∧ c.started = none ∧ ∀ {tasks tasks' : Tasks} (r : c.Response),
      tasks.answer c r = some tasks' → (tasks updateDownload).1 = "running" → ∃ x, k r = .pure x := by
  obtain ⟨_ | _ | _, parent, rest⟩ := g <;> simp only [Routine.isCheck, reduceCtorEq] at check
  obtain ⟨k₀, body, quick⟩ := checkForUpdates_reads_gate _
  have first := (Prog.Steps.refl _).det h
  rw [body] at first
  cases first
  refine ⟨rfl, rfl, fun r answered running => quick r fun s read => ?_⟩
  subst read
  simp only [Tasks.answer] at answered
  split at answered
  · simp_all
  · cases answered

theorem Goroutine.starts_after_set {g : Goroutine} (check : g.routine.isCheck) {t : List Event} {c : Call}
    {k : c.Response → Prog g.routine.Result} (h : Prog.Steps g.routine.body t (.call c k))
    {o : Routine} (starts : c.started = some o) (r : c.Response) :
    (∃ g₀, c = .goStaging g₀) ∧ (∃ t' message, t = t' ++ [⟨.setTaskStatus updateDownload message "running", none⟩]) ∧
      ∃ x, k r = .pure x := by
  obtain ⟨_ | _ | _, parent, rest⟩ := g <;> simp only [Routine.isCheck, reduceCtorEq] at check
  exact checkForUpdates_starts_after_set h starts r

def World.Armed (w : World) : Prop :=
  ∀ j h, w.goroutines[j]? = some h → h.routine.isCheck → h.done = false → ∀ t' message,
    w.trace j = t' ++ [⟨.setTaskStatus updateDownload message "running", none⟩] →
      (w.tasks updateDownload).1 = "running" ∨ w.stagings < w.reopened

theorem World.Idle.unset {w : World} {j : Nat} (idle : w.Idle j) {h : Goroutine} (found : w.goroutines[j]? = some h)
    (check : h.routine.isCheck) (busy : h.done = false) {t' : List Event} {message : String} :
    w.trace j ≠ t' ++ [⟨.setTaskStatus updateDownload message "running", none⟩] := by
  simp [idle.fresh found check busy]

theorem World.armed_of_idle {w : World} (idle : ∀ j, w.Idle j) : w.Armed :=
  fun j _ found check busy _ _ trace => absurd trace ((idle j).unset found check busy)

/-- Each staging goroutine after the first needs a write that reopened the gate; while none has
    reopened it since the last one started, the gate reads `running` and no call is under way. -/
structure SerialInv (w : World) : Prop where
  bound : w.stagings ≤ w.reopened + 1
  shut : w.stagings = w.reopened + 1 → (w.tasks updateDownload).1 = "running" ∧ ∀ j, w.Idle j
  armed : w.Armed

section Serial

variable {w : World} {tasks : Tasks} {i : Nat} {g : Goroutine} {c : Call}
  {k : c.Response → Prog g.routine.Result} {r : c.Response}

theorem SerialInv.start (tasks : Tasks) (calls : List CheckArgs) : SerialInv (World.start tasks calls) := by
  have zero : (World.start tasks calls).stagings = 0 := by
    simp [World.stagings, World.spawns, World.start, Routine.isStaging]
  refine ⟨by omega, fun _ => by omega, fun j h _ _ _ t' message trace => ?_⟩
  simp [World.start, World.trace] at trace

theorem SerialInv.le_of_busy (inv : SerialInv w) {j : Nat} {h : Goroutine} (found : w.goroutines[j]? = some h)
    (check : h.routine.isCheck) (busy : h.done = false) (started : w.trace j ≠ []) : w.stagings ≤ w.reopened := by
  by_contra closed
  exact started (((inv.shut (by have := inv.bound; omega)).2 j).fresh found check busy)

theorem SerialInv.download (inv : SerialInv w) (i : Nat) (row : String × String) : SerialInv (w.downloaded i row) := by
  have stagings : (w.downloaded i row).stagings = w.stagings := rfl
  by_cases running : row.1 = "running"
  · have reopened : (w.downloaded i row).reopened = w.reopened := by
      simp [World.reopened, List.countP_append, running]
    have status : ((w.downloaded i row).tasks updateDownload).1 = "running" := by simp [running]
    exact ⟨by rw [stagings, reopened]; exact inv.bound,
      fun tight => ⟨status, (inv.shut (by rw [stagings, reopened] at tight; exact tight)).2⟩,
      fun _ _ _ _ _ _ _ _ => .inl status⟩
  · have reopened : (w.downloaded i row).reopened = w.reopened + 1 := by
      simp [World.reopened, List.countP_append, running]
    refine ⟨by have := inv.bound; omega, fun tight => absurd inv.bound (by omega),
      fun j h found check busy t' message trace => .inr ?_⟩
    have opened := inv.le_of_busy found check busy (by simp_all)
    omega

theorem SerialInv.routine_call (inv : SerialInv w) (found : w.goroutines[i]? = some g)
    (check : g.routine.isCheck = false) (traced : Prog.Steps g.routine.body (w.trace i) (.call c k))
    (answered : w.tasks.answer c r = some tasks) : SerialInv (w.called tasks i g c k r) := by
  have quiet := Routine.next_quiet check traced
  obtain rfl := Tasks.answer_quiet quiet answered
  have stagings : (w.called w.tasks i g c k r).stagings = w.stagings := by
    rw [World.called_stagings found]
    cases c <;> first | rfl | cases quiet
  refine ⟨by rw [stagings]; exact inv.bound, fun tight => ?_, fun j h found' check' busy t' message trace => ?_⟩
  · obtain ⟨running, idle⟩ := inv.shut (by simpa [stagings] using tight)
    exact ⟨running, World.called_all_idle found (World.called_idle_routine found check) fun j _ => idle j⟩
  · by_cases other : i = j
    · subst other
      exact absurd trace ((World.called_idle_routine found check).unset found' check' busy)
    · rw [World.called_trace, if_neg other] at trace
      simpa [stagings] using inv.armed j h (World.called_check found other found' check') check' busy t' message trace

theorem SerialInv.check_call_shut (inv : SerialInv w) (found : w.goroutines[i]? = some g)
    (check : g.routine.isCheck) (busy : g.done = false) (tight : w.stagings = w.reopened + 1)
    (traced : Prog.Steps g.routine.body (w.trace i) (.call c k)) (answered : w.tasks.answer c r = some tasks) :
    SerialInv (w.called tasks i g c k r) := by
  obtain ⟨running, idle⟩ := inv.shut tight
  rw [(idle i).fresh found check busy] at traced
  obtain ⟨quiet, starts, quick⟩ := Goroutine.first_call check traced
  obtain ⟨x, done⟩ := quick r answered running
  obtain rfl := Tasks.answer_quiet quiet answered
  have stagings : (w.called w.tasks i g c k r).stagings = w.stagings := by
    simp [World.called_stagings found, starts]
  have idle' : ∀ j, (w.called w.tasks i g c k r).Idle j :=
    World.called_all_idle found (World.called_idle_self found done) fun j _ => idle j
  exact ⟨by rw [stagings]; exact inv.bound, fun _ => ⟨running, idle'⟩, World.armed_of_idle idle'⟩

theorem SerialInv.check_call_starts (inv : SerialInv w) (found : w.goroutines[i]? = some g)
    (check : g.routine.isCheck) (busy : g.done = false) (others : ∀ j, j ≠ i → w.Idle j)
    (opened : w.stagings ≤ w.reopened) (traced : Prog.Steps g.routine.body (w.trace i) (.call c k)) {o : Routine}
    (starts : c.started = some o) (answered : w.tasks.answer c r = some tasks) :
    SerialInv (w.called tasks i g c k r) := by
  obtain ⟨⟨g₀, rfl⟩, ⟨t', message, set⟩, x, done⟩ := Goroutine.starts_after_set check traced starts r
  have armed := inv.armed i g found check busy t' message set
  obtain rfl : tasks = w.tasks := by simpa [Tasks.answer] using answered.symm
  have stagings : (w.called w.tasks i g _ k r).stagings = w.stagings + 1 := by
    simp [World.called_stagings found, Call.started, Routine.isStaging]
  have idle' : ∀ j, (w.called w.tasks i g _ k r).Idle j :=
    World.called_all_idle found (World.called_idle_self found done) fun j other => others j (Ne.symm other)
  refine ⟨by rw [stagings, World.called_reopened]; omega, fun tight => ⟨?_, idle'⟩, World.armed_of_idle idle'⟩
  rw [stagings, World.called_reopened] at tight
  exact armed.resolve_right (by omega)

theorem SerialInv.check_call_quiet (found : w.goroutines[i]? = some g) (others : ∀ j, j ≠ i → w.Idle j)
    (opened : w.stagings ≤ w.reopened) (starts : c.started = none) (answered : w.tasks.answer c r = some tasks) :
    SerialInv (w.called tasks i g c k r) := by
  have stagings : (w.called tasks i g c k r).stagings = w.stagings := by
    simp [World.called_stagings found, starts]
  refine ⟨by rw [stagings, World.called_reopened]; omega,
    fun tight => by rw [stagings, World.called_reopened] at tight; omega,
    fun j h found' check busy t' message trace => ?_⟩
  by_cases other : i = j
  · -- the call has just set the gate
    subst other
    rw [World.called_trace, if_pos rfl] at trace
    obtain ⟨-, last⟩ := List.append_inj' trace rfl
    simp only [List.cons.injEq, and_true, Sigma.mk.inj_iff] at last
    obtain ⟨rfl, same⟩ := last
    obtain rfl := eq_of_heq same
    simp only [Tasks.answer, Option.some.injEq] at answered
    subst answered
    exact .inl (by simp)
  · exact absurd trace ((World.called_idle found other (others j (Ne.symm other))).unset found' check busy)

theorem SerialInv.check_call (inv : SerialInv w) (found : w.goroutines[i]? = some g) (check : g.routine.isCheck)
    (next : g.rest = .call c k) (others : ∀ j, j ≠ i → w.Idle j)
    (traced : Prog.Steps g.routine.body (w.trace i) (.call c k)) (answered : w.tasks.answer c r = some tasks) :
    SerialInv (w.called tasks i g c k r) := by
  have busy : g.done = false := by simp [Goroutine.done, next]
  by_cases tight : w.stagings = w.reopened + 1
  · exact inv.check_call_shut found check busy tight traced answered
  · have opened : w.stagings ≤ w.reopened := by have := inv.bound; omega
    cases starts : c.started with
    | some o => exact inv.check_call_starts found check busy others opened traced starts answered
    | none => exact SerialInv.check_call_quiet found others opened starts answered

theorem SerialInv.step {w w' : World} {i : Nat} (coherent : w.Coherent) (inv : SerialInv w)
    (serial : serialCalls w i) (step : Step i w w') : SerialInv w' := by
  cases step with
  | download row => exact inv.download i row
  | @call g c k tasks r found next answered =>
    have traced : Prog.Steps g.routine.body (w.trace i) (.call c k) := next ▸ coherent.traced i g found
    cases check : g.routine.isCheck
    · exact inv.routine_call found check traced answered
    · exact inv.check_call found check next (serial g found check) traced answered

end Serial

def Goroutine.activeStaging (g : Goroutine) : Bool := g.routine.isStaging && !g.done

def raceSchedule : List Nat := (List.replicate 14 [0, 1]).flatten

set_option maxRecDepth 4000 in
theorem two_stagings_active :
    ∃ w, Reachable anyInterleaving
        (World.start (fun _ => ("", "")) [⟨"app", false, false, false⟩, ⟨"app", false, false, false⟩]) w ∧
      (w.goroutines.filter Goroutine.activeStaging).length = 2 :=
  ⟨_, Reachable.run .start (collaborators [⟨"2.0.0"⟩] [] none) raceSchedule, by decide⟩

end Kots.UpdateChecker
