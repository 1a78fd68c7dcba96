import Kots.UpdateChecker.Configure

namespace Kots.UpdateChecker

abbrev Schedule := String → Option String

def resolve (cadence : String) (now : Clock) : Option String :=
  if cadence = "@never" ∨ cadence = "" then none
  else if cadence = "@default" then some (defaultSpec now) else some cadence

def Schedule.configure (schedule : Schedule) (getApp : Except String App) (now : Clock) : Schedule :=
  match getApp with
  | .ok a => if a.isAirgap then schedule else Function.update schedule a.id (resolve a.updateCheckerSpec now)
  | .error _ => schedule

def Scheduled (job? : Option Cron) (appID : String) : Option String → Prop
  | some spec => ∃ job, job? = some job ∧ job.running = true ∧
      job.entries.map (fun e => (e.spec, e.appID)) = [(spec, appID)]
  | none => ∀ job, job? = some job → job.running = false

instance (job? : Option Cron) (appID : String) : (spec? : Option String) → Decidable (Scheduled job? appID spec?)
  | some spec =>
    match job? with
    | some job => decidable_of_iff (job.running = true ∧ job.entries.map (fun e => (e.spec, e.appID)) = [(spec, appID)])
        (by simp [Scheduled])
    | none => isFalse (by simp [Scheduled])
  | none =>
    match job? with
    | some job => decidable_of_iff (job.running = false) (by simp [Scheduled])
    | none => isTrue (by simp [Scheduled])

def Realizes (jobs : Jobs) (schedule : Schedule) : Prop := ∀ appID, Scheduled (jobs appID) appID (schedule appID)

def AtMostOneEntry (jobs : Jobs) : Prop := ∀ appID job, jobs appID = some job → job.entries.length ≤ 1

section Registry

variable (parse : String → Option String)

def Cron.installed (job : Cron) (spec appID : String) : Cron :=
  { job with entries := job.entries ++ [⟨job.nextID + 1, spec, appID⟩], nextID := job.nextID + 1, running := true }

theorem jobFor_entries (jobs : Jobs) (appID : String) : (jobFor jobs appID).1.entries = [] := by
  rw [jobFor_eq]
  split <;> rfl

theorem jobFor_jobs (jobs : Jobs) (appID : String) (other : String) (h : other ≠ appID) :
    (jobFor jobs appID).2 other = jobs other := by
  rw [jobFor_eq]
  split <;> simp [Function.update_noteq h]

theorem jobFor_update (jobs : Jobs) (appID : String) (job : Option Cron) :
    Function.update (jobFor jobs appID).2 appID job = Function.update jobs appID job := by
  rw [jobFor_eq]
  split <;> simp

theorem configureLocked_eq (a : App) (now : Clock) (jobs : Jobs) :
    configureLocked parse a now jobs =
      match resolve a.updateCheckerSpec now with
      | none => (none, stop a.id jobs)
      | some spec =>
        match parse spec with
        | some err => (some ("failed to add func: " ++ err), (jobFor jobs a.id).2)
        | none => (none, Function.update jobs a.id (some ((jobFor jobs a.id).1.installed spec a.id))) := by
  unfold configureLocked resolve
  by_cases disabled : a.updateCheckerSpec = "@never" ∨ a.updateCheckerSpec = ""
  · simp [disabled]
  · simp only [disabled, if_false]
    rw [← apply_ite some]
    generalize (if a.updateCheckerSpec = "@default" then defaultSpec now else a.updateCheckerSpec) = spec
    cases parsed : parse spec with
    | some err => simp [Cron.addFunc, parsed]
    | none => simp [Cron.addFunc, parsed, jobFor_update, Cron.installed, Cron.start]

theorem stop_self (appID : String) (jobs : Jobs) : stop appID jobs appID = (jobs appID).map Cron.stop := by
  cases found : jobs appID <;> simp [stop, found]

theorem stop_other {appID other : String} (jobs : Jobs) (h : other ≠ appID) : stop appID jobs other = jobs other := by
  cases found : jobs appID <;> simp [stop, found, Function.update_noteq h]

theorem stop_realizes {jobs : Jobs} {schedule : Schedule} (realizes : Realizes jobs schedule) (appID : String) :
    Realizes (stop appID jobs) (Function.update schedule appID none) := by
  intro other
  by_cases same : other = appID
  · subst same
    simp only [Function.update_same, Scheduled, stop_self, Option.map_eq_some']
    rintro _ ⟨job, _, rfl⟩
    rfl
  · simpa [Function.update_noteq same, stop_other jobs same] using realizes other

theorem configureLocked_scheduled {a : App} {now : Clock} {jobs : Jobs}
    (ok : (configureLocked parse a now jobs).1 = none) :
    Scheduled ((configureLocked parse a now jobs).2 a.id) a.id (resolve a.updateCheckerSpec now) := by
  rw [configureLocked_eq] at ok ⊢
  cases resolved : resolve a.updateCheckerSpec now with
  | none =>
    simp only [Scheduled, stop_self, Option.map_eq_some']
    rintro _ ⟨job, _, rfl⟩
    rfl
  | some spec =>
    cases parsed : parse spec with
    | some err => simp [resolved, parsed] at ok
    | none => simp [parsed, Scheduled, Cron.installed, jobFor_entries]

theorem configureLocked_other {a : App} {now : Clock} {jobs : Jobs} {other : String} (h : other ≠ a.id) :
    (configureLocked parse a now jobs).2 other = jobs other := by
  rw [configureLocked_eq]
  split
  · exact stop_other jobs h
  · split <;> simp [jobFor_jobs _ _ _ h, Function.update_noteq h]

theorem configureLocked_entries {a : App} {now : Clock} {jobs : Jobs} {job : Cron}
    (one : ∀ job, jobs a.id = some job → job.entries.length ≤ 1)
    (found : (configureLocked parse a now jobs).2 a.id = some job) : job.entries.length ≤ 1 := by
  rw [configureLocked_eq] at found
  split at found
  · simp only [stop_self, Option.map_eq_some'] at found
    obtain ⟨job, found, rfl⟩ := found
    exact one job found
  · split at found
    · rw [jobFor_eq] at found
      split at found
      · simp only [Function.update_same, Option.some.injEq] at found
        simp [← found]
      · exact one job found
    · simp only [Function.update_same, Option.some.injEq] at found
      simp [← found, Cron.installed, jobFor_entries]

theorem configure_realizes {getApp : Except String App} {now : Clock} {jobs : Jobs} {schedule : Schedule}
    (ok : (configure parse getApp now jobs).1 = none) (realizes : Realizes jobs schedule) :
    Realizes (configure parse getApp now jobs).2 (schedule.configure getApp now) := by
  cases getApp with
  | error err => simp [configure] at ok
  | ok a =>
    by_cases airgap : a.isAirgap
    · simpa [configure, Schedule.configure, airgap] using realizes
    · simp only [configure, Schedule.configure, airgap, if_false, Bool.false_eq_true] at ok ⊢
      intro appID
      by_cases same : appID = a.id
      · subst same
        simpa using configureLocked_scheduled parse ok
      · simpa [Function.update_noteq same, configureLocked_other parse same] using realizes appID

theorem configure_atMostOne {getApp : Except String App} {now : Clock} {jobs : Jobs}
    (one : AtMostOneEntry jobs) : AtMostOneEntry (configure parse getApp now jobs).2 := by
  intro appID job found
  cases getApp with
  | error err => exact one appID job found
  | ok a =>
    by_cases airgap : a.isAirgap
    · simp only [configure, airgap, if_true] at found
      exact one appID job found
    · simp only [configure, airgap, if_false, Bool.false_eq_true] at found
      by_cases same : appID = a.id
      · subst same
        exact configureLocked_entries parse (one a.id) found
      · exact one appID job (by rwa [configureLocked_other parse same] at found)

theorem rejected_spec_clears_entries {a : App} {now : Clock} {jobs : Jobs} {job : Cron} {spec err : String}
    (existing : jobs a.id = some job) (airgap : a.isAirgap = false)
    (resolved : resolve a.updateCheckerSpec now = some spec) (rejected : parse spec = some err) :
    configure parse (.ok a) now jobs =
      (some ("failed to add func: " ++ err), Function.update jobs a.id (some { job with entries := [] })) := by
  simp only [configure, airgap, Bool.false_eq_true, if_false, configureLocked_eq, resolved, rejected, jobFor_eq,
    existing]

end Registry

def fiveFields (spec : String) : Option String :=
  if (spec.toList.filter (· == ' ')).length = 4 then none else some ("expected exactly 5 fields: " ++ spec)

def hourlyJobs : Jobs := Function.update (fun _ => none) "app" (some ⟨[⟨1, "0 * * * *", "app"⟩], true, 1⟩)

theorem malformed_cadence_clears_entries :
    configure fiveFields (.ok ⟨"app", "app", false, 1, "hourly"⟩) ⟨0, 0⟩ hourlyJobs =
      (some "failed to add func: expected exactly 5 fields: hourly",
        Function.update hourlyJobs "app" (some ⟨[], true, 1⟩)) :=
  @rejected_spec_clears_entries fiveFields _ _ _ ⟨[⟨1, "0 * * * *", "app"⟩], true, 1⟩ "hourly"
    "expected exactly 5 fields: hourly" (by decide) rfl (by decide) (by decide)

section Runs

variable (parse : String → Option String)

inductive Op where
  | start (listed : Except String (List App)) (answer : App → Except String App × Clock)
  | configure (getApp : Except String App) (now : Clock)
  | stop (appID : String)

def Op.run : Op → Jobs → Jobs
  | .start listed answer, jobs => (UpdateChecker.start parse listed answer jobs).2
  | .configure getApp now, jobs => (UpdateChecker.configure parse getApp now jobs).2
  | .stop appID, jobs => UpdateChecker.stop appID jobs

def Op.intend : Op → Schedule → Schedule
  | .start (.ok appsList) answer, schedule =>
    appsList.foldl (fun schedule a => if a.isAirgap then schedule else schedule.configure (answer a).1 (answer a).2)
      schedule
  | .start (.error _) _, schedule => schedule
  | .configure getApp now, schedule => schedule.configure getApp now
  | .stop appID, schedule => Function.update schedule appID none

def Op.Succeeds : Op → Prop
  | .start (.ok appsList) answer =>
    ∀ a ∈ appsList, a.isAirgap = false → ∀ jobs, (UpdateChecker.configure parse (answer a).1 (answer a).2 jobs).1 = none
  | .start (.error _) _ => True
  | .configure getApp now => ∀ jobs, (UpdateChecker.configure parse getApp now jobs).1 = none
  | .stop _ => True

def runJobs (ops : List Op) : Jobs := ops.foldl (fun jobs op => op.run parse jobs) fun _ => none

def runSchedule (ops : List Op) : Schedule := ops.foldl (fun schedule op => op.intend schedule) fun _ => none

theorem realizes_empty : Realizes (fun _ => none) fun _ => none := fun _ _ found => by cases found

theorem atMostOne_empty : AtMostOneEntry fun _ => none := fun _ _ found => by cases found

theorem start_realizes {jobs : Jobs} {schedule : Schedule} {appsList : List App}
    {answer : App → Except String App × Clock}
    (ok : ∀ a ∈ appsList, a.isAirgap = false → ∀ jobs, (configure parse (answer a).1 (answer a).2 jobs).1 = none)
    (realizes : Realizes jobs schedule) :
    Realizes (start parse (.ok appsList) answer jobs).2 ((Op.start (.ok appsList) answer).intend schedule) := by
  induction appsList generalizing jobs schedule with
  | nil => exact realizes
  | cons a appsList ih =>
    simp only [start, Op.intend, List.foldl_cons] at ih ⊢
    refine ih (fun b member => ok b (List.mem_cons_of_mem a member)) ?_
    cases airgap : a.isAirgap
    · simpa [airgap] using configure_realizes parse (ok a (List.mem_cons_self a appsList) airgap jobs) realizes
    · simpa [airgap] using realizes

theorem start_atMostOne {jobs : Jobs} (listed : Except String (List App))
    (answer : App → Except String App × Clock) (one : AtMostOneEntry jobs) :
    AtMostOneEntry (start parse listed answer jobs).2 := by
  cases listed with
  | error err => exact one
  | ok appsList =>
    induction appsList generalizing jobs with
    | nil => exact one
    | cons a appsList ih =>
      simp only [start, List.foldl_cons] at ih ⊢
      refine ih ?_
      cases airgap : a.isAirgap
      · simpa [airgap] using configure_atMostOne parse one
      · simpa [airgap] using one

theorem stop_atMostOne {jobs : Jobs} (appID : String) (one : AtMostOneEntry jobs) :
    AtMostOneEntry (stop appID jobs) := by
  intro other job found
  by_cases same : other = appID
  · subst same
    simp only [stop_self, Option.map_eq_some'] at found
    obtain ⟨job, found, rfl⟩ := found
    exact one _ job found
  · exact one other job (by simpa [stop_other _ same] using found)

theorem Op.run_realizes {jobs : Jobs} {schedule : Schedule} (op : Op) (ok : op.Succeeds parse)
    (realizes : Realizes jobs schedule) : Realizes (op.run parse jobs) (op.intend schedule) := by
  cases op with
  | start listed answer =>
    cases listed with
    | error err => exact realizes
    | ok appsList => exact start_realizes parse ok realizes
  | configure getApp now => exact configure_realizes parse (ok jobs) realizes
  | stop appID => exact stop_realizes realizes appID

theorem Op.run_atMostOne {jobs : Jobs} (op : Op) (one : AtMostOneEntry jobs) : AtMostOneEntry (op.run parse jobs) := by
  cases op with
  | start listed answer => exact start_atMostOne parse listed answer one
  | configure getApp now => exact configure_atMostOne parse one
  | stop appID => exact stop_atMostOne appID one

/-- The calls keep at most one entry in each job, and when every `Configure` succeeds, `jobs`
    runs exactly the schedule the calls ask for. -/
theorem registry_refines_schedule (ops : List Op) :
    ((∀ op ∈ ops, op.Succeeds parse) → Realizes (runJobs parse ops) (runSchedule ops)) ∧
      AtMostOneEntry (runJobs parse ops) := by
  suffices ∀ jobs schedule, AtMostOneEntry jobs →
      ((∀ op ∈ ops, op.Succeeds parse) → Realizes jobs schedule →
        Realizes (ops.foldl (fun jobs op => op.run parse jobs) jobs) (ops.foldl (fun s op => op.intend s) schedule)) ∧
      AtMostOneEntry (ops.foldl (fun jobs op => op.run parse jobs) jobs) from
    ⟨fun ok => (this _ _ atMostOne_empty).1 ok realizes_empty, (this _ (fun _ => none) atMostOne_empty).2⟩
  induction ops with
  | nil => exact fun jobs schedule one => ⟨fun _ realizes => realizes, one⟩
  | cons op ops ih =>
    intro jobs schedule one
    have next := ih _ (op.intend schedule) (op.run_atMostOne parse one)
    exact ⟨fun ok realizes => next.1 (fun o member => ok o (List.mem_cons_of_mem op member))
      (op.run_realizes parse (ok op (List.mem_cons_self op ops)) realizes), next.2⟩

end Runs

end Kots.UpdateChecker
