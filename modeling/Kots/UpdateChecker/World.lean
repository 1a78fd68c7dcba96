import Kots.UpdateChecker.CheckForUpdates
import Mathlib.Logic.Function.Basic

namespace Kots.UpdateChecker

open Kots.Effect

structure CheckArgs where
  appID : String
  deploy : Bool
  skipPreflights : Bool
  isCLI : Bool
  deriving DecidableEq, Repr

inductive Routine where
  | checkForUpdates (args : CheckArgs)
  | staging (g : Staging)
  | report (r : Report)
  deriving DecidableEq, Repr

@[reducible] def Routine.Result : Routine → Type
  | .checkForUpdates _ => Except Exit Nat
  | .staging _ => Unit
  | .report _ => Unit

def Routine.body : (o : Routine) → Prog o.Result
  | .checkForUpdates a => checkForUpdatesRoutine a.appID a.deploy a.skipPreflights a.isCLI
  | .staging g => Kots.UpdateChecker.staging g
  | .report r => Kots.UpdateChecker.report r

def Routine.isCheck : Routine → Bool
  | .checkForUpdates _ => true
  | _ => false

def Routine.isStaging : Routine → Bool
  | .staging _ => true
  | _ => false

def Call.started : Call → Option Routine
  | .goStaging g => some (.staging g)
  | .goReport r => some (.report r)
  | _ => none

structure Goroutine where
  routine : Routine
  parent : Option Nat
  rest : Prog routine.Result

def Goroutine.done (g : Goroutine) : Bool :=
  match g.rest with
  | .pure _ => true
  | .call .. => false

/-- The task-status table of the store: `(status, message)` by task id, empty strings for an id
    with no row. -/
abbrev Tasks := String → String × String

/-- The table after a call answered `r`, or `none` when the store cannot have given `r`. Each
    store operation is atomic; one that fails leaves the table as it was. The writes that
    `upstream.DownloadUpdate` makes while it runs are `Step.download`. -/
def Tasks.answer (tasks : Tasks) : (c : Call) → c.Response → Option Tasks
  | .getTaskStatus id, .ok s => if tasks id = s then some tasks else none
  | .clearTaskStatus id, none => some (Function.update tasks id ("", ""))
  | .setTaskStatus id message status, none => some (Function.update tasks id (status, message))
  | _, _ => some tasks

/-- The process: the task table, the goroutines, every call made so far with the goroutine
    that made it, and every row `upstream.DownloadUpdate` wrote for update-download with the
    goroutine whose download wrote it. -/
structure World where
  tasks : Tasks
  goroutines : List Goroutine
  log : List (Nat × Event)
  writes : List (Nat × String × String)

def World.start (tasks : Tasks) (calls : List CheckArgs) : World :=
  ⟨tasks, calls.map fun a => ⟨.checkForUpdates a, none, (Routine.checkForUpdates a).body⟩, [], []⟩

def World.trace (w : World) (i : Nat) : List Event :=
  w.log.filterMap fun e => if e.1 = i then some e.2 else none

def World.called (w : World) (tasks : Tasks) (i : Nat) (g : Goroutine) (c : Call)
    (k : c.Response → Prog g.routine.Result) (r : c.Response) : World :=
  ⟨tasks, w.goroutines.set i { g with rest := k r } ++ (c.started.map fun o => ⟨o, some i, o.body⟩).toList,
    w.log ++ [(i, ⟨c, r⟩)], w.writes⟩

def World.downloaded (w : World) (i : Nat) (row : String × String) : World :=
  { w with tasks := Function.update w.tasks updateDownload row, writes := w.writes ++ [(i, row)] }

/-- Goroutine `i` makes its next call, `c`, and gets the answer `r`. -/
inductive Step (i : Nat) : World → World → Prop
  | call {w : World} {g : Goroutine} {c : Call} {k : c.Response → Prog g.routine.Result} {tasks : Tasks}
      (r : c.Response) (found : w.goroutines[i]? = some g) (next : g.rest = .call c k)
      (answered : w.tasks.answer c r = some tasks) :
      Step i w (w.called tasks i g c k r)
  /-- While goroutine `i` waits on `upstream.DownloadUpdate`, the download writes the
      update-download row. Spec 4.3 gives the staging step the clear and update of the status
      and says no more, so any row may be written, any number of times. -/
  | download {w : World} {g : Goroutine} {appID archiveDir updateCursor : String} {skipPreflights : Bool}
      {k : Call.Response (.downloadUpdate appID archiveDir updateCursor skipPreflights) → Prog g.routine.Result}
      (row : String × String) (found : w.goroutines[i]? = some g)
      (next : g.rest = .call (.downloadUpdate appID archiveDir updateCursor skipPreflights) k) :
      Step i w (w.downloaded i row)

/-- The worlds reached from `w₀` when goroutine `i` may step in world `w` whenever
    `allowed w i`. -/
inductive Reachable (allowed : World → Nat → Prop) (w₀ : World) : World → Prop
  | start : Reachable allowed w₀ w₀
  | step {w w' : World} {i : Nat} :
      Reachable allowed w₀ w → allowed w i → Step i w w' → Reachable allowed w₀ w'

section Called

variable {w : World} {tasks : Tasks} {i : Nat} {g : Goroutine} {c : Call}
  {k : c.Response → Prog g.routine.Result} {r : c.Response}

theorem World.called_trace (j : Nat) :
    (w.called tasks i g c k r).trace j = if i = j then w.trace j ++ [⟨c, r⟩] else w.trace j := by
  by_cases same : i = j <;> simp [World.called, World.trace, same]

theorem World.called_goroutine (found : w.goroutines[i]? = some g) (j : Nat) :
    (w.called tasks i g c k r).goroutines[j]? =
      if i = j then some { g with rest := k r }
      else if j < w.goroutines.length then w.goroutines[j]?
      else (c.started.map fun o => (⟨o, some i, o.body⟩ : Goroutine)).toList[j - w.goroutines.length]? := by
  have bound : i < w.goroutines.length := (List.getElem?_eq_some_iff.mp found).1
  by_cases same : i = j
  · subst same
    simp [World.called, List.getElem?_append_left, bound]
  · by_cases old : j < w.goroutines.length
    · simp [World.called, List.getElem?_append_left, old, List.getElem?_set, same]
    · simp [World.called, List.getElem?_append_right, not_lt.mp old, same, old]

section Downloaded

variable (w : World) (i : Nat) (row : String × String)

@[simp] theorem World.downloaded_goroutines : (w.downloaded i row).goroutines = w.goroutines := rfl

@[simp] theorem World.downloaded_log : (w.downloaded i row).log = w.log := rfl

@[simp] theorem World.downloaded_trace (j : Nat) : (w.downloaded i row).trace j = w.trace j := rfl

@[simp] theorem World.downloaded_tasks : (w.downloaded i row).tasks = Function.update w.tasks updateDownload row := rfl

@[simp] theorem World.downloaded_writes : (w.downloaded i row).writes = w.writes ++ [(i, row)] := rfl

end Downloaded

def World.spawns (w : World) : List (Routine × Option Nat) :=
  w.goroutines.map fun g => (g.routine, g.parent)

theorem set_eq_of_getElem? {α : Type} {l : List α} {i : Nat} {a : α} (h : l[i]? = some a) :
    l.set i a = l := by
  apply List.ext_getElem?
  intro j
  rw [List.getElem?_set]
  split
  · subst_vars
    simp [(List.getElem?_eq_some_iff.mp h).1, h]
  · rfl

theorem World.called_spawns (found : w.goroutines[i]? = some g) :
    (w.called tasks i g c k r).spawns = w.spawns ++ (c.started.map fun o => (o, some i)).toList := by
  have same : (w.goroutines.map fun g => (g.routine, g.parent))[i]? = some (g.routine, g.parent) := by
    simp [found]
  cases started : c.started <;>
    simp [World.called, World.spawns, List.map_set, started, set_eq_of_getElem? same]

end Called

/-- What every reachable world satisfies: each goroutine has run its body on the calls the log
    gives it, and the goroutines each one started are those its `go` statements name. -/
structure World.Coherent (w : World) : Prop where
  traced : ∀ i g, w.goroutines[i]? = some g → Prog.Steps g.routine.body (w.trace i) g.rest
  logged : ∀ e ∈ w.log, e.1 < w.goroutines.length
  children : ∀ i, ((w.spawns.filter fun s => s.2 == some i).map Prod.fst) = (w.trace i).filterMap (·.1.started)

theorem World.Coherent.trace_new {w : World} (coherent : w.Coherent) {j : Nat} (h : w.goroutines.length ≤ j) :
    w.trace j = [] :=
  List.filterMap_eq_nil_iff.mpr fun e member => by
    have := coherent.logged e member
    simp only [ite_eq_right_iff, reduceCtorEq, imp_false]
    omega

theorem Step.coherent {i : Nat} {w w' : World} (step : Step i w w') (coherent : w.Coherent) : w'.Coherent := by
  cases step with
  | download => exact ⟨coherent.traced, coherent.logged, coherent.children⟩
  | @call g c k tasks r found next answered =>
    have bound := (List.getElem?_eq_some_iff.mp found).1
    refine ⟨fun j h found' => ?_, fun e member => ?_, fun j => ?_⟩
    · rw [World.called_goroutine found] at found'
      rw [World.called_trace]
      split at found'
      · subst_vars
        cases found'
        simpa using (next ▸ coherent.traced _ _ found).snoc r
      · rename_i other
        simp only [other, if_false]
        split at found'
        · exact coherent.traced j h found'
        · rename_i new
          rw [coherent.trace_new (not_lt.mp new)]
          cases started : c.started <;> simp only [started, Option.map_none', Option.map_some',
            Option.toList_none, Option.toList_some] at found'
          · simp at found'
          · obtain rfl := List.mem_singleton.mp (List.getElem?_mem found')
            exact .refl _
    · simp only [World.called, List.mem_append, List.mem_singleton] at member
      simp only [World.called, List.length_append, List.length_set]
      rcases member with member | rfl
      · exact Nat.lt_of_lt_of_le (coherent.logged e member) (Nat.le_add_right _ _)
      · exact Nat.lt_of_lt_of_le bound (Nat.le_add_right _ _)
    · rw [World.called_spawns found, World.called_trace, List.filter_append, List.map_append, coherent.children]
      by_cases same : i = j
      · subst same
        cases started : c.started <;> simp [started]
      · cases started : c.started <;> simp [started, same]

theorem World.start_coherent (tasks : Tasks) (calls : List CheckArgs) : (World.start tasks calls).Coherent := by
  refine ⟨fun i g found => ?_, fun e member => by simp [World.start] at member, fun i => ?_⟩
  · simp only [World.start, List.getElem?_map, Option.map_eq_some'] at found
    obtain ⟨a, _, rfl⟩ := found
    exact .refl _
  · simp [World.start, World.spawns, World.trace, List.filter_map, Function.comp_def]

theorem Reachable.coherent {allowed : World → Nat → Prop} {tasks : Tasks} {calls : List CheckArgs} {w : World}
    (reach : Reachable allowed (World.start tasks calls) w) : w.Coherent := by
  induction reach with
  | start => exact World.start_coherent tasks calls
  | step _ _ step ih => exact step.coherent ih

def anyInterleaving (_ : World) (_ : Nat) : Prop := True

def Tasks.respond (tasks : Tasks) (answer : (c : Call) → c.Response) : (c : Call) → c.Response
  | .getTaskStatus id => .ok (tasks id)
  | .clearTaskStatus _ => none
  | .setTaskStatus .. => none
  | c => answer c

def World.next (answer : (c : Call) → c.Response) (w : World) (i : Nat) : World :=
  match w.goroutines[i]? with
  | none => w
  | some g =>
    match g.rest with
    | .pure _ => w
    | .call c k =>
      match w.tasks.answer c (w.tasks.respond answer c) with
      | some tasks => w.called tasks i g c k (w.tasks.respond answer c)
      | none => w

theorem World.next_step (answer : (c : Call) → c.Response) (w : World) (i : Nat) :
    w.next answer i = w ∨ Step i w (w.next answer i) := by
  unfold World.next
  split
  · exact .inl rfl
  · split
    · exact .inl rfl
    · split
      · exact .inr (.call _ ‹_› ‹_› ‹_›)
      · exact .inl rfl

def World.run (answer : (c : Call) → c.Response) (w : World) (schedule : List Nat) : World :=
  schedule.foldl (World.next answer) w

theorem Reachable.run {w₀ w : World} (reach : Reachable anyInterleaving w₀ w) (answer : (c : Call) → c.Response)
    (schedule : List Nat) : Reachable anyInterleaving w₀ (w.run answer schedule) := by
  induction schedule generalizing w with
  | nil => exact reach
  | cons i schedule ih =>
    apply ih
    rcases w.next_step answer i with same | step
    · rwa [same]
    · exact reach.step trivial step

end Kots.UpdateChecker
