import Kots.UpdateChecker.World
import Kots.UpdateChecker.Runs
import Kots.UpdateChecker.Staging
import Kots.UpdateChecker.Cron

namespace Kots.UpdateChecker

open Kots.Effect

/-- The call of `CheckForUpdates` that the job of an entry makes when it fires: the function
    `Configure` passes to `AddFunc`, logging aside. -/
def Entry.check (e : Entry) : CheckArgs := ⟨e.appID, false, false, false⟩

def Call.deploys : Call → Bool
  | .deployVersion .. | .goReport _ => true
  | .goStaging g => g.deploy
  | _ => false

def Routine.scheduled : Routine → Bool
  | .checkForUpdates a => !a.deploy
  | .staging g => !g.deploy
  | .report _ => false

theorem Call.started_scheduled {c : Call} {o : Routine} (started : c.started = some o) (quiet : c.deploys = false) :
    o.scheduled := by
  cases c <;> simp only [Call.started, Option.some.injEq, reduceCtorEq] at started <;> subst started
  · simpa [Routine.scheduled, Call.deploys] using quiet
  · cases quiet

section Runs

variable {skipPreflights isCLI : Bool} {t : List Event}

theorem ArchiveRun.deploysNothing {a : App} {archiveDir : String} {r : Except Exit Nat} {flag : Bool}
    (run : ArchiveRun a archiveDir false skipPreflights isCLI t r flag) : (t.all fun e => !e.1.deploys) = true := by
  cases run with
  | ensureLatest _ _ _ redeploy => cases redeploy
  | _ => rfl

theorem CheckRun.deploysNothing {appID : String} {r : Except Exit Nat}
    (run : CheckRun appID false skipPreflights isCLI t r) : (t.all fun e => !e.1.deploys) = true := by
  cases run with
  | archived status message idle a reloaded archiveDir t r flag run removed =>
    rw [List.all_append, List.all_append, run.deploysNothing]
    cases flag <;> rfl
  | _ => rfl

theorem stagingLoop_deploysNothing {g : Staging} (keep : g.deploy = false) (l : List (Nat × Update)) :
    Prog.wp (stagingLoop g l) fun t _ => (t.all fun e => !e.1.deploys) = true := by
  induction l with
  | nil => rfl
  | cons p l ih =>
    simp only [stagingLoop, Prog.wp_bind, Prog.wp_invoke]
    intro r
    cases r with
    | error => exact Prog.wp_mono ih fun t _ quiet => quiet
    | ok sequence =>
      rw [Prog.wp_ite]
      split
      · rename_i deploying
        simp [keep] at deploying
      · simp only [Prog.wp_bind, Prog.wp_pure, List.nil_append]
        exact Prog.wp_mono ih fun t _ quiet => quiet

theorem staging_deploysNothing {g : Staging} (keep : g.deploy = false) (run : Prog.Run (staging g) t ()) :
    (t.all fun e => !e.1.deploys) = true := by
  refine (Prog.wp_iff _ fun t _ => (t.all fun e => !e.1.deploys) = true).mp ?_ t () run
  simp only [staging, Prog.wp_bind, Prog.wp_invoke, Prog.wp_pure]
  exact Prog.wp_mono (stagingLoop_deploysNothing keep _) fun t _ quiet _ => by
    rw [List.all_append, quiet]
    rfl

theorem Routine.deploysNothing {o : Routine} (scheduled : o.scheduled) {x : o.Result}
    (run : Prog.Run o.body t x) : (t.all fun e => !e.1.deploys) = true := by
  cases o with
  | checkForUpdates a =>
    obtain ⟨appID, deploy, skipPreflights, isCLI⟩ := a
    obtain rfl : deploy = false := by simpa [Routine.scheduled] using scheduled
    exact (CheckRun.of_run run).deploysNothing
  | staging g => exact staging_deploysNothing (by simpa [Routine.scheduled] using scheduled) run
  | report => cases scheduled

end Runs

structure World.Scheduled (w : World) : Prop where
  routines : ∀ g ∈ w.goroutines, g.routine.scheduled
  calls : ∀ e ∈ w.log, e.2.1.deploys = false

theorem World.Scheduled.start {tasks : Tasks} {calls : List CheckArgs} (scheduled : ∀ a ∈ calls, a.deploy = false) :
    (World.start tasks calls).Scheduled := by
  refine ⟨fun g member => ?_, fun e member => nomatch member⟩
  obtain ⟨a, called, rfl⟩ := List.mem_map.mp member
  simp [Routine.scheduled, scheduled a called]

theorem World.Scheduled.step {w w' : World} {i : Nat} (coherent : w.Coherent) (inv : w.Scheduled)
    (step : Step i w w') : w'.Scheduled := by
  cases step with
  | download => exact ⟨inv.routines, inv.calls⟩
  | @call g c k tasks r found next answered =>
    have own := inv.routines g (List.getElem?_mem found)
    obtain ⟨_, _, run⟩ := (next ▸ coherent.traced i g found).completes r
    have quiet : c.deploys = false := by
      simpa using List.all_eq_true.mp (Routine.deploysNothing own run) ⟨c, r⟩ (by simp)
    refine ⟨fun g' member => ?_, fun e member => ?_⟩
    · rcases List.mem_append.mp member with member | member
      · rcases List.mem_or_eq_of_mem_set member with old | rfl
        · exact inv.routines g' old
        · exact own
      · cases started : c.started <;> simp only [started, Option.map_none', Option.map_some', Option.toList_none,
          Option.toList_some, List.mem_singleton, List.not_mem_nil] at member
        subst member
        exact Call.started_scheduled started quiet
    · rcases List.mem_append.mp member with member | member
      · exact inv.calls e member
      · rw [List.mem_singleton.mp member]
        exact quiet

theorem World.Scheduled.of_reachable {tasks : Tasks} {calls : List CheckArgs} (scheduled : ∀ a ∈ calls, a.deploy = false)
    {w : World} (reach : Reachable anyInterleaving (World.start tasks calls) w) : w.Scheduled := by
  induction reach with
  | start => exact .start scheduled
  | step reach _ step ih => exact ih.step reach.coherent step

/-- The update checks the scheduler runs never deploy: however the calls that the jobs of the
    entries make and the goroutines they start interleave, no goroutine calls
    `version.DeployVersion`, and none starts the preflights report that follows a deploy. -/
theorem scheduled_checks_never_deploy {tasks : Tasks} {entries : List Entry} {w : World}
    (reach : Reachable anyInterleaving (World.start tasks (entries.map Entry.check)) w) :
    (w.log.map Prod.snd).filterMap deployOf = [] ∧ (w.log.map Prod.snd).filterMap reportOf = [] := by
  have inv := World.Scheduled.of_reachable (by simp [Entry.check]) reach
  refine ⟨List.filterMap_eq_nil_iff.mpr ?_, List.filterMap_eq_nil_iff.mpr ?_⟩ <;>
  · intro e member
    obtain ⟨⟨i, c, r⟩, logged, rfl⟩ := List.mem_map.mp member
    have quiet : c.deploys = false := inv.calls _ logged
    cases c <;> first | rfl | cases quiet

def scheduledRun : World :=
  (World.start (fun _ => ("", "")) ([⟨1, "0 * * * *", "app"⟩].map Entry.check)).run
    (collaborators [⟨"2.0.0"⟩] [] none) (List.replicate 14 0 ++ [1, 1])

set_option maxRecDepth 4000 in
theorem scheduled_run_never_deploys :
    ((scheduledRun.log.map Prod.snd).filterMap downloadOf).length = 1 ∧
      (scheduledRun.log.map Prod.snd).filterMap deployOf = [] ∧
      (scheduledRun.log.map Prod.snd).filterMap reportOf = [] :=
  ⟨by decide, scheduled_checks_never_deploy (Reachable.run .start _ _)⟩

end Kots.UpdateChecker
