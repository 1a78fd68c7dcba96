import Kots.UpdateChecker.ArchiveDir

namespace Kots.UpdateChecker

open Kots.Effect

section Runs

variable {deploy skipPreflights isCLI : Bool} {t : List Event} {r : Except Exit Nat} {n : Nat}

theorem ArchiveRun.staged_updates {a : App} {archiveDir : String} {flag : Bool}
    (run : ArchiveRun a archiveDir deploy skipPreflights isCLI t r flag) (returned : r = .ok n) (positive : 0 < n) :
    ∃ updates : List Update, updates.length = n ∧
      (∃ url options, (⟨.getUpdates url options, .ok updates⟩ : Event) ∈ t) ∧ flag = false ∧
      t.filterMap (·.1.started) = [.staging ⟨a.id, archiveDir, updates, deploy, skipPreflights, isCLI⟩] := by
  cases run with
  | staged kotsKinds license info updates found =>
    cases returned
    exact ⟨updates, rfl, ⟨"replicated://" ++ kotsKinds.license.appSlug, updatesOptions kotsKinds license info,
      by simp [discovered]⟩, rfl, by simp [discovered, Call.started]⟩
  | ensureLatest kotsKinds license info redeploy t r latest =>
    cases latest with
    | deployed v vs d ds parent differs err =>
      cases err <;> simp at returned
      omega
    | _ => simp at returned <;> omega
  | _ => simp at returned <;> omega

theorem CheckRun.staged_updates {appID : String} (run : CheckRun appID deploy skipPreflights isCLI t r)
    (returned : r = .ok n) (positive : 0 < n) :
    ∃ staged : Staging, staged.updates.length = n ∧ staged.deploy = deploy ∧
      (∃ url options, (⟨.getUpdates url options, .ok staged.updates⟩ : Event) ∈ t) ∧
      t.filterMap (·.1.started) = [.staging staged] := by
  cases run with
  | archived status message idle a reloaded archiveDir t r flag run removed =>
    obtain ⟨updates, length, ⟨url, options, fetched⟩, rfl, started⟩ := run.staged_updates returned positive
    exact ⟨⟨reloaded.id, archiveDir, updates, deploy, skipPreflights, isCLI⟩, length, rfl,
      ⟨url, options, by simp [fetched]⟩, by simpa [prepared, cleanup, Call.started] using started⟩
  | _ => simp at returned <;> omega

end Runs

/-- No update is lost in the handoff to the staging goroutine: a call of `CheckForUpdates` that
    has returned a positive count `n` has started exactly one goroutine, a staging goroutine with
    the call's `deploy`, which holds the `n` updates `GetUpdates` gave the call; once that
    goroutine has returned, it has called `DownloadUpdate` once for each of them, in order. This
    holds however the calls and the goroutines they start interleave. -/
theorem returned_updates_downloaded {tasks : Tasks} {calls : List CheckArgs} {w : World}
    (reach : Reachable anyInterleaving (World.start tasks calls) w) {i : Nat} {a : CheckArgs}
    {parent : Option Nat} {n : Nat}
    (returned : w.goroutines[i]? = some ⟨.checkForUpdates a, parent, .pure (.ok n)⟩) (positive : 0 < n) :
    ∃ (j : Nat) (h : Goroutine) (staged : Staging), w.goroutines[j]? = some h ∧ h.parent = some i ∧
      h.routine = .staging staged ∧
      (∀ (j' : Nat) (h' : Goroutine), w.goroutines[j']? = some h' → h'.parent = some i → j' = j) ∧
      staged.updates.length = n ∧ staged.deploy = a.deploy ∧
      (∃ url options, (⟨.getUpdates url options, .ok staged.updates⟩ : Event) ∈ w.trace i) ∧
      (h.done → ((w.trace j).filterMap downloadOf).map Prod.fst = staged.updates.map staged.download) := by
  have coherent := reach.coherent
  obtain ⟨staged, length, deploy, fetched, started⟩ :=
    (CheckRun.of_run (coherent.traced i _ returned)).staged_updates rfl positive
  obtain ⟨j, h, found, child, routine, unique⟩ := coherent.child started
  refine ⟨j, h, staged, found, child, routine, unique, length, deploy, fetched, fun done => ?_⟩
  obtain ⟨loop, removed, trace, facts⟩ := Goroutine.staging_facts routine (coherent.traced j h found) done
  simpa [trace, downloadOf] using facts.downloads

set_option maxRecDepth 4000 in
theorem handoff_updates_downloaded :
    ∃ (j : Nat) (h : Goroutine) (staged : Staging), handoffRun.goroutines[j]? = some h ∧ h.parent = some 0 ∧
      h.routine = .staging staged ∧
      (∀ (j' : Nat) (h' : Goroutine), handoffRun.goroutines[j']? = some h' → h'.parent = some 0 → j' = j) ∧
      staged.updates.length = 1 ∧ staged.deploy = false ∧
      (∃ url options, (⟨.getUpdates url options, .ok staged.updates⟩ : Event) ∈ handoffRun.trace 0) ∧
      (h.done → ((handoffRun.trace j).filterMap downloadOf).map Prod.fst = staged.updates.map staged.download) :=
  returned_updates_downloaded (a := ⟨"app", false, false, false⟩) (Reachable.run .start _ _) rfl (by decide)

end Kots.UpdateChecker
