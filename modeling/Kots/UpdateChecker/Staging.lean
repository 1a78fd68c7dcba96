import Kots.UpdateChecker.CheckForUpdates

namespace Kots.UpdateChecker

open Kots.Effect

def downloadOf : Event → Option (Call × Except String Int)
  | ⟨.downloadUpdate appID archiveDir updateCursor skipPreflights, r⟩ =>
    some (.downloadUpdate appID archiveDir updateCursor skipPreflights, r)
  | _ => none

def deployOf : Event → Option (String × Int)
  | ⟨.deployVersion appID sequence, _⟩ => some (appID, sequence)
  | _ => none

def reportOf : Event → Option Report
  | ⟨.goReport routine, _⟩ => some routine
  | _ => none

def removalOf : Event → Option String
  | ⟨.removeAll path, _⟩ => some path
  | _ => none

section Loop

variable (g : Staging)

def Staging.download (u : Update) : Call := .downloadUpdate g.appID g.archiveDir u.cursor g.skipPreflights

def Staging.deploys (downloads : List (Call × Except String Int)) : List (String × Int) :=
  match downloads.getLast? with
  | some (_, .ok sequence) => if g.deploy then [(g.appID, sequence)] else []
  | _ => []

theorem Staging.deploys_cons {D : List (Call × Except String Int)} (x : Call × Except String Int)
    (h : D ≠ []) : g.deploys (x :: D) = g.deploys D := by
  obtain ⟨y, D, rfl⟩ := List.exists_cons_of_ne_nil h
  simp only [Staging.deploys, List.getLast?_cons_cons]

theorem Staging.deploys_cons_error (D : List (Call × Except String Int)) (c : Call) (err : String) :
    g.deploys ((c, .error err) :: D) = g.deploys D := by
  cases D with
  | nil => rfl
  | cons y D => exact g.deploys_cons _ (List.cons_ne_nil y D)

structure LoopFacts (us : List Update) (t : List Event) : Prop where
  downloads : (t.filterMap downloadOf).map Prod.fst = us.map g.download
  deploys : t.filterMap deployOf = g.deploys (t.filterMap downloadOf)
  reports : t.filterMap reportOf = (t.filterMap deployOf).map fun d => ⟨d.1, d.2, g.skipPreflights, g.isCLI⟩
  removals : t.filterMap removalOf = []

theorem wp_stagingLoop (k : Nat) (us : List Update) (h : k + us.length = g.updates.length) :
    Prog.wp (stagingLoop g (us.enumFrom k)) fun t _ => LoopFacts g us t := by
  induction us generalizing k with
  | nil => exact ⟨rfl, rfl, rfl, rfl⟩
  | cons u us ih =>
    have next := ih (k + 1) (by simp at h; omega)
    simp only [List.enumFrom_cons, stagingLoop, Prog.wp_bind, Prog.wp_invoke]
    intro r
    cases r with
    | error err =>
      refine Prog.wp_mono next fun t _ facts => ⟨?_, ?_, ?_, ?_⟩
      · simp [downloadOf, facts.downloads, Staging.download]
      · simp [downloadOf, deployOf, facts.deploys, g.deploys_cons_error]
      · simpa [reportOf, deployOf] using facts.reports
      · simpa [removalOf] using facts.removals
    | ok sequence =>
      simp only [Call.Response]
      cases us with
      | nil =>
        have last : (k == g.updates.length - 1) = true := by simp at h; simp; omega
        cases deploy : g.deploy <;>
          simp only [last, deploy, Bool.and_true, Bool.and_false, Bool.false_eq_true, if_true, if_false, pure_bind,
            bind_assoc, Prog.wp_bind, Prog.wp_invoke, stagingLoop, List.enumFrom_nil, Prog.wp_pure] <;>
          intros <;>
          exact ⟨by simp [downloadOf, Staging.download], by simp [deployOf, downloadOf, Staging.deploys, deploy],
            by simp [reportOf, deployOf], by simp [removalOf]⟩
      | cons u' us =>
        have early : (k == g.updates.length - 1) = false := by simp at h; simp; omega
        simp only [early, Bool.and_false, Bool.false_eq_true, if_false, pure_bind]
        refine Prog.wp_mono next fun t _ facts => ⟨?_, ?_, ?_, ?_⟩
        · simp [downloadOf, facts.downloads, Staging.download]
        · have : t.filterMap downloadOf ≠ [] := fun none => by simpa [none] using facts.downloads
          simp [downloadOf, deployOf, facts.deploys, g.deploys_cons _ this]
        · simpa [reportOf, deployOf] using facts.reports
        · simpa [removalOf] using facts.removals

end Loop

theorem wp_staging (g : Staging) :
    Prog.wp (staging g) fun t _ =>
      ∃ loop removed, t = loop ++ [⟨.removeAll g.archiveDir, removed⟩] ∧ LoopFacts g g.updates loop := by
  simp only [staging, Prog.wp_bind, Prog.wp_invoke, Prog.wp_pure]
  exact Prog.wp_mono (wp_stagingLoop g 0 g.updates (Nat.zero_add _)) fun loop _ facts removed =>
    ⟨loop, removed, by simp, facts⟩

theorem staging_downloads_each_update_and_deploys_last {g : Staging} {t : List Event}
    (run : Prog.Run (staging g) t ()) :
    (t.filterMap downloadOf).map Prod.fst = g.updates.map g.download ∧
      t.filterMap deployOf = g.deploys (t.filterMap downloadOf) ∧
      t.filterMap reportOf = (t.filterMap deployOf).map fun d => ⟨d.1, d.2, g.skipPreflights, g.isCLI⟩ := by
  obtain ⟨loop, removed, rfl, facts⟩ := (Prog.wp_iff _ _).mp (wp_staging g) t () run
  simpa [removalOf, downloadOf, deployOf, reportOf] using
    (⟨facts.downloads, facts.deploys, facts.reports⟩ : _ ∧ _ ∧ _)

def twoUpdatesRun : List Event :=
  (Prog.exec (collaborators [] [] none) (staging ⟨"app", "/tmp/kotsadm1", [⟨"1"⟩, ⟨"2"⟩], true, false, false⟩)).1

theorem two_updates_staged :
    (twoUpdatesRun.filterMap downloadOf).map Prod.fst =
        [.downloadUpdate "app" "/tmp/kotsadm1" "1" false, .downloadUpdate "app" "/tmp/kotsadm1" "2" false] ∧
      twoUpdatesRun.filterMap deployOf =
        Staging.deploys ⟨"app", "/tmp/kotsadm1", [⟨"1"⟩, ⟨"2"⟩], true, false, false⟩
          (twoUpdatesRun.filterMap downloadOf) ∧
      twoUpdatesRun.filterMap reportOf = (twoUpdatesRun.filterMap deployOf).map fun d => ⟨d.1, d.2, false, false⟩ :=
  staging_downloads_each_update_and_deploys_last (Prog.exec_run _ _)

end Kots.UpdateChecker
