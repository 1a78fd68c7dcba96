import Kots.UpdateChecker.World
import Kots.UpdateChecker.Runs
import Kots.UpdateChecker.Staging

namespace Kots.UpdateChecker

open Kots.Effect

def createdOf : Event → Option String
  | ⟨.tempDir .., .ok dir⟩ => some dir
  | _ => none

theorem ArchiveRun.handoff {a : App} {archiveDir : String} {deploy skipPreflights isCLI : Bool}
    {t : List Event} {r : Except Exit Nat} {flag : Bool}
    (run : ArchiveRun a archiveDir deploy skipPreflights isCLI t r flag) :
    t.filterMap removalOf = [] ∧ t.filterMap createdOf = [] ∧
      (flag = true → t.filterMap (·.1.started) = []) ∧
      (flag = false → ∃ g : Staging, g.archiveDir = archiveDir ∧ t.filterMap (·.1.started) = [.staging g]) := by
  cases run with
  | ensureLatest kotsKinds license info redeploy t r latest =>
    cases latest <;> simp [discovered, removalOf, createdOf, Call.started]
  | staged kotsKinds license info updates found =>
    simp [discovered, removalOf, createdOf, Call.started]
  | _ => simp [discovered, removalOf, createdOf, Call.started]

theorem CheckRun.archiveDir {appID : String} {deploy skipPreflights isCLI : Bool} {t : List Event}
    {r : Except Exit Nat} (run : CheckRun appID deploy skipPreflights isCLI t r) :
    t.filterMap createdOf = [] ∨ ∃ dir, t.filterMap createdOf = [dir] ∧
      ((t.filterMap (·.1.started) = [] ∧
          ∃ calls removed, t = calls ++ [⟨.removeAll dir, removed⟩] ∧ calls.filterMap removalOf = []) ∨
        ∃ g : Staging, g.archiveDir = dir ∧ t.filterMap (·.1.started) = [.staging g] ∧ t.filterMap removalOf = []) := by
  cases run with
  | archived status message idle a reloaded archiveDir t r flag run removed =>
    obtain ⟨removals, created, kept, handed⟩ := run.handoff
    refine .inr ⟨archiveDir, ?_, ?_⟩
    · cases flag <;> simp [prepared, cleanup, createdOf, created]
    · cases flag with
      | true =>
        exact .inl ⟨by simpa [prepared, cleanup, Call.started] using kept rfl, _, removed, rfl,
          by simp [prepared, removalOf, removals]⟩
      | false =>
        obtain ⟨g, dir, started⟩ := handed rfl
        exact .inr ⟨g, dir, by simpa [prepared, cleanup, Call.started] using started,
          by simp [prepared, cleanup, removalOf, removals]⟩
  | _ => exact .inl (by simp [createdOf])

theorem index_of_filter_eq_singleton {α : Type} {p : α → Bool} {x : α} :
    ∀ {l : List α}, l.filter p = [x] → ∃ j, l[j]? = some x ∧ ∀ (j' : Nat) (y : α), l[j']? = some y → p y → j' = j
  | [], h => by simp at h
  | a :: l, h => by
    by_cases pa : p a
    · simp only [List.filter_cons, pa, if_true, List.cons.injEq] at h
      refine ⟨0, by simp [h.1], fun j' y found py => ?_⟩
      cases j' with
      | zero => rfl
      | succ j' =>
        have : y ∈ l.filter p := List.mem_filter.mpr ⟨List.getElem?_mem (by simpa using found), py⟩
        simp [h.2] at this
    · simp only [List.filter_cons, pa, if_false, Bool.false_eq_true] at h
      obtain ⟨j, found, unique⟩ := index_of_filter_eq_singleton h
      refine ⟨j + 1, by simpa using found, fun j' y found' py => ?_⟩
      cases j' with
      | zero => simp at found'; simp [← found', pa] at py
      | succ j' => simpa using unique j' y (by simpa using found') py

theorem World.Coherent.no_child {w : World} (coherent : w.Coherent) {i : Nat}
    (started : (w.trace i).filterMap (·.1.started) = []) :
    ∀ (j : Nat) (h : Goroutine), w.goroutines[j]? = some h → h.parent ≠ some i := by
  intro j h found parent
  have member : h.routine ∈ (w.spawns.filter fun s => s.2 == some i).map Prod.fst :=
    List.mem_map.mpr ⟨(h.routine, h.parent),
      List.mem_filter.mpr ⟨List.mem_map.mpr ⟨h, List.getElem?_mem found, rfl⟩, by simp [parent]⟩, rfl⟩
  simp [coherent.children i, started] at member

theorem World.Coherent.child {w : World} (coherent : w.Coherent) {i : Nat} {o : Routine}
    (started : (w.trace i).filterMap (·.1.started) = [o]) :
    ∃ (j : Nat) (h : Goroutine), w.goroutines[j]? = some h ∧ h.parent = some i ∧ h.routine = o ∧
      ∀ (j' : Nat) (h' : Goroutine), w.goroutines[j']? = some h' → h'.parent = some i → j' = j := by
  have children := coherent.children i
  rw [started, List.map_eq_cons_iff] at children
  obtain ⟨⟨o', parent⟩, rest, filtered, rfl, none⟩ := children
  rw [List.map_eq_nil_iff] at none
  subst none
  have : parent = some i := by
    have := List.mem_filter.mp (filtered ▸ List.mem_singleton_self _ : ((o', parent) : Routine × Option Nat) ∈ _)
    simpa using this.2
  subst this
  obtain ⟨j, found, unique⟩ := index_of_filter_eq_singleton filtered
  simp only [World.spawns, List.getElem?_map, Option.map_eq_some'] at found
  obtain ⟨h, found, same⟩ := found
  simp only [Prod.mk.injEq] at same
  refine ⟨j, h, found, same.2, same.1, fun j' h' found' parent' =>
    unique j' (h'.routine, h'.parent) (by simp [World.spawns, found']) (by simp [parent'])⟩

theorem Goroutine.checkRun {g : Goroutine} (check : g.routine.isCheck) {t : List Event}
    (traced : Prog.Steps g.routine.body t g.rest) (done : g.done) :
    ∃ (a : CheckArgs) (r : Except Exit Nat), CheckRun a.appID a.deploy a.skipPreflights a.isCLI t r := by
  obtain ⟨_ | _ | _, parent, rest⟩ := g <;> simp only [Routine.isCheck, reduceCtorEq] at check
  cases rest with
  | pure x => exact ⟨_, _, CheckRun.of_run traced⟩
  | call => simp [Goroutine.done] at done

theorem Goroutine.staging_facts {h : Goroutine} {g : Staging} (routine : h.routine = .staging g)
    {t : List Event} (traced : Prog.Steps h.routine.body t h.rest) (done : h.done) :
    ∃ loop removed, t = loop ++ [⟨.removeAll g.archiveDir, removed⟩] ∧ LoopFacts g g.updates loop := by
  obtain ⟨_ | _ | _, parent, rest⟩ := h <;> simp only [Routine.staging.injEq, reduceCtorEq] at routine
  subst routine
  cases rest with
  | pure x => exact (Prog.wp_iff _ _).mp (wp_staging _) t x traced
  | call => simp [Goroutine.done] at done

theorem Goroutine.staging_removes {h : Goroutine} {g : Staging} (routine : h.routine = .staging g)
    {t : List Event} (traced : Prog.Steps h.routine.body t h.rest) (done : h.done) :
    ∃ calls removed, t = calls ++ [⟨.removeAll g.archiveDir, removed⟩] ∧ calls.filterMap removalOf = [] := by
  obtain ⟨loop, removed, trace, facts⟩ := Goroutine.staging_facts routine traced done
  exact ⟨loop, removed, trace, facts.removals⟩

def World.RemovedOnce (w : World) (i : Nat) (dir : String) : Prop :=
  ((∀ (j : Nat) (h : Goroutine), w.goroutines[j]? = some h → h.parent ≠ some i) ∧
    ∃ calls removed, w.trace i = calls ++ [⟨.removeAll dir, removed⟩] ∧ calls.filterMap removalOf = []) ∨
  ∃ (j : Nat) (h : Goroutine) (staged : Staging), w.goroutines[j]? = some h ∧ h.parent = some i ∧
    h.routine = .staging staged ∧ staged.archiveDir = dir ∧
    (∀ (j' : Nat) (h' : Goroutine), w.goroutines[j']? = some h' → h'.parent = some i → j' = j) ∧
    (w.trace i).filterMap removalOf = [] ∧
    ∃ calls removed, w.trace j = calls ++ [⟨.removeAll dir, removed⟩] ∧ calls.filterMap removalOf = []

theorem archive_dir_removed_once {tasks : Tasks} {calls : List CheckArgs} {w : World}
    (reach : Reachable anyInterleaving (World.start tasks calls) w) {i : Nat}
    (check : (w.goroutines[i]?).any fun g => g.routine.isCheck) {dir : String}
    (created : dir ∈ (w.trace i).filterMap createdOf)
    (finished : ∀ (j : Nat) (h : Goroutine), w.goroutines[j]? = some h → (j = i ∨ h.parent = some i) → h.done) :
    w.RemovedOnce i dir := by
  have coherent := reach.coherent
  cases found : w.goroutines[i]? with
  | none => simp [found] at check
  | some g =>
  simp only [found, Option.any_some] at check
  obtain ⟨a, r, run⟩ := Goroutine.checkRun check (coherent.traced i g found) (finished i g found (.inl rfl))
  rcases run.archiveDir with none | ⟨dir', one, path⟩
  · simp [none] at created
  · obtain rfl : dir = dir' := by simpa [one] using created
    rcases path with ⟨started, kept⟩ | ⟨staged, archive, started, clean⟩
    · exact .inl ⟨coherent.no_child started, kept⟩
    · obtain ⟨j, h, found', parent, routine, unique⟩ := coherent.child started
      obtain ⟨calls, removed, trace, clean'⟩ :=
        Goroutine.staging_removes routine (coherent.traced j h found') (finished j h found' (.inr parent))
      exact .inr ⟨j, h, staged, found', parent, routine, archive, unique, clean, calls, removed,
        archive ▸ trace, clean'⟩

def handoffRun : World :=
  (World.start (fun _ => ("", "")) [⟨"app", false, false, false⟩]).run (collaborators [⟨"2.0.0"⟩] [] none)
    (List.replicate 14 0 ++ [1, 1])

set_option maxRecDepth 4000 in
theorem handoff_removed_once : handoffRun.RemovedOnce 0 "/tmp/kotsadm1" :=
  archive_dir_removed_once (Reachable.run .start _ _) (by decide) (by decide)
    fun _ h found _ => (by decide : ∀ h ∈ handoffRun.goroutines, h.done) h (List.getElem?_mem found)

end Kots.UpdateChecker
