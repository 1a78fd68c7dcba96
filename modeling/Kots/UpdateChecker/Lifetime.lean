import Kots.UpdateChecker.ArchiveDir
import Kots.UpdateChecker.SingleFlight
import Mathlib.Data.List.Nodup

namespace Kots.UpdateChecker

open Kots.Effect

def downloadDirOf : Event → Option String
  | ⟨.downloadUpdate _ archiveDir _ _, _⟩ => some archiveDir
  | _ => none

def Call.touchesDir : Call → Bool
  | .downloadUpdate .. | .removeAll _ | .goStaging _ | .goReport _ => true
  | _ => false

def Quiet (t : List Event) : Prop := (t.all fun e => !e.1.touchesDir) = true

theorem Quiet.mem {t : List Event} (quiet : Quiet t) {e : Event} (member : e ∈ t) : e.1.touchesDir = false := by
  simpa using List.all_eq_true.mp quiet e member

theorem Quiet.append {l l' : List Event} (quiet : Quiet l) (quiet' : Quiet l') : Quiet (l ++ l') := by
  rw [Quiet, List.all_append, quiet, quiet']
  rfl

theorem downloadDirOf_of_quiet {e : Event} (quiet : e.1.touchesDir = false) : downloadDirOf e = none := by
  obtain ⟨c, r⟩ := e
  cases c <;> first | rfl | cases quiet

theorem started_of_quiet {e : Event} (quiet : e.1.touchesDir = false) : e.1.started = none := by
  obtain ⟨c, r⟩ := e
  cases c <;> first | rfl | cases quiet

theorem append_cons_eq_append_singleton {α : Type} {l l' m : List α} {x z : α}
    (h : l ++ x :: l' = m ++ [z]) (fresh : x ∉ m) : l = m ∧ x = z ∧ l' = [] := by
  rcases List.append_eq_append_iff.mp h with ⟨a, rfl, rest⟩ | ⟨c, rfl, rest⟩
  · cases a with
    | nil => simpa using rest
    | cons y a => simp at rest; simp [rest.1] at fresh
  · cases c with
    | nil => simp at rest; simp [rest]
    | cons y c => simp at rest

structure DirUse (o : Routine) (t : List Event) : Prop where
  downloads : ∀ e ∈ t, ∀ dir, downloadDirOf e = some dir → ∃ g : Staging, o = .staging g ∧ dir = g.archiveDir
  removes : ∀ l l' dir removed, t = l ++ ⟨.removeAll dir, removed⟩ :: l' → l' = [] ∧
    ((∃ g : Staging, o = .staging g ∧ dir = g.archiveDir) ∨
      o.isCheck ∧ dir ∈ l.filterMap createdOf ∧ t.filterMap (·.1.started) = [])
  hands : ∀ l l' g u, t = l ++ ⟨.goStaging g, u⟩ :: l' → o.isCheck ∧ l' = [] ∧
    g.archiveDir ∈ l.filterMap createdOf ∧ l.filterMap (·.1.started) = []

theorem DirUse.of_quiet {o : Routine} {t : List Event} (quiet : Quiet t) : DirUse o t where
  downloads e member dir into := by
    rw [downloadDirOf_of_quiet (quiet.mem member)] at into
    cases into
  removes l l' dir removed split := by cases quiet.mem (e := ⟨.removeAll dir, removed⟩) (by simp [split])
  hands l l' g u split := by cases quiet.mem (e := ⟨.goStaging g, u⟩) (by simp [split])

section Runs

variable {deploy skipPreflights isCLI : Bool} {r : Except Exit Nat}

theorem ArchiveRun.quiet {a : App} {archiveDir : String} {t : List Event}
    (run : ArchiveRun a archiveDir deploy skipPreflights isCLI t r true) : Quiet t := by
  cases run with
  | ensureLatest kotsKinds license info redeploy t r latest => cases latest <;> rfl
  | _ => rfl

theorem ArchiveRun.handed {a : App} {archiveDir : String} {t : List Event}
    (run : ArchiveRun a archiveDir deploy skipPreflights isCLI t r false) :
    ∃ t₀, ∃ g : Staging, t = t₀ ++ [⟨.goStaging g, ()⟩] ∧ g.archiveDir = archiveDir ∧ Quiet t₀ := by
  cases run with
  | staged kotsKinds license info updates found =>
    exact ⟨discovered a archiveDir kotsKinds license info updates ++ [⟨.lastUpdateAtTime a.id, none⟩,
      ⟨.setTaskStatus updateDownload (toString updates.length ++ " Updates available...") "running", none⟩],
      ⟨a.id, archiveDir, updates, deploy, skipPreflights, isCLI⟩, by simp, rfl, by exact rfl⟩

theorem prepared_quiet {appID status message : String} {a reloaded : App} {archiveDir : String} :
    Quiet (prepared appID status message a reloaded archiveDir) :=
  rfl

theorem filterMap_started_of_quiet {t : List Event} (quiet : Quiet t) : t.filterMap (·.1.started) = [] :=
  List.filterMap_eq_nil_iff.mpr fun _ member => started_of_quiet (quiet.mem member)

theorem DirUse.of_quiet_snoc {o : Routine} {q : List Event} {x : Event} (quiet : Quiet q)
    (downloads : downloadDirOf x = none)
    (removes : ∀ dir removed, x = ⟨.removeAll dir, removed⟩ → (∃ g : Staging, o = .staging g ∧ dir = g.archiveDir) ∨
      o.isCheck ∧ dir ∈ q.filterMap createdOf ∧ (q ++ [x]).filterMap (·.1.started) = [])
    (hands : ∀ g u, x = ⟨.goStaging g, u⟩ → o.isCheck ∧ g.archiveDir ∈ q.filterMap createdOf ∧
      q.filterMap (·.1.started) = []) :
    DirUse o (q ++ [x]) := by
  have last : ∀ {l l' y}, q ++ [x] = l ++ y :: l' → y.1.touchesDir = true → l = q ∧ y = x ∧ l' = [] :=
    fun split touches => append_cons_eq_append_singleton split.symm fun member => by
      simp [quiet.mem member] at touches
  refine ⟨fun e member dir into => ?_, fun l l' dir removed split => ?_, fun l l' g u split => ?_⟩
  · rcases List.mem_append.mp member with member | member
    · rw [downloadDirOf_of_quiet (quiet.mem member)] at into
      cases into
    · rw [List.mem_singleton.mp member, downloads] at into
      cases into
  · obtain ⟨rfl, rfl, rfl⟩ := last split rfl
    exact ⟨rfl, removes dir removed rfl⟩
  · obtain ⟨rfl, rfl, rfl⟩ := last split rfl
    exact (hands g u rfl).imp_right (And.intro rfl)

theorem CheckRun.dirUse {appID : String} {t : List Event} (run : CheckRun appID deploy skipPreflights isCLI t r) :
    DirUse (.checkForUpdates ⟨appID, deploy, skipPreflights, isCLI⟩) t := by
  cases run with
  | archived status message idle a reloaded archiveDir t r flag run removed =>
    have created : ∀ t', archiveDir ∈ (prepared appID status message a reloaded archiveDir ++ t').filterMap createdOf :=
      fun _ => by simp [prepared, createdOf]
    cases flag with
    | true =>
      have quiet : Quiet (prepared appID status message a reloaded archiveDir ++ t) := prepared_quiet.append run.quiet
      refine DirUse.of_quiet_snoc quiet rfl (fun dir removed' same => ?_) fun g u same => ?_
      · obtain rfl : archiveDir = dir := Call.removeAll.inj (Sigma.mk.inj_iff.mp same).1
        refine .inr ⟨rfl, created t, ?_⟩
        rw [List.filterMap_append, filterMap_started_of_quiet quiet]
        rfl
      · cases (Sigma.mk.inj_iff.mp same).1
    | false =>
      obtain ⟨t₀, staged, rfl, archive, quiet₀⟩ := run.handed
      have quiet : Quiet (prepared appID status message a reloaded archiveDir ++ t₀) := prepared_quiet.append quiet₀
      rw [show prepared appID status message a reloaded archiveDir ++ (t₀ ++ [⟨.goStaging staged, ()⟩]) ++
          cleanup archiveDir false removed =
            (prepared appID status message a reloaded archiveDir ++ t₀) ++ [⟨.goStaging staged, ()⟩] by
        simp [cleanup]]
      refine DirUse.of_quiet_snoc quiet rfl (fun dir removed' same => ?_) fun g u same => ?_
      · cases (Sigma.mk.inj_iff.mp same).1
      · obtain rfl : staged = g := Call.goStaging.inj (Sigma.mk.inj_iff.mp same).1
        exact ⟨rfl, archive ▸ created t₀, filterMap_started_of_quiet quiet⟩
  | _ => exact DirUse.of_quiet rfl

end Runs

theorem staging_dirUse {g : Staging} {t : List Event} (run : Prog.Run (staging g) t ()) :
    DirUse (.staging g) t := by
  obtain ⟨loop, removed, rfl, facts⟩ := (Prog.wp_iff _ _).mp (wp_staging g) t () run
  have fresh : ∀ dir removed', (⟨.removeAll dir, removed'⟩ : Event) ∉ loop := fun dir removed' member => by
    have removal : dir ∈ loop.filterMap removalOf := List.mem_filterMap.mpr ⟨_, member, rfl⟩
    simp [facts.removals] at removal
  refine ⟨fun ⟨c, r⟩ member dir into => ⟨g, rfl, ?_⟩, fun l l' dir removed' split => ?_, fun l l' g' u split => ?_⟩
  · rcases List.mem_append.mp member with member | member
    · cases c with
      | downloadUpdate appID archiveDir cursor skip =>
        have listed := facts.downloads ▸ List.mem_map_of_mem Prod.fst
          (List.mem_filterMap.mpr ⟨_, member, rfl⟩ : (Call.downloadUpdate appID archiveDir cursor skip, r) ∈
            loop.filterMap downloadOf)
        obtain ⟨u, _, same⟩ := List.mem_map.mp listed
        simp only [Staging.download, Call.downloadUpdate.injEq] at same
        simp only [downloadDirOf, Option.some.injEq] at into
        rw [← into, same.2.1]
      | _ => cases into
    · simp at member
      simp [member, downloadDirOf] at into
  · obtain ⟨rfl, same, rfl⟩ := append_cons_eq_append_singleton split.symm (fresh dir removed')
    exact ⟨rfl, .inl ⟨g, rfl, Call.removeAll.inj (Sigma.mk.inj_iff.mp same).1⟩⟩
  · have member : (⟨.goStaging g', u⟩ : Event) ∈ loop ++ [⟨.removeAll g.archiveDir, removed⟩] :=
      split ▸ List.mem_append_right l (List.mem_cons_self _ _)
    obtain ⟨l₀, k, next⟩ := Prog.Steps.mem_next run member
    cases Routine.next_quiet (o := .staging g) rfl next

theorem Routine.dirUse {o : Routine} {t : List Event} {x : o.Result} (run : Prog.Run o.body t x) : DirUse o t := by
  cases o with
  | checkForUpdates a => exact (CheckRun.of_run run).dirUse
  | staging g => exact staging_dirUse run
  | report rep =>
    refine DirUse.of_quiet ((Prog.wp_iff _ fun t _ => Quiet t).mp ?_ t x run)
    simp [Routine.body, Kots.UpdateChecker.report, Quiet, Call.touchesDir]

theorem Call.started_staging {c : Call} {s : Staging} (started : c.started = some (.staging s)) :
    c = .goStaging s := by
  cases c <;> simp [Call.started] at started
  exact congrArg _ started

def World.Parented (w : World) : Prop :=
  ∀ g ∈ w.goroutines, g.routine.isCheck ∨ ∃ p, g.parent = some p

theorem World.Parented.step {w w' : World} {i : Nat} (parented : w.Parented) (step : Step i w w') :
    w'.Parented := by
  cases step with
  | download => exact parented
  | @call g c k tasks r found next answered =>
    intro h member
    rcases List.mem_append.mp member with member | member
    · rcases List.mem_or_eq_of_mem_set member with old | rfl
      · exact parented h old
      · exact parented g (List.getElem?_mem found)
    · cases started : c.started <;> simp only [started, Option.map_none', Option.map_some', Option.toList_none,
        Option.toList_some, List.mem_singleton, List.not_mem_nil] at member
      subst member
      exact .inr ⟨i, rfl⟩

theorem Reachable.parented {tasks : Tasks} {calls : List CheckArgs} {w : World}
    (reach : Reachable anyInterleaving (World.start tasks calls) w) : w.Parented := by
  induction reach with
  | start =>
    intro g member
    obtain ⟨a, _, rfl⟩ := List.mem_map.mp member
    exact .inl rfl
  | step _ _ step ih => exact ih.step step

section Lifetime

variable {w : World}

theorem World.mem_trace {i : Nat} {e : Event} : e ∈ w.trace i ↔ (i, e) ∈ w.log := by
  simp [World.trace, List.mem_filterMap]

theorem World.Coherent.found (coherent : w.Coherent) {i : Nat} {e : Event} (logged : (i, e) ∈ w.log) :
    ∃ g, w.goroutines[i]? = some g :=
  ⟨_, List.getElem?_eq_getElem (coherent.logged _ logged)⟩

theorem World.Coherent.dirUse (coherent : w.Coherent) {i : Nat} {g : Goroutine} (found : w.goroutines[i]? = some g) :
    ∃ more, DirUse g.routine (w.trace i ++ more) := by
  obtain ⟨more, x, run⟩ := (coherent.traced i g found).extend
  exact ⟨more, Routine.dirUse run⟩

theorem World.Coherent.staging_parent (coherent : w.Coherent) (parented : w.Parented) {j : Nat} {h : Goroutine}
    {s : Staging} (found : w.goroutines[j]? = some h) (routine : h.routine = .staging s) :
    ∃ p, h.parent = some p ∧ s.archiveDir ∈ (w.trace p).filterMap createdOf ∧
      (w.trace p).filterMap (·.1.started) = [.staging s] := by
  obtain check | ⟨p, parent⟩ := parented h (List.getElem?_mem found)
  · simp [routine, Routine.isCheck] at check
  have child : Routine.staging s ∈ (w.trace p).filterMap (·.1.started) := by
    rw [← coherent.children p]
    exact List.mem_map.mpr ⟨(h.routine, h.parent), List.mem_filter.mpr
      ⟨List.mem_map.mpr ⟨h, List.getElem?_mem found, rfl⟩, by simp [parent]⟩, by simp [routine]⟩
  obtain ⟨⟨c, u⟩, member, started⟩ := List.mem_filterMap.mp child
  obtain rfl := Call.started_staging started
  obtain ⟨g, foundp⟩ := coherent.found (World.mem_trace.mp member)
  obtain ⟨more, use⟩ := coherent.dirUse foundp
  obtain ⟨l, l', split⟩ := List.append_of_mem member
  obtain ⟨-, last, created, quiet⟩ := use.hands l (l' ++ more) s u (by rw [split]; simp)
  obtain rfl : l' = [] := (List.append_eq_nil.mp last).1
  refine ⟨p, parent, ?_, ?_⟩
  · rw [split, List.filterMap_append]
    exact List.mem_append_left _ created
  · rw [split, List.filterMap_append, quiet]
    rfl

theorem World.creator_unique (fresh : ((w.log.map Prod.snd).filterMap createdOf).Nodup) {x y : Nat} {dir : String}
    (hx : dir ∈ (w.trace x).filterMap createdOf) (hy : dir ∈ (w.trace y).filterMap createdOf) : x = y := by
  have listed : (w.log.filterMap fun p => (createdOf p.2).map (p.1, ·)).map Prod.snd =
      (w.log.map Prod.snd).filterMap createdOf := by
    simp [List.map_filterMap, List.filterMap_map, Function.comp_def]
  have member : ∀ {z}, dir ∈ (w.trace z).filterMap createdOf →
      (z, dir) ∈ w.log.filterMap fun p => (createdOf p.2).map (p.1, ·) := fun hz => by
    obtain ⟨e, traced, created⟩ := List.mem_filterMap.mp hz
    exact List.mem_filterMap.mpr ⟨(_, e), World.mem_trace.mp traced, by simp [created]⟩
  exact congrArg Prod.fst (List.inj_on_of_nodup_map (f := Prod.snd) (listed ▸ fresh) (member hx) (member hy) rfl)

end Lifetime

/-- No goroutine downloads into an archive directory once it has been removed, however the
    calls of `CheckForUpdates` and the goroutines they start interleave, as long as `TempDir`
    never returns a directory twice: a call that hands its directory to a staging goroutine
    leaves its removal to that goroutine, which removes it with its last call. -/
theorem no_download_after_removal {tasks : Tasks} {calls : List CheckArgs} {w : World}
    (reach : Reachable anyInterleaving (World.start tasks calls) w)
    (fresh : ((w.log.map Prod.snd).filterMap createdOf).Nodup)
    {before after : List (Nat × Event)} {i : Nat} {dir : String} {removed : Option String}
    (split : w.log = before ++ (i, ⟨.removeAll dir, removed⟩) :: after) :
    dir ∉ (after.map Prod.snd).filterMap downloadDirOf := by
  intro downloaded
  have coherent := reach.coherent
  have parented := reach.parented
  obtain ⟨⟨j, e⟩, later, into⟩ : ∃ p ∈ after, downloadDirOf p.2 = some dir := by
    simpa [List.mem_filterMap] using downloaded
  have traceI : w.trace i = before.filterMap (fun e => if e.1 = i then some e.2 else none) ++
      ⟨.removeAll dir, removed⟩ :: after.filterMap (fun e => if e.1 = i then some e.2 else none) := by
    simp [World.trace, split]
  obtain ⟨gi, foundi⟩ := coherent.found (show (i, ⟨.removeAll dir, removed⟩) ∈ w.log by simp [split])
  obtain ⟨more, use⟩ := coherent.dirUse foundi
  obtain ⟨last, owner⟩ := use.removes _ _ dir removed (by rw [traceI, List.append_assoc, List.cons_append])
  have quiet : after.filterMap (fun e => if e.1 = i then some e.2 else none) = [] := (List.append_eq_nil.mp last).1
  obtain ⟨gj, foundj⟩ := coherent.found (show (j, e) ∈ w.log by simp [split, later])
  obtain ⟨moreJ, useJ⟩ := coherent.dirUse foundj
  obtain ⟨s, routineJ, rfl⟩ :=
    useJ.downloads e (List.mem_append_left _ (World.mem_trace.mpr (by simp [split, later]))) dir into
  obtain ⟨p, parentJ, createdP, startedP⟩ := coherent.staging_parent parented foundj routineJ
  rcases owner with ⟨s', routineI, same⟩ | ⟨-, createdI, startedI⟩
  · obtain ⟨p', parentI, createdP', -⟩ := coherent.staging_parent parented foundi routineI
    obtain rfl : p' = p := World.creator_unique fresh (same ▸ createdP') createdP
    obtain ⟨c, hc, -, -, -, unique⟩ := coherent.child startedP
    obtain rfl : i = j := (unique i gi foundi parentI).trans (unique j gj foundj parentJ).symm
    have : e ∈ after.filterMap (fun e => if e.1 = i then some e.2 else none) :=
      List.mem_filterMap.mpr ⟨(i, e), later, by simp⟩
    simp [quiet] at this
  · have createdI : s.archiveDir ∈ (w.trace i).filterMap createdOf := by
      rw [traceI, List.filterMap_append]
      exact List.mem_append_left _ createdI
    obtain rfl : i = p := World.creator_unique fresh createdI createdP
    have : Routine.staging s ∈ (w.trace i ++ more).filterMap (·.1.started) := by
      rw [List.filterMap_append, startedP]
      simp
    simp [startedI] at this

def removedRun : World :=
  (World.start (fun _ => ("", "")) [⟨"app", false, false, false⟩, ⟨"app", false, false, false⟩]).run
    (collaborators [⟨"2.0.0"⟩] [] none) (List.replicate 14 0 ++ [2, 2, 1])

set_option maxRecDepth 4000 in
theorem removed_run_no_late_download :
    "/tmp/kotsadm1" ∉ ((removedRun.log.drop 16).map Prod.snd).filterMap downloadDirOf :=
  no_download_after_removal (Reachable.run .start _ _) (by decide)
    (show removedRun.log = removedRun.log.take 15 ++ (2, ⟨.removeAll "/tmp/kotsadm1", none⟩) :: removedRun.log.drop 16
      from rfl)

end Kots.UpdateChecker
