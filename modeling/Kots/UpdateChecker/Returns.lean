import Kots.UpdateChecker.Runs

namespace Kots.UpdateChecker

open Kots.Effect

def Call.raises : (c : Call) → c.Response → Bool
  | .getTaskStatus _, r => !r.isOk
  | .clearTaskStatus _, err => err.isSome
  | .setTaskStatus .., err => err.isSome
  | .getApp _, r => !r.isOk
  | .syncLicense .., err => err.isSome
  | .tempDir .., r => !r.isOk
  | .getAppVersionArchive .., err => err.isSome
  | .loadKotsKindsFromPath _, r => !r.isOk
  | .getLatestLicenseForApp _, r => !r.isOk
  | .getReportingInfo _, _ => false
  | .getUpdates .., r => !r.isOk
  | .lastUpdateAtTime _, _ => false
  | .getVersions _, .ok versions => versions.isEmpty
  | .getVersions _, .error _ => true
  | .listDownstreamsForApp _, r => !r.isOk
  | .getCurrentParentSequence .., r => !r.isOk
  | .deployVersion .., err => err.isSome
  | .removeAll _, _ => false
  | .downloadUpdate .., _ => false
  | .reportAppInfo .., _ => false
  | .goStaging _, _ => false
  | .goReport _, _ => false

def Call.startsStaging : Call → Bool
  | .goStaging _ => true
  | _ => false

def Call.setsRunning : (c : Call) → c.Response → Bool
  | .setTaskStatus id _ status, none => id == updateDownload && status == "running"
  | _, _ => false

def Call.listsNoDownstreams : (c : Call) → c.Response → Bool
  | .listDownstreamsForApp _, .ok [] => true
  | _, _ => false

def Call.lastUpdateFails : (c : Call) → c.Response → Bool
  | .lastUpdateAtTime _, some _ => true
  | _, _ => false

theorem exists_listsNoDownstreams_iff {t : List Event} :
    (∃ id, (⟨.listDownstreamsForApp id, .ok []⟩ : Event) ∈ t) ↔ t.any fun e => e.1.listsNoDownstreams e.2 := by
  rw [List.any_eq_true]
  constructor
  · rintro ⟨id, member⟩
    exact ⟨_, member, rfl⟩
  · rintro ⟨⟨c, r⟩, member, lists⟩
    cases c <;> try cases lists
    rcases r with _ | _ | _ <;> first | exact ⟨_, member⟩ | cases lists

theorem exists_goStaging_iff {t : List Event} :
    (∃ g, (⟨.goStaging g, ()⟩ : Event) ∈ t) ↔ t.any fun e => e.1.startsStaging := by
  rw [List.any_eq_true]
  constructor
  · rintro ⟨g, member⟩
    exact ⟨_, member, rfl⟩
  · rintro ⟨⟨c, r⟩, member, starts⟩
    cases c <;> first | exact ⟨_, member⟩ | cases starts

theorem exists_setsRunning_iff {t : List Event} :
    (∃ message, (⟨.setTaskStatus updateDownload message "running", none⟩ : Event) ∈ t) ↔
      t.any fun e => e.1.setsRunning e.2 := by
  rw [List.any_eq_true]
  constructor
  · rintro ⟨message, member⟩
    exact ⟨_, member, by simp [Call.setsRunning]⟩
  · rintro ⟨⟨c, r⟩, member, sets⟩
    cases c <;> try cases sets
    cases r with
    | none =>
      obtain ⟨rfl, rfl⟩ : _ ∧ _ := by simpa [Call.setsRunning] using sets
      exact ⟨_, member⟩
    | some => cases sets

theorem cleanup_any {archiveDir : String} (p : Event → Bool) (quiet : ∀ path removed, p ⟨.removeAll path, removed⟩ = false)
    (flag : Bool) (removed : Option String) : (cleanup archiveDir flag removed).any p = false := by
  cases flag
  · rfl
  · simpa [cleanup] using quiet _ _

section Outcomes

variable {appID : String} {deploy skipPreflights isCLI : Bool} {t : List Event} {r : Except Exit Nat}

theorem LatestRun.error_iff (latest : LatestRun appID t r) :
    (∃ e, r = .error (.error e)) ↔ t.any fun e => e.1.raises e.2 := by
  cases latest with
  | deployed v vs d ds parent differs err =>
    cases err
    · exact iff_of_false (by rintro ⟨_, ⟨⟩⟩) Bool.false_ne_true
    · exact iff_of_true ⟨_, rfl⟩ rfl
  | _ => first
    | exact iff_of_true ⟨_, rfl⟩ rfl
    | exact iff_of_false (by rintro ⟨_, ⟨⟩⟩) Bool.false_ne_true

theorem ArchiveRun.error_iff {a : App} {archiveDir : String} {flag : Bool}
    (run : ArchiveRun a archiveDir deploy skipPreflights isCLI t r flag) :
    (∃ e, r = .error (.error e)) ↔ t.any fun e => e.1.raises e.2 := by
  cases run with
  | ensureLatest kotsKinds license info redeploy t r latest => exact latest.error_iff
  | _ => first
    | exact iff_of_true ⟨_, rfl⟩ rfl
    | exact iff_of_false (by rintro ⟨_, ⟨⟩⟩) Bool.false_ne_true

theorem checkForUpdates_error_iff (run : Prog.Run (checkForUpdatesRoutine appID deploy skipPreflights isCLI) t r) :
    (∃ e, r = .error (.error e)) ↔ t.any fun e => e.1.raises e.2 := by
  cases CheckRun.of_run run with
  | archived status message idle a reloaded archiveDir t r flag run removed =>
    simp only [List.any_append, cleanup_any (fun e => e.1.raises e.2) (fun _ _ => rfl), Bool.or_false]
    exact run.error_iff
  | _ => first
    | exact iff_of_true ⟨_, rfl⟩ rfl
    | exact iff_of_false (by rintro ⟨_, ⟨⟩⟩) Bool.false_ne_true

def oneUpdateRun : List Event × Except Exit Nat :=
  Prog.exec (collaborators [⟨"2.0.0"⟩] [] none) (checkForUpdatesRoutine "app" false false false)

theorem one_update_error_iff :
    (∃ e, oneUpdateRun.2 = .error (.error e)) ↔ oneUpdateRun.1.any fun e => e.1.raises e.2 :=
  checkForUpdates_error_iff (Prog.exec_run _ _)

theorem LatestRun.panic_iff (latest : LatestRun appID t r) :
    (∃ v, r = .error (.panic v)) ↔ t.any fun e => e.1.listsNoDownstreams e.2 := by
  cases latest with
  | noDownstreams => exact iff_of_true ⟨_, rfl⟩ rfl
  | deployed v vs d ds parent differs err =>
    cases err <;> exact iff_of_false (by rintro ⟨_, ⟨⟩⟩) Bool.false_ne_true
  | _ => exact iff_of_false (by rintro ⟨_, ⟨⟩⟩) Bool.false_ne_true

theorem ArchiveRun.panic_iff {a : App} {archiveDir : String} {flag : Bool}
    (run : ArchiveRun a archiveDir deploy skipPreflights isCLI t r flag) :
    (∃ v, r = .error (.panic v)) ↔ t.any fun e => e.1.listsNoDownstreams e.2 := by
  cases run with
  | ensureLatest kotsKinds license info redeploy t r latest =>
    rw [List.any_append]
    exact latest.panic_iff
  | _ => exact iff_of_false (by rintro ⟨_, ⟨⟩⟩) Bool.false_ne_true

theorem checkForUpdates_panic_iff (run : Prog.Run (checkForUpdatesRoutine appID deploy skipPreflights isCLI) t r) :
    (∃ v, r = .error (.panic v)) ↔ ∃ id, (⟨.listDownstreamsForApp id, .ok []⟩ : Event) ∈ t := by
  rw [exists_listsNoDownstreams_iff]
  cases CheckRun.of_run run with
  | archived status message idle a reloaded archiveDir t r flag run removed =>
    simp only [List.any_append, cleanup_any (fun e => e.1.listsNoDownstreams e.2) (fun _ _ => rfl), Bool.or_false]
    exact run.panic_iff
  | _ => exact iff_of_false (by rintro ⟨_, ⟨⟩⟩) Bool.false_ne_true

theorem one_update_panic_iff :
    (∃ v, oneUpdateRun.2 = .error (.panic v)) ↔
      ∃ id, (⟨.listDownstreamsForApp id, .ok []⟩ : Event) ∈ oneUpdateRun.1 :=
  checkForUpdates_panic_iff (Prog.exec_run _ _)

theorem ArchiveRun.lastUpdate_failed {a : App} {archiveDir : String} {flag : Bool}
    (run : ArchiveRun a archiveDir deploy skipPreflights isCLI t r flag)
    (failed : (t.any fun e => e.1.lastUpdateFails e.2) = true) : r = .ok 0 := by
  cases run with
  | lastUpdateFailed => rfl
  | ensureLatest kotsKinds license info redeploy t r latest => cases latest <;> cases failed
  | _ => cases failed

theorem lastUpdateAtTime_failure_returns_nil
    (run : Prog.Run (checkForUpdatesRoutine appID deploy skipPreflights isCLI) t r)
    (id err : String) (failed : (⟨.lastUpdateAtTime id, some err⟩ : Event) ∈ t) : r = .ok 0 := by
  have fails : (t.any fun e => e.1.lastUpdateFails e.2) = true := List.any_eq_true.mpr ⟨_, failed, rfl⟩
  cases CheckRun.of_run run with
  | archived status message idle a reloaded archiveDir t r flag run removed =>
    simp only [List.any_append, cleanup_any (fun e => e.1.lastUpdateFails e.2) (fun _ _ => rfl), Bool.or_false] at fails
    exact run.lastUpdate_failed fails
  | _ => cases fails

theorem locked_database_returns_nil :
    (Prog.exec (collaborators [] [] (some "database is locked"))
      (checkForUpdatesRoutine "app" false false false)).2 = .ok 0 :=
  lastUpdateAtTime_failure_returns_nil (Prog.exec_run _ _) "app" "database is locked"
    (List.get?_mem (show List.get? _ 11 = some _ from rfl))

theorem LatestRun.empty_listing_panics (latest : LatestRun appID t r)
    (listed : (t.any fun e => e.1.listsNoDownstreams e.2) = true) :
    r = .error (.panic "runtime error: index out of range [0] with length 0") := by
  cases latest with
  | noDownstreams => rfl
  | deployed v vs d ds parent differs err => cases err <;> cases listed
  | _ => cases listed

theorem empty_downstreams_panic {t : List Event}
    (run : Prog.Run (checkForUpdatesRoutine appID true skipPreflights isCLI) t r)
    (id : String) (listed : (⟨.listDownstreamsForApp id, .ok []⟩ : Event) ∈ t) :
    r = .error (.panic "runtime error: index out of range [0] with length 0") := by
  have lists := exists_listsNoDownstreams_iff.mp ⟨id, listed⟩
  cases CheckRun.of_run run with
  | archived status message idle a reloaded archiveDir t r flag run removed =>
    simp only [List.any_append, cleanup_any (fun e => e.1.listsNoDownstreams e.2) (fun _ _ => rfl), Bool.or_false]
      at lists
    cases run with
    | ensureLatest kotsKinds license info redeploy t r latest => exact latest.empty_listing_panics lists
    | _ => cases lists
  | _ => cases lists

theorem no_downstreams_panic :
    (Prog.exec (collaborators [] [] none) (checkForUpdatesRoutine "app" true false false)).2 =
      .error (.panic "runtime error: index out of range [0] with length 0") :=
  empty_downstreams_panic (Prog.exec_run _ _) "app" (List.get?_mem (show List.get? _ 13 = some _ from rfl))

theorem staging_iff_of_quiet (starts : (t.any fun e => e.1.startsStaging) = false)
    (sets : (t.any fun e => e.1.setsRunning e.2) = false) (returned : ∀ n, r = .ok n → n = 0) :
    ((t.any fun e => e.1.startsStaging) ↔ ∃ n, 0 < n ∧ r = .ok n) ∧
      ((t.any fun e => e.1.setsRunning e.2) ↔ ∃ n, 0 < n ∧ r = .ok n) := by
  have never : ¬ ∃ n, 0 < n ∧ r = .ok n := fun ⟨n, pos, ok⟩ => by have := returned n ok; omega
  rw [starts, sets]
  exact ⟨iff_of_false Bool.false_ne_true never, iff_of_false Bool.false_ne_true never⟩

theorem ArchiveRun.staging_iff {a : App} {archiveDir : String} {flag : Bool}
    (run : ArchiveRun a archiveDir deploy skipPreflights isCLI t r flag) :
    ((t.any fun e => e.1.startsStaging) ↔ ∃ n, 0 < n ∧ r = .ok n) ∧
      ((t.any fun e => e.1.setsRunning e.2) ↔ ∃ n, 0 < n ∧ r = .ok n) := by
  cases run with
  | staged kotsKinds license info updates found =>
    have staged : ∃ n, 0 < n ∧ (.ok updates.length : Except Exit Nat) = .ok n := ⟨_, List.length_pos.mpr found, rfl⟩
    exact ⟨iff_of_true rfl staged, iff_of_true rfl staged⟩
  | ensureLatest kotsKinds license info redeploy t r latest =>
    cases latest with
    | deployed v vs d ds parent differs err => cases err <;> exact staging_iff_of_quiet rfl rfl (by rintro _ ⟨⟩ <;> rfl)
    | _ => exact staging_iff_of_quiet rfl rfl (by rintro _ ⟨⟩ <;> rfl)
  | _ => exact staging_iff_of_quiet rfl rfl (by rintro _ ⟨⟩ <;> rfl)

theorem staging_started_iff (run : Prog.Run (checkForUpdatesRoutine appID deploy skipPreflights isCLI) t r) :
    ((∃ g, (⟨.goStaging g, ()⟩ : Event) ∈ t) ↔ ∃ n, 0 < n ∧ r = .ok n) ∧
      ((∃ message, (⟨.setTaskStatus updateDownload message "running", none⟩ : Event) ∈ t) ↔
        ∃ n, 0 < n ∧ r = .ok n) := by
  rw [exists_goStaging_iff, exists_setsRunning_iff]
  cases CheckRun.of_run run with
  | archived status message idle a reloaded archiveDir t r flag run removed =>
    simp only [List.any_append, cleanup_any (fun e => e.1.startsStaging) (fun _ _ => rfl),
      cleanup_any (fun e => e.1.setsRunning e.2) (fun _ _ => rfl), Bool.or_false]
    exact run.staging_iff
  | _ => exact staging_iff_of_quiet rfl rfl (by rintro _ ⟨⟩ <;> rfl)

theorem one_update_staging_started :
    ((∃ g, (⟨.goStaging g, ()⟩ : Event) ∈ oneUpdateRun.1) ↔ ∃ n, 0 < n ∧ oneUpdateRun.2 = .ok n) ∧
      ((∃ message, (⟨.setTaskStatus updateDownload message "running", none⟩ : Event) ∈ oneUpdateRun.1) ↔
        ∃ n, 0 < n ∧ oneUpdateRun.2 = .ok n) :=
  staging_started_iff (Prog.exec_run _ _)

end Outcomes

end Kots.UpdateChecker
