import Kots.UpdateChecker.CheckForUpdates

namespace Kots.UpdateChecker

open Kots.Effect

inductive LatestRun (appID : String) : List Event → Except Exit Nat → Prop
  | versionsFailed (err : String) :
      LatestRun appID [⟨.getVersions appID, .error err⟩]
        (.error (.error ("failed to list app versions: " ++ err)))
  | noVersions : LatestRun appID [⟨.getVersions appID, .ok []⟩] (.error (.error "no versions found"))
  | downstreamsFailed (v : AppVersion) (vs : List AppVersion) (err : String) :
      LatestRun appID [⟨.getVersions appID, .ok (v :: vs)⟩, ⟨.listDownstreamsForApp appID, .error err⟩]
        (.error (.error ("failed to list downstreams for app: " ++ err)))
  | noDownstreams (v : AppVersion) (vs : List AppVersion) :
      LatestRun appID [⟨.getVersions appID, .ok (v :: vs)⟩, ⟨.listDownstreamsForApp appID, .ok []⟩]
        (.error (.panic "runtime error: index out of range [0] with length 0"))
  | parentFailed (v : AppVersion) (vs : List AppVersion) (d : Downstream) (ds : List Downstream)
      (err : String) :
      LatestRun appID [⟨.getVersions appID, .ok (v :: vs)⟩, ⟨.listDownstreamsForApp appID, .ok (d :: ds)⟩,
          ⟨.getCurrentParentSequence appID d.clusterID, .error err⟩]
        (.error (.error ("failed to get current downstream parent sequence: " ++ err)))
  | upToDate (v : AppVersion) (vs : List AppVersion) (d : Downstream) (ds : List Downstream) (parent : Int)
      (same : ((v :: vs).getLast (List.cons_ne_nil v vs)).sequence = parent) :
      LatestRun appID [⟨.getVersions appID, .ok (v :: vs)⟩, ⟨.listDownstreamsForApp appID, .ok (d :: ds)⟩,
          ⟨.getCurrentParentSequence appID d.clusterID, .ok parent⟩] (.ok 0)
  | deployed (v : AppVersion) (vs : List AppVersion) (d : Downstream) (ds : List Downstream) (parent : Int)
      (differs : ((v :: vs).getLast (List.cons_ne_nil v vs)).sequence ≠ parent) (err : Option String) :
      LatestRun appID [⟨.getVersions appID, .ok (v :: vs)⟩, ⟨.listDownstreamsForApp appID, .ok (d :: ds)⟩,
          ⟨.getCurrentParentSequence appID d.clusterID, .ok parent⟩,
          ⟨.deployVersion appID ((v :: vs).getLast (List.cons_ne_nil v vs)).sequence, err⟩]
        (match err with
          | none => .ok 0
          | some e => .error (.error ("failed to deploy latest version: " ++ e)))

theorem get?_last {α : Type} (v : α) (vs : List α) :
    (v :: vs).get? vs.length = some ((v :: vs).getLast (List.cons_ne_nil v vs)) := by
  induction vs generalizing v with
  | nil => rfl
  | cons w ws ih => simpa [List.getLast_cons] using ih w

theorem wp_ensureLatestDeployed (appID : String) (s : Bool) (Q : List Event → Except Exit Nat → Bool → Prop)
    (h : ∀ t r, LatestRun appID t r → Q t r s) : Go.wp (ensureLatestDeployed appID) s Q := by
  simp only [ensureLatestDeployed, Go.wp_bind, Go.after_ok, Go.after_error, Go.wp_checkNil, Go.wp_check,
    Go.wp_ite, Go.wp_pure, Go.wp_throw, Go.wp_index, Prog.wp_map, Prog.wp_invoke, Call.Response,
    forall_except, Option.forall, Go.checked, List.nil_append, List.cons_append, List.append_nil]
  refine ⟨fun err => h _ _ (.versionsFailed err), fun versions => ?_⟩
  cases versions with
  | nil => exact h _ _ .noVersions
  | cons v vs =>
    simp only [List.length_cons, Nat.add_one_ne_zero, if_false, Nat.add_sub_cancel, get?_last]
    refine ⟨fun err => h _ _ (.downstreamsFailed v vs err), fun downstreams => ?_⟩
    cases downstreams with
    | nil => exact h _ _ (.noDownstreams v vs)
    | cons d ds =>
      refine ⟨fun err => h _ _ (.parentFailed v vs d ds err), fun parent => ?_⟩
      split
      · rename_i differs
        exact ⟨h _ _ (.deployed v vs d ds parent differs none),
          fun err => h _ _ (.deployed v vs d ds parent differs (some err))⟩
      · rename_i same
        exact h _ _ (.upToDate v vs d ds parent (not_not.mp same))

def discovered (a : App) (archiveDir : String) (kotsKinds : KotsKinds) (license : License)
    (info : ReportingInfo) (updates : List Update) : List Event :=
  [⟨.getAppVersionArchive a.id a.currentSequence archiveDir, none⟩,
    ⟨.loadKotsKindsFromPath archiveDir, .ok kotsKinds⟩,
    ⟨.getLatestLicenseForApp a.id, .ok license⟩,
    ⟨.getReportingInfo a.id, info⟩,
    ⟨.getUpdates ("replicated://" ++ kotsKinds.license.appSlug) (updatesOptions kotsKinds license info),
      .ok updates⟩]

inductive ArchiveRun (a : App) (archiveDir : String) (deploy skipPreflights isCLI : Bool) :
    List Event → Except Exit Nat → Bool → Prop
  | archiveFailed (err : String) :
      ArchiveRun a archiveDir deploy skipPreflights isCLI
        [⟨.getAppVersionArchive a.id a.currentSequence archiveDir, some err⟩]
        (.error (.error ("failed to get app version archive: " ++ err))) true
  | kotsKindsFailed (err : String) :
      ArchiveRun a archiveDir deploy skipPreflights isCLI
        [⟨.getAppVersionArchive a.id a.currentSequence archiveDir, none⟩,
          ⟨.loadKotsKindsFromPath archiveDir, .error err⟩]
        (.error (.error ("failed to load kotskinds from path: " ++ err))) true
  | licenseFailed (kotsKinds : KotsKinds) (err : String) :
      ArchiveRun a archiveDir deploy skipPreflights isCLI
        [⟨.getAppVersionArchive a.id a.currentSequence archiveDir, none⟩,
          ⟨.loadKotsKindsFromPath archiveDir, .ok kotsKinds⟩, ⟨.getLatestLicenseForApp a.id, .error err⟩]
        (.error (.error ("failed to get latest license: " ++ err))) true
  | updatesFailed (kotsKinds : KotsKinds) (license : License) (info : ReportingInfo) (err : String) :
      ArchiveRun a archiveDir deploy skipPreflights isCLI
        [⟨.getAppVersionArchive a.id a.currentSequence archiveDir, none⟩,
          ⟨.loadKotsKindsFromPath archiveDir, .ok kotsKinds⟩, ⟨.getLatestLicenseForApp a.id, .ok license⟩,
          ⟨.getReportingInfo a.id, info⟩,
          ⟨.getUpdates ("replicated://" ++ kotsKinds.license.appSlug) (updatesOptions kotsKinds license info),
            .error err⟩]
        (.error (.error ("failed to get updates: " ++ err))) true
  | lastUpdateFailed (kotsKinds : KotsKinds) (license : License) (info : ReportingInfo)
      (updates : List Update) (err : String) :
      ArchiveRun a archiveDir deploy skipPreflights isCLI
        (discovered a archiveDir kotsKinds license info updates ++ [⟨.lastUpdateAtTime a.id, some err⟩])
        (.ok 0) true
  | noUpdates (kotsKinds : KotsKinds) (license : License) (info : ReportingInfo) (keep : deploy = false) :
      ArchiveRun a archiveDir deploy skipPreflights isCLI
        (discovered a archiveDir kotsKinds license info [] ++ [⟨.lastUpdateAtTime a.id, none⟩]) (.ok 0) true
  | ensureLatest (kotsKinds : KotsKinds) (license : License) (info : ReportingInfo) (redeploy : deploy = true)
      (t : List Event) (r : Except Exit Nat) (latest : LatestRun a.id t r) :
      ArchiveRun a archiveDir deploy skipPreflights isCLI
        (discovered a archiveDir kotsKinds license info [] ++ [⟨.lastUpdateAtTime a.id, none⟩] ++ t) r true
  | statusFailed (kotsKinds : KotsKinds) (license : License) (info : ReportingInfo) (updates : List Update)
      (found : updates ≠ []) (err : String) :
      ArchiveRun a archiveDir deploy skipPreflights isCLI
        (discovered a archiveDir kotsKinds license info updates ++ [⟨.lastUpdateAtTime a.id, none⟩,
          ⟨.setTaskStatus updateDownload (toString updates.length ++ " Updates available...") "running",
            some err⟩])
        (.error (.error ("failed to set task status: " ++ err))) true
  | staged (kotsKinds : KotsKinds) (license : License) (info : ReportingInfo) (updates : List Update)
      (found : updates ≠ []) :
      ArchiveRun a archiveDir deploy skipPreflights isCLI
        (discovered a archiveDir kotsKinds license info updates ++ [⟨.lastUpdateAtTime a.id, none⟩,
          ⟨.setTaskStatus updateDownload (toString updates.length ++ " Updates available...") "running", none⟩,
          ⟨.goStaging ⟨a.id, archiveDir, updates, deploy, skipPreflights, isCLI⟩, ()⟩])
        (.ok updates.length) false

theorem wp_checkArchive (a : App) (archiveDir : String) (deploy skipPreflights isCLI : Bool)
    (Q : List Event → Except Exit Nat → Bool → Prop)
    (h : ∀ t r removeArchiveDir, ArchiveRun a archiveDir deploy skipPreflights isCLI t r removeArchiveDir →
      Q t r removeArchiveDir) :
    Go.wp (checkArchive a archiveDir deploy skipPreflights isCLI) true Q := by
  simp only [checkArchive, Go.wp_bind, Go.after_ok, Go.after_error, Go.wp_checkNil, Go.wp_check,
    Go.wp_lift, Go.wp_ite, Go.wp_pure, Go.wp_set, Go.wp_returnWrap, bind_pure, Prog.wp_map,
    Prog.wp_invoke, Call.Response, forall_except, Option.forall, Go.checked, List.nil_append,
    List.cons_append, List.append_nil, Option.isSome_none, Option.isSome_some, Bool.false_eq_true,
    if_false, if_true, Bool.not_eq_true', List.length_eq_zero]
  refine ⟨⟨fun err => h _ _ _ (.kotsKindsFailed err), fun kotsKinds =>
    ⟨fun err => h _ _ _ (.licenseFailed kotsKinds err), fun license info =>
      ⟨fun err => h _ _ _ (.updatesFailed kotsKinds license info err), fun updates =>
        ⟨?_, fun err => h _ _ _ (.lastUpdateFailed kotsKinds license info updates err)⟩⟩⟩⟩,
    fun err => h _ _ _ (.archiveFailed err)⟩
  split
  · rename_i none_found
    subst none_found
    split
    · exact h _ _ _ (.noUpdates kotsKinds license info ‹_›)
    · rename_i redeploy
      exact wp_ensureLatestDeployed _ _ _ fun t r latest =>
        h _ _ _ (.ensureLatest kotsKinds license info (by simpa using redeploy) t r latest)
  · exact ⟨fun _ => h _ _ _ (.staged kotsKinds license info updates ‹_›),
      fun err => h _ _ _ (.statusFailed kotsKinds license info updates ‹_› err)⟩

def prepared (appID status message : String) (a reloaded : App) (archiveDir : String) : List Event :=
  [⟨.getTaskStatus updateDownload, .ok (status, message)⟩, ⟨.clearTaskStatus updateDownload, none⟩,
    ⟨.getApp appID, .ok a⟩, ⟨.syncLicense a "" false, none⟩, ⟨.getApp appID, .ok reloaded⟩,
    ⟨.tempDir "" "kotsadm", .ok archiveDir⟩]

def cleanup (archiveDir : String) (removeArchiveDir : Bool) (removed : Option String) : List Event :=
  if removeArchiveDir then [⟨.removeAll archiveDir, removed⟩] else []

inductive CheckRun (appID : String) (deploy skipPreflights isCLI : Bool) :
    List Event → Except Exit Nat → Prop
  | statusFailed (err : String) :
      CheckRun appID deploy skipPreflights isCLI [⟨.getTaskStatus updateDownload, .error err⟩]
        (.error (.error ("failed to get task status: " ++ err)))
  | running (message : String) :
      CheckRun appID deploy skipPreflights isCLI [⟨.getTaskStatus updateDownload, .ok ("running", message)⟩]
        (.ok 0)
  | clearFailed (status message : String) (idle : status ≠ "running") (err : String) :
      CheckRun appID deploy skipPreflights isCLI
        [⟨.getTaskStatus updateDownload, .ok (status, message)⟩, ⟨.clearTaskStatus updateDownload, some err⟩]
        (.error (.error ("failed to clear task status: " ++ err)))
  | appFailed (status message : String) (idle : status ≠ "running") (err : String) :
      CheckRun appID deploy skipPreflights isCLI
        [⟨.getTaskStatus updateDownload, .ok (status, message)⟩, ⟨.clearTaskStatus updateDownload, none⟩,
          ⟨.getApp appID, .error err⟩]
        (.error (.error ("failed to get app: " ++ err)))
  | syncFailed (status message : String) (idle : status ≠ "running") (a : App) (err : String) :
      CheckRun appID deploy skipPreflights isCLI
        [⟨.getTaskStatus updateDownload, .ok (status, message)⟩, ⟨.clearTaskStatus updateDownload, none⟩,
          ⟨.getApp appID, .ok a⟩, ⟨.syncLicense a "" false, some err⟩]
        (.error (.error ("failed to sync license: " ++ err)))
  | reloadFailed (status message : String) (idle : status ≠ "running") (a : App) (err : String) :
      CheckRun appID deploy skipPreflights isCLI
        [⟨.getTaskStatus updateDownload, .ok (status, message)⟩, ⟨.clearTaskStatus updateDownload, none⟩,
          ⟨.getApp appID, .ok a⟩, ⟨.syncLicense a "" false, none⟩, ⟨.getApp appID, .error err⟩]
        (.error (.error ("failed to get app: " ++ err)))
  | tempDirFailed (status message : String) (idle : status ≠ "running") (a reloaded : App) (err : String) :
      CheckRun appID deploy skipPreflights isCLI
        [⟨.getTaskStatus updateDownload, .ok (status, message)⟩, ⟨.clearTaskStatus updateDownload, none⟩,
          ⟨.getApp appID, .ok a⟩, ⟨.syncLicense a "" false, none⟩, ⟨.getApp appID, .ok reloaded⟩,
          ⟨.tempDir "" "kotsadm", .error err⟩]
        (.error (.error ("failed to create temp dir: " ++ err)))
  | archived (status message : String) (idle : status ≠ "running") (a reloaded : App) (archiveDir : String)
      (t : List Event) (r : Except Exit Nat) (removeArchiveDir : Bool)
      (run : ArchiveRun reloaded archiveDir deploy skipPreflights isCLI t r removeArchiveDir)
      (removed : Option String) :
      CheckRun appID deploy skipPreflights isCLI
        (prepared appID status message a reloaded archiveDir ++ t ++ cleanup archiveDir removeArchiveDir removed) r

theorem wp_checkForUpdatesRoutine (appID : String) (deploy skipPreflights isCLI : Bool)
    (Q : List Event → Except Exit Nat → Prop)
    (h : ∀ t r, CheckRun appID deploy skipPreflights isCLI t r → Q t r) :
    Prog.wp (checkForUpdatesRoutine appID deploy skipPreflights isCLI) Q := by
  rw [checkForUpdatesRoutine, Go.wp_run]
  simp only [checkForUpdates, Go.wp_bind, Go.after_ok,
    Go.after_error, Go.wp_checkNil, Go.wp_check, Go.wp_ite, Go.wp_pure, Go.wp_set, Go.wp_deferred,
    Prog.wp_map, Prog.wp_invoke, Call.Response, forall_except, Option.forall, Prod.forall, Go.checked,
    List.nil_append, List.cons_append, List.append_nil]
  refine ⟨fun err => h _ _ (.statusFailed err), fun status message => ?_⟩
  split
  · rename_i busy
    subst busy
    exact h _ _ (.running message)
  · rename_i idle
    refine ⟨⟨fun err => h _ _ (.appFailed status message idle err), fun a =>
      ⟨⟨fun err => h _ _ (.reloadFailed status message idle a err), fun reloaded =>
        ⟨fun err => h _ _ (.tempDirFailed status message idle a reloaded err), fun archiveDir => ?_⟩⟩,
        fun err => h _ _ (.syncFailed status message idle a err)⟩⟩,
      fun err => h _ _ (.clearFailed status message idle err)⟩
    refine wp_checkArchive _ _ _ _ _ _ fun t r removeArchiveDir run => ?_
    rw [wp_removeArchiveDir]
    cases removeArchiveDir
    · exact h _ _ (.archived status message idle a reloaded archiveDir t r false run none)
    · exact fun removed => h _ _ (.archived status message idle a reloaded archiveDir t r true run removed)

theorem CheckRun.of_run {appID : String} {deploy skipPreflights isCLI : Bool} {t : List Event}
    {r : Except Exit Nat} (run : Prog.Run (checkForUpdatesRoutine appID deploy skipPreflights isCLI) t r) :
    CheckRun appID deploy skipPreflights isCLI t r :=
  (Prog.wp_iff _ _).mp (wp_checkForUpdatesRoutine _ _ _ _ _ fun _ _ h => h) t r run

end Kots.UpdateChecker
