import Kots.UpdateChecker.Types

namespace Kots.UpdateChecker

open Kots.Effect

def updateDownload : String := "update-download"

/-- The goroutine that reports preflights for the deployed sequence. -/
def report (r : Report) : Prog Unit := do
  let _ ← reportAppInfo r.appID r.sequence r.skipPreflights r.isCLI

/-- One pass of the staging loop per `(index, update)`: a failed download is logged and
    skipped, and only the last update is deployed. -/
def stagingLoop (g : Staging) : List (Nat × Update) → Prog Unit
  | [] => pure ()
  | (index, update) :: rest => do
    match ← downloadUpdate g.appID g.archiveDir update.cursor g.skipPreflights with
    | .error _ => stagingLoop g rest
    | .ok sequence =>
      if g.deploy && index == g.updates.length - 1 then
        let _ ← deployVersion g.appID sequence
        goReport ⟨g.appID, sequence, g.skipPreflights, g.isCLI⟩
      stagingLoop g rest

/-- The staging goroutine; its deferred `os.RemoveAll(archiveDir)` runs after the loop. -/
def staging (g : Staging) : Prog Unit := do
  stagingLoop g g.updates.enum
  let _ ← removeAll g.archiveDir

/-- With no updates and `deploy` set: deploy the latest version unless the first
    downstream already has it. -/
def ensureLatestDeployed (appID : String) : GoM Bool Nat := do
  let allVersions ← Go.check (getVersions appID) "failed to list app versions"
  if allVersions.length = 0 then
    throw (.error "no versions found")
  else
    let latestVersion ← Go.index allVersions (allVersions.length - 1)
    let downstreams ← Go.check (listDownstreamsForApp appID) "failed to list downstreams for app"
    let downstream ← Go.index downstreams 0
    let downstreamParentSequence ← Go.check (getCurrentParentSequence appID downstream.clusterID)
      "failed to get current downstream parent sequence"
    if latestVersion.sequence ≠ downstreamParentSequence then
      Go.checkNil (deployVersion appID latestVersion.sequence) "failed to deploy latest version"
    return 0

/-- The `kotspull.GetUpdatesOptions` built from the installed release. -/
def updatesOptions (kotsKinds : KotsKinds) (latestLicense : License) (reportingInfo : ReportingInfo) :
    GetUpdatesOptions :=
  { license := latestLicense
    currentCursor := kotsKinds.installation.updateCursor
    currentChannelID := kotsKinds.installation.channelID
    currentChannelName := kotsKinds.installation.channelName
    currentVersionLabel := kotsKinds.installation.versionLabel
    silent := false
    reportingInfo := reportingInfo }

/-- The part of `CheckForUpdates` that uses the temporary directory; the state is the
    local `removeArchiveDir`. -/
def checkArchive (a : App) (archiveDir : String) (deploy skipPreflights isCLI : Bool) :
    GoM Bool Nat := do
  Go.checkNil (getAppVersionArchive a.id a.currentSequence archiveDir)
    "failed to get app version archive"
  let kotsKinds ← Go.check (loadKotsKindsFromPath archiveDir) "failed to load kotskinds from path"
  let latestLicense ← Go.check (getLatestLicenseForApp a.id) "failed to get latest license"
  let reportingInfo ← Go.lift (getReportingInfo a.id)
  let updates ← Go.check (getUpdates ("replicated://" ++ kotsKinds.license.appSlug)
    (updatesOptions kotsKinds latestLicense reportingInfo)) "failed to get updates"
  let t ← Go.lift (lastUpdateAtTime a.id)
  -- the error wrapped here is `err` of `GetUpdates`, which is nil
  if t.isSome then
    return ← Go.returnWrap 0 none "failed to update last updated at time"
  if updates.length = 0 then
    return ← if !deploy then pure 0 else ensureLatestDeployed a.id
  let availableUpdates := updates.length
  let status := toString availableUpdates ++ " Updates available..."
  Go.checkNil (setTaskStatus updateDownload status "running") "failed to set task status"
  set false
  Go.lift (goStaging ⟨a.id, archiveDir, updates, deploy, skipPreflights, isCLI⟩)
  return availableUpdates

/-- The deferred closure: `if removeArchiveDir { os.RemoveAll(archiveDir) }`. -/
def removeArchiveDir (archiveDir : String) : StateT Bool Prog Unit := do
  if (← get) then
    let _ ← StateT.lift (removeAll archiveDir)

@[simp] theorem wp_removeArchiveDir (archiveDir : String) (remove : Bool)
    (Q : List Event → Unit × Bool → Prop) :
    Prog.wp ((removeArchiveDir archiveDir).run remove) Q =
      if remove then ∀ r, Q [⟨.removeAll archiveDir, r⟩] ((), remove)
      else Q [] ((), remove) := by
  cases remove <;> simp [removeArchiveDir, StateT.lift]

/-- `CheckForUpdates(appID, deploy, skipPreflights, isCLI)`. -/
def checkForUpdates (appID : String) (deploy skipPreflights isCLI : Bool) : GoM Bool Nat := do
  let (currentStatus, _) ← Go.check (getTaskStatus updateDownload) "failed to get task status"
  if currentStatus = "running" then
    return 0
  Go.checkNil (clearTaskStatus updateDownload) "failed to clear task status"
  let a ← Go.check (getApp appID) "failed to get app"
  Go.checkNil (syncLicense a "" false) "failed to sync license"
  let a ← Go.check (getApp appID) "failed to get app"
  let archiveDir ← Go.check (tempDir "" "kotsadm") "failed to create temp dir"
  set true
  Go.deferred (checkArchive a archiveDir deploy skipPreflights isCLI) (removeArchiveDir archiveDir)

def checkForUpdatesRoutine (appID : String) (deploy skipPreflights isCLI : Bool) :
    Prog (Except Exit Nat) :=
  Prod.fst <$> ((checkForUpdates appID deploy skipPreflights isCLI).run.run true)

end Kots.UpdateChecker
