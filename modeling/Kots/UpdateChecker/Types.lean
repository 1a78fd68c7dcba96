import Kots.Effect.Go

namespace Kots.UpdateChecker

open Kots.Effect

structure App where
  id : String
  slug : String
  isAirgap : Bool
  currentSequence : Int
  updateCheckerSpec : String
  deriving DecidableEq, Repr

structure Update where
  cursor : String
  deriving DecidableEq, Repr

structure InstallationSpec where
  updateCursor : String
  channelID : String
  channelName : String
  versionLabel : String
  deriving DecidableEq, Repr

structure License where
  appSlug : String
  deriving DecidableEq, Repr

/-- The parts of `kotsutil.KotsKinds` that the update checker reads. -/
structure KotsKinds where
  installation : InstallationSpec
  license : License
  deriving DecidableEq, Repr

structure ReportingInfo where
  payload : String
  deriving DecidableEq, Repr

structure GetUpdatesOptions where
  license : License
  currentCursor : String
  currentChannelID : String
  currentChannelName : String
  currentVersionLabel : String
  silent : Bool
  reportingInfo : ReportingInfo
  deriving DecidableEq, Repr

structure AppVersion where
  sequence : Int
  deriving DecidableEq, Repr

structure Downstream where
  clusterID : String
  deriving DecidableEq, Repr

structure Staging where
  appID : String
  archiveDir : String
  updates : List Update
  deploy : Bool
  skipPreflights : Bool
  isCLI : Bool
  deriving DecidableEq, Repr

structure Report where
  appID : String
  sequence : Int
  skipPreflights : Bool
  isCLI : Bool
  deriving DecidableEq, Repr

inductive Call where
  | getTaskStatus (id : String)
  | clearTaskStatus (id : String)
  | setTaskStatus (id message status : String)
  | getApp (appID : String)
  | syncLicense (a : App) (licenseString : String) (failOnVersionCreate : Bool)
  | tempDir (dir pattern : String)
  | getAppVersionArchive (appID : String) (sequence : Int) (dstPath : String)
  | loadKotsKindsFromPath (fromDir : String)
  | getLatestLicenseForApp (appID : String)
  | getReportingInfo (appID : String)
  | getUpdates (upstreamURI : String) (options : GetUpdatesOptions)
  | lastUpdateAtTime (appID : String)
  | getVersions (appID : String)
  | listDownstreamsForApp (appID : String)
  | getCurrentParentSequence (appID clusterID : String)
  | deployVersion (appID : String) (sequence : Int)
  | removeAll (path : String)
  | downloadUpdate (appID archiveDir updateCursor : String) (skipPreflights : Bool)
  | reportAppInfo (appID : String) (sequence : Int) (skipPreflights isCLI : Bool)
  | goStaging (routine : Staging)
  | goReport (routine : Report)
  deriving DecidableEq, Repr

/-- What each call gives back; a Go `error` is `Option String`, and a result with its error
    is `Except String`. -/
@[reducible] def Call.Response : Call → Type
  | .getTaskStatus _ => Except String (String × String)
  | .clearTaskStatus _ => Option String
  | .setTaskStatus .. => Option String
  | .getApp _ => Except String App
  | .syncLicense .. => Option String
  | .tempDir .. => Except String String
  | .getAppVersionArchive .. => Option String
  | .loadKotsKindsFromPath _ => Except String KotsKinds
  | .getLatestLicenseForApp _ => Except String License
  | .getReportingInfo _ => ReportingInfo
  | .getUpdates .. => Except String (List Update)
  | .lastUpdateAtTime _ => Option String
  | .getVersions _ => Except String (List AppVersion)
  | .listDownstreamsForApp _ => Except String (List Downstream)
  | .getCurrentParentSequence .. => Except String Int
  | .deployVersion .. => Option String
  | .removeAll _ => Option String
  | .downloadUpdate .. => Except String Int
  | .reportAppInfo .. => Option String
  | .goStaging _ => Unit
  | .goReport _ => Unit

instance (c : Call) : Nonempty c.Response := by
  cases c <;> first | exact ⟨.error ""⟩ | exact ⟨none⟩ | exact ⟨⟨""⟩⟩ | exact ⟨()⟩

def collaborators (updates : List Update) (downstreams : List Downstream) (lastUpdate : Option String) :
    (c : Call) → c.Response
  | .getTaskStatus _ => .ok ("", "")
  | .getApp appID => .ok ⟨appID, "app", false, 1, "@default"⟩
  | .tempDir .. => .ok "/tmp/kotsadm1"
  | .loadKotsKindsFromPath _ => .ok ⟨⟨"", "", "", ""⟩, ⟨"app"⟩⟩
  | .getLatestLicenseForApp _ => .ok ⟨"app"⟩
  | .getReportingInfo _ => ⟨""⟩
  | .getUpdates .. => .ok updates
  | .lastUpdateAtTime _ => lastUpdate
  | .getVersions _ => .ok [⟨1⟩]
  | .listDownstreamsForApp _ => .ok downstreams
  | .getCurrentParentSequence .. => .ok 0
  | .downloadUpdate .. => .ok 2
  | .clearTaskStatus _ | .setTaskStatus .. | .syncLicense .. | .getAppVersionArchive ..
  | .deployVersion .. | .removeAll _ | .reportAppInfo .. => none
  | .goStaging _ | .goReport _ => ()

abbrev Prog := Kots.Effect.Prog Call Call.Response
abbrev Event := Kots.Effect.Event Call Call.Response
abbrev GoM (σ α : Type) := Kots.Effect.Go Call Call.Response σ α

section Calls

variable (appID : String)

abbrev getTaskStatus (id : String) : Prog (Except String (String × String)) :=
  Prog.invoke (.getTaskStatus id)
abbrev clearTaskStatus (id : String) : Prog (Option String) := Prog.invoke (.clearTaskStatus id)
abbrev setTaskStatus (id message status : String) : Prog (Option String) :=
  Prog.invoke (.setTaskStatus id message status)
abbrev getApp : Prog (Except String App) := Prog.invoke (.getApp appID)
abbrev syncLicense (a : App) (licenseString : String) (failOnVersionCreate : Bool) :
    Prog (Option String) :=
  Prog.invoke (.syncLicense a licenseString failOnVersionCreate)
abbrev tempDir (dir pattern : String) : Prog (Except String String) := Prog.invoke (.tempDir dir pattern)
abbrev getAppVersionArchive (sequence : Int) (dstPath : String) : Prog (Option String) :=
  Prog.invoke (.getAppVersionArchive appID sequence dstPath)
abbrev loadKotsKindsFromPath (fromDir : String) : Prog (Except String KotsKinds) :=
  Prog.invoke (.loadKotsKindsFromPath fromDir)
abbrev getLatestLicenseForApp : Prog (Except String License) := Prog.invoke (.getLatestLicenseForApp appID)
abbrev getReportingInfo : Prog ReportingInfo := Prog.invoke (.getReportingInfo appID)
abbrev getUpdates (upstreamURI : String) (options : GetUpdatesOptions) :
    Prog (Except String (List Update)) :=
  Prog.invoke (.getUpdates upstreamURI options)
abbrev lastUpdateAtTime : Prog (Option String) := Prog.invoke (.lastUpdateAtTime appID)
abbrev getVersions : Prog (Except String (List AppVersion)) := Prog.invoke (.getVersions appID)
abbrev listDownstreamsForApp : Prog (Except String (List Downstream)) :=
  Prog.invoke (.listDownstreamsForApp appID)
abbrev getCurrentParentSequence (clusterID : String) : Prog (Except String Int) :=
  Prog.invoke (.getCurrentParentSequence appID clusterID)
abbrev deployVersion (sequence : Int) : Prog (Option String) := Prog.invoke (.deployVersion appID sequence)
abbrev removeAll (path : String) : Prog (Option String) := Prog.invoke (.removeAll path)
abbrev downloadUpdate (archiveDir updateCursor : String) (skipPreflights : Bool) :
    Prog (Except String Int) :=
  Prog.invoke (.downloadUpdate appID archiveDir updateCursor skipPreflights)
abbrev reportAppInfo (sequence : Int) (skipPreflights isCLI : Bool) : Prog (Option String) :=
  Prog.invoke (.reportAppInfo appID sequence skipPreflights isCLI)
abbrev goStaging (routine : Staging) : Prog Unit := Prog.invoke (.goStaging routine)
abbrev goReport (routine : Report) : Prog Unit := Prog.invoke (.goReport routine)

end Calls

end Kots.UpdateChecker
