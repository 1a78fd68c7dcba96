import Kots.Handlers.Types

namespace Kots.Handlers

open Kots.Effect
open Kots.UpdateChecker (App Downstream)

/-- The part of `UploadExistingApp` before the archive is unpacked: the KOTS token, the
    metadata, the uploaded file and its copy to a temporary file. `requireValidKOTSToken`
    writes its own response. -/
def receive (metadata : String) : HandlerM (UploadExistingAppRequest × String) := do
  match ← Handler.lift (Prog.invoke Call.requireValidKOTSToken) with
  | some _ => throw ()
  | none =>
    let uploadExistingAppRequest ← orFail 400 (Prog.invoke (.decodeMetadata metadata))
    let archive ← orFail 500 (Prog.invoke (.formFile "file"))
    let tmpFile ← orFail 500 (Prog.invoke (.tempFile "" "kotsadm"))
    orFailNil 500 (Prog.invoke (.copy tmpFile archive))
    pure (uploadExistingAppRequest, tmpFile)

/-- `if kotsKinds.ConfigValues != nil { ... }`: encrypt the config values and write them back
    to the archive. -/
def encryptConfig (archiveDir : String) (kotsKinds : KotsKinds) : HandlerM Unit :=
  if kotsKinds.configValues.isSome then do
    let kotsKinds ← orFail 500 (Prog.invoke (.encryptConfigValues kotsKinds))
    let updated ← orFail 500 (Prog.invoke (.marshal kotsKinds "kots.io" "v1beta1" "ConfigValues"))
    orFailNil 500 (Prog.invoke (.writeFile [archiveDir, "upstream", "userdata", "config.yaml"] updated))
  else pure ()

/-- `if !skip { if err := f(); err != nil { ...; w.WriteHeader(500); return } }`, for the
    preflights and the deploy. -/
def checkUnless (skip : Bool) (x : Prog (Option String)) : HandlerM Unit :=
  if skip then pure () else orFailNil 500 x

/-- The part of `UploadExistingApp` that uses the unpacked archive: it creates the new version,
    runs its preflights, deploys it, and answers with the app's slug. -/
def stageUpload (request : UploadExistingAppRequest) (archiveDir : String) : HandlerM Unit := do
  let kotsKinds ← orFail 500 (Prog.invoke (.loadKotsKindsFromPath archiveDir))
  encryptConfig archiveDir kotsKinds
  let a ← orFail 500 (Prog.invoke (.getAppFromSlug request.slug))
  let registrySettings ← orFail 500 (Prog.invoke (.getRegistryDetailsForApp a.id))
  let app ← orFail 500 (Prog.invoke (.getApp a.id))
  let downstreams ← orFail 500 (Prog.invoke (.listDownstreamsForApp a.id))
  orFailNil 500 (Prog.invoke (.renderDir archiveDir app downstreams registrySettings))
  let newSequence ← orFail 500 (Prog.invoke (.createAppVersion a.id a.currentSequence archiveDir "KOTS Upload" false))
  checkUnless request.skipPreflights (Prog.invoke (.preflightRun a.id a.slug newSequence a.isAirgap archiveDir))
  checkUnless (!request.deploy) (Prog.invoke (.deployVersion a.id newSequence))
  json 200 (.upload ⟨a.slug⟩)

/-- `UploadExistingApp(w, r)` for the form value `metadata` of `r`. The removal of the temporary
    file is deferred only once the copy has succeeded, and the removal of the archive once it
    is unpacked; deferred calls run last in, first out. -/
def uploadExistingApp (metadata : String) : HandlerM Unit := do
  let (uploadExistingAppRequest, tmpFile) ← receive metadata
  Handler.deferred
    (do
      let archiveDir ← orFail 500 (Prog.invoke (.extractArchiveToTempDirectory tmpFile))
      Handler.deferred (stageUpload uploadExistingAppRequest archiveDir)
        (do let _ ← Prog.invoke (.removeAll archiveDir)))
    (do let _ ← Prog.invoke (.removeAll tmpFile))

end Kots.Handlers
