import Kots.Handlers.Upload

namespace Kots.Handlers

open Kots.Effect
open Kots.UpdateChecker (App Downstream)

def accepted (metadata : String) (request : UploadExistingAppRequest) : List Event :=
  [⟨.requireValidKOTSToken, none⟩, ⟨.decodeMetadata metadata, .ok request⟩]

inductive ReceiveRun (metadata : String) : List Event → Except Unit (UploadExistingAppRequest × String) → Prop
  | unauthorized (err : String) : ReceiveRun metadata [⟨.requireValidKOTSToken, some err⟩] (.error ())
  | badMetadata (err : String) :
      ReceiveRun metadata
        [⟨.requireValidKOTSToken, none⟩, ⟨.decodeMetadata metadata, .error err⟩, ⟨.writeHeader 400, ()⟩] (.error ())
  | noFile (request : UploadExistingAppRequest) (err : String) :
      ReceiveRun metadata (accepted metadata request ++ [⟨.formFile "file", .error err⟩, ⟨.writeHeader 500, ()⟩])
        (.error ())
  | noTempFile (request : UploadExistingAppRequest) (archive err : String) :
      ReceiveRun metadata
        (accepted metadata request ++
          [⟨.formFile "file", .ok archive⟩, ⟨.tempFile "" "kotsadm", .error err⟩, ⟨.writeHeader 500, ()⟩])
        (.error ())
  | copyFailed (request : UploadExistingAppRequest) (archive tmpFile err : String) :
      ReceiveRun metadata
        (accepted metadata request ++
          [⟨.formFile "file", .ok archive⟩, ⟨.tempFile "" "kotsadm", .ok tmpFile⟩, ⟨.copy tmpFile archive, some err⟩,
            ⟨.writeHeader 500, ()⟩])
        (.error ())
  | received (request : UploadExistingAppRequest) (archive tmpFile : String) :
      ReceiveRun metadata
        (accepted metadata request ++
          [⟨.formFile "file", .ok archive⟩, ⟨.tempFile "" "kotsadm", .ok tmpFile⟩, ⟨.copy tmpFile archive, none⟩])
        (.ok (request, tmpFile))

inductive ConfigRun (archiveDir : String) (kotsKinds : KotsKinds) : List Event → Except Unit Unit → Prop
  | unset (none : kotsKinds.configValues = none) : ConfigRun archiveDir kotsKinds [] (.ok ())
  | encryptFailed (set : kotsKinds.configValues.isSome) (err : String) :
      ConfigRun archiveDir kotsKinds [⟨.encryptConfigValues kotsKinds, .error err⟩, ⟨.writeHeader 500, ()⟩] (.error ())
  | marshalFailed (set : kotsKinds.configValues.isSome) (encrypted : KotsKinds) (err : String) :
      ConfigRun archiveDir kotsKinds
        [⟨.encryptConfigValues kotsKinds, .ok encrypted⟩,
          ⟨.marshal encrypted "kots.io" "v1beta1" "ConfigValues", .error err⟩, ⟨.writeHeader 500, ()⟩]
        (.error ())
  | writeFailed (set : kotsKinds.configValues.isSome) (encrypted : KotsKinds) (updated err : String) :
      ConfigRun archiveDir kotsKinds
        [⟨.encryptConfigValues kotsKinds, .ok encrypted⟩,
          ⟨.marshal encrypted "kots.io" "v1beta1" "ConfigValues", .ok updated⟩,
          ⟨.writeFile [archiveDir, "upstream", "userdata", "config.yaml"] updated, some err⟩, ⟨.writeHeader 500, ()⟩]
        (.error ())
  | written (set : kotsKinds.configValues.isSome) (encrypted : KotsKinds) (updated : String) :
      ConfigRun archiveDir kotsKinds
        [⟨.encryptConfigValues kotsKinds, .ok encrypted⟩,
          ⟨.marshal encrypted "kots.io" "v1beta1" "ConfigValues", .ok updated⟩,
          ⟨.writeFile [archiveDir, "upstream", "userdata", "config.yaml"] updated, none⟩]
        (.ok ())

inductive GuardRun (skip : Bool) (call : Option String → Event) : List Event → Except Unit Unit → Prop
  | skipped (skipped : skip = true) : GuardRun skip call [] (.ok ())
  | passed (checked : skip = false) : GuardRun skip call [call none] (.ok ())
  | failed (checked : skip = false) (err : String) :
      GuardRun skip call [call (some err), ⟨.writeHeader 500, ()⟩] (.error ())

def looked (request : UploadExistingAppRequest) (a : App) (registrySettings : RegistrySettings) (app : App)
    (downstreams : List Downstream) : List Event :=
  [⟨.getAppFromSlug request.slug, .ok a⟩, ⟨.getRegistryDetailsForApp a.id, .ok registrySettings⟩,
    ⟨.getApp a.id, .ok app⟩, ⟨.listDownstreamsForApp a.id, .ok downstreams⟩]

def versioned (archiveDir : String) (request : UploadExistingAppRequest) (a : App) (registrySettings : RegistrySettings)
    (app : App) (downstreams : List Downstream) (newSequence : Int) : List Event :=
  looked request a registrySettings app downstreams ++
    [⟨.renderDir archiveDir app downstreams registrySettings, none⟩,
      ⟨.createAppVersion a.id a.currentSequence archiveDir "KOTS Upload" false, .ok newSequence⟩]

def preflightCall (a : App) (newSequence : Int) (archiveDir : String) (err : Option String) : Event :=
  ⟨.preflightRun a.id a.slug newSequence a.isAirgap archiveDir, err⟩

def deployCall (a : App) (newSequence : Int) (err : Option String) : Event :=
  ⟨.deployVersion a.id newSequence, err⟩

inductive StageRun (request : UploadExistingAppRequest) (archiveDir : String) : List Event → Except Unit Unit → Prop
  | kindsFailed (err : String) :
      StageRun request archiveDir [⟨.loadKotsKindsFromPath archiveDir, .error err⟩, ⟨.writeHeader 500, ()⟩] (.error ())
  | configFailed (kotsKinds : KotsKinds) (t : List Event) (config : ConfigRun archiveDir kotsKinds t (.error ())) :
      StageRun request archiveDir (⟨.loadKotsKindsFromPath archiveDir, .ok kotsKinds⟩ :: t) (.error ())
  | appFailed (kotsKinds : KotsKinds) (t : List Event) (config : ConfigRun archiveDir kotsKinds t (.ok ()))
      (err : String) :
      StageRun request archiveDir
        (⟨.loadKotsKindsFromPath archiveDir, .ok kotsKinds⟩ :: (t ++
          [⟨.getAppFromSlug request.slug, .error err⟩, ⟨.writeHeader 500, ()⟩]))
        (.error ())
  | registryFailed (kotsKinds : KotsKinds) (t : List Event) (config : ConfigRun archiveDir kotsKinds t (.ok ()))
      (a : App) (err : String) :
      StageRun request archiveDir
        (⟨.loadKotsKindsFromPath archiveDir, .ok kotsKinds⟩ :: (t ++
          [⟨.getAppFromSlug request.slug, .ok a⟩, ⟨.getRegistryDetailsForApp a.id, .error err⟩, ⟨.writeHeader 500, ()⟩]))
        (.error ())
  | reloadFailed (kotsKinds : KotsKinds) (t : List Event) (config : ConfigRun archiveDir kotsKinds t (.ok ()))
      (a : App) (registrySettings : RegistrySettings) (err : String) :
      StageRun request archiveDir
        (⟨.loadKotsKindsFromPath archiveDir, .ok kotsKinds⟩ :: (t ++
          [⟨.getAppFromSlug request.slug, .ok a⟩, ⟨.getRegistryDetailsForApp a.id, .ok registrySettings⟩,
            ⟨.getApp a.id, .error err⟩, ⟨.writeHeader 500, ()⟩]))
        (.error ())
  | downstreamsFailed (kotsKinds : KotsKinds) (t : List Event) (config : ConfigRun archiveDir kotsKinds t (.ok ()))
      (a : App) (registrySettings : RegistrySettings) (app : App) (err : String) :
      StageRun request archiveDir
        (⟨.loadKotsKindsFromPath archiveDir, .ok kotsKinds⟩ :: (t ++
          [⟨.getAppFromSlug request.slug, .ok a⟩, ⟨.getRegistryDetailsForApp a.id, .ok registrySettings⟩,
            ⟨.getApp a.id, .ok app⟩, ⟨.listDownstreamsForApp a.id, .error err⟩, ⟨.writeHeader 500, ()⟩]))
        (.error ())
  | renderFailed (kotsKinds : KotsKinds) (t : List Event) (config : ConfigRun archiveDir kotsKinds t (.ok ()))
      (a : App) (registrySettings : RegistrySettings) (app : App) (downstreams : List Downstream) (err : String) :
      StageRun request archiveDir
        (⟨.loadKotsKindsFromPath archiveDir, .ok kotsKinds⟩ :: (t ++ (looked request a registrySettings app downstreams ++
          [⟨.renderDir archiveDir app downstreams registrySettings, some err⟩, ⟨.writeHeader 500, ()⟩])))
        (.error ())
  | createFailed (kotsKinds : KotsKinds) (t : List Event) (config : ConfigRun archiveDir kotsKinds t (.ok ()))
      (a : App) (registrySettings : RegistrySettings) (app : App) (downstreams : List Downstream) (err : String) :
      StageRun request archiveDir
        (⟨.loadKotsKindsFromPath archiveDir, .ok kotsKinds⟩ :: (t ++ (looked request a registrySettings app downstreams ++
          [⟨.renderDir archiveDir app downstreams registrySettings, none⟩,
            ⟨.createAppVersion a.id a.currentSequence archiveDir "KOTS Upload" false, .error err⟩,
            ⟨.writeHeader 500, ()⟩])))
        (.error ())
  | preflightFailed (kotsKinds : KotsKinds) (t : List Event) (config : ConfigRun archiveDir kotsKinds t (.ok ()))
      (a : App) (registrySettings : RegistrySettings) (app : App) (downstreams : List Downstream)
      (newSequence : Int) (tp : List Event)
      (preflight : GuardRun request.skipPreflights (preflightCall a newSequence archiveDir) tp (.error ())) :
      StageRun request archiveDir
        (⟨.loadKotsKindsFromPath archiveDir, .ok kotsKinds⟩ :: (t ++
          (versioned archiveDir request a registrySettings app downstreams newSequence ++ tp)))
        (.error ())
  | deployFailed (kotsKinds : KotsKinds) (t : List Event) (config : ConfigRun archiveDir kotsKinds t (.ok ()))
      (a : App) (registrySettings : RegistrySettings) (app : App) (downstreams : List Downstream)
      (newSequence : Int) (tp : List Event)
      (preflight : GuardRun request.skipPreflights (preflightCall a newSequence archiveDir) tp (.ok ()))
      (td : List Event) (deploy : GuardRun (!request.deploy) (deployCall a newSequence) td (.error ())) :
      StageRun request archiveDir
        (⟨.loadKotsKindsFromPath archiveDir, .ok kotsKinds⟩ :: (t ++
          (versioned archiveDir request a registrySettings app downstreams newSequence ++ (tp ++ td))))
        (.error ())
  | uploaded (kotsKinds : KotsKinds) (t : List Event) (config : ConfigRun archiveDir kotsKinds t (.ok ()))
      (a : App) (registrySettings : RegistrySettings) (app : App) (downstreams : List Downstream)
      (newSequence : Int) (tp : List Event)
      (preflight : GuardRun request.skipPreflights (preflightCall a newSequence archiveDir) tp (.ok ()))
      (td : List Event) (deploy : GuardRun (!request.deploy) (deployCall a newSequence) td (.ok ())) :
      StageRun request archiveDir
        (⟨.loadKotsKindsFromPath archiveDir, .ok kotsKinds⟩ :: (t ++
          (versioned archiveDir request a registrySettings app downstreams newSequence ++
            (tp ++ (td ++ [⟨.json 200 (.upload ⟨a.slug⟩), ()⟩])))))
        (.ok ())

inductive UploadRun (metadata : String) : List Event → Except Unit Unit → Prop
  | rejected (t : List Event) (receive : ReceiveRun metadata t (.error ())) : UploadRun metadata t (.error ())
  | extractFailed (t : List Event) (request : UploadExistingAppRequest) (tmpFile : String)
      (receive : ReceiveRun metadata t (.ok (request, tmpFile))) (err : String) (removed : Option String) :
      UploadRun metadata
        (t ++ [⟨.extractArchiveToTempDirectory tmpFile, .error err⟩, ⟨.writeHeader 500, ()⟩,
          ⟨.removeAll tmpFile, removed⟩])
        (.error ())
  | extracted (t : List Event) (request : UploadExistingAppRequest) (tmpFile : String)
      (receive : ReceiveRun metadata t (.ok (request, tmpFile))) (archiveDir : String) (t' : List Event)
      (r : Except Unit Unit) (stage : StageRun request archiveDir t' r) (removedDir removedFile : Option String) :
      UploadRun metadata
        (t ++ ⟨.extractArchiveToTempDirectory tmpFile, .ok archiveDir⟩ :: (t' ++
          [⟨.removeAll archiveDir, removedDir⟩, ⟨.removeAll tmpFile, removedFile⟩]))
        r

theorem wp_receive (metadata : String) (Q : List Event → Except Unit (UploadExistingAppRequest × String) → Prop)
    (h : ∀ t r, ReceiveRun metadata t r → Q t r) : Handler.wp (receive metadata) Q := by
  simp only [receive, Handler.wp_bind, Handler.wp_lift, Prog.wp_invoke, Handler.after_ok, Handler.after_error, wp_orFail, wp_orFailNil,
    Handler.wp_pure, Handler.wp_throw, Call.Response, forall_except, Option.forall, List.nil_append,
    List.cons_append, List.append_nil]
  exact ⟨⟨fun err => h _ _ (.badMetadata err), fun request =>
    ⟨fun err => h _ _ (.noFile request err), fun archive =>
      ⟨fun err => h _ _ (.noTempFile request archive err), fun tmpFile =>
        ⟨h _ _ (.received request archive tmpFile), fun err => h _ _ (.copyFailed request archive tmpFile err)⟩⟩⟩⟩,
    fun err => h _ _ (.unauthorized err)⟩

theorem wp_encryptConfig (archiveDir : String) (kotsKinds : KotsKinds) (Q : List Event → Except Unit Unit → Prop)
    (h : ∀ t r, ConfigRun archiveDir kotsKinds t r → Q t r) : Handler.wp (encryptConfig archiveDir kotsKinds) Q := by
  unfold encryptConfig
  split
  · rename_i set
    simp only [Handler.wp_bind, Handler.after_ok, Handler.after_error, wp_orFail, wp_orFailNil, Prog.wp_invoke,
      Call.Response, forall_except, Option.forall, List.nil_append, List.cons_append, List.append_nil]
    exact ⟨fun err => h _ _ (.encryptFailed set err), fun encrypted =>
      ⟨fun err => h _ _ (.marshalFailed set encrypted err), fun updated =>
        ⟨h _ _ (.written set encrypted updated), fun err => h _ _ (.writeFailed set encrypted updated err)⟩⟩⟩
  · rename_i unset
    exact h _ _ (.unset (Option.not_isSome_iff_eq_none.mp unset))

theorem wp_checkUnless (skip : Bool) (call : Option String → Event) (x : Prog (Option String))
    (invoked : ∀ Q : List Event → Option String → Prop, Prog.wp x Q ↔ ∀ err, Q [call err] err)
    (Q : List Event → Except Unit Unit → Prop) (h : ∀ t r, GuardRun skip call t r → Q t r) :
    Handler.wp (checkUnless skip x) Q := by
  unfold checkUnless
  cases skip with
  | true => exact h _ _ (.skipped rfl)
  | false =>
    rw [if_neg Bool.false_ne_true, wp_orFailNil, invoked]
    intro err
    cases err with
    | none => exact h _ _ (.passed rfl)
    | some err => exact h _ _ (.failed rfl err)

theorem wp_stageUpload (request : UploadExistingAppRequest) (archiveDir : String)
    (Q : List Event → Except Unit Unit → Prop) (h : ∀ t r, StageRun request archiveDir t r → Q t r) :
    Handler.wp (stageUpload request archiveDir) Q := by
  simp only [stageUpload, Handler.wp_bind, wp_orFail, Prog.wp_invoke, Call.Response, forall_except, Handler.after_ok]
  refine ⟨fun err => h _ _ (.kindsFailed err), fun kotsKinds => ?_⟩
  refine wp_encryptConfig _ _ _ fun t r config => ?_
  cases r with
  | error => exact h _ _ (.configFailed kotsKinds t config)
  | ok =>
    simp only [Handler.after_ok, Handler.wp_bind, wp_orFail, wp_orFailNil, Prog.wp_invoke, Call.Response,
      forall_except, Option.forall, Handler.after_error, List.append_assoc, List.cons_append, List.nil_append]
    refine ⟨fun err => h _ _ (.appFailed kotsKinds t config err), fun a =>
      ⟨fun err => h _ _ (.registryFailed kotsKinds t config a err), fun registrySettings =>
        ⟨fun err => h _ _ (.reloadFailed kotsKinds t config a registrySettings err), fun app =>
          ⟨fun err => h _ _ (.downstreamsFailed kotsKinds t config a registrySettings app err), fun downstreams =>
            ⟨⟨fun err => h _ _ (.createFailed kotsKinds t config a registrySettings app downstreams err),
              fun newSequence => ?_⟩,
              fun err => h _ _ (.renderFailed kotsKinds t config a registrySettings app downstreams err)⟩⟩⟩⟩⟩
    refine wp_checkUnless _ (preflightCall a newSequence archiveDir)
      (Prog.invoke (.preflightRun a.id a.slug newSequence a.isAirgap archiveDir)) (fun _ => by exact Iff.rfl) _
      fun tp rp preflight => ?_
    cases rp with
    | error =>
      exact h _ _ (.preflightFailed kotsKinds t config a registrySettings app downstreams newSequence tp preflight)
    | ok =>
      simp only [Handler.after_ok, Handler.wp_bind]
      refine wp_checkUnless _ (deployCall a newSequence) (Prog.invoke (.deployVersion a.id newSequence))
        (fun _ => by exact Iff.rfl) _ fun td rd deploy => ?_
      cases rd with
      | error =>
        exact h _ _ (.deployFailed kotsKinds t config a registrySettings app downstreams newSequence tp preflight td
          deploy)
      | ok =>
        simp only [Handler.after_ok, wp_json]
        exact h _ _ (.uploaded kotsKinds t config a registrySettings app downstreams newSequence tp preflight td
          deploy)

theorem wp_uploadExistingApp (metadata : String) (Q : List Event → Except Unit Unit → Prop)
    (h : ∀ t r, UploadRun metadata t r → Q t r) : Handler.wp (uploadExistingApp metadata) Q := by
  simp only [uploadExistingApp, Handler.wp_bind]
  refine wp_receive _ _ fun t r receive => ?_
  cases r with
  | error => exact h _ _ (.rejected t receive)
  | ok received =>
    obtain ⟨request, tmpFile⟩ := received
    simp only [Handler.after_ok, Handler.after_error, Handler.wp_deferred, Handler.wp_bind, wp_orFail,
      Prog.wp_invoke, Call.Response, forall_except, Prog.wp_bind, Prog.wp_pure, List.append_nil,
      List.singleton_append, List.cons_append, List.append_assoc]
    exact ⟨fun err removed => h _ _ (.extractFailed t request tmpFile receive err removed), fun archiveDir =>
      wp_stageUpload _ _ _ fun t' r stage removedDir removedFile =>
        h _ _ (.extracted t request tmpFile receive archiveDir t' r stage removedDir removedFile)⟩

theorem UploadRun.of_run {metadata : String} {t : List Event} {r : Except Unit Unit}
    (run : Prog.Run (uploadExistingApp metadata).run t r) : UploadRun metadata t r :=
  (Prog.wp_iff _ _).mp (wp_uploadExistingApp _ _ fun _ _ h => h) t r run

end Kots.Handlers
