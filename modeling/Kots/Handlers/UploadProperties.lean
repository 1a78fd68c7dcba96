import Kots.Handlers.UploadRuns

namespace Kots.Handlers

open Kots.Effect
open Kots.UpdateChecker (App Downstream)

def Call.staging : Call → Bool
  | .loadKotsKindsFromPath _ | .encryptConfigValues _ | .marshal .. | .writeFile .. | .getAppFromSlug _
  | .getRegistryDetailsForApp _ | .getApp _ | .listDownstreamsForApp _ | .renderDir .. | .createAppVersion ..
  | .preflightRun .. | .deployVersion .. | .writeHeader _ | .json .. => true
  | _ => false

def Call.versioning : Call → Bool
  | .createAppVersion .. | .preflightRun .. | .deployVersion .. => true
  | _ => false

def removalOf : Event → Option String
  | ⟨.removeAll path, _⟩ => some path
  | _ => none

def copiedOf : Event → Option String
  | ⟨.copy tmpFile _, none⟩ => some tmpFile
  | _ => none

def extractedOf : Event → Option String
  | ⟨.extractArchiveToTempDirectory _, .ok archiveDir⟩ => some archiveDir
  | _ => none

section Frame

variable {archiveDir : String} {t : List Event} {r : Except Unit Unit}

theorem staging_of_all {l : List Event} (all : (l.all fun e => e.1.staging) = true) : ∀ e ∈ l, e.1.staging :=
  fun e member => List.all_eq_true.mp all e member

theorem not_mem_of_all_not {l : List Event} {p : Event → Bool} (all : (l.all fun e => !p e) = true) {e : Event}
    (holds : p e = true) : e ∉ l := fun member => by
  simpa [holds] using List.all_eq_true.mp all e member

theorem ConfigRun.staging {kotsKinds : KotsKinds} (config : ConfigRun archiveDir kotsKinds t r) :
    ∀ e ∈ t, e.1.staging := by
  cases config <;> exact staging_of_all rfl

theorem staging_append {l₁ l₂ : List Event} (first : ∀ e ∈ l₁, e.1.staging) (second : ∀ e ∈ l₂, e.1.staging) :
    ∀ e ∈ l₁ ++ l₂, e.1.staging :=
  List.forall_mem_append.mpr ⟨first, second⟩

theorem GuardRun.staging {skip : Bool} {call : Option String → Event} (calls : ∀ err, (call err).1.staging)
    (guard : GuardRun skip call t r) : ∀ e ∈ t, e.1.staging := by
  cases guard with
  | skipped => exact List.forall_mem_nil _
  | passed => exact List.forall_mem_singleton.mpr (calls none)
  | failed _ err => exact List.forall_mem_cons.mpr ⟨calls (some err), List.forall_mem_singleton.mpr rfl⟩

theorem StageRun.staging {request : UploadExistingAppRequest} (stage : StageRun request archiveDir t r) :
    ∀ e ∈ t, e.1.staging := by
  have preflight : ∀ a n err, (preflightCall a n archiveDir err).1.staging := fun _ _ _ => rfl
  have deploy : ∀ a n err, (deployCall a n err).1.staging := fun _ _ _ => rfl
  have calls : ∀ request a registrySettings app downstreams n,
      ∀ e ∈ versioned archiveDir request a registrySettings app downstreams n, e.1.staging :=
    fun _ _ _ _ _ _ => staging_of_all rfl
  cases stage with
  | kindsFailed => exact staging_of_all rfl
  | configFailed _ _ config => exact List.forall_mem_cons.mpr ⟨rfl, config.staging⟩
  | appFailed _ _ config | registryFailed _ _ config | reloadFailed _ _ config | downstreamsFailed _ _ config
  | renderFailed _ _ config | createFailed _ _ config =>
    exact List.forall_mem_cons.mpr ⟨rfl, staging_append config.staging (staging_of_all rfl)⟩
  | preflightFailed _ _ config _ _ _ _ _ _ guard =>
    exact List.forall_mem_cons.mpr
      ⟨rfl, staging_append config.staging (staging_append (calls _ _ _ _ _ _) (guard.staging (preflight _ _)))⟩
  | deployFailed _ _ config _ _ _ _ _ _ checked _ guard =>
    exact List.forall_mem_cons.mpr ⟨rfl, staging_append config.staging (staging_append (calls _ _ _ _ _ _)
      (staging_append (checked.staging (preflight _ _)) (guard.staging (deploy _ _))))⟩
  | uploaded _ _ config _ _ _ _ _ _ checked _ guard =>
    exact List.forall_mem_cons.mpr ⟨rfl, staging_append config.staging (staging_append (calls _ _ _ _ _ _)
      (staging_append (checked.staging (preflight _ _)) (staging_append (guard.staging (deploy _ _))
        (List.forall_mem_singleton.mpr rfl))))⟩

theorem filterMap_eq_nil_of_staging {β : Type} {f : Event → Option β} (ignores : ∀ e : Event, e.1.staging → f e = none)
    (staging : ∀ e ∈ t, e.1.staging) : t.filterMap f = [] :=
  List.filterMap_eq_nil_iff.mpr fun e member => ignores e (staging e member)

theorem StageRun.temporaries {request : UploadExistingAppRequest} (stage : StageRun request archiveDir t r) :
    t.filterMap removalOf = [] ∧ t.filterMap extractedOf = [] ∧ t.filterMap copiedOf = [] := by
  refine ⟨filterMap_eq_nil_of_staging ?_ stage.staging, filterMap_eq_nil_of_staging ?_ stage.staging,
    filterMap_eq_nil_of_staging ?_ stage.staging⟩ <;>
  rintro ⟨_ | _, _⟩ staging <;> first | rfl | cases staging

end Frame

section Responses

variable {archiveDir : String} {t : List Event} {r : Except Unit Unit}

abbrev errorResponses (status : Nat) {α : Type} : Except Unit α → List (Nat × Option Body)
  | .ok _ => []
  | .error _ => [(status, none)]

theorem ConfigRun.responses {kotsKinds : KotsKinds} (config : ConfigRun archiveDir kotsKinds t r) :
    t.filterMap responseOf = errorResponses 500 r := by
  cases config <;> rfl

theorem GuardRun.responses {skip : Bool} {call : Option String → Event} (quiet : ∀ err, responseOf (call err) = none)
    (guard : GuardRun skip call t r) : t.filterMap responseOf = errorResponses 500 r := by
  cases guard with
  | skipped => rfl
  | passed => rw [List.filterMap_cons_none (quiet _)]; rfl
  | failed _ err => rw [List.filterMap_cons_none (quiet _)]; rfl

theorem StageRun.responds {request : UploadExistingAppRequest} (stage : StageRun request archiveDir t r) :
    r = .error () ∧ t.filterMap responseOf = [(500, none)] ∨
      r = .ok () ∧ ∃ slug, t.filterMap responseOf = [(200, some (.upload ⟨slug⟩))] := by
  have preflight : ∀ a n err, responseOf (preflightCall a n archiveDir err) = none := fun _ _ _ => rfl
  have deploy : ∀ a n err, responseOf (deployCall a n err) = none := fun _ _ _ => rfl
  cases stage with
  | kindsFailed => exact .inl ⟨rfl, rfl⟩
  | configFailed _ _ config => exact .inl ⟨rfl, config.responses⟩
  | appFailed _ _ config | registryFailed _ _ config | reloadFailed _ _ config | downstreamsFailed _ _ config
  | renderFailed _ _ config | createFailed _ _ config =>
    refine .inl ⟨rfl, ?_⟩
    simp only [List.filterMap_cons, List.filterMap_append, config.responses]
    rfl
  | preflightFailed _ _ config _ _ _ _ _ _ checked =>
    refine .inl ⟨rfl, ?_⟩
    simp only [List.filterMap_cons, List.filterMap_append, config.responses, checked.responses (preflight _ _)]
    rfl
  | deployFailed _ _ config _ _ _ _ _ _ checked _ guard =>
    refine .inl ⟨rfl, ?_⟩
    simp only [List.filterMap_cons, List.filterMap_append, config.responses, checked.responses (preflight _ _),
      guard.responses (deploy _ _)]
    rfl
  | uploaded _ _ config a _ _ _ _ _ checked _ guard =>
    refine .inr ⟨rfl, a.slug, ?_⟩
    simp only [List.filterMap_cons, List.filterMap_append, config.responses, checked.responses (preflight _ _),
      guard.responses (deploy _ _)]
    rfl

theorem ReceiveRun.responses {metadata : String} {r : Except Unit (UploadExistingAppRequest × String)}
    (receive : ReceiveRun metadata t r) :
    (∃ err, t = [⟨.requireValidKOTSToken, some err⟩]) ∨
      ∃ status, status ≠ 200 ∧ t.filterMap responseOf = errorResponses status r := by
  cases receive with
  | unauthorized err => exact .inl ⟨err, rfl⟩
  | badMetadata => exact .inr ⟨400, by decide, rfl⟩
  | _ => exact .inr ⟨500, by decide, rfl⟩

theorem ReceiveRun.quiet {metadata : String} {received : UploadExistingAppRequest × String}
    (receive : ReceiveRun metadata t (.ok received)) : t.filterMap responseOf = [] := by
  cases receive
  rfl

theorem ReceiveRun.statuses {metadata : String} {r : Except Unit (UploadExistingAppRequest × String)}
    (receive : ReceiveRun metadata t r) :
    ((400, none) ∈ t.filterMap responseOf ↔ ∃ err, (⟨.decodeMetadata metadata, .error err⟩ : Event) ∈ t) ∧
      ∀ p ∈ t.filterMap responseOf, p = (400, none) ∨ p = (500, none) := by
  cases receive <;> simp [accepted, responseOf, Sigma.mk.inj_iff]

theorem ReceiveRun.undecoded {metadata : String} {received : UploadExistingAppRequest × String}
    (receive : ReceiveRun metadata t (.ok received)) (err : String) :
    (⟨.decodeMetadata metadata, .error err⟩ : Event) ∉ t := by
  cases receive
  simp [accepted, Sigma.mk.inj_iff]

theorem responses_staged_upload {t' : List Event} {tmpFile archiveDir : String} {removedDir removedFile : Option String}
    (quiet : t.filterMap responseOf = []) :
    List.filterMap responseOf (t ++ ⟨.extractArchiveToTempDirectory tmpFile, .ok archiveDir⟩ :: (t' ++
      [⟨.removeAll archiveDir, removedDir⟩, ⟨.removeAll tmpFile, removedFile⟩])) =
      t'.filterMap responseOf := by
  simp [quiet, responseOf]

end Responses

section Deploys

variable {archiveDir appID : String} {sequence : Int} {err : Option String} {t : List Event} {r : Except Unit Unit}

theorem GuardRun.mem {skip : Bool} {call : Option String → Event} (guard : GuardRun skip call t r) {e : Event}
    (member : e ∈ t) : skip = false ∧ ((∃ err, e = call err) ∨ e = ⟨.writeHeader 500, ()⟩) := by
  cases guard with
  | skipped => cases member
  | passed checked => exact ⟨checked, .inl ⟨none, List.mem_singleton.mp member⟩⟩
  | failed checked err =>
    rcases List.mem_cons.mp member with rfl | rest
    · exact ⟨checked, .inl ⟨_, rfl⟩⟩
    · exact ⟨checked, .inr (List.mem_singleton.mp rest)⟩

theorem GuardRun.ran {skip : Bool} {call : Option String → Event} (guard : GuardRun skip call t (.ok ())) :
    skip = true ∨ call none ∈ t := by
  cases guard with
  | skipped skipped => exact .inl skipped
  | passed => exact .inr (List.mem_singleton_self _)

theorem ConfigRun.unversioned {kotsKinds : KotsKinds} (config : ConfigRun archiveDir kotsKinds t r) {e : Event}
    (versioning : e.1.versioning) : e ∉ t :=
  not_mem_of_all_not (show (t.all fun e => !e.1.versioning) = true by cases config <;> rfl) versioning

theorem ReceiveRun.unversioned {metadata : String} {r : Except Unit (UploadExistingAppRequest × String)}
    (receive : ReceiveRun metadata t r) {e : Event} (versioning : e.1.versioning) : e ∉ t :=
  not_mem_of_all_not (show (t.all fun e => !e.1.versioning) = true by cases receive <;> rfl) versioning

theorem ConfigRun.not_deployed {kotsKinds : KotsKinds} (config : ConfigRun archiveDir kotsKinds t r) :
    (⟨.deployVersion appID sequence, err⟩ : Event) ∉ t :=
  config.unversioned rfl

theorem ReceiveRun.not_deployed {metadata : String} {r : Except Unit (UploadExistingAppRequest × String)}
    (receive : ReceiveRun metadata t r) : (⟨.deployVersion appID sequence, err⟩ : Event) ∉ t := by
  cases receive <;> simp [accepted, Sigma.mk.inj_iff]

theorem ReceiveRun.decoded {metadata tmpFile : String} {request : UploadExistingAppRequest}
    (receive : ReceiveRun metadata t (.ok (request, tmpFile))) :
    (⟨.decodeMetadata metadata, .ok request⟩ : Event) ∈ t := by
  cases receive
  simp [accepted]

theorem StageRun.deploys {request : UploadExistingAppRequest} (stage : StageRun request archiveDir t r)
    (deployed : (⟨.deployVersion appID sequence, err⟩ : Event) ∈ t) :
    request.deploy = true ∧
      (∃ currentSequence,
        (⟨.createAppVersion appID currentSequence archiveDir "KOTS Upload" false, .ok sequence⟩ : Event) ∈ t) ∧
      (request.skipPreflights = true ∨
        ∃ slug isAirgap, (⟨.preflightRun appID slug sequence isAirgap archiveDir, none⟩ : Event) ∈ t) := by
  have unchecked : ∀ {tp rp a n}, GuardRun request.skipPreflights (preflightCall a n archiveDir) tp rp →
      (⟨.deployVersion appID sequence, err⟩ : Event) ∉ tp := fun preflight member => by
    rcases (preflight.mem member).2 with ⟨_, call⟩ | call <;> simp [preflightCall, Sigma.mk.inj_iff] at call
  cases stage with
  | kindsFailed => simp [Sigma.mk.inj_iff] at deployed
  | configFailed _ _ config | appFailed _ _ config | registryFailed _ _ config | reloadFailed _ _ config
  | downstreamsFailed _ _ config | renderFailed _ _ config | createFailed _ _ config =>
    simp [config.not_deployed, looked, Sigma.mk.inj_iff] at deployed
  | preflightFailed _ _ config _ _ _ _ _ _ preflight =>
    simp [config.not_deployed, unchecked preflight, versioned, looked, Sigma.mk.inj_iff] at deployed
  | deployFailed _ _ config a _ _ _ newSequence _ preflight _ guard
  | uploaded _ _ config a _ _ _ newSequence _ preflight _ guard =>
    simp [config.not_deployed, unchecked preflight, versioned, looked, Sigma.mk.inj_iff] at deployed
    obtain ⟨checked, call⟩ := guard.mem deployed
    obtain ⟨rfl, rfl⟩ : appID = a.id ∧ sequence = newSequence := by
      rcases call with ⟨_, call⟩ | call <;> simp [deployCall, Sigma.mk.inj_iff] at call
      exact call.1
    refine ⟨by simpa using checked, ⟨a.currentSequence, by simp [versioned]⟩, ?_⟩
    rcases preflight.ran with skipped | passed
    · exact .inl skipped
    · simp only [preflightCall] at passed
      exact .inr ⟨a.slug, a.isAirgap, by simp [passed]⟩

theorem StageRun.ok_iff {request : UploadExistingAppRequest} (stage : StageRun request archiveDir t r) :
    r = .ok () ↔ ∃ appID sequence dir, (∃ currentSequence,
        (⟨.createAppVersion appID currentSequence dir "KOTS Upload" false, .ok sequence⟩ : Event) ∈ t) ∧
      (request.skipPreflights = false →
        ∃ slug isAirgap, (⟨.preflightRun appID slug sequence isAirgap dir, none⟩ : Event) ∈ t) ∧
      (request.deploy = true → (⟨.deployVersion appID sequence, none⟩ : Event) ∈ t) := by
  cases stage with
  | uploaded _ _ config a _ _ _ newSequence _ preflight _ deploy =>
    refine iff_of_true rfl ⟨a.id, newSequence, archiveDir, ⟨a.currentSequence, by simp [versioned]⟩,
      fun checked => ?_, fun deploying => ?_⟩
    · have passed := preflight.ran.resolve_left (by simp [checked])
      simp only [preflightCall] at passed
      exact ⟨a.slug, a.isAirgap, by simp [passed]⟩
    · have deployed := deploy.ran.resolve_left (by simp [deploying])
      simp only [deployCall] at deployed
      simp [deployed]
  | kindsFailed => exact iff_of_false (by rintro ⟨⟩) fun ⟨_, _, _, ⟨_, created⟩, _⟩ => by simp [Sigma.mk.inj_iff] at created
  | configFailed _ _ config | appFailed _ _ config | registryFailed _ _ config | reloadFailed _ _ config
  | downstreamsFailed _ _ config | renderFailed _ _ config | createFailed _ _ config =>
    refine iff_of_false (by rintro ⟨⟩) fun ⟨_, _, _, ⟨_, created⟩, _⟩ => ?_
    simp [config.unversioned, Call.versioning, looked, Sigma.mk.inj_iff] at created
  | preflightFailed _ _ config _ _ _ _ _ _ preflight =>
    refine iff_of_false (by rintro ⟨⟩) fun ⟨_, _, _, _, passed, _⟩ => ?_
    cases preflight with
    | failed checked =>
      obtain ⟨_, _, member⟩ := passed checked
      simp [config.unversioned, Call.versioning, versioned, looked, preflightCall, Sigma.mk.inj_iff] at member
  | deployFailed _ _ config _ _ _ _ _ _ preflight _ deploy =>
    refine iff_of_false (by rintro ⟨⟩) fun ⟨_, _, _, _, _, deployed⟩ => ?_
    cases deploy with
    | failed checked =>
      have member := deployed (by simpa using checked)
      cases preflight <;>
        simp [config.unversioned, Call.versioning, versioned, looked, preflightCall, deployCall, Sigma.mk.inj_iff]
          at member

end Deploys

section Upload

variable {metadata : String} {t : List Event} {r : Except Unit Unit}

theorem mem_staged_upload {t' : List Event} {tmpFile archiveDir : String} {removedDir removedFile : Option String}
    {e : Event} (member : e ∈ t ++ ⟨.extractArchiveToTempDirectory tmpFile, .ok archiveDir⟩ :: (t' ++
      [⟨.removeAll archiveDir, removedDir⟩, ⟨.removeAll tmpFile, removedFile⟩])) :
    e ∈ t ∨ e.1 = .extractArchiveToTempDirectory tmpFile ∨ e ∈ t' ∨ ∃ path, e.1 = .removeAll path := by
  simp only [List.mem_append, List.mem_cons, List.mem_singleton, List.not_mem_nil, or_false] at member
  rcases member with received | rfl | staged | rfl | rfl
  · exact .inl received
  · exact .inr (.inl rfl)
  · exact .inr (.inr (.inl staged))
  · exact .inr (.inr (.inr ⟨_, rfl⟩))
  · exact .inr (.inr (.inr ⟨_, rfl⟩))

theorem mem_upload_of_staged {t' : List Event} {tmpFile archiveDir : String} {removedDir removedFile : Option String}
    {e : Event} (staged : e ∈ t') : e ∈ t ++ ⟨.extractArchiveToTempDirectory tmpFile, .ok archiveDir⟩ :: (t' ++
      [⟨.removeAll archiveDir, removedDir⟩, ⟨.removeAll tmpFile, removedFile⟩]) :=
  List.mem_append_right _ (List.mem_cons_of_mem _ (List.mem_append_left _ staged))

theorem ReceiveRun.staged_of_versioning {received : UploadExistingAppRequest × String} {t' : List Event}
    {tmpFile archiveDir : String} {removedDir removedFile : Option String} (receive : ReceiveRun metadata t (.ok received))
    {e : Event} (versioning : e.1.versioning)
    (member : e ∈ t ++ ⟨.extractArchiveToTempDirectory tmpFile, .ok archiveDir⟩ :: (t' ++
      [⟨.removeAll archiveDir, removedDir⟩, ⟨.removeAll tmpFile, removedFile⟩])) : e ∈ t' := by
  rcases mem_staged_upload member with received | extracting | staged | ⟨_, removing⟩
  · exact absurd received (receive.unversioned versioning)
  · rw [extracting] at versioning
    cases versioning
  · exact staged
  · rw [removing] at versioning
    cases versioning

theorem ReceiveRun.temporaries {r : Except Unit (UploadExistingAppRequest × String)}
    (receive : ReceiveRun metadata t r) :
    t.filterMap removalOf = [] ∧ t.filterMap extractedOf = [] ∧
      t.filterMap copiedOf = match r with
        | .ok (_, tmpFile) => [tmpFile]
        | .error _ => [] := by
  cases receive <;> exact ⟨rfl, rfl, rfl⟩

/-- The upload removes the temporary paths it keeps and nothing else, each once: the unpacked
    archive, then the temporary file. A temporary file whose copy failed is not among them. -/
theorem uploadExistingApp_removes_temporaries (run : Prog.Run (uploadExistingApp metadata).run t r) :
    t.filterMap removalOf = t.filterMap extractedOf ++ t.filterMap copiedOf := by
  cases UploadRun.of_run run with
  | rejected t receive =>
    obtain ⟨removed, extracted, copied⟩ := receive.temporaries
    rw [removed, extracted, copied]
    rfl
  | extractFailed t request tmpFile receive err removed =>
    obtain ⟨removed, extracted, copied⟩ := receive.temporaries
    simp only [List.filterMap_append, removed, extracted, copied]
    rfl
  | extracted t request tmpFile receive archiveDir t' r stage removedDir removedFile =>
    obtain ⟨removed, extracted, copied⟩ := receive.temporaries
    obtain ⟨removedStaged, extractedStaged, copiedStaged⟩ := stage.temporaries
    simp only [List.filterMap_append, List.filterMap_cons, removed, extracted, copied, removedStaged,
      extractedStaged, copiedStaged]
    rfl

def deployedUpload : List Event × Except Unit Unit :=
  Prog.exec (accepting ⟨"app", true, false⟩ ⟨"1", "app", false, 1, "@hourly"⟩ none) (uploadExistingApp "metadata").run

theorem deployed_upload_removes_temporaries :
    deployedUpload.1.filterMap removalOf = deployedUpload.1.filterMap extractedOf ++ deployedUpload.1.filterMap copiedOf :=
  uploadExistingApp_removes_temporaries (Prog.exec_run _ _)

/-- Every upload writes exactly one response, with status 200 exactly when it goes through;
    only a rejected KOTS token, which `requireValidKOTSToken` answers itself, ends it without one. -/
theorem uploadExistingApp_responds_once (run : Prog.Run (uploadExistingApp metadata).run t r) :
    (∃ err, t = [⟨.requireValidKOTSToken, some err⟩]) ∨
      ∃ status body, t.filterMap responseOf = [(status, body)] ∧ (r = .ok () ↔ status = 200) := by
  cases UploadRun.of_run run with
  | rejected t receive =>
    refine receive.responses.imp_right fun ⟨status, failing, responses⟩ => ⟨status, none, responses, ?_⟩
    exact iff_of_false (by rintro ⟨⟩) failing
  | extractFailed t request tmpFile receive =>
    refine .inr ⟨500, none, ?_, by simp⟩
    simp only [List.filterMap_append, receive.quiet]
    rfl
  | extracted t request tmpFile receive archiveDir t' r stage =>
    rw [responses_staged_upload receive.quiet]
    rcases stage.responds with ⟨rfl, staged⟩ | ⟨rfl, _, staged⟩
    · exact .inr ⟨500, none, staged, by simp⟩
    · exact .inr ⟨200, _, staged, iff_of_true rfl rfl⟩

theorem deployed_upload_responds_once :
    (∃ err, deployedUpload.1 = [⟨.requireValidKOTSToken, some err⟩]) ∨
      ∃ status body, deployedUpload.1.filterMap responseOf = [(status, body)] ∧
        (deployedUpload.2 = .ok () ↔ status = 200) :=
  uploadExistingApp_responds_once (Prog.exec_run _ _)

/-- An upload goes through exactly when its metadata decodes, a version is created,
    `preflight.Run` returns no error for that version unless the metadata skips preflights, and the
    version is deployed when the metadata asks for a deploy. -/
theorem uploadExistingApp_ok_iff (run : Prog.Run (uploadExistingApp metadata).run t r) :
    r = .ok () ↔ ∃ request, (⟨.decodeMetadata metadata, .ok request⟩ : Event) ∈ t ∧
      ∃ appID sequence archiveDir, (∃ currentSequence,
        (⟨.createAppVersion appID currentSequence archiveDir "KOTS Upload" false, .ok sequence⟩ : Event) ∈ t) ∧
      (request.skipPreflights = false →
        ∃ slug isAirgap, (⟨.preflightRun appID slug sequence isAirgap archiveDir, none⟩ : Event) ∈ t) ∧
      (request.deploy = true → (⟨.deployVersion appID sequence, none⟩ : Event) ∈ t) := by
  cases UploadRun.of_run run with
  | rejected t receive =>
    exact iff_of_false (by rintro ⟨⟩) fun ⟨_, _, _, _, _, ⟨_, created⟩, _⟩ => absurd created (receive.unversioned rfl)
  | extractFailed t request tmpFile receive =>
    refine iff_of_false (by rintro ⟨⟩) fun ⟨_, _, _, _, _, ⟨_, created⟩, _⟩ => ?_
    rcases List.mem_append.mp created with received | extracting
    · exact absurd received (receive.unversioned rfl)
    · simp [Sigma.mk.inj_iff] at extracting
  | extracted t request tmpFile receive archiveDir t' r stage =>
    rw [stage.ok_iff]
    constructor
    · rintro ⟨appID, sequence, dir, ⟨currentSequence, created⟩, passed, deployed⟩
      exact ⟨request, List.mem_append_left _ receive.decoded, appID, sequence, dir,
        ⟨currentSequence, mem_upload_of_staged created⟩,
        fun checked => (passed checked).imp fun _ => .imp fun _ => mem_upload_of_staged,
        fun deploying => mem_upload_of_staged (deployed deploying)⟩
    · rintro ⟨request', decoded, appID, sequence, dir, ⟨currentSequence, created⟩, passed, deployed⟩
      obtain rfl : request' = request := by
        rcases mem_staged_upload decoded with received | extracting | staged | ⟨_, removing⟩
        · cases receive
          simp [accepted, Sigma.mk.inj_iff] at received
          exact Except.ok.inj received
        · cases extracting
        · cases stage.staging _ staged
        · cases removing
      exact ⟨appID, sequence, dir, ⟨currentSequence, receive.staged_of_versioning rfl created⟩,
        fun checked => (passed checked).imp fun _ => .imp fun _ => receive.staged_of_versioning rfl,
        fun deploying => receive.staged_of_versioning rfl (deployed deploying)⟩

theorem deployed_upload_ok_iff :
    deployedUpload.2 = .ok () ↔ ∃ request, (⟨.decodeMetadata "metadata", .ok request⟩ : Event) ∈ deployedUpload.1 ∧
      ∃ appID sequence archiveDir, (∃ currentSequence,
        (⟨.createAppVersion appID currentSequence archiveDir "KOTS Upload" false, .ok sequence⟩ : Event) ∈
          deployedUpload.1) ∧
      (request.skipPreflights = false →
        ∃ slug isAirgap, (⟨.preflightRun appID slug sequence isAirgap archiveDir, none⟩ : Event) ∈ deployedUpload.1) ∧
      (request.deploy = true → (⟨.deployVersion appID sequence, none⟩ : Event) ∈ deployedUpload.1) :=
  uploadExistingApp_ok_iff (Prog.exec_run _ _)

end Upload

end Kots.Handlers
