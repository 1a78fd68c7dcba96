import Kots.Cli.InstallRuns

namespace Kots.Cli

open Kots.Effect

def namespaceOf : Event → Option String
  | ⟨.deploy deployOptions, _⟩ => some deployOptions.targetNamespace
  | ⟨.waitForKotsadm targetNamespace _, _⟩ => some targetNamespace
  | ⟨.portForward _ _ targetNamespace _, _⟩ => some targetNamespace
  | _ => none

def removalOf : Event → Option String
  | ⟨.removeAll path, _⟩ => some path
  | _ => none

def createdOf : Event → Option String
  | ⟨.tempDir .., .ok rootDir⟩ => some rootDir
  | _ => none

def Call.preparing : Call → Bool
  | .promptForNamespace _ | .setOverrides .. | .pullApplicationMetadata _ | .parseLicenseFromFile _
  | .parseConfigValuesFromFile _ => true
  | _ => false

section Prepare

variable {labelText : LabelValueError → String} {expandDir : String → String} {flags : InstallFlags}
  {upstream : String} {t : List Event}

theorem TargetRun.preparing {r : Except Exit String} (target : TargetRun labelText flags upstream t r) :
    ∀ e ∈ t, e.1.preparing := by
  cases target <;> simp [Call.preparing]

theorem ParseRun.preparing {α : Type} {message path : String} {event : String → Except String α → Event}
    {r : Except Exit (Option α)} (calls : ∀ p a, (event p a).1.preparing) (parse : ParseRun message path event t r) :
    ∀ e ∈ t, e.1.preparing := by
  cases parse with
  | unset => exact List.forall_mem_nil _
  | failed _ err => exact List.forall_mem_singleton.mpr (calls _ _)
  | parsed _ a => exact List.forall_mem_singleton.mpr (calls _ _)

theorem PrepareRun.preparing {r : Except Exit DeployOptions} (prepare : PrepareRun labelText expandDir flags upstream t r) :
    ∀ e ∈ t, e.1.preparing := by
  have license : ∀ {tl rl}, ParseRun "failed to parse license file" flags.licenseFile (licenseEvent expandDir) tl rl →
      ∀ e ∈ tl, e.1.preparing := fun parse => parse.preparing fun _ _ => by exact rfl
  have config : ∀ {tc rc}, ParseRun "failed to parse config values" flags.configValues (configEvent expandDir) tc rc →
      ∀ e ∈ tc, e.1.preparing := fun parse => parse.preparing fun _ _ => by exact rfl
  have pulled : ∀ m, ∀ e ∈ pulled flags upstream m, e.1.preparing := fun _ => by simp [pulled, Call.preparing]
  cases prepare with
  | targetFailed _ _ target => exact target.preparing
  | metadataFailed _ _ target => exact List.forall_mem_append.mpr ⟨target.preparing, pulled _⟩
  | licenseFailed _ _ target _ _ _ licensed =>
    exact List.forall_mem_append.mpr ⟨target.preparing, List.forall_mem_append.mpr ⟨pulled _, license licensed⟩⟩
  | configFailed _ _ target _ _ _ licensed _ _ configured | prepared _ _ target _ _ _ licensed _ _ configured =>
    exact List.forall_mem_append.mpr ⟨target.preparing, List.forall_mem_append.mpr ⟨pulled _,
      List.forall_mem_append.mpr ⟨license licensed, config configured⟩⟩⟩

theorem filterMap_eq_nil_of_preparing {β : Type} {f : Event → Option β}
    (ignores : ∀ e : Event, e.1.preparing → f e = none) (preparing : ∀ e ∈ t, e.1.preparing) : t.filterMap f = [] :=
  List.filterMap_eq_nil_iff.mpr fun e member => ignores e (preparing e member)

theorem PrepareRun.quiet {r : Except Exit DeployOptions} (prepare : PrepareRun labelText expandDir flags upstream t r) :
    t.filterMap namespaceOf = [] ∧ t.filterMap removalOf = [] ∧ t.filterMap createdOf = [] := by
  refine ⟨filterMap_eq_nil_of_preparing ?_ prepare.preparing, filterMap_eq_nil_of_preparing ?_ prepare.preparing,
    filterMap_eq_nil_of_preparing ?_ prepare.preparing⟩ <;>
  rintro ⟨_ | _, _⟩ preparing <;> first | rfl | cases preparing

theorem TargetRun.accepted {targetNamespace : String}
    (target : TargetRun labelText flags upstream t (.ok targetNamespace)) :
    acceptedNamespace targetNamespace ∧ (flags.targetNamespace ≠ "" → targetNamespace = flags.targetNamespace) := by
  cases target with
  | flagAccepted given accepted =>
    exact ⟨(validate_eq_none_iff _).mp ((checkNamespaceFlag_eq_validate given).symm.trans accepted), fun _ => rfl⟩
  | prompted empty value ends =>
    obtain ⟨inputs, prompted⟩ := ends
    exact ⟨(validate_eq_none_iff _).mp (promptForNamespace_validated prompted), fun given => absurd empty given⟩

theorem installTarget_agrees_installNamespace (value : String) (err : NamespaceError) :
    ((∃ t, TargetRun labelText flags upstream t (.ok value)) ↔
      ∃ inputs, installNamespace flags.targetNamespace inputs = .ok (some value)) ∧
    ∀ inputs, installNamespace flags.targetNamespace inputs = .error err →
      TargetRun labelText flags upstream [] (.error (.error (err.message labelText))) := by
  simp only [installNamespace_eq_ok, installNamespace_eq_error]
  refine ⟨⟨fun ⟨t, target⟩ => ?_, fun ⟨inputs, installed⟩ => ?_⟩,
    fun _ ⟨given, rejected⟩ => .flagRejected given err rejected⟩
  · cases target with
    | flagAccepted given accepted => exact ⟨[], .inl ⟨given, accepted, rfl⟩⟩
    | prompted empty value ends =>
      obtain ⟨inputs, prompted⟩ := ends
      exact ⟨inputs, .inr ⟨empty, prompted⟩⟩
  · rcases installed with ⟨given, accepted, rfl⟩ | ⟨empty, prompted⟩
    · exact ⟨[], .flagAccepted given accepted⟩
    · exact ⟨_, .prompted empty value ⟨inputs, prompted⟩⟩

theorem PrepareRun.accepted {deployOptions : DeployOptions}
    (prepare : PrepareRun labelText expandDir flags upstream t (.ok deployOptions)) :
    acceptedNamespace deployOptions.targetNamespace ∧
      (flags.targetNamespace ≠ "" → deployOptions.targetNamespace = flags.targetNamespace) := by
  cases prepare with
  | prepared _ _ target => exact target.accepted

theorem ExitRun.keeps_root_dir (exiting : ExitRun labelText expandDir flags upstream t) :
    t.filterMap removalOf = [] ∧ ∃ rootDir, t.filterMap createdOf = [rootDir] := by
  cases exiting with
  | interrupted rootDir => exact ⟨rfl, rootDir, rfl⟩
  | forwardLost rootDir t deployOptions prepare =>
    obtain ⟨-, removals, created⟩ := prepare.quiet
    exact ⟨by simp [removals, deployed, removalOf], rootDir, by simp [created, deployed, createdOf]⟩

end Prepare

section Forward

variable {flags : InstallFlags} {deployOptions : DeployOptions} {t : List Event} {r : Except Exit Unit}

theorem ForwardRun.acts (forward : ForwardRun flags deployOptions t r) :
    (∀ ns ∈ t.filterMap namespaceOf, ns = deployOptions.targetNamespace) ∧ t.filterMap removalOf = [] ∧
      t.filterMap createdOf = [] := by
  cases forward with
  | forwarded podName adminConsolePort =>
    cases flags.portForward <;> simp [deployed, namespaceOf, removalOf, createdOf]
  | _ => simp [deployed, namespaceOf, removalOf, createdOf]

end Forward

def failureOf : Event → Option (String × String)
  | ⟨.tempDir .., .error err⟩ => some ("failed to create temp dir", err)
  | ⟨.promptForNamespace _, .error err⟩ => some ("failed to prompt for namespace", err)
  | ⟨.pullApplicationMetadata _, .error err⟩ => some ("failed to pull app metadata", err)
  | ⟨.parseLicenseFromFile _, .error err⟩ => some ("failed to parse license file", err)
  | ⟨.parseConfigValuesFromFile _, .error err⟩ => some ("failed to parse config values", err)
  | ⟨.deploy _, some err⟩ => some ("failed to deploy", err)
  | ⟨.getClientset, .error err⟩ => some ("failed to get clientset", err)
  | ⟨.waitForKotsadm .., .error err⟩ => some ("failed to wait for web", err)
  | ⟨.portForward .., .error err⟩ => some ("failed to forward port", err)
  | _ => none

def Reports (labelText : LabelValueError → String) (flags : InstallFlags) {α : Type} (t : List Event)
    (r : Except Exit α) : Prop :=
  t.filterMap failureOf = [] ∧ ((∃ a, r = .ok a) ∨ ∃ err, flags.targetNamespace ≠ "" ∧
      checkNamespaceFlag flags.targetNamespace = some err ∧ r = .error (.error (err.message labelText))) ∨
    ∃ message err, t.filterMap failureOf = [(message, err)] ∧ r = .error (.error (message ++ ": " ++ err))

section Failures

variable {labelText : LabelValueError → String} {expandDir : String → String} {flags : InstallFlags}
  {upstream : String} {t : List Event} {α β : Type}

theorem Reports.ok (quiet : t.filterMap failureOf = []) (a : α) : Reports labelText flags t (.ok a) :=
  .inl ⟨quiet, .inl ⟨a, rfl⟩⟩

theorem Reports.failed (message : String) {err : String} (failed : t.filterMap failureOf = [(message, err)]) :
    Reports labelText flags t (.error (.error (message ++ ": " ++ err)) : Except Exit α) :=
  .inr ⟨message, err, failed, rfl⟩

theorem Reports.quiet {a : α} (reports : Reports labelText flags t (.ok a)) : t.filterMap failureOf = [] := by
  rcases reports with ⟨quiet, _⟩ | ⟨_, _, _, ⟨⟩⟩
  exact quiet

theorem Reports.error_cast {e : Exit} (reports : Reports labelText flags t (.error e : Except Exit α)) :
    Reports labelText flags t (.error e : Except Exit β) := by
  rcases reports with ⟨quiet, ⟨_, ⟨⟩⟩ | ⟨err, given, rejected, ⟨⟩⟩⟩ | ⟨message, err, failed, ⟨⟩⟩
  · exact .inl ⟨quiet, .inr ⟨err, given, rejected, rfl⟩⟩
  · exact .inr ⟨message, err, failed, rfl⟩

theorem Reports.prepend {t₀ : List Event} {r : Except Exit α} (quiet : t₀.filterMap failureOf = [])
    (reports : Reports labelText flags t r) : Reports labelText flags (t₀ ++ t) r := by
  simpa only [Reports, List.filterMap_append, quiet, List.nil_append] using reports

theorem Reports.cons {e : Event} {r : Except Exit α} (quiet : failureOf e = none)
    (reports : Reports labelText flags t r) : Reports labelText flags (e :: t) r := by
  simpa only [Reports, List.filterMap_cons_none quiet] using reports

theorem Reports.append {t₁ : List Event} {r : Except Exit α} (reports : Reports labelText flags t r)
    (quiet : t₁.filterMap failureOf = []) : Reports labelText flags (t ++ t₁) r := by
  simpa only [Reports, List.filterMap_append, quiet, List.append_nil] using reports

theorem TargetRun.reports {r : Except Exit String} (target : TargetRun labelText flags upstream t r) :
    Reports labelText flags t r := by
  cases target with
  | flagRejected given err rejected => exact .inl ⟨rfl, .inr ⟨err, given, rejected, rfl⟩⟩
  | flagAccepted => exact Reports.ok (by exact rfl) _
  | promptFailed _ err => exact Reports.failed "failed to prompt for namespace" rfl
  | prompted => exact Reports.ok (by exact rfl) _

theorem ParseRun.reports {message path : String} {event : String → Except String α → Event}
    {r : Except Exit (Option α)} (failing : ∀ p err, failureOf (event p (.error err)) = some (message, err))
    (passing : ∀ p a, failureOf (event p (.ok a)) = none) (parse : ParseRun message path event t r) :
    Reports labelText flags t r := by
  cases parse with
  | unset => exact Reports.ok (by exact rfl) _
  | failed _ err => exact Reports.failed message (by rw [List.filterMap_cons_some (failing _ _)]; rfl)
  | parsed _ a => exact Reports.ok (by rw [List.filterMap_cons_none (passing _ _)]; rfl) _

theorem PrepareRun.reports {r : Except Exit DeployOptions} (prepare : PrepareRun labelText expandDir flags upstream t r) :
    Reports labelText flags t r := by
  have license : ∀ {tl rl}, ParseRun "failed to parse license file" flags.licenseFile (licenseEvent expandDir) tl rl →
      Reports labelText flags tl rl := ParseRun.reports (fun _ _ => rfl) fun _ _ => rfl
  have config : ∀ {tc rc}, ParseRun "failed to parse config values" flags.configValues (configEvent expandDir) tc rc →
      Reports labelText flags tc rc := ParseRun.reports (fun _ _ => rfl) fun _ _ => rfl
  cases prepare with
  | targetFailed _ _ target => exact target.reports.error_cast
  | metadataFailed _ _ target err =>
    exact Reports.prepend target.reports.quiet (Reports.failed "failed to pull app metadata" rfl)
  | licenseFailed _ _ target _ _ _ licensed =>
    exact Reports.prepend target.reports.quiet (Reports.prepend rfl (license licensed).error_cast)
  | configFailed _ _ target _ _ _ licensed _ _ configured =>
    exact Reports.prepend target.reports.quiet (Reports.prepend rfl
      (Reports.prepend (license licensed).quiet (config configured).error_cast))
  | prepared _ _ target _ _ _ licensed _ _ configured =>
    exact Reports.prepend target.reports.quiet (Reports.prepend rfl
      (Reports.prepend (license licensed).quiet (Reports.ok (config configured).quiet _)))

theorem ForwardRun.reports {deployOptions : DeployOptions} {r : Except Exit Unit}
    (forward : ForwardRun flags deployOptions t r) : Reports labelText flags t r := by
  cases forward with
  | deployFailed => exact Reports.failed "failed to deploy" rfl
  | clientsetFailed => exact Reports.failed "failed to get clientset" rfl
  | waitFailed => exact Reports.failed "failed to wait for web" rfl
  | forwardFailed => exact Reports.failed "failed to forward port" rfl
  | forwarded => exact Reports.ok (by cases flags.portForward <;> rfl) ()

theorem InstallRun.reports {r : Except Exit Unit} (run : InstallRun labelText expandDir flags upstream t r) :
    Reports labelText flags t r := by
  cases run with
  | tempDirFailed => exact Reports.failed "failed to create temp dir" rfl
  | notPrepared rootDir t e prepare => exact Reports.cons rfl (prepare.reports.error_cast.append rfl)
  | ran rootDir t deployOptions prepare t' r forward =>
    exact Reports.cons rfl (Reports.prepend prepare.reports.quiet (forward.reports.append rfl))

end Failures

section RunE

variable {rewriteUpstream expandDir : String → String} {labelText : LabelValueError → String}
  {flags : InstallFlags} {upstream : String} {t : List Event} {r : Except Exit Unit}

theorem InstallRun.acts (run : InstallRun labelText expandDir flags upstream t r) :
    (∀ ns ∈ t.filterMap namespaceOf, acceptedNamespace ns ∧
      (flags.targetNamespace ≠ "" → ns = flags.targetNamespace) ∧ ∀ ns' ∈ t.filterMap namespaceOf, ns' = ns) ∧
    t.filterMap removalOf = t.filterMap createdOf := by
  cases run with
  | tempDirFailed err => exact ⟨(fun _ none => nomatch none), rfl⟩
  | notPrepared rootDir t e prepare removed =>
    obtain ⟨namespaces, removals, created⟩ := prepare.quiet
    simp only [List.filterMap_cons, List.filterMap_append, namespaces, removals, created, namespaceOf, removalOf,
      createdOf]
    exact ⟨(fun _ none => nomatch none), rfl⟩
  | ran rootDir t deployOptions prepare t' r forward removed =>
    obtain ⟨namespaces, removals, created⟩ := prepare.quiet
    obtain ⟨inNamespace, forwardRemovals, forwardCreated⟩ := forward.acts
    simp only [List.filterMap_cons, List.filterMap_append, List.filterMap_nil, List.nil_append, List.append_nil,
      namespaces, removals, created, forwardRemovals, forwardCreated, namespaceOf, removalOf, createdOf]
    refine ⟨fun ns member => ?_, trivial⟩
    obtain rfl := inNamespace ns member
    exact ⟨prepare.accepted.1, prepare.accepted.2, inNamespace⟩

def installing : (c : Call) → Option c.Response
  | .exit _ => none
  | .help | .setOverrides .. | .awaitInterrupt => some ()
  | .tempDir .. => some (.ok "kotsadm1")
  | .removeAll _ => some none
  | .promptForNamespace _ => some (.ok ⟨.entered "my.app", [.submit "my.app"], rfl⟩)
  | .pullApplicationMetadata _ => some (.ok ⟨"metadata"⟩)
  | .parseLicenseFromFile _ => some (.ok ⟨"license"⟩)
  | .parseConfigValuesFromFile _ => some (.ok ⟨"values"⟩)
  | .deploy _ => some none
  | .getClientset => some (.ok ())
  | .waitForKotsadm .. => some (.ok "kotsadm-0")
  | .portForward .. => some (.ok 8800)
  | .awaitForwardError => some none

def installed (flags : InstallFlags) : List Event × Except Exit Unit :=
  (Prog.execPartial installing (Prod.fst <$> ((runE id id (fun _ => "") flags ["replicated://app"]).run).run ())).getD
    ([], .ok ())

def interruptedInstall : List Event :=
  [⟨.tempDir "" "kotsadm", .ok "kotsadm1"⟩,
    ⟨.promptForNamespace "replicated://app", .ok ⟨.interrupted, [.interrupt], rfl⟩⟩]

/-- Every run of `kots install` ends as its error says: with no failed call it returns nil or
    rejects the `--namespace` flag; otherwise exactly one call failed, and the error returned is
    the message of that call's step followed by the call's own error. -/
theorem runE_reports_failed_call {args : List String}
    (run : Prog.Run (Prod.fst <$> ((runE rewriteUpstream expandDir labelText flags args).run).run ()) t r) :
    Reports labelText flags t r := by
  obtain ⟨_, _, _, installing⟩ := InstallRun.of_run run
  exact installing.reports

theorem install_reports_failed_call : Reports (fun _ => "") {} (installed {}).1 (installed {}).2 :=
  runE_reports_failed_call (Prog.execPartial_run
    (show Prog.execPartial installing (Prod.fst <$> ((runE id id (fun _ => "") {} ["replicated://app"]).run).run ()) =
      some ((installed {}).1, (installed {}).2) from rfl))

end RunE

end Kots.Cli
