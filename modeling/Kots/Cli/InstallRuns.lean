import Kots.Cli.InstallRun

namespace Kots.Cli

open Kots.Effect

section Tables

variable (labelText : LabelValueError → String) (expandDir : String → String) (flags : InstallFlags)
  (upstream : String)

inductive TargetRun : List Event → Except Exit String → Prop
  | flagRejected (given : flags.targetNamespace ≠ "") (err : NamespaceError)
      (rejected : checkNamespaceFlag flags.targetNamespace = some err) :
      TargetRun [] (.error (.error (err.message labelText)))
  | flagAccepted (given : flags.targetNamespace ≠ "") (accepted : checkNamespaceFlag flags.targetNamespace = none) :
      TargetRun [] (.ok flags.targetNamespace)
  | promptFailed (empty : flags.targetNamespace = "") (err : String) :
      TargetRun [⟨.promptForNamespace upstream, .error err⟩]
        (.error (.error ("failed to prompt for namespace: " ++ err)))
  | prompted (empty : flags.targetNamespace = "") (value : String)
      (ends : ∃ inputs, promptForNamespace inputs = some (.entered value)) :
      TargetRun [⟨.promptForNamespace upstream, .ok ⟨.entered value, ends⟩⟩] (.ok value)

inductive ParseRun {α : Type} (message path : String) (event : String → Except String α → Event) :
    List Event → Except Exit (Option α) → Prop
  | unset (empty : path = "") : ParseRun message path event [] (.ok none)
  | failed (given : path ≠ "") (err : String) :
      ParseRun message path event [event path (.error err)] (.error (.error (message ++ ": " ++ err)))
  | parsed (given : path ≠ "") (a : α) : ParseRun message path event [event path (.ok a)] (.ok (some a))

def licenseEvent (path : String) (answer : Except String License) : Event :=
  ⟨.parseLicenseFromFile (expandDir path), answer⟩

def configEvent (path : String) (answer : Except String ConfigValues) : Event :=
  ⟨.parseConfigValuesFromFile (expandDir path), answer⟩

def pulled (applicationMetadata : Except String ApplicationMetadata) : List Event :=
  [⟨.setOverrides flags.kotsadmTag flags.kotsadmRegistry flags.kotsadmNamespace, ()⟩,
    ⟨.pullApplicationMetadata upstream, applicationMetadata⟩]

inductive PrepareRun : List Event → Except Exit DeployOptions → Prop
  | targetFailed (tn : List Event) (e : Exit) (target : TargetRun labelText flags upstream tn (.error e)) :
      PrepareRun tn (.error e)
  | metadataFailed (tn : List Event) (targetNamespace : String)
      (target : TargetRun labelText flags upstream tn (.ok targetNamespace)) (err : String) :
      PrepareRun (tn ++ pulled flags upstream (.error err)) (.error (.error ("failed to pull app metadata: " ++ err)))
  | licenseFailed (tn : List Event) (targetNamespace : String)
      (target : TargetRun labelText flags upstream tn (.ok targetNamespace)) (applicationMetadata : ApplicationMetadata)
      (tl : List Event) (e : Exit)
      (license : ParseRun "failed to parse license file" flags.licenseFile (licenseEvent expandDir) tl (.error e)) :
      PrepareRun (tn ++ (pulled flags upstream (.ok applicationMetadata) ++ tl)) (.error e)
  | configFailed (tn : List Event) (targetNamespace : String)
      (target : TargetRun labelText flags upstream tn (.ok targetNamespace)) (applicationMetadata : ApplicationMetadata)
      (tl : List Event) (license : Option License)
      (licensed : ParseRun "failed to parse license file" flags.licenseFile (licenseEvent expandDir) tl (.ok license))
      (tc : List Event) (e : Exit)
      (config : ParseRun "failed to parse config values" flags.configValues (configEvent expandDir) tc (.error e)) :
      PrepareRun (tn ++ (pulled flags upstream (.ok applicationMetadata) ++ (tl ++ tc))) (.error e)
  | prepared (tn : List Event) (targetNamespace : String)
      (target : TargetRun labelText flags upstream tn (.ok targetNamespace)) (applicationMetadata : ApplicationMetadata)
      (tl : List Event) (license : Option License)
      (licensed : ParseRun "failed to parse license file" flags.licenseFile (licenseEvent expandDir) tl (.ok license))
      (tc : List Event) (configValues : Option ConfigValues)
      (configured : ParseRun "failed to parse config values" flags.configValues (configEvent expandDir) tc
        (.ok configValues)) :
      PrepareRun (tn ++ (pulled flags upstream (.ok applicationMetadata) ++ (tl ++ tc)))
        (.ok (deployOptions (withStorageDefaults flags) targetNamespace applicationMetadata license configValues))

def deployed (deployOptions : DeployOptions) : List Event :=
  [⟨.deploy deployOptions, none⟩, ⟨.getClientset, .ok ()⟩]

inductive ForwardRun (deployOptions : DeployOptions) : List Event → Except Exit Unit → Prop
  | deployFailed (err : String) :
      ForwardRun deployOptions [⟨.deploy deployOptions, some err⟩] (.error (.error ("failed to deploy: " ++ err)))
  | clientsetFailed (err : String) :
      ForwardRun deployOptions [⟨.deploy deployOptions, none⟩, ⟨.getClientset, .error err⟩]
        (.error (.error ("failed to get clientset: " ++ err)))
  | waitFailed (err : String) :
      ForwardRun deployOptions (deployed deployOptions ++ [⟨.waitForKotsadm deployOptions.targetNamespace 180, .error err⟩])
        (.error (.error ("failed to wait for web: " ++ err)))
  | forwardFailed (podName err : String) :
      ForwardRun deployOptions
        (deployed deployOptions ++ [⟨.waitForKotsadm deployOptions.targetNamespace 180, .ok podName⟩,
          ⟨.portForward 8800 3000 deployOptions.targetNamespace podName, .error err⟩])
        (.error (.error ("failed to forward port: " ++ err)))
  | forwarded (podName : String) (adminConsolePort : Nat) :
      ForwardRun deployOptions
        (deployed deployOptions ++ (⟨.waitForKotsadm deployOptions.targetNamespace 180, .ok podName⟩ ::
          ⟨.portForward 8800 3000 deployOptions.targetNamespace podName, .ok adminConsolePort⟩ ::
          ⟨.awaitForwardError, none⟩ :: if flags.portForward then [⟨.awaitInterrupt, ()⟩] else []))
        (.ok ())

inductive InstallRun : List Event → Except Exit Unit → Prop
  | tempDirFailed (err : String) :
      InstallRun [⟨.tempDir "" "kotsadm", .error err⟩] (.error (.error ("failed to create temp dir: " ++ err)))
  | notPrepared (rootDir : String) (t : List Event) (e : Exit)
      (prepare : PrepareRun labelText expandDir flags upstream t (.error e)) (removed : Option String) :
      InstallRun (⟨.tempDir "" "kotsadm", .ok rootDir⟩ :: (t ++ [⟨.removeAll rootDir, removed⟩])) (.error e)
  | ran (rootDir : String) (t : List Event) (deployOptions : DeployOptions)
      (prepare : PrepareRun labelText expandDir flags upstream t (.ok deployOptions)) (t' : List Event)
      (r : Except Exit Unit) (forward : ForwardRun flags deployOptions t' r) (removed : Option String) :
      InstallRun (⟨.tempDir "" "kotsadm", .ok rootDir⟩ :: (t ++ (t' ++ [⟨.removeAll rootDir, removed⟩]))) r

end Tables

section Derivations

variable {labelText : LabelValueError → String} {expandDir : String → String} {flags : InstallFlags}
  {upstream : String}

theorem wp_osExit {α : Type} (code : Int) (Q : List Event → Except Exit α → Unit → Prop) :
    Go.wp (osExit code : InstallM α) () Q := by
  simp only [osExit, Go.wp_bind, Go.wp_lift, Prog.wp_invoke, Go.after_ok]
  exact fun exited => exited.elim

theorem wp_installTarget (Q : List Event → Except Exit String → Unit → Prop)
    (h : ∀ t r, TargetRun labelText flags upstream t r → Q t r ()) :
    Go.wp (installTarget labelText flags upstream) () Q := by
  unfold installTarget
  split
  · rename_i given
    split
    · rename_i err rejected
      exact h _ _ (.flagRejected given err rejected)
    · rename_i accepted
      exact h _ _ (.flagAccepted given accepted)
  · rename_i empty
    simp only [Go.wp_bind, Go.wp_check, Prog.wp_invoke, Call.Response, forall_except, Go.checked, Go.after_error,
      Go.after_ok, Go.wp_pure, List.append_nil]
    refine ⟨fun err => h _ _ (.promptFailed (not_not.mp empty) err), fun ⟨e, ends⟩ => ?_⟩
    cases e with
    | entered value => exact h _ _ (.prompted (not_not.mp empty) value ends)
    | interrupted => exact wp_osExit _ _

theorem wp_parseIfSet {α : Type} (message path : String) (event : String → Except String α → Event)
    (parse : String → InstallM α)
    (invoked : ∀ Q : List Event → Except Exit α → Unit → Prop,
      Go.wp (parse path) () Q ↔ ∀ r, Q [event path r] (Go.checked message r) ())
    (Q : List Event → Except Exit (Option α) → Unit → Prop) (h : ∀ t r, ParseRun message path event t r → Q t r ()) :
    Go.wp (parseIfSet path parse) () Q := by
  unfold parseIfSet
  split
  · rename_i given
    rw [Go.wp_bind, invoked]
    intro r
    cases r with
    | error err => exact h _ _ (.failed given err)
    | ok a => exact h _ _ (.parsed given a)
  · rename_i empty
    exact h _ _ (.unset (not_not.mp empty))

theorem wp_prepare (Q : List Event → Except Exit DeployOptions → Unit → Prop)
    (h : ∀ t r, PrepareRun labelText expandDir flags upstream t r → Q t r ()) :
    Go.wp (prepare labelText expandDir flags upstream) () Q := by
  simp only [prepare, Go.wp_bind]
  refine wp_installTarget _ fun tn rn target => ?_
  cases rn with
  | error e => exact h _ _ (.targetFailed tn e target)
  | ok targetNamespace =>
    simp only [Go.after_ok, Go.wp_bind, Go.wp_lift, Go.wp_check, Prog.wp_invoke, Call.Response, forall_except,
      Go.checked, Go.after_error, List.append_assoc, List.singleton_append]
    intro _
    refine ⟨fun err => h _ _ (.metadataFailed tn targetNamespace target err), fun applicationMetadata => ?_⟩
    refine wp_parseIfSet _ _ (licenseEvent expandDir) _ (fun _ => by exact Iff.rfl) _ fun tl rl licensed => ?_
    cases rl with
    | error e => exact h _ _ (.licenseFailed tn targetNamespace target applicationMetadata tl e licensed)
    | ok license =>
      simp only [Go.after_ok, Go.wp_bind]
      refine wp_parseIfSet _ _ (configEvent expandDir) _ (fun _ => by exact Iff.rfl) _ fun tc rc configured => ?_
      cases rc with
      | error e =>
        simpa only [Go.after_error, List.append_assoc] using
          h _ _ (.configFailed tn targetNamespace target applicationMetadata tl license licensed tc e configured)
      | ok configValues =>
        simpa only [Go.after_ok, Go.wp_pure, List.append_nil, List.append_assoc] using
          h _ _ (.prepared tn targetNamespace target applicationMetadata tl license licensed tc configValues configured)

theorem wp_deployAndForward (deployOptions : DeployOptions) (Q : List Event → Except Exit Unit → Unit → Prop)
    (h : ∀ t r, ForwardRun flags deployOptions t r → Q t r ()) : Go.wp (deployAndForward flags deployOptions) () Q := by
  simp only [deployAndForward, Go.wp_bind, Go.wp_checkNil, Go.wp_check, Prog.wp_invoke, Call.Response,
    forall_except, Option.forall, Go.checked, Go.after_error, Go.after_ok, List.singleton_append, List.cons_append]
  refine ⟨?_, fun err => h _ _ (.deployFailed err)⟩
  refine ⟨fun err => h _ _ (.clientsetFailed err), fun _ => ⟨fun err => h _ _ (.waitFailed err), fun podName =>
    ⟨fun err => h _ _ (.forwardFailed podName err), fun adminConsolePort => ?_⟩⟩⟩
  simp only [Go.wp_lift, Prog.wp_invoke, Go.after_ok]
  rintro (_ | _)
  · have forwarded := h _ _ (.forwarded podName adminConsolePort)
    revert forwarded
    cases flags.portForward with
    | true => simpa using fun forwarded (_ : Unit) => forwarded
    | false => exact id
  · exact wp_osExit _ _

variable {rewriteUpstream : String → String}

theorem wp_runE (upstreamURI : String) (rest : List String) (Q : List Event → Except Exit Unit → Unit → Prop)
    (h : ∀ t r, InstallRun labelText expandDir flags (rewriteUpstream upstreamURI) t r → Q t r ()) :
    Go.wp (runE rewriteUpstream expandDir labelText flags (upstreamURI :: rest)) () Q := by
  simp only [runE, Go.wp_bind, Go.wp_check, Prog.wp_invoke, Call.Response, forall_except, Go.checked,
    Go.after_error, Go.after_ok, Go.wp_deferred, List.singleton_append]
  refine ⟨fun err => h _ _ (.tempDirFailed err), fun rootDir => ?_⟩
  refine wp_prepare _ fun t r prepare => ?_
  cases r with
  | error e =>
    simp only [Go.after_error, wp_removeRootDir]
    exact fun removed => h _ _ (.notPrepared rootDir t e prepare removed)
  | ok deployOptions =>
    simp only [Go.after_ok]
    refine wp_deployAndForward _ _ fun t' r forward => ?_
    simp only [wp_removeRootDir, List.append_assoc]
    exact fun removed => h _ _ (.ran rootDir t deployOptions prepare t' r forward removed)

theorem wp_runE_nil (Q : List Event → Except Exit Unit → Unit → Prop) :
    Go.wp (runE rewriteUpstream expandDir labelText flags []) () Q := by
  simp only [runE, Go.wp_bind, Go.wp_lift, Prog.wp_invoke, Go.after_ok]
  exact fun _ => wp_osExit _ _

theorem InstallRun.of_run {args : List String} {t : List Event} {r : Except Exit Unit}
    (run : Prog.Run (Prod.fst <$> ((runE rewriteUpstream expandDir labelText flags args).run).run ()) t r) :
    ∃ upstreamURI rest, args = upstreamURI :: rest ∧
      InstallRun labelText expandDir flags (rewriteUpstream upstreamURI) t r := by
  refine (Prog.wp_iff _ (fun t r => ∃ upstreamURI rest, args = upstreamURI :: rest ∧
    InstallRun labelText expandDir flags (rewriteUpstream upstreamURI) t r)).mp ?_ t r run
  rw [Go.wp_run]
  cases args with
  | nil => exact wp_runE_nil _
  | cons upstreamURI rest => exact wp_runE _ _ _ fun _ _ h => ⟨upstreamURI, rest, rfl, h⟩

end Derivations

def exitsAs (P : List Event → Int → Prop) (t : List Event) (c : Call) : Prop :=
  ∀ code, c = .exit code → P t code

section Exits

variable (labelText : LabelValueError → String) (expandDir : String → String) (flags : InstallFlags)
  (upstream : String)

/-- How `RunE`, given an upstream, ends in `os.Exit(-1)` once the temporary directory is made: the
    prompt for the namespace is interrupted, or the port forward fails before the deferred calls
    have run. -/
inductive ExitRun : List Event → Prop
  | interrupted (rootDir : String) (empty : flags.targetNamespace = "")
      (ends : ∃ inputs, promptForNamespace inputs = some .interrupted) :
      ExitRun [⟨.tempDir "" "kotsadm", .ok rootDir⟩, ⟨.promptForNamespace upstream, .ok ⟨.interrupted, ends⟩⟩]
  | forwardLost (rootDir : String) (t : List Event) (deployOptions : DeployOptions)
      (prepare : PrepareRun labelText expandDir flags upstream t (.ok deployOptions)) (podName : String)
      (adminConsolePort : Nat) (err : String) :
      ExitRun (⟨.tempDir "" "kotsadm", .ok rootDir⟩ :: (t ++ (deployed deployOptions ++
        [⟨.waitForKotsadm deployOptions.targetNamespace 180, .ok podName⟩,
          ⟨.portForward 8800 3000 deployOptions.targetNamespace podName, .ok adminConsolePort⟩,
          ⟨.awaitForwardError, some err⟩])))

end Exits

section ExitDerivations

variable {labelText : LabelValueError → String} {expandDir : String → String} {flags : InstallFlags}
  {upstream : String}

theorem waits_osExit {α : Type} (code : Int) (Q : List Event → Call → Prop) :
    Go.waits (osExit code : InstallM α) () Q ↔ Q [] (.exit code) := by
  simp only [osExit, Go.waits_bind, Go.waits_lift, Prog.waits_invoke, Go.wp_lift, Prog.wp_invoke]
  exact ⟨And.left, fun h => ⟨h, fun exited => exited.elim⟩⟩

theorem waits_installTarget (P : List Event → Int → Prop)
    (h : ∀ ends, flags.targetNamespace = "" → P [⟨.promptForNamespace upstream, .ok ⟨.interrupted, ends⟩⟩] (-1)) :
    Go.waits (installTarget labelText flags upstream) () (exitsAs P) := by
  unfold installTarget
  split
  · split <;> trivial
  · rename_i empty
    simp only [Go.waits_bind, Go.waits_check, Prog.waits_invoke, Go.wp_check, Prog.wp_invoke, Go.checked_eq_ok]
    refine ⟨fun _ exit => (nomatch exit), fun r ended same => ?_⟩
    subst same
    obtain ⟨e, ends⟩ := ended
    cases e with
    | entered value => trivial
    | interrupted =>
      refine (waits_osExit _ _).mpr fun code exit => ?_
      cases exit
      simpa using h ends (not_not.mp empty)

theorem waits_prepare (P : List Event → Int → Prop)
    (h : ∀ ends, flags.targetNamespace = "" → P [⟨.promptForNamespace upstream, .ok ⟨.interrupted, ends⟩⟩] (-1)) :
    Go.waits (prepare labelText expandDir flags upstream) () (exitsAs P) := by
  simp only [prepare, Go.waits_bind]
  refine ⟨waits_installTarget P h, wp_installTarget _ fun tn r _ targetNamespace same => ?_⟩
  simp [parseIfSet, exitsAs, Go.waits_ite, Go.wp_true]

theorem waits_deployAndForward (deployOptions : DeployOptions) (P : List Event → Int → Prop)
    (h : ∀ podName adminConsolePort err, P (deployed deployOptions ++
      [⟨.waitForKotsadm deployOptions.targetNamespace 180, .ok podName⟩,
        ⟨.portForward 8800 3000 deployOptions.targetNamespace podName, .ok adminConsolePort⟩,
        ⟨.awaitForwardError, some err⟩]) (-1)) :
    Go.waits (deployAndForward flags deployOptions) () (exitsAs P) := by
  simp [deployAndForward, exitsAs, Go.wp_true]
  rintro (_ | _) _ same
  · rintro ⟨⟩ _ podName rfl adminConsolePort (_ | err)
    · cases flags.portForward <;> simp
    · refine (waits_osExit _ _).mpr fun code exit => ?_
      cases exit
      simpa [deployed] using h podName adminConsolePort err
  · cases same

variable {rewriteUpstream : String → String}

theorem waits_runE (upstreamURI : String) (rest : List String) :
    Go.waits (runE rewriteUpstream expandDir labelText flags (upstreamURI :: rest)) ()
      (exitsAs fun t code => code = -1 ∧ ExitRun labelText expandDir flags (rewriteUpstream upstreamURI) t) := by
  simp only [runE, Go.waits_bind, Go.waits_check, Go.waits_deferred, Prog.waits_invoke, Go.wp_check,
    Prog.wp_invoke, Go.checked_eq_ok]
  refine ⟨fun _ exit => (nomatch exit), fun r rootDir same => ?_⟩
  subst same
  refine ⟨⟨waits_prepare _ fun ends empty => ⟨rfl, .interrupted rootDir empty ends⟩,
    wp_prepare _ fun t r prepare deployOptions same => ?_⟩, ?_⟩
  · subst same
    exact waits_deployAndForward _ _ fun podName adminConsolePort err =>
      ⟨rfl, by simpa using ExitRun.forwardLost rootDir t deployOptions prepare podName adminConsolePort err⟩
  · exact Prog.wp_mono (Go.wp_true _ _) fun _ _ _ => by simp [removeRootDir, StateT.lift, exitsAs]

theorem waits_runE_nil :
    Go.waits (runE rewriteUpstream expandDir labelText flags []) () (exitsAs fun t code => code = 1 ∧ t = [⟨.help, ()⟩]) := by
  simp only [runE, Go.waits_bind, Go.waits_lift, Prog.waits_invoke, Go.wp_lift, Prog.wp_invoke]
  refine ⟨fun _ exit => (nomatch exit), fun _ _ _ => (waits_osExit _ _).mpr fun code exit => ?_⟩
  cases exit
  exact ⟨rfl, rfl⟩

theorem exit_of_steps {args : List String} {t : List Event} {code : Int}
    {k : Call.Response (.exit code) → Prog (Except Exit Unit)}
    (exited : Prog.Steps (Prod.fst <$> ((runE rewriteUpstream expandDir labelText flags args).run).run ()) t
      (.call (.exit code) k)) :
    args = [] ∧ code = 1 ∧ t = [⟨.help, ()⟩] ∨ ∃ upstreamURI rest, args = upstreamURI :: rest ∧ code = -1 ∧
      ExitRun labelText expandDir flags (rewriteUpstream upstreamURI) t := by
  refine (Prog.waits_iff _ (exitsAs fun t code => args = [] ∧ code = 1 ∧ t = [⟨.help, ()⟩] ∨
    ∃ upstreamURI rest, args = upstreamURI :: rest ∧ code = -1 ∧
      ExitRun labelText expandDir flags (rewriteUpstream upstreamURI) t)).mp ?_ t _ k exited code rfl
  rw [Go.waits_run]
  cases args with
  | nil => exact Prog.waits_mono waits_runE_nil fun _ _ exits code exit => .inl ⟨rfl, exits code exit⟩
  | cons upstreamURI rest =>
    exact Prog.waits_mono (waits_runE upstreamURI rest) fun _ _ exits code exit =>
      .inr ⟨upstreamURI, rest, rfl, exits code exit⟩

end ExitDerivations

end Kots.Cli
