import Kots.Cli.Install
import Kots.Effect.Go

namespace Kots.Cli

open Kots.Effect

/-- The flags of `kots install` that `RunE` reads, with the defaults `cmd.Flags()` gives them.
    `targetNamespace` and `context` are the `--namespace` and `--context` flags of
    `kubernetesConfigFlags`, empty unless given. -/
structure InstallFlags where
  targetNamespace : String := ""
  context : String := ""
  sharedPassword : String := ""
  serviceType : String := "ClusterIP"
  nodePort : Int := 0
  licenseFile : String := ""
  configValues : String := ""
  portForward : Bool := true
  kotsadmTag : String := ""
  kotsadmRegistry : String := ""
  kotsadmNamespace : String := ""
  storageBaseURI : String := ""
  deployMinio : Bool := true
  deployDockerdistribution : Bool := false
  storageBaseURIPlainhttp : Bool := false
  deriving DecidableEq, Repr

structure ApplicationMetadata where
  manifest : String
  deriving DecidableEq, Repr

structure License where
  raw : String
  deriving DecidableEq, Repr

structure ConfigValues where
  raw : String
  deriving DecidableEq, Repr

structure DeployOptions where
  targetNamespace : String
  context : String
  sharedPassword : String
  serviceType : String
  nodePort : Int
  applicationMetadata : ApplicationMetadata
  license : Option License
  configValues : Option ConfigValues
  storageBaseURI : String
  storageBaseURIPlainHTTP : Bool
  includeMinio : Bool
  includeDockerDistribution : Bool
  deriving DecidableEq, Repr

inductive Call where
  | help
  | exit (code : Int)
  | tempDir (dir pattern : String)
  | removeAll (path : String)
  | promptForNamespace (upstreamURI : String)
  | setOverrides (version registry targetNamespace : String)
  | pullApplicationMetadata (upstream : String)
  | parseLicenseFromFile (path : String)
  | parseConfigValuesFromFile (path : String)
  | deploy (deployOptions : DeployOptions)
  | getClientset
  | waitForKotsadm (targetNamespace : String) (timeoutSeconds : Nat)
  | portForward (localPort remotePort : Nat) (targetNamespace podName : String)
  | awaitForwardError
  | awaitInterrupt
  deriving DecidableEq, Repr

/-- What each call gives back. `os.Exit` never returns. `promptForNamespace` returns the error of
    `url.ParseRequestURI`, or ends as its loop ends on some input. `awaitForwardError` is the
    goroutine `RunE` starts after `k8sutil.PortForward`: the error it receives on `errChan` before
    the deferred `close(stopCh)` and `os.RemoveAll(rootDir)` have run, if any. -/
@[reducible] def Call.Response : Call → Type
  | .help | .setOverrides .. | .awaitInterrupt => Unit
  | .exit _ => Empty
  | .tempDir .. => Except String String
  | .removeAll _ => Option String
  | .promptForNamespace _ => Except String {e : PromptEnd // ∃ inputs, Kots.Cli.promptForNamespace inputs = some e}
  | .pullApplicationMetadata _ => Except String ApplicationMetadata
  | .parseLicenseFromFile _ => Except String License
  | .parseConfigValuesFromFile _ => Except String ConfigValues
  | .deploy _ => Option String
  | .getClientset => Except String Unit
  | .waitForKotsadm .. => Except String String
  | .portForward .. => Except String Nat
  | .awaitForwardError => Option String

abbrev Prog := Kots.Effect.Prog Call Call.Response
abbrev Event := Kots.Effect.Event Call Call.Response
abbrev InstallM (α : Type) := Go Call Call.Response Unit α

/-- `os.Exit(code)`: the process ends, and no deferred call runs. -/
def osExit {α : Type} (code : Int) : InstallM α := do
  let exited ← Go.lift (Prog.invoke (.exit code))
  Empty.elim exited

/-- The namespace `RunE` installs to: the `--namespace` flag once it passes its check, or what
    `promptForNamespace(upstream)` returns, which calls `os.Exit(-1)` when it is interrupted. -/
def installTarget (labelText : LabelValueError → String) (flags : InstallFlags) (upstream : String) :
    InstallM String :=
  if flags.targetNamespace ≠ "" then
    match checkNamespaceFlag flags.targetNamespace with
    | some err => throw (.error (err.message labelText))
    | none => pure flags.targetNamespace
  else do
    let ended ← Go.check (Prog.invoke (.promptForNamespace upstream)) "failed to prompt for namespace"
    match ended.val with
    | .entered value => pure value
    | .interrupted => osExit (-1)

/-- `var x *T; if v.GetString(flag) != "" { x, err = parse(...); if err != nil { return ... } }`. -/
def parseIfSet {α : Type} (path : String) (parse : String → InstallM α) : InstallM (Option α) :=
  if path ≠ "" then do
    let parsed ← parse path
    pure (some parsed)
  else pure none

/-- `if v.GetBool("deploy-dockerdistribution") { if v.GetString("storage-base-uri") == "" { v.Set(...) } }`. -/
def withStorageDefaults (flags : InstallFlags) : InstallFlags :=
  if flags.deployDockerdistribution && flags.storageBaseURI == "" then
    { flags with storageBaseURI := "docker://kotsadm-storage-registry:5000", storageBaseURIPlainhttp := true }
  else flags

def deployOptions (flags : InstallFlags) (targetNamespace : String) (applicationMetadata : ApplicationMetadata)
    (license : Option License) (configValues : Option ConfigValues) : DeployOptions :=
  { targetNamespace, context := flags.context, sharedPassword := flags.sharedPassword,
    serviceType := flags.serviceType, nodePort := flags.nodePort, applicationMetadata, license, configValues,
    storageBaseURI := flags.storageBaseURI, storageBaseURIPlainHTTP := flags.storageBaseURIPlainhttp,
    includeMinio := flags.deployMinio, includeDockerDistribution := flags.deployDockerdistribution }

/-- The part of `RunE` that settles the namespace and reads what the deploy needs.
    `ExpandDir` is the parameter `expandDir`. -/
def prepare (labelText : LabelValueError → String) (expandDir : String → String) (flags : InstallFlags)
    (upstream : String) : InstallM DeployOptions := do
  let targetNamespace ← installTarget labelText flags upstream
  Go.lift (Prog.invoke (.setOverrides flags.kotsadmTag flags.kotsadmRegistry flags.kotsadmNamespace))
  let applicationMetadata ← Go.check (Prog.invoke (.pullApplicationMetadata upstream)) "failed to pull app metadata"
  let license ← parseIfSet flags.licenseFile fun path =>
    Go.check (Prog.invoke (.parseLicenseFromFile (expandDir path))) "failed to parse license file"
  let configValues ← parseIfSet flags.configValues fun path =>
    Go.check (Prog.invoke (.parseConfigValuesFromFile (expandDir path))) "failed to parse config values"
  pure (deployOptions (withStorageDefaults flags) targetNamespace applicationMetadata license configValues)

/-- The part of `RunE` from `kotsadm.Deploy` on. `WaitForKotsadm` and `PortForward` get
    `namespace`, which is `deployOptions.Namespace`. The goroutine watching `errChan` calls
    `os.Exit(-1)` when the port forward fails before `RunE`'s deferred calls have run. -/
def deployAndForward (flags : InstallFlags) (deployOptions : DeployOptions) : InstallM Unit := do
  Go.checkNil (Prog.invoke (.deploy deployOptions)) "failed to deploy"
  let _ ← Go.check (Prog.invoke .getClientset) "failed to get clientset"
  let podName ← Go.check (Prog.invoke (.waitForKotsadm deployOptions.targetNamespace 180)) "failed to wait for web"
  let _ ← Go.check (Prog.invoke (.portForward 8800 3000 deployOptions.targetNamespace podName))
    "failed to forward port"
  let forwardError : Option String ← Go.lift (Prog.invoke .awaitForwardError)
  match forwardError with
  | some _ => osExit (-1)
  | none => if flags.portForward then Go.lift (Prog.invoke .awaitInterrupt) else pure ()

/-- The deferred `os.RemoveAll(rootDir)`. -/
def removeRootDir (rootDir : String) : StateT Unit Prog Unit := do
  let _ ← StateT.lift (Prog.invoke (.removeAll rootDir))

@[simp] theorem wp_removeRootDir (rootDir : String) (Q : List Event → Unit × Unit → Prop) :
    Prog.wp ((removeRootDir rootDir).run ()) Q = ∀ removed, Q [⟨.removeAll rootDir, removed⟩] ((), ()) := by
  simp [removeRootDir, StateT.lift]

/-- `RunE` of `InstallCmd` for the arguments `args`. `pull.RewriteUpstream` is the parameter
    `rewriteUpstream`; the cursor and the logger are left out. -/
def runE (rewriteUpstream expandDir : String → String) (labelText : LabelValueError → String)
    (flags : InstallFlags) : List String → InstallM Unit
  | [] => do
    Go.lift (Prog.invoke .help)
    osExit 1
  | upstreamURI :: _ => do
    let rootDir ← Go.check (Prog.invoke (.tempDir "" "kotsadm")) "failed to create temp dir"
    Go.deferred
      (do
        let deployOptions ← prepare labelText expandDir flags (rewriteUpstream upstreamURI)
        deployAndForward flags deployOptions)
      (removeRootDir rootDir)

end Kots.Cli
