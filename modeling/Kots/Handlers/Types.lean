import Kots.Effect.Handler
import Kots.UpdateChecker.Types

namespace Kots.Handlers

open Kots.Effect
open Kots.UpdateChecker (App Downstream)

/-- The fields of `UploadExistingAppRequest` that `UploadExistingApp` reads. -/
structure UploadExistingAppRequest where
  slug : String
  deploy : Bool
  skipPreflights : Bool
  deriving DecidableEq, Repr

structure UploadResponse where
  slug : String
  deriving DecidableEq, Repr

structure KotsKinds where
  configValues : Option String
  deriving DecidableEq, Repr

structure RegistrySettings where
  hostname : String
  deriving DecidableEq, Repr

structure DownstreamOutput where
  dryrunStdout : String
  dryrunStderr : String
  applyStdout : String
  applyStderr : String
  renderError : String
  deriving DecidableEq, Repr

structure DownstreamLogs where
  dryrunStdout : String
  dryrunStderr : String
  applyStdout : String
  applyStderr : String
  renderError : String
  deriving DecidableEq, Repr

structure GetDownstreamOutputResponse where
  logs : DownstreamLogs
  deriving DecidableEq, Repr

inductive Body where
  | upload (response : UploadResponse)
  | downstreamOutput (response : GetDownstreamOutputResponse)
  deriving DecidableEq, Repr

inductive Call where
  | requireValidKOTSToken
  | decodeMetadata (metadata : String)
  | formFile (key : String)
  | tempFile (dir pattern : String)
  | copy (dst src : String)
  | extractArchiveToTempDirectory (path : String)
  | loadKotsKindsFromPath (fromDir : String)
  | encryptConfigValues (kotsKinds : KotsKinds)
  | marshal (kotsKinds : KotsKinds) (group version kind : String)
  | writeFile (path : List String) (data : String)
  | getAppFromSlug (slug : String)
  | getRegistryDetailsForApp (appID : String)
  | getApp (appID : String)
  | listDownstreamsForApp (appID : String)
  | renderDir (archiveDir : String) (a : App) (downstreams : List Downstream) (registrySettings : RegistrySettings)
  | createAppVersion (appID : String) (currentSequence : Int) (filesInDir source : String) (isRequired : Bool)
  | preflightRun (appID slug : String) (sequence : Int) (isAirgap : Bool) (archiveDir : String)
  | deployVersion (appID : String) (sequence : Int)
  | removeAll (path : String)
  | atoi (s : String)
  | getDownstreamOutput (appID clusterID : String) (sequence : Int)
  | writeHeader (status : Nat)
  | json (status : Nat) (body : Body)
  deriving DecidableEq, Repr

/-- What each call gives back; a Go `error` is `Option String`, and a result with its error
    is `Except String`. `EncryptConfigValues` gives the kinds it encrypts in place. -/
@[reducible] def Call.Response : Call → Type
  | .requireValidKOTSToken => Option String
  | .decodeMetadata _ => Except String UploadExistingAppRequest
  | .formFile _ => Except String String
  | .tempFile .. => Except String String
  | .copy .. => Option String
  | .extractArchiveToTempDirectory _ => Except String String
  | .loadKotsKindsFromPath _ => Except String KotsKinds
  | .encryptConfigValues _ => Except String KotsKinds
  | .marshal .. => Except String String
  | .writeFile .. => Option String
  | .getAppFromSlug _ => Except String App
  | .getRegistryDetailsForApp _ => Except String RegistrySettings
  | .getApp _ => Except String App
  | .listDownstreamsForApp _ => Except String (List Downstream)
  | .renderDir .. => Option String
  | .createAppVersion .. => Except String Int
  | .preflightRun .. => Option String
  | .deployVersion .. => Option String
  | .removeAll _ => Option String
  | .atoi _ => Except String Int
  | .getDownstreamOutput .. => Except String DownstreamOutput
  | .writeHeader _ => Unit
  | .json .. => Unit

abbrev Prog := Kots.Effect.Prog Call Call.Response
abbrev Event := Kots.Effect.Event Call Call.Response
abbrev HandlerM (α : Type) := Kots.Effect.Handler Call Call.Response α

def responseOf : Event → Option (Nat × Option Body)
  | ⟨.writeHeader status, _⟩ => some (status, none)
  | ⟨.json status body, _⟩ => some (status, some body)
  | _ => none

/-- `logger.Error(err); w.WriteHeader(status); return`. -/
def fail (status : Nat) : HandlerM α := do
  Handler.lift (Prog.invoke (Call.writeHeader status))
  throw ()

/-- `x, err := f(); if err != nil { logger.Error(err); w.WriteHeader(status); return }`. -/
def orFail (status : Nat) (x : Prog (Except String α)) : HandlerM α := do
  match ← Handler.lift x with
  | .ok a => pure a
  | .error _ => fail status

/-- `if err := f(); err != nil { logger.Error(err); w.WriteHeader(status); return }`. -/
def orFailNil (status : Nat) (x : Prog (Option String)) : HandlerM Unit := do
  match ← Handler.lift x with
  | none => pure ()
  | some _ => fail status

/-- `JSON(w, status, body)`. -/
def json (status : Nat) (body : Body) : HandlerM Unit := Handler.lift (Prog.invoke (Call.json status body))

section Rules

variable {α : Type} (Q : List Event → Except Unit α → Prop)

@[simp] theorem wp_fail (status : Nat) :
    Handler.wp (fail status : HandlerM α) Q = Q [⟨.writeHeader status, ()⟩] (.error ()) := by
  simp only [fail, Handler.wp_bind, Handler.wp_lift, Prog.wp_invoke, Handler.after_ok, Handler.wp_throw,
    List.append_nil]
  exact propext ⟨fun h => h (), fun h _ => h⟩

@[simp] theorem wp_orFail (status : Nat) (x : Prog (Except String α)) :
    Handler.wp (orFail status x) Q =
      Prog.wp x fun t r => match r with
        | .ok a => Q t (.ok a)
        | .error _ => Q (t ++ [⟨.writeHeader status, ()⟩]) (.error ()) := by
  simp only [orFail, Handler.wp_bind, Handler.wp_lift]
  congr 1
  funext t r
  cases r <;> simp

@[simp] theorem wp_orFailNil (status : Nat) (x : Prog (Option String)) (Q : List Event → Except Unit Unit → Prop) :
    Handler.wp (orFailNil status x) Q =
      Prog.wp x fun t err => match err with
        | none => Q t (.ok ())
        | some _ => Q (t ++ [⟨.writeHeader status, ()⟩]) (.error ()) := by
  simp only [orFailNil, Handler.wp_bind, Handler.wp_lift]
  congr 1
  funext t err
  cases err <;> simp

@[simp] theorem wp_json (status : Nat) (body : Body) (Q : List Event → Except Unit Unit → Prop) :
    Handler.wp (json status body) Q = Q [⟨.json status body, ()⟩] (.ok ()) := by
  simp only [json, Handler.wp_lift, Prog.wp_invoke]
  exact propext ⟨fun h => h (), fun h _ => h⟩

end Rules

def accepting (request : UploadExistingAppRequest) (a : App) (copyErr : Option String) : (c : Call) → c.Response
  | .requireValidKOTSToken => none
  | .decodeMetadata _ => .ok request
  | .formFile _ => .ok "archive"
  | .tempFile .. => .ok "kotsadm1"
  | .copy .. => copyErr
  | .extractArchiveToTempDirectory _ => .ok "archive1"
  | .loadKotsKindsFromPath _ => .ok ⟨some "values"⟩
  | .encryptConfigValues kotsKinds => .ok kotsKinds
  | .marshal .. => .ok "values"
  | .writeFile .. => none
  | .getAppFromSlug _ | .getApp _ => .ok a
  | .getRegistryDetailsForApp _ => .ok ⟨""⟩
  | .listDownstreamsForApp _ => .ok [⟨"cluster"⟩]
  | .renderDir .. | .preflightRun .. | .deployVersion .. | .removeAll _ => none
  | .createAppVersion _ currentSequence .. => .ok (currentSequence + 1)
  | .atoi _ => .ok 2
  | .getDownstreamOutput .. => .ok ⟨"applied", "", "", "", ""⟩
  | .writeHeader _ | .json .. => ()

end Kots.Handlers
