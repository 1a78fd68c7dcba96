import Kots.Handlers.Types

namespace Kots.Handlers

open Kots.Effect
open Kots.UpdateChecker (App)

def downstreamLogs (output : DownstreamOutput) : DownstreamLogs :=
  { dryrunStdout := output.dryrunStdout, dryrunStderr := output.dryrunStderr, applyStdout := output.applyStdout,
    applyStderr := output.applyStderr, renderError := output.renderError }

/-- `GetDownstreamOutput(w, r)` for the route variables `appSlug`, `clusterId` and `sequence` of `r`.
    `int64(sequence)` keeps the value `strconv.Atoi` parsed. -/
def getDownstreamOutput (appSlug clusterID sequence : String) : HandlerM Unit := do
  let sequence ← orFail 500 (Prog.invoke (.atoi sequence))
  let a ← orFail 500 (Prog.invoke (.getAppFromSlug appSlug))
  let output ← orFail 500 (Prog.invoke (.getDownstreamOutput a.id clusterID sequence))
  json 200 (.downstreamOutput ⟨downstreamLogs output⟩)

inductive OutputRun (appSlug clusterID sequence : String) : List Event → Except Unit Unit → Prop
  | badSequence (err : String) :
      OutputRun appSlug clusterID sequence [⟨.atoi sequence, .error err⟩, ⟨.writeHeader 500, ()⟩] (.error ())
  | noApp (n : Int) (err : String) :
      OutputRun appSlug clusterID sequence
        [⟨.atoi sequence, .ok n⟩, ⟨.getAppFromSlug appSlug, .error err⟩, ⟨.writeHeader 500, ()⟩] (.error ())
  | noOutput (n : Int) (a : App) (err : String) :
      OutputRun appSlug clusterID sequence
        [⟨.atoi sequence, .ok n⟩, ⟨.getAppFromSlug appSlug, .ok a⟩, ⟨.getDownstreamOutput a.id clusterID n, .error err⟩,
          ⟨.writeHeader 500, ()⟩]
        (.error ())
  | found (n : Int) (a : App) (output : DownstreamOutput) :
      OutputRun appSlug clusterID sequence
        [⟨.atoi sequence, .ok n⟩, ⟨.getAppFromSlug appSlug, .ok a⟩, ⟨.getDownstreamOutput a.id clusterID n, .ok output⟩,
          ⟨.json 200 (.downstreamOutput ⟨downstreamLogs output⟩), ()⟩]
        (.ok ())

theorem wp_getDownstreamOutput (appSlug clusterID sequence : String) (Q : List Event → Except Unit Unit → Prop)
    (h : ∀ t r, OutputRun appSlug clusterID sequence t r → Q t r) :
    Handler.wp (getDownstreamOutput appSlug clusterID sequence) Q := by
  simp only [getDownstreamOutput, Handler.wp_bind, wp_orFail, Prog.wp_invoke, Call.Response, forall_except,
    Handler.after_ok, wp_json, List.cons_append, List.nil_append, List.singleton_append]
  exact ⟨fun err => h _ _ (.badSequence err), fun n =>
    ⟨fun err => h _ _ (.noApp n err), fun a =>
      ⟨fun err => h _ _ (.noOutput n a err), fun output => h _ _ (.found n a output)⟩⟩⟩

theorem OutputRun.of_run {appSlug clusterID sequence : String} {t : List Event} {r : Except Unit Unit}
    (run : Prog.Run (getDownstreamOutput appSlug clusterID sequence).run t r) : OutputRun appSlug clusterID sequence t r :=
  (Prog.wp_iff _ _).mp (wp_getDownstreamOutput _ _ _ _ fun _ _ h => h) t r run

def foundOutput : List Event × Except Unit Unit :=
  Prog.exec (accepting ⟨"app", false, false⟩ ⟨"1", "app", false, 1, "@hourly"⟩ none)
    (getDownstreamOutput "app" "cluster" "2").run

end Kots.Handlers
