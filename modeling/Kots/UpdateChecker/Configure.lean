import Kots.UpdateChecker.Types
import Kots.UpdateChecker.Cron
import Mathlib.Logic.Function.Basic

namespace Kots.UpdateChecker

structure Clock where
  minute : Nat
  hour : Nat
  deriving DecidableEq, Repr

/-- `jobs`: the cron of each app, by app id. -/
abbrev Jobs := String → Option Cron

def defaultSpec (now : Clock) : String :=
  toString now.minute ++ " " ++ toString (now.hour % 4) ++ "/4 * * *"

/-- `Stop(appID)`: a job that exists is stopped and keeps its entries. -/
def stop (appID : String) (jobs : Jobs) : Jobs :=
  match jobs appID with
  | some job => Function.update jobs appID (some job.stop)
  | none => jobs

def jobFor (jobs : Jobs) (appID : String) : Cron × Jobs :=
  match jobs appID with
  | some job =>
    let job := job.entries.foldl (fun c e => c.remove e.id) job
    (job, Function.update jobs appID (some job))
  | none => (Cron.new, jobs)

section Registry

variable (parse : String → Option String)

/-- The part of `Configure` that holds `mtx`, for an app that is not airgapped. -/
def configureLocked (a : App) (now : Clock) (jobs : Jobs) : Option String × Jobs :=
  if a.updateCheckerSpec = "@never" ∨ a.updateCheckerSpec = "" then (none, stop a.id jobs)
  else
    let cronSpec := if a.updateCheckerSpec = "@default" then defaultSpec now else a.updateCheckerSpec
    match (jobFor jobs a.id).1.addFunc parse cronSpec a.id with
    | .error err => (some ("failed to add func: " ++ err), (jobFor jobs a.id).2)
    | .ok job => (none, Function.update (jobFor jobs a.id).2 a.id (some job.start))

/-- `Configure(appID)`, given what `GetApp` answered and the clock: its error and `jobs` after it. -/
def configure (getApp : Except String App) (now : Clock) (jobs : Jobs) : Option String × Jobs :=
  match getApp with
  | .error err => (some ("failed to get app: " ++ err), jobs)
  | .ok a => if a.isAirgap then (none, jobs) else configureLocked parse a now jobs

/-- `Start()`, given what `ListInstalledApps` answered and what `GetApp` and the clock give each
    `Configure`; an error of `Configure` is only logged. -/
def start (listed : Except String (List App)) (answer : App → Except String App × Clock) (jobs : Jobs) :
    Option String × Jobs :=
  match listed with
  | .error err => (some ("failed to list installed apps: " ++ err), jobs)
  | .ok appsList =>
    (none, appsList.foldl (fun jobs a => if a.isAirgap then jobs else (configure parse (answer a).1 (answer a).2 jobs).2) jobs)

end Registry

theorem jobFor_eq (jobs : Jobs) (appID : String) :
    jobFor jobs appID =
      match jobs appID with
      | some job => ({ job with entries := [] }, Function.update jobs appID (some { job with entries := [] }))
      | none => (Cron.new, jobs) := by
  unfold jobFor
  split <;> simp [Cron.removeAll_entries]

end Kots.UpdateChecker
