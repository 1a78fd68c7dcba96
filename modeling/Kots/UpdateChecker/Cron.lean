import Mathlib.Data.List.Basic

namespace Kots.UpdateChecker

structure Entry where
  id : Nat
  spec : String
  appID : String
  deriving DecidableEq, Repr

/-- The state of a `*cron.Cron` of `robfig/cron/v3` that the update checker changes. -/
structure Cron where
  entries : List Entry
  running : Bool
  nextID : Nat
  deriving DecidableEq, Repr

namespace Cron

def new : Cron := ⟨[], false, 0⟩

def remove (c : Cron) (id : Nat) : Cron := { c with entries := c.entries.filter fun e => e.id ≠ id }

def addFunc (parse : String → Option String) (c : Cron) (spec appID : String) : Except String Cron :=
  match parse spec with
  | some err => .error err
  | none => .ok { c with entries := c.entries ++ [⟨c.nextID + 1, spec, appID⟩], nextID := c.nextID + 1 }

def start (c : Cron) : Cron := { c with running := true }

def stop (c : Cron) : Cron := { c with running := false }

theorem remove_entries (c : Cron) (id : Nat) : (c.remove id).entries = c.entries.filter fun e => e.id ≠ id :=
  rfl

theorem foldl_remove (c : Cron) (snapshot : List Entry) :
    snapshot.foldl (fun c e => c.remove e.id) c = { c with entries := c.entries.filter fun e => e.id ∉ snapshot.map (·.id) } := by
  induction snapshot generalizing c with
  | nil => simp
  | cons e snapshot ih =>
    rw [List.foldl_cons, ih]
    simp only [remove, List.filter_filter, mk.injEq, and_true]
    apply List.filter_congr
    intro a _
    simp only [List.map_cons, List.mem_cons, not_or, Bool.decide_and, Bool.and_comm]

theorem removeAll_entries (c : Cron) :
    c.entries.foldl (fun c e => c.remove e.id) c = { c with entries := [] } := by
  rw [foldl_remove]
  simp only [mk.injEq, and_true, List.filter_eq_nil_iff]
  exact fun e member => by simpa using List.mem_map_of_mem (·.id) member

theorem addFunc_ok {parse : String → Option String} {c c' : Cron} {spec appID : String}
    (added : c.addFunc parse spec appID = .ok c') :
    parse spec = none ∧ c' = { c with entries := c.entries ++ [⟨c.nextID + 1, spec, appID⟩], nextID := c.nextID + 1 } := by
  unfold addFunc at added
  split at added <;> simp_all

end Cron

end Kots.UpdateChecker
