import Kots.Effect.Prog

namespace Kots.Effect

/-- The body of an HTTP handler: its calls, and `return` once a response has been written
    (`throw ()`). -/
abbrev Handler (Call : Type) (Response : Call → Type) (α : Type) := ExceptT Unit (Prog Call Response) α

namespace Handler

variable {Call : Type} {Response : Call → Type} {α β : Type}

def lift (x : Prog Call Response α) : Handler Call Response α := ExceptT.lift x

/-- `defer cleanup()` at the top of `body`: `cleanup` runs on every way out of `body`. -/
def deferred (body : Handler Call Response α) (cleanup : Prog Call Response Unit) : Handler Call Response α :=
  ExceptT.mk do
    let r ← body.run
    cleanup
    pure r

def wp (x : Handler Call Response α) (Q : List (Event Call Response) → Except Unit α → Prop) : Prop :=
  Prog.wp x.run Q

def after (f : β → Handler Call Response α) (Q : List (Event Call Response) → Except Unit α → Prop)
    (t : List (Event Call Response)) : Except Unit β → Prop
  | .ok b => wp (f b) fun t' r => Q (t ++ t') r
  | .error e => Q t (.error e)

section Rules

variable (Q : List (Event Call Response) → Except Unit α → Prop)

@[simp] theorem wp_pure (a : α) : wp (pure a : Handler Call Response α) Q = Q [] (.ok a) := rfl

@[simp] theorem wp_throw : wp (throw () : Handler Call Response α) Q = Q [] (.error ()) := rfl

@[simp] theorem wp_lift (x : Prog Call Response α) : wp (lift x) Q = Prog.wp x fun t a => Q t (.ok a) := by
  simp [wp, lift, ExceptT.lift, ExceptT.run, ExceptT.mk]

@[simp] theorem after_ok (f : β → Handler Call Response α) (t : List (Event Call Response)) (b : β) :
    after f Q t (.ok b) = wp (f b) fun t' r => Q (t ++ t') r := rfl

@[simp] theorem after_error (f : β → Handler Call Response α) (t : List (Event Call Response)) :
    after f Q t (.error ()) = Q t (.error ()) := rfl

@[simp] theorem wp_bind (x : Handler Call Response β) (f : β → Handler Call Response α) :
    wp (x >>= f) Q = wp x (after f Q) := by
  simp only [wp, ExceptT.run_bind, Prog.wp_bind]
  congr 1
  funext t r
  cases r with
  | ok b => rfl
  | error e => simp [after]

theorem wp_ite (c : Prop) [Decidable c] (x y : Handler Call Response α) :
    wp (if c then x else y) Q = if c then wp x Q else wp y Q := by
  split <;> rfl

@[simp] theorem wp_deferred (body : Handler Call Response α) (cleanup : Prog Call Response Unit) :
    wp (deferred body cleanup) Q = wp body fun t r => Prog.wp cleanup fun t' _ => Q (t ++ t') r := by
  simp [wp, deferred, ExceptT.run, ExceptT.mk]

end Rules

end Handler

end Kots.Effect
