import Kots.Effect.Prog

namespace Kots.Effect

inductive Exit where
  | error (err : String)
  | panic (value : String)
  deriving DecidableEq, Repr

/-- `errors.Wrap(err, message)`: a nil error stays nil. -/
def wrap (err : Option String) (message : String) : Option String :=
  err.map fun e => message ++ ": " ++ e

/-- The body of a Go function: its calls, its early exits, and `σ`, the locals that its
    deferred closures read. -/
abbrev Go (Call : Type) (Response : Call → Type) (σ α : Type) :=
  ExceptT Exit (StateT σ (Prog Call Response)) α

namespace Go

variable {Call : Type} {Response : Call → Type} {σ α β : Type}

def lift (x : Prog Call Response α) : Go Call Response σ α := ExceptT.lift (StateT.lift x)

/-- `return v, errors.Wrap(err, message)`. -/
def returnWrap (v : α) (err : Option String) (message : String) : Go Call Response σ α :=
  match wrap err message with
  | none => pure v
  | some e => throw (.error e)

def checked (message : String) : Except String α → Except Exit α
  | .ok a => .ok a
  | .error err => .error (.error (message ++ ": " ++ err))

/-- `x, err := f(); if err != nil { return 0, errors.Wrap(err, message) }`. -/
def check (x : Prog Call Response (Except String α)) (message : String) :
    Go Call Response σ α :=
  ExceptT.mk (StateT.lift (checked message <$> x))

/-- `if err := f(); err != nil { return 0, errors.Wrap(err, message) }`. -/
def checkNil (x : Prog Call Response (Option String)) (message : String) :
    Go Call Response σ Unit :=
  check ((fun err => match err with | none => .ok () | some e => .error e) <$> x) message

/-- `xs[i]`: Go panics when `i` is out of range. -/
def index (xs : List α) (i : Nat) : Go Call Response σ α :=
  match xs.get? i with
  | some x => pure x
  | none => throw (.panic ("runtime error: index out of range [" ++ toString i ++
      "] with length " ++ toString xs.length))

/-- `defer cleanup()` at the top of `body`: `cleanup` runs on every way out of `body`, and
    it sees the locals as `body` left them. -/
def deferred (body : Go Call Response σ α) (cleanup : StateT σ (Prog Call Response) Unit) :
    Go Call Response σ α :=
  ExceptT.mk do
    let r ← body.run
    cleanup
    pure r

def wp (x : Go Call Response σ α) (s : σ)
    (Q : List (Event Call Response) → Except Exit α → σ → Prop) : Prop :=
  Prog.wp ((x.run).run s) fun t p => Q t p.1 p.2

section Rules

variable (s : σ) (Q : List (Event Call Response) → Except Exit α → σ → Prop)
variable {Q' : List (Event Call Response) → Except Exit Unit → σ → Prop}

@[simp] theorem wp_pure (a : α) : wp (pure a : Go Call Response σ α) s Q = Q [] (.ok a) s := rfl

@[simp] theorem wp_throw (e : Exit) : wp (throw e : Go Call Response σ α) s Q = Q [] (.error e) s :=
  rfl

@[simp] theorem wp_lift (x : Prog Call Response α) :
    wp (lift x) s Q = Prog.wp x fun t a => Q t (.ok a) s := by
  simp [wp, lift, ExceptT.lift, StateT.lift, ExceptT.run, ExceptT.mk, StateT.run, Functor.map,
    StateT.map]

@[simp] theorem wp_check (x : Prog Call Response (Except String α)) (message : String) :
    wp (check x message) s Q = Prog.wp x fun t r => Q t (checked message r) s := by
  simp [wp, check, StateT.lift, ExceptT.run, ExceptT.mk]

@[simp] theorem wp_get (Q' : List (Event Call Response) → Except Exit σ → σ → Prop) :
    wp (get : Go Call Response σ σ) s Q' = Q' [] (.ok s) s := rfl

@[simp] theorem wp_set (s' : σ) (Q' : List (Event Call Response) → Except Exit PUnit → σ → Prop) :
    wp (set s' : Go Call Response σ PUnit) s Q' = Q' [] (.ok ⟨⟩) s' := rfl

def after (f : β → Go Call Response σ α) (Q : List (Event Call Response) → Except Exit α → σ → Prop)
    (t : List (Event Call Response)) : Except Exit β → σ → Prop
  | .ok b, s' => wp (f b) s' fun t' r' s'' => Q (t ++ t') r' s''
  | .error e, s' => Q t (.error e) s'

@[simp] theorem after_ok (f : β → Go Call Response σ α) (t : List (Event Call Response)) (b : β) (s' : σ) :
    after f Q t (.ok b) s' = wp (f b) s' fun t' r' s'' => Q (t ++ t') r' s'' := rfl

@[simp] theorem after_error (f : β → Go Call Response σ α) (t : List (Event Call Response)) (e : Exit) (s' : σ) :
    after f Q t (.error e) s' = Q t (.error e) s' := rfl

@[simp] theorem wp_bind (x : Go Call Response σ β) (f : β → Go Call Response σ α) :
    wp (x >>= f) s Q = wp x s (after f Q) := by
  simp only [wp, ExceptT.run_bind, StateT.run_bind, Prog.wp_bind]
  congr 1
  funext t p
  obtain ⟨r, s'⟩ := p
  cases r with
  | ok b => rfl
  | error e => simp [after]

@[simp] theorem wp_checkNil (x : Prog Call Response (Option String)) (message : String) :
    wp (checkNil x message) s (Q' : List (Event Call Response) → Except Exit Unit → σ → Prop) =
      Prog.wp x fun t err => Q' t (checked message (match err with | none => .ok () | some e => .error e)) s := by
  simp [checkNil]

@[simp] theorem wp_returnWrap (v : α) (err : Option String) (message : String) :
    wp (returnWrap v err message) s Q =
      match err with
      | none => Q [] (.ok v) s
      | some e => Q [] (.error (.error (message ++ ": " ++ e))) s := by
  cases err <;> rfl

@[simp] theorem wp_index (xs : List α) (i : Nat) :
    wp (index xs i) s Q =
      match xs.get? i with
      | some x => Q [] (.ok x) s
      | none => Q [] (.error (.panic ("runtime error: index out of range [" ++ toString i ++
          "] with length " ++ toString xs.length))) s := by
  unfold index
  split <;> simp_all

theorem wp_ite (c : Prop) [Decidable c] (x y : Go Call Response σ α) :
    wp (if c then x else y) s Q = if c then wp x s Q else wp y s Q := by
  split <;> rfl

@[simp] theorem wp_deferred (body : Go Call Response σ α) (cleanup : StateT σ (Prog Call Response) Unit) :
    wp (deferred body cleanup) s Q =
      wp body s fun t r s' => Prog.wp (cleanup.run s') fun t' p => Q (t ++ t') r p.2 := by
  simp [wp, deferred, ExceptT.run, ExceptT.mk, StateT.run_bind]

theorem wp_run (x : Go Call Response σ α) (Q : List (Event Call Response) → Except Exit α → Prop) :
    Prog.wp (Prod.fst <$> (x.run).run s) Q = wp x s fun t r _ => Q t r := by
  simp [wp]

@[simp] theorem checked_eq_ok (message : String) (r : Except String α) (a : α) :
    checked message r = .ok a ↔ r = .ok a := by
  cases r <;> simp [checked]

theorem wp_true (x : Go Call Response σ α) (s : σ) : wp x s fun _ _ _ => True := Prog.wp_true _

def waits (x : Go Call Response σ α) (s : σ) (Q : List (Event Call Response) → Call → Prop) : Prop :=
  Prog.waits ((x.run).run s) Q

variable (Q : List (Event Call Response) → Call → Prop)

@[simp] theorem waits_pure (a : α) : waits (pure a : Go Call Response σ α) s Q := trivial

@[simp] theorem waits_throw (e : Exit) : waits (throw e : Go Call Response σ α) s Q := trivial

@[simp] theorem waits_lift (x : Prog Call Response α) : waits (lift x) s Q ↔ Prog.waits x Q := by
  simp [waits, lift, ExceptT.lift, StateT.lift, ExceptT.run, ExceptT.mk, StateT.run, Functor.map, StateT.map,
    Prog.wp_true]

@[simp] theorem waits_check (x : Prog Call Response (Except String α)) (message : String) :
    waits (check x message) s Q ↔ Prog.waits x Q := by
  simp [waits, check, StateT.lift, ExceptT.run, ExceptT.mk]

@[simp] theorem waits_bind (x : Go Call Response σ β) (f : β → Go Call Response σ α) :
    waits (x >>= f) s Q ↔
      waits x s Q ∧ wp x s fun t r s' => ∀ b, r = .ok b → waits (f b) s' fun t' c => Q (t ++ t') c := by
  simp only [waits, wp, ExceptT.run_bind, StateT.run_bind, Prog.waits_bind]
  refine and_congr_right fun _ => (Prog.wp_iff _ _).trans (Iff.trans ?_ (Prog.wp_iff _ _).symm)
  refine forall_congr' fun t => forall_congr' fun p => imp_congr_right fun _ => ?_
  obtain ⟨r, s'⟩ := p
  cases r with
  | ok b => simp
  | error e => simp [Prog.waits]

@[simp] theorem waits_checkNil (x : Prog Call Response (Option String)) (message : String) :
    waits (checkNil x message : Go Call Response σ Unit) s Q ↔ Prog.waits x Q := by
  simp [checkNil]

@[simp] theorem waits_map (f : β → α) (x : Go Call Response σ β) : waits (f <$> x) s Q ↔ waits x s Q := by
  rw [← bind_pure_comp, waits_bind]
  exact ⟨And.left, fun h => ⟨h, Prog.wp_mono (wp_true x s) fun _ _ _ _ _ => trivial⟩⟩

theorem waits_ite (c : Prop) [Decidable c] (x y : Go Call Response σ α) :
    waits (if c then x else y) s Q ↔ if c then waits x s Q else waits y s Q := by
  split <;> rfl

@[simp] theorem waits_deferred (body : Go Call Response σ α) (cleanup : StateT σ (Prog Call Response) Unit) :
    waits (deferred body cleanup) s Q ↔
      waits body s Q ∧ wp body s fun t _ s' => Prog.waits (cleanup.run s') fun t' c => Q (t ++ t') c := by
  simp only [waits, wp, deferred, ExceptT.run, ExceptT.mk, StateT.run_bind, Prog.waits_bind]
  refine and_congr_right fun _ => (Prog.wp_iff _ _).trans (Iff.trans ?_ (Prog.wp_iff _ _).symm)
  refine forall_congr' fun t => forall_congr' fun p => imp_congr_right fun _ => ?_
  simp [StateT.run_bind, Prog.waits_bind, Prog.wp_true]

theorem waits_run (x : Go Call Response σ α) : Prog.waits (Prod.fst <$> (x.run).run s) Q ↔ waits x s Q :=
  Prog.waits_map _ _ _

end Rules

end Go

end Kots.Effect
