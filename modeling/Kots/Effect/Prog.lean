import Mathlib.Logic.Basic
import Mathlib.Data.List.Basic
import Mathlib.Data.Sigma.Basic

namespace Kots.Effect

/-- A program of one goroutine: it returns, or makes a call to a collaborator and
    continues with whatever the collaborator answers. -/
inductive Prog (Call : Type) (Response : Call → Type) (α : Type) where
  | pure (a : α)
  | call (c : Call) (k : Response c → Prog Call Response α)

abbrev Event (Call : Type) (Response : Call → Type) := Σ c : Call, Response c

theorem forall_except {ε α : Type} {P : Except ε α → Prop} :
    (∀ r, P r) ↔ (∀ e, P (.error e)) ∧ ∀ a, P (.ok a) :=
  ⟨fun h => ⟨fun e => h _, fun a => h _⟩, fun h r => by cases r; exacts [h.1 _, h.2 _]⟩

namespace Prog

variable {Call : Type} {Response : Call → Type} {α β : Type}

def bind : Prog Call Response α → (α → Prog Call Response β) → Prog Call Response β
  | .pure a, f => f a
  | .call c k, f => .call c fun r => bind (k r) f

instance : Monad (Prog Call Response) where
  pure := .pure
  bind := bind

instance : LawfulMonad (Prog Call Response) := LawfulMonad.mk' _
  (fun x => by
    induction x with
    | pure a => rfl
    | call c k ih => exact congrArg (Prog.call c) (funext ih))
  (fun _ _ => rfl)
  (fun x f g => by
    induction x with
    | pure a => rfl
    | call c k ih => exact congrArg (Prog.call c) (funext ih))

def invoke (c : Call) : Prog Call Response (Response c) := .call c .pure

@[simp] theorem bind_eq (x : Prog Call Response α) (f : α → Prog Call Response β) :
    x.bind f = x >>= f := rfl

@[simp] theorem pure_eq (a : α) : (Prog.pure a : Prog Call Response α) = Pure.pure a := rfl

@[simp] theorem call_bind (c : Call) (k : Response c → Prog Call Response α)
    (f : α → Prog Call Response β) : (Prog.call c k >>= f) = .call c fun r => k r >>= f := rfl

/-- `Steps p t q`: when the calls of `p` get the answers recorded in `t`, `q` is what is
    left to run. -/
inductive Steps : Prog Call Response α → List (Event Call Response) → Prog Call Response α → Prop
  | refl (p : Prog Call Response α) : Steps p [] p
  | call {c : Call} {k : Response c → Prog Call Response α} {r : Response c}
      {t : List (Event Call Response)} {q : Prog Call Response α} :
      Steps (k r) t q → Steps (.call c k) (⟨c, r⟩ :: t) q

def Run (p : Prog Call Response α) (t : List (Event Call Response)) (a : α) : Prop :=
  Steps p t (.pure a)

/-- Every complete run of `p` satisfies `Q`. -/
def wp : Prog Call Response α → (List (Event Call Response) → α → Prop) → Prop
  | .pure a, Q => Q [] a
  | .call c k, Q => ∀ r, wp (k r) fun t a => Q (⟨c, r⟩ :: t) a

theorem Steps.trans {p q q' : Prog Call Response α} {t t' : List (Event Call Response)}
    (first : Steps p t q) (second : Steps q t' q') : Steps p (t ++ t') q' := by
  induction first with
  | refl => exact second
  | call _ ih => exact .call (ih second)

theorem Steps.pure_inv {a : α} {t : List (Event Call Response)} {q : Prog Call Response α}
    (h : Steps (.pure a) t q) : t = [] ∧ q = .pure a := by
  cases h
  exact ⟨rfl, rfl⟩

theorem Steps.call_inv {c : Call} {k : Response c → Prog Call Response α} {e : Event Call Response}
    {t : List (Event Call Response)} {q : Prog Call Response α}
    (h : Steps (.call c k) (e :: t) q) : ∃ r, e = ⟨c, r⟩ ∧ Steps (k r) t q := by
  cases h with
  | call h => exact ⟨_, rfl, h⟩

theorem wp_iff (p : Prog Call Response α) (Q : List (Event Call Response) → α → Prop) :
    wp p Q ↔ ∀ t a, Run p t a → Q t a := by
  induction p generalizing Q with
  | pure a =>
    refine ⟨fun h t b run => ?_, fun h => h [] a (.refl _)⟩
    obtain ⟨rfl, same⟩ := Steps.pure_inv run
    cases same
    exact h
  | call c k ih =>
    constructor
    · intro h t a run
      cases run with
      | call run => exact (ih _ _).mp (h _) _ _ run
    · exact fun h r => (ih r _).mpr fun t a run => h _ a (.call run)

theorem wp_mono {p : Prog Call Response α} {Q Q' : List (Event Call Response) → α → Prop}
    (h : wp p Q) (weaker : ∀ t a, Q t a → Q' t a) : wp p Q' :=
  (wp_iff p Q').mpr fun t a run => weaker t a ((wp_iff p Q).mp h t a run)

@[simp] theorem wp_pure (a : α) (Q : List (Event Call Response) → α → Prop) :
    wp (Pure.pure a : Prog Call Response α) Q = Q [] a := rfl

@[simp] theorem wp_invoke (c : Call) (Q : List (Event Call Response) → Response c → Prop) :
    wp (invoke c) Q = ∀ r, Q [⟨c, r⟩] r := rfl

@[simp] theorem wp_bind (x : Prog Call Response α) (f : α → Prog Call Response β)
    (Q : List (Event Call Response) → β → Prop) :
    wp (x >>= f) Q = wp x fun t a => wp (f a) fun t' b => Q (t ++ t') b := by
  induction x generalizing Q with
  | pure a => rfl
  | call c k ih => exact forall_congr fun r => ih r _

@[simp] theorem wp_map (f : α → β) (x : Prog Call Response α)
    (Q : List (Event Call Response) → β → Prop) : wp (f <$> x) Q = wp x fun t a => Q t (f a) := by
  rw [← bind_pure_comp, wp_bind]
  simp

theorem wp_ite (c : Prop) [Decidable c] (x y : Prog Call Response α)
    (Q : List (Event Call Response) → α → Prop) :
    wp (if c then x else y) Q = if c then wp x Q else wp y Q := by
  split <;> rfl

theorem wp_true (p : Prog Call Response α) : wp p (fun _ _ => True) :=
  (wp_iff p _).mpr fun _ _ _ => trivial

/-- Every partial run of `p` that waits on a call satisfies `Q`, given the calls it has made and
    the call it waits on: a run that ends in a call that never returns, such as `os.Exit`. -/
def waits : Prog Call Response α → (List (Event Call Response) → Call → Prop) → Prop
  | .pure _, _ => True
  | .call c k, Q => Q [] c ∧ ∀ r, waits (k r) fun t c' => Q (⟨c, r⟩ :: t) c'

theorem waits_iff (p : Prog Call Response α) (Q : List (Event Call Response) → Call → Prop) :
    waits p Q ↔ ∀ t c k, Steps p t (.call c k) → Q t c := by
  induction p generalizing Q with
  | pure a => exact ⟨fun _ t c k h => (nomatch (Steps.pure_inv h).2), fun _ => trivial⟩
  | call c k ih =>
    constructor
    · rintro ⟨now, later⟩ t c' k' h
      cases h with
      | refl => exact now
      | call h => exact (ih _ _).mp (later _) _ _ _ h
    · exact fun h => ⟨h [] c k (.refl _), fun r => (ih r _).mpr fun t c' k' steps => h _ c' k' (.call steps)⟩

theorem waits_mono {p : Prog Call Response α} {Q Q' : List (Event Call Response) → Call → Prop}
    (h : waits p Q) (weaker : ∀ t c, Q t c → Q' t c) : waits p Q' :=
  (waits_iff p Q').mpr fun t c k steps => weaker t c ((waits_iff p Q).mp h t c k steps)

@[simp] theorem waits_pure (a : α) (Q : List (Event Call Response) → Call → Prop) :
    waits (Pure.pure a : Prog Call Response α) Q := trivial

@[simp] theorem waits_invoke (c : Call) (Q : List (Event Call Response) → Call → Prop) :
    waits (invoke c) Q ↔ Q [] c :=
  ⟨And.left, fun h => ⟨h, fun _ => trivial⟩⟩

@[simp] theorem waits_bind (x : Prog Call Response α) (f : α → Prog Call Response β)
    (Q : List (Event Call Response) → Call → Prop) :
    waits (x >>= f) Q ↔ waits x Q ∧ wp x fun t a => waits (f a) fun t' c => Q (t ++ t') c := by
  induction x generalizing Q with
  | pure a => exact ⟨fun h => ⟨trivial, h⟩, And.right⟩
  | call c k ih =>
    simp only [call_bind, waits, wp, bind_eq, ih, forall_and, List.cons_append, and_assoc]

@[simp] theorem waits_map (f : α → β) (x : Prog Call Response α) (Q : List (Event Call Response) → Call → Prop) :
    waits (f <$> x) Q ↔ waits x Q := by
  rw [← bind_pure_comp, waits_bind]
  exact ⟨And.left, fun h => ⟨h, wp_mono (wp_true x) fun _ _ _ => trivial⟩⟩

def exec (answer : (c : Call) → Response c) : Prog Call Response α → List (Event Call Response) × α
  | .pure a => ([], a)
  | .call c k => let rest := exec answer (k (answer c)); (⟨c, answer c⟩ :: rest.1, rest.2)

theorem exec_run (answer : (c : Call) → Response c) (p : Prog Call Response α) :
    Run p (exec answer p).1 (exec answer p).2 := by
  induction p with
  | pure a => exact .refl _
  | call c k ih => exact .call (ih _)

@[simp] theorem exec_pure (answer : (c : Call) → Response c) (a : α) :
    exec answer (Pure.pure a : Prog Call Response α) = ([], a) := rfl

@[simp] theorem exec_invoke_bind (answer : (c : Call) → Response c) (c : Call) (f : Response c → Prog Call Response α) :
    exec answer (invoke c >>= f) = (⟨c, answer c⟩ :: (exec answer (f (answer c))).1, (exec answer (f (answer c))).2) :=
  rfl

theorem exec_bind (answer : (c : Call) → Response c) (x : Prog Call Response α) (f : α → Prog Call Response β) :
    exec answer (x >>= f) =
      ((exec answer x).1 ++ (exec answer (f (exec answer x).2)).1, (exec answer (f (exec answer x).2)).2) := by
  induction x with
  | pure a => rfl
  | call c k ih =>
    show (⟨c, answer c⟩ :: (exec answer (k (answer c) >>= f)).1, (exec answer (k (answer c) >>= f)).2) = _
    rw [ih]
    rfl

theorem wp_exec {p : Prog Call Response α} {Q : List (Event Call Response) → α → Prop}
    (h : wp p Q) (answer : (c : Call) → Response c) : Q (exec answer p).1 (exec answer p).2 :=
  (wp_iff p Q).mp h _ _ (exec_run answer p)

def execPartial (answer : (c : Call) → Option (Response c)) :
    Prog Call Response α → Option (List (Event Call Response) × α)
  | .pure a => some ([], a)
  | .call c k => (answer c).bind fun r => (execPartial answer (k r)).map fun rest => (⟨c, r⟩ :: rest.1, rest.2)

theorem execPartial_run {answer : (c : Call) → Option (Response c)} {p : Prog Call Response α}
    {t : List (Event Call Response)} {a : α} (h : execPartial answer p = some (t, a)) : Run p t a := by
  induction p generalizing t with
  | pure b =>
    cases h
    exact .refl _
  | call c k ih =>
    simp only [execPartial, Option.bind_eq_some, Option.map_eq_some'] at h
    obtain ⟨r, _, ⟨t', a'⟩, rest, same⟩ := h
    cases same
    exact .call (ih r rest)

theorem Steps.snoc {p : Prog Call Response α} {t : List (Event Call Response)} {c : Call}
    {k : Response c → Prog Call Response α} (h : Steps p t (.call c k)) (r : Response c) :
    Steps p (t ++ [⟨c, r⟩]) (k r) :=
  h.trans (.call (.refl _))

theorem Steps.det {p q q' : Prog Call Response α} {t : List (Event Call Response)}
    (h : Steps p t q) (h' : Steps p t q') : q = q' := by
  induction h with
  | refl => cases h'; rfl
  | call _ ih => cases h' with
    | call h' => exact ih h'

theorem Steps.split {p q : Prog Call Response α} {t t' : List (Event Call Response)} (h : Steps p (t ++ t') q) :
    ∃ m, Steps p t m ∧ Steps m t' q := by
  induction t generalizing p with
  | nil => exact ⟨p, .refl p, h⟩
  | cons e t ih =>
    cases h with
    | call h =>
      obtain ⟨m, first, second⟩ := ih h
      exact ⟨m, .call first, second⟩

theorem Steps.cons_inv {p q : Prog Call Response α} {c : Call} {r : Response c} {t : List (Event Call Response)}
    (h : Steps p (⟨c, r⟩ :: t) q) : ∃ k, p = .call c k ∧ Steps (k r) t q := by
  cases h with
  | call h => exact ⟨_, rfl, h⟩

theorem Steps.mem_next {p q : Prog Call Response α} {t : List (Event Call Response)} {e : Event Call Response}
    (h : Steps p t q) (member : e ∈ t) : ∃ l k, Steps p l (.call e.1 k) := by
  obtain ⟨l, l', rfl⟩ := List.append_of_mem member
  obtain ⟨m, first, second⟩ := Steps.split h
  obtain ⟨c, r⟩ := e
  obtain ⟨k, rfl, -⟩ := second.cons_inv
  exact ⟨l, k, first⟩

theorem Steps.next_call {p q : Prog Call Response α} {t t' : List (Event Call Response)} {c c' : Call}
    {k : Response c → Prog Call Response α} {r : Response c} {r' : Response c'}
    (h : Steps p t (.call c k)) (run : Steps p (t ++ ⟨c, r⟩ :: ⟨c', r'⟩ :: t') q) : ∃ k', k r = .call c' k' := by
  obtain ⟨m, first, second⟩ := Steps.split (show Steps p (t ++ [⟨c, r⟩] ++ ⟨c', r'⟩ :: t') q by simpa using run)
  obtain ⟨k', next, -⟩ := second.cons_inv
  exact ⟨k', ((h.snoc r).det first).trans next⟩

theorem Steps.extend [∀ c, Nonempty (Response c)] {p q : Prog Call Response α}
    {t : List (Event Call Response)} (h : Steps p t q) : ∃ t' a, Run p (t ++ t') a := by
  let answer : (c : Call) → Response c := fun c => Classical.choice inferInstance
  exact ⟨(exec answer q).1, (exec answer q).2, h.trans (exec_run answer q)⟩

theorem Steps.completes [∀ c, Nonempty (Response c)] {p : Prog Call Response α}
    {t : List (Event Call Response)} {c : Call} {k : Response c → Prog Call Response α}
    (h : Steps p t (.call c k)) (r : Response c) : ∃ t' a, Run p (t ++ ⟨c, r⟩ :: t') a := by
  obtain ⟨t', a, run⟩ := (h.snoc r).extend
  exact ⟨t', a, by simpa using run⟩

end Prog

end Kots.Effect
