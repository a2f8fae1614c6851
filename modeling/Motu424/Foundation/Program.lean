import Mathlib.Tactic.Common

/-- A sequential program: it reads a fixed environment, changes a state and
returns a value. -/
def Program (ρ σ α : Type) : Type := ρ → σ → α × σ

namespace Program

variable {ρ ρ' σ τ α β ι : Type}

instance : Monad (Program ρ σ) where
  pure a := fun _ s => (a, s)
  bind p f := fun env s =>
    match p env s with
    | (a, s') => f a env s'

/-- The value a program returns. -/
def eval (p : Program ρ σ α) (env : ρ) (s : σ) : α := (p env s).1

/-- The state a program leaves behind. -/
def exec (p : Program ρ σ α) (env : ρ) (s : σ) : σ := (p env s).2

/-- Read a part of the state. -/
def gets (f : σ → α) : Program ρ σ α := fun _ s => (f s, s)

/-- Ask the environment, which may look at the state. -/
def asks (f : ρ → σ → α) : Program ρ σ α := fun env s => (f env s, s)

/-- Change the state. -/
def update (f : σ → σ) : Program ρ σ Unit := fun _ s => ((), f s)

/-- Run a program on a part of a larger state and of a larger environment. -/
def zoom (envOf : ρ → ρ') (view : σ → τ) (put : τ → σ → σ) (p : Program ρ' τ α) : Program ρ σ α :=
  fun env s =>
    match p (envOf env) (view s) with
    | (a, t) => (a, put t s)

/-- Run a program only under a condition. -/
def when (c : Prop) [Decidable c] (p : Program ρ σ Unit) : Program ρ σ Unit :=
  if c then p else pure ()

/-- Run the body once for each element, in order. -/
def forEach : List ι → (ι → Program ρ σ Unit) → Program ρ σ Unit
  | [], _ => pure ()
  | i :: is, body => do
    body i
    forEach is body

@[simp] theorem eval_pure (a : α) (env : ρ) (s : σ) : (pure a : Program ρ σ α).eval env s = a := (rfl)

@[simp] theorem exec_pure (a : α) (env : ρ) (s : σ) : (pure a : Program ρ σ α).exec env s = s := (rfl)

@[simp] theorem eval_bind (p : Program ρ σ α) (f : α → Program ρ σ β) (env : ρ) (s : σ) :
    (p >>= f).eval env s = (f (p.eval env s)).eval env (p.exec env s) := (rfl)

@[simp] theorem exec_bind (p : Program ρ σ α) (f : α → Program ρ σ β) (env : ρ) (s : σ) :
    (p >>= f).exec env s = (f (p.eval env s)).exec env (p.exec env s) := (rfl)

@[simp] theorem eval_gets (f : σ → α) (env : ρ) (s : σ) :
    (gets f : Program ρ σ α).eval env s = f s := (rfl)

@[simp] theorem exec_gets (f : σ → α) (env : ρ) (s : σ) :
    (gets f : Program ρ σ α).exec env s = s := (rfl)

@[simp] theorem eval_asks (f : ρ → σ → α) (env : ρ) (s : σ) :
    (asks f : Program ρ σ α).eval env s = f env s := (rfl)

@[simp] theorem exec_asks (f : ρ → σ → α) (env : ρ) (s : σ) :
    (asks f : Program ρ σ α).exec env s = s := (rfl)

@[simp] theorem exec_update (f : σ → σ) (env : ρ) (s : σ) :
    (update f : Program ρ σ Unit).exec env s = f s := (rfl)

@[simp] theorem eval_zoom (envOf : ρ → ρ') (view : σ → τ) (put : τ → σ → σ)
    (p : Program ρ' τ α) (env : ρ) (s : σ) :
    (p.zoom envOf view put).eval env s = p.eval (envOf env) (view s) := (rfl)

@[simp] theorem exec_zoom (envOf : ρ → ρ') (view : σ → τ) (put : τ → σ → σ)
    (p : Program ρ' τ α) (env : ρ) (s : σ) :
    (p.zoom envOf view put).exec env s = put (p.exec (envOf env) (view s)) s := (rfl)

@[simp] theorem exec_when (c : Prop) [Decidable c] (p : Program ρ σ Unit) (env : ρ) (s : σ) :
    (when c p).exec env s = if c then p.exec env s else s := by
  by_cases hc : c <;> simp [when, hc]

@[simp] theorem exec_forEach_nil (body : ι → Program ρ σ Unit) (env : ρ) (s : σ) :
    (forEach [] body).exec env s = s := (rfl)

@[simp] theorem exec_forEach_cons (i : ι) (is : List ι) (body : ι → Program ρ σ Unit)
    (env : ρ) (s : σ) :
    (forEach (i :: is) body).exec env s = (forEach is body).exec env ((body i).exec env s) := (rfl)

theorem exec_forEach_append (is js : List ι) (body : ι → Program ρ σ Unit) (env : ρ) (s : σ) :
    (forEach (is ++ js) body).exec env s = (forEach js body).exec env ((forEach is body).exec env s) := by
  induction is generalizing s with
  | nil => rfl
  | cons i is ih => rw [List.cons_append, exec_forEach_cons, ih, exec_forEach_cons]

/-- The program keeps an invariant of the state, whatever it returns. -/
def Preserves (env : ρ) (I : σ → Prop) (p : Program ρ σ α) : Prop :=
  ∀ s, I s → I (p.exec env s)

theorem Preserves.pure {env : ρ} {I : σ → Prop} (a : α) :
    Preserves env I (pure a : Program ρ σ α) := fun _ hs => hs

theorem Preserves.bind {env : ρ} {I : σ → Prop} {p : Program ρ σ α} {f : α → Program ρ σ β}
    (hp : Preserves env I p) (hf : ∀ a, Preserves env I (f a)) : Preserves env I (p >>= f) :=
  fun s hs => hf _ _ (hp s hs)

/-- The continuation of a state read may use that it runs on a state with the
invariant and with the value read. -/
theorem Preserves.bind_gets {env : ρ} {I : σ → Prop} (g : σ → α) {f : α → Program ρ σ β}
    (hf : ∀ s, I s → I ((f (g s)).exec env s)) : Preserves env I (Program.gets g >>= f) :=
  fun s hs => hf s hs

theorem Preserves.ite {env : ρ} {I : σ → Prop} {c : Prop} [Decidable c] {p q : Program ρ σ α}
    (hp : c → Preserves env I p) (hq : ¬ c → Preserves env I q) :
    Preserves env I (if c then p else q) := by
  by_cases hc : c
  · simpa only [if_pos hc] using hp hc
  · simpa only [if_neg hc] using hq hc

theorem Preserves.when {env : ρ} {I : σ → Prop} {c : Prop} [Decidable c] {p : Program ρ σ Unit}
    (hp : Preserves env I p) : Preserves env I (Program.when c p) :=
  Preserves.ite (fun _ => hp) fun _ => Preserves.pure ()

/-- The loop rule: an invariant of every round is an invariant of the loop. -/
theorem Preserves.forEach {env : ρ} {I : σ → Prop} {body : ι → Program ρ σ Unit} {is : List ι}
    (hbody : ∀ i ∈ is, Preserves env I (body i)) : Preserves env I (Program.forEach is body) := by
  induction is with
  | nil => exact fun s hs => hs
  | cons i is ih =>
    intro s hs
    have hround := hbody i (by simp) s hs
    exact ih (fun j hj => hbody j (by simp [hj])) _ hround

/-- Started in a state, the program ends with a value and a state that a relation
allows. -/
def Ends (env : ρ) (s : σ) (Q : α → σ → Prop) (p : Program ρ σ α) : Prop :=
  Q (p.eval env s) (p.exec env s)

section ends

variable {env : ρ} {s : σ} {p q : Program ρ σ α} {Q : α → σ → Prop}

theorem Ends.pure {a : α} (ha : Q a s) : Ends env s Q (pure a : Program ρ σ α) := ha

theorem Ends.bind {p : Program ρ σ β} {f : β → Program ρ σ α}
    (hf : Ends env (p.exec env s) Q (f (p.eval env s))) : Ends env s Q (p >>= f) := hf

/-- What follows code that keeps an invariant may use it. -/
theorem Preserves.ends {p : Program ρ σ β} {f : β → Program ρ σ α} {I : σ → Prop} (hp : Preserves env I p)
    (hs : I s) (hf : ∀ b t, I t → Ends env t Q (f b)) : Ends env s Q (p >>= f) := hf _ _ (hp s hs)

theorem Ends.ite {c : Prop} [Decidable c] (hp : c → Ends env s Q p) (hq : ¬ c → Ends env s Q q) :
    Ends env s Q (if c then p else q) := by
  by_cases hc : c
  · simpa only [if_pos hc] using hp hc
  · simpa only [if_neg hc] using hq hc

end ends

end Program
