import Motu424.Foundation.Program

namespace Program

variable {ρ σ ε α β ι : Type}

/-- A part of a state with a history that code may be confined to: when two states
agree on it, and what it allows to be done. -/
structure Confinement (σ ε : Type) where
  history : σ → List ε
  same : σ → σ → Prop
  allowed : σ → ε → Prop
  refl : ∀ s, same s s
  trans : ∀ {s t u}, same s t → same t u → same s u
  allowed_iff : ∀ {s t}, same s t → ∀ e, allowed t e ↔ allowed s e

/-- Started in a state, the program keeps the part, and adds to the history only
what it allows. -/
def Confined (C : Confinement σ ε) (env : ρ) (s : σ) (p : Program ρ σ α) : Prop :=
  C.same s (p.exec env s) ∧
    ∃ new, C.history (p.exec env s) = C.history s ++ new ∧ ∀ e ∈ new, C.allowed s e

namespace Confined

variable {C : Confinement σ ε} {env : ρ} {s : σ}

theorem pure (a : α) : Confined C env s (pure a : Program ρ σ α) :=
  ⟨C.refl s, [], (List.append_nil _).symm, List.forall_mem_nil _⟩

theorem bind {p : Program ρ σ α} {f : α → Program ρ σ β} (hp : Confined C env s p)
    (hf : ∀ a t, C.same s t → Confined C env t (f a)) : Confined C env s (p >>= f) := by
  obtain ⟨hsame, new, hnew, hallowed⟩ := hp
  obtain ⟨hsame', new', hnew', hallowed'⟩ := hf (p.eval env s) (p.exec env s) hsame
  refine ⟨C.trans hsame hsame', new ++ new', ?_, ?_⟩
  · rw [exec_bind, hnew', hnew, List.append_assoc]
  · intro e he
    rcases List.mem_append.mp he with he | he
    · exact hallowed e he
    · exact (C.allowed_iff hsame e).mp (hallowed' e he)

/-- Code that is confined more narrowly. -/
theorem mono {D : Confinement σ ε} {p : Program ρ σ α} (hp : Confined C env s p)
    (hsame : ∀ {s t}, C.same s t → D.same s t) (hhistory : D.history = C.history)
    (hallowed : ∀ e, C.allowed s e → D.allowed s e) : Confined D env s p := by
  obtain ⟨hkept, new, hnew, hdone⟩ := hp
  refine ⟨hsame hkept, new, ?_, fun e he => hallowed e (hdone e he)⟩
  rw [hhistory]
  exact hnew

theorem gets (f : σ → α) : Confined C env s (Program.gets f : Program ρ σ α) :=
  ⟨C.refl s, [], (List.append_nil _).symm, List.forall_mem_nil _⟩

/-- What follows a read of the state may use the value that was read. -/
theorem bind_gets {g : σ → α} {f : α → Program ρ σ β} (hf : Confined C env s (f (g s))) :
    Confined C env s (Program.gets g >>= f) := hf

theorem asks (f : ρ → σ → α) : Confined C env s (Program.asks f) :=
  ⟨C.refl s, [], (List.append_nil _).symm, List.forall_mem_nil _⟩

theorem update {f : σ → σ} (hsame : C.same s (f s)) (hhistory : C.history (f s) = C.history s) :
    Confined C env s (Program.update f : Program ρ σ Unit) :=
  ⟨hsame, [], hhistory.trans (List.append_nil _).symm, List.forall_mem_nil _⟩

/-- An update that adds one event. -/
theorem update_event {f : σ → σ} {e : ε} (hsame : C.same s (f s)) (hhistory : C.history (f s) = C.history s ++ [e])
    (he : C.allowed s e) : Confined C env s (Program.update f : Program ρ σ Unit) :=
  ⟨hsame, [e], hhistory, List.forall_mem_singleton.mpr he⟩

theorem ite {c : Prop} [Decidable c] {p q : Program ρ σ α} (hp : c → Confined C env s p)
    (hq : ¬ c → Confined C env s q) : Confined C env s (if c then p else q) := by
  by_cases hc : c
  · simpa only [if_pos hc] using hp hc
  · simpa only [if_neg hc] using hq hc

theorem when {c : Prop} [Decidable c] {p : Program ρ σ Unit} (hp : c → Confined C env s p) :
    Confined C env s (Program.when c p) :=
  ite hp fun _ => pure ()

theorem forEach {is : List ι} {body : ι → Program ρ σ Unit}
    (hbody : ∀ i ∈ is, ∀ t, C.same s t → Confined C env t (body i)) :
    Confined C env s (Program.forEach is body) := by
  induction is generalizing s with
  | nil => exact pure ()
  | cons i is ih =>
    refine bind (hbody i (by simp) s (C.refl s)) fun _ t hsame => ih fun j hj u hsame' => ?_
    exact hbody j (by simp [hj]) u (C.trans hsame hsame')

end Confined

end Program
