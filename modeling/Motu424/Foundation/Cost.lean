import Motu424.Foundation.Program
import Mathlib.Algebra.BigOperators.Group.List.Basic
import Mathlib.Algebra.Order.Monoid.Defs

namespace Program

variable {ρ σ α β ι κ : Type} [AddCommMonoid κ] [PartialOrder κ]

/-- However the program goes, it adds at most so much to a measure of the state. -/
def AtMost (env : ρ) (μ : σ → κ) (cost : κ) (p : Program ρ σ α) : Prop := ∀ s, μ (p.exec env s) ≤ μ s + cost

variable {env : ρ} {μ : σ → κ} {a b : κ}

theorem AtMost.of_unchanged {p : Program ρ σ α} (hp : ∀ s, μ (p.exec env s) = μ s) : AtMost env μ 0 p := by
  intro s
  rw [hp s, add_zero]

theorem AtMost.pure (x : α) : AtMost env μ 0 (pure x : Program ρ σ α) := AtMost.of_unchanged fun _ => rfl

/-- A read of the state is free. -/
theorem AtMost.gets_bind {f : σ → α} {k : α → Program ρ σ β} (hk : ∀ x, AtMost env μ a (k x)) :
    AtMost env μ a (gets f >>= k) := fun s => hk (f s) s

theorem AtMost.ite {c : Prop} [Decidable c] {p q : Program ρ σ α} (hp : c → AtMost env μ a p)
    (hq : ¬ c → AtMost env μ a q) : AtMost env μ a (if c then p else q) := by
  by_cases hc : c
  · rw [if_pos hc]
    exact hp hc
  · rw [if_neg hc]
    exact hq hc

section ordered

variable [IsOrderedAddMonoid κ]

theorem AtMost.mono {p : Program ρ σ α} (hp : AtMost env μ a p) (hab : a ≤ b) : AtMost env μ b p := by
  intro s
  calc μ (p.exec env s) ≤ μ s + a := hp s
    _ ≤ μ s + b := add_le_add_right hab (μ s)

/-- One program after the other. -/
theorem AtMost.bind {p : Program ρ σ α} {f : α → Program ρ σ β} (hp : AtMost env μ a p)
    (hf : ∀ x, AtMost env μ b (f x)) : AtMost env μ (a + b) (p >>= f) := by
  intro s
  calc μ ((p >>= f).exec env s) ≤ μ (p.exec env s) + b := hf _ _
    _ ≤ μ s + a + b := add_le_add_left (hp s) b
    _ = μ s + (a + b) := add_assoc _ _ _

theorem AtMost.when {c : Prop} [Decidable c] {p : Program ρ σ Unit} (ha : 0 ≤ a) (hp : AtMost env μ a p) :
    AtMost env μ a (when c p) :=
  AtMost.ite (fun _ => hp) fun _ => (AtMost.pure ()).mono ha

/-- A loop costs what its rounds cost. -/
theorem AtMost.forEach {body : ι → Program ρ σ Unit} {cost : ι → κ}
    (hbody : ∀ i, AtMost env μ (cost i) (body i)) (is : List ι) :
    AtMost env μ (is.map cost).sum (Program.forEach is body) := by
  induction is with
  | nil => exact AtMost.pure ()
  | cons i is ih =>
    rw [List.map_cons, List.sum_cons]
    exact (hbody i).bind fun _ => ih

end ordered

end Program
