import Mathlib.Logic.Function.Basic
import Mathlib.Logic.Nontrivial.Defs
import Mathlib.Tactic.Common

open Function

namespace Flow

variable {α κ ℓ ν : Type} [DecidableEq α]

/-- An access to the memory: a secret is put at an address, a known value is set
there, or the word is got and published under a label. -/
inductive Access (α κ ℓ ν : Type) where
  | put (a : α) (key : κ)
  | set (a : α) (v : ν)
  | get (label : ℓ) (a : α)
  deriving DecidableEq

/-- What an access leaves in memory, for given secrets. -/
def Access.store (secrets : κ → ν) (mem : α → ν) : Access α κ ℓ ν → α → ν
  | .put a key => update mem a (secrets key)
  | .set a v => update mem a v
  | .get _ _ => mem

/-- The memory after a list of accesses. -/
def memory (secrets : κ → ν) (mem : α → ν) (accesses : List (Access α κ ℓ ν)) : α → ν :=
  accesses.foldl (Access.store secrets) mem

/-- What is published by a list of accesses. -/
def received (secrets : κ → ν) : (α → ν) → List (Access α κ ℓ ν) → List (ℓ × ν)
  | _, [] => []
  | mem, .put a key :: accesses => received secrets (update mem a (secrets key)) accesses
  | mem, .set a v :: accesses => received secrets (update mem a v) accesses
  | mem, .get label a :: accesses => (label, mem a) :: received secrets mem accesses

/-- No word is got that a put has written last, given the addresses where that is
so at the beginning. -/
def Clean : (α → Bool) → List (Access α κ ℓ ν) → Prop
  | _, [] => True
  | tainted, .put a _ :: accesses => Clean (update tainted a true) accesses
  | tainted, .set a _ :: accesses => Clean (update tainted a false) accesses
  | tainted, .get _ a :: accesses => tainted a = false ∧ Clean tainted accesses

instance decidableClean : (tainted : α → Bool) → (accesses : List (Access α κ ℓ ν)) →
    Decidable (Clean tainted accesses)
  | _, [] => inferInstanceAs (Decidable True)
  | tainted, .put a _ :: accesses => decidableClean (update tainted a true) accesses
  | tainted, .set a _ :: accesses => decidableClean (update tainted a false) accesses
  | tainted, .get _ a :: accesses =>
    have := decidableClean tainted accesses
    inferInstanceAs (Decidable (tainted a = false ∧ Clean tainted accesses))

section append

variable (secrets : κ → ν) (mem : α → ν) (xs ys : List (Access α κ ℓ ν))

@[simp] theorem memory_nil : memory secrets mem ([] : List (Access α κ ℓ ν)) = mem := rfl

@[simp] theorem memory_cons (x : Access α κ ℓ ν) :
    memory secrets mem (x :: xs) = memory secrets (x.store secrets mem) xs := rfl

@[simp] theorem memory_append :
    memory secrets mem (xs ++ ys) = memory secrets (memory secrets mem xs) ys := List.foldl_append

theorem received_append :
    received secrets mem (xs ++ ys) =
      received secrets mem xs ++ received secrets (memory secrets mem xs) ys := by
  induction xs generalizing mem with
  | nil => rfl
  | cons x xs ih =>
    cases x with
    | put a key => exact ih (update mem a (secrets key))
    | set a v => exact ih (update mem a v)
    | get label a => exact congrArg _ (ih mem)

end append

section slots

variable {ι : Type} (secrets : κ → ν) (mem : α → ν) {slot : ι → α} (key : ι → κ) (label : ι → ℓ)

/-- Puts leave the words at other addresses alone. -/
theorem memory_puts_of_ne {ks : List ι} {a : α} (ha : ∀ k ∈ ks, slot k ≠ a) :
    memory secrets mem (ks.map fun k => (.put (slot k) (key k) : Access α κ ℓ ν)) a = mem a := by
  induction ks generalizing mem with
  | nil => rfl
  | cons k ks ih =>
    obtain ⟨hk, hrest⟩ := List.forall_mem_cons.mp ha
    rw [List.map_cons, memory_cons, ih _ hrest, Access.store, update_of_ne hk.symm]

/-- Puts into slots of their own can all be found again. -/
theorem memory_puts (hslot : Injective slot) {ks : List ι} {k : ι} (hk : k ∈ ks) :
    memory secrets mem (ks.map fun k => (.put (slot k) (key k) : Access α κ ℓ ν)) (slot k) =
      secrets (key k) := by
  induction ks generalizing mem with
  | nil => cases hk
  | cons j ks ih =>
    rw [List.map_cons, memory_cons]
    by_cases hlater : k ∈ ks
    · exact ih _ hlater
    · have hkj : k = j := (List.mem_cons.mp hk).resolve_right hlater
      have hother : ∀ i ∈ ks, slot i ≠ slot k := fun i hi hsame => hlater (hslot hsame ▸ hi)
      rw [memory_puts_of_ne _ _ key hother, Access.store, hkj, update_self]

/-- Gets publish the words as they are. -/
theorem received_gets (ks : List ι) :
    received secrets mem (ks.map fun k => (.get (label k) (slot k) : Access α κ ℓ ν)) =
      ks.map fun k => (label k, mem (slot k)) := by
  induction ks with
  | nil => rfl
  | cons k ks ih => rw [List.map_cons, received, ih, List.map_cons]

/-- What is put into slots of their own and got from there in a row comes out in
the same order. -/
theorem received_gets_memory_puts (hslot : Injective slot) (ks : List ι) :
    received secrets (memory secrets mem (ks.map fun k => (.put (slot k) (key k) : Access α κ ℓ ν)))
      (ks.map fun k => (.get (label k) (slot k) : Access α κ ℓ ν)) =
      ks.map fun k => (label k, secrets (key k)) := by
  rw [received_gets]
  apply List.map_congr_left
  intro k hk
  rw [memory_puts secrets mem key hslot hk]

end slots

/-- A relation between the words of two memories that depends on the taint is kept
by related updates. -/
theorem related_update {R : Bool → ν → ν → Prop} {tainted : α → Bool} {mem mem' : α → ν}
    (hrel : ∀ a, R (tainted a) (mem a) (mem' a)) (a : α) {taint : Bool} {v v' : ν} (hnew : R taint v v')
    (b : α) : R (update tainted a taint b) (update mem a v b) (update mem' a v' b) := by
  by_cases hba : b = a
  · rw [hba, update_self, update_self, update_self]
    exact hnew
  · rw [update_of_ne hba, update_of_ne hba, update_of_ne hba]
    exact hrel b

/-- Where only clean words are got, the secrets do not show. -/
theorem received_eq_of_clean (secrets secrets' : κ → ν) {accesses : List (Access α κ ℓ ν)}
    {tainted : α → Bool} {mem mem' : α → ν} (hclean : Clean tainted accesses)
    (hagree : ∀ a, tainted a = false → mem a = mem' a) :
    received secrets mem accesses = received secrets' mem' accesses := by
  induction accesses generalizing tainted mem mem' with
  | nil => rfl
  | cons access accesses ih =>
    cases access with
    | put a key =>
      have hafter := @related_update _ _ _ (fun taint x y => taint = false → x = y) _ _ _ hagree a true
        (secrets key) (secrets' key) (by simp)
      exact ih hclean hafter
    | set a v =>
      have hafter := @related_update _ _ _ (fun taint x y => taint = false → x = y) _ _ _ hagree a false
        v v (by simp)
      exact ih hclean hafter
    | get label a =>
      obtain ⟨ha, hrest⟩ := hclean
      rw [received, received, hagree a ha, ih hrest hagree]

/-- Otherwise two secrets that differ everywhere do. -/
theorem received_ne_of_not_clean {v v' : ν} (hne : v ≠ v') {accesses : List (Access α κ ℓ ν)}
    {tainted : α → Bool} {mem mem' : α → ν} (hdirty : ¬ Clean tainted accesses)
    (hsecret : ∀ a, tainted a = true → mem a = v ∧ mem' a = v') :
    received (fun _ => v) mem accesses ≠ received (fun _ => v') mem' accesses := by
  induction accesses generalizing tainted mem mem' with
  | nil => exact absurd trivial hdirty
  | cons access accesses ih =>
    cases access with
    | put a key =>
      have hafter := @related_update _ _ _ (fun taint x y => taint = true → x = v ∧ y = v') _ _ _ hsecret
        a true v v' (by simp)
      exact ih hdirty hafter
    | set a w =>
      have hafter := @related_update _ _ _ (fun taint x y => taint = true → x = v ∧ y = v') _ _ _ hsecret
        a false w w (by simp)
      exact ih hdirty hafter
    | get label a =>
      intro hreceived
      rw [received, received, List.cons.injEq, Prod.mk.injEq] at hreceived
      obtain ⟨⟨_, hword⟩, hrest⟩ := hreceived
      cases ha : tainted a with
      | true =>
        obtain ⟨hv, hv'⟩ := hsecret a ha
        exact hne (by rw [← hv, hword, hv'])
      | false => exact ih (fun hclean => hdirty ⟨ha, hclean⟩) hsecret hrest

/-- What is published is independent of the secrets exactly when no word is got
that a put has written last. -/
theorem independent_iff_clean [Nontrivial ν] (mem : α → ν) (accesses : List (Access α κ ℓ ν)) :
    (∀ secrets secrets', received secrets mem accesses = received secrets' mem accesses) ↔
      Clean (fun _ => false) accesses := by
  constructor
  · intro hsame
    obtain ⟨v, v', hne⟩ := exists_pair_ne ν
    by_contra hdirty
    exact received_ne_of_not_clean hne hdirty (by simp) (hsame (fun _ => v) fun _ => v')
  · intro hclean secrets secrets'
    exact received_eq_of_clean secrets secrets' hclean fun _ _ => rfl

end Flow
