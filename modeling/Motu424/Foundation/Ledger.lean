import Mathlib.Data.List.Induction
import Mathlib.Tactic.Common

namespace Ledger

variable {ρ : Type} [DecidableEq ρ]

/-- One entry of an account. -/
inductive Entry (ρ : Type) where
  | take (r : ρ)
  | give (r : ρ)
  deriving DecidableEq, Repr

/-- The same entry in an account with other names. -/
def Entry.map {τ : Type} (f : ρ → τ) : Entry ρ → Entry τ
  | .take r => .take (f r)
  | .give r => .give (f r)

/-- What an entry adds to the account of one resource. -/
def Entry.amount (r : ρ) : Entry ρ → Int
  | .take r' => if r' = r then 1 else 0
  | .give r' => if r' = r then -1 else 0

/-- How often a resource is held after a list of entries, oldest first. -/
def held : List (Entry ρ) → ρ → Int
  | [], _ => 0
  | e :: book, r => e.amount r + held book r

/-- Whatever is given back is held at that time. -/
def Solvent (book : List (Entry ρ)) : Prop :=
  ∀ pre r post, book = pre ++ .give r :: post → 0 < held pre r

variable {book : List (Entry ρ)} {r s : ρ}

@[simp] theorem held_nil : held ([] : List (Entry ρ)) r = 0 := rfl

@[simp] theorem held_append (xs ys : List (Entry ρ)) : held (xs ++ ys) r = held xs r + held ys r := by
  induction xs with
  | nil => simp [held]
  | cons e xs ih => simp [held, ih, Int.add_assoc]

@[simp] theorem held_take : held [.take s] r = if s = r then 1 else 0 := by
  simp [held, Entry.amount]

@[simp] theorem held_give : held [.give s] r = if s = r then -1 else 0 := by
  simp [held, Entry.amount]

theorem solvent_nil : Solvent ([] : List (Entry ρ)) := by
  intro pre r post hbook
  cases pre <;> cases hbook

theorem solvent_append_singleton (e : Entry ρ) :
    Solvent (book ++ [e]) ↔ Solvent book ∧ ∀ r, e = .give r → 0 < held book r := by
  constructor
  · intro hbook
    constructor
    · intro pre r post hsplit
      apply hbook pre r (post ++ [e])
      rw [hsplit, List.append_assoc, List.cons_append]
    · intro r hgive
      exact hbook book r [] (by rw [hgive])
  · rintro ⟨hbook, hlast⟩ pre r post hsplit
    rcases List.eq_nil_or_concat post with rfl | ⟨post', last, rfl⟩
    · obtain ⟨rfl, hgive⟩ := List.append_inj' hsplit rfl
      cases hgive
      exact hlast r rfl
    · rw [List.concat_eq_append, ← List.cons_append, ← List.append_assoc] at hsplit
      exact hbook pre r post' (List.append_inj' hsplit rfl).1

/-- Taking is always sound. -/
theorem Solvent.take (hbook : Solvent book) (r : ρ) : Solvent (book ++ [.take r]) := by
  apply (solvent_append_singleton _).mpr
  exact ⟨hbook, fun s hgive => by cases hgive⟩

/-- Giving back is sound for what is held. -/
theorem Solvent.give (hbook : Solvent book) (hheld : 0 < held book r) :
    Solvent (book ++ [.give r]) := by
  apply (solvent_append_singleton _).mpr
  refine ⟨hbook, fun s hgive => ?_⟩
  cases hgive
  exact hheld

@[simp] theorem held_map_give (given : List ρ) : held (given.map .give) r = -(given.count r : Int) := by
  induction given with
  | nil => rfl
  | cons s given ih =>
    rw [List.map_cons, held, ih, List.count_cons, Entry.amount]
    simp only [beq_iff_eq]
    split
    · omega
    · omega

/-- A sound book after which the resources of a list are held. -/
structure Balance (book : List (Entry ρ)) (owned : List ρ) : Prop where
  solvent : Solvent book
  held_eq : ∀ r, held book r = owned.count r

namespace Balance

variable {owned owned' : List ρ}

theorem nil : Balance ([] : List (Entry ρ)) [] where
  solvent := solvent_nil
  held_eq := fun _ => rfl

/-- The order of the list does not matter. -/
theorem perm (hbalance : Balance book owned) (hperm : owned.Perm owned') : Balance book owned' where
  solvent := hbalance.solvent
  held_eq := by
    intro r
    rw [hbalance.held_eq, hperm.count_eq]

theorem take (hbalance : Balance book owned) (r : ρ) : Balance (book ++ [.take r]) (r :: owned) where
  solvent := hbalance.solvent.take r
  held_eq := by
    intro s
    rw [held_append, hbalance.held_eq, held_take, List.count_cons]
    simp only [beq_iff_eq]
    split
    · omega
    · omega

theorem give (hbalance : Balance book (r :: owned)) : Balance (book ++ [.give r]) owned where
  solvent := by
    apply hbalance.solvent.give
    rw [hbalance.held_eq, List.count_cons_self]
    omega
  held_eq := by
    intro s
    rw [held_append, hbalance.held_eq, held_give, List.count_cons]
    simp only [beq_iff_eq]
    split
    · omega
    · omega

theorem take_all (hbalance : Balance book owned) (taken : List ρ) :
    Balance (book ++ taken.map .take) (taken ++ owned) := by
  induction taken generalizing book owned with
  | nil => simpa using hbalance
  | cons r taken ih =>
    have hrest := ih (hbalance.take r)
    rw [List.append_assoc] at hrest
    exact hrest.perm List.perm_middle

/-- What is owned is held. -/
theorem held_pos (hbalance : Balance book owned) (hr : r ∈ owned) : 0 < held book r := by
  rw [hbalance.held_eq]
  exact Int.natCast_pos.mpr (List.count_pos_iff.mpr hr)

/-- Giving back a part leaves the rest. -/
theorem give_part {given rest : List ρ} (hbalance : Balance book (given ++ rest)) :
    Balance (book ++ given.map .give) rest := by
  induction given generalizing book with
  | nil => simpa using hbalance
  | cons r given ih =>
    have hrest := ih hbalance.give
    rwa [List.append_assoc] at hrest

/-- Giving back all that is held leaves nothing. -/
theorem give_all (hbalance : Balance book owned) : Balance (book ++ owned.map .give) [] := by
  apply give_part
  rwa [List.append_nil]

/-- A book is balanced exactly when it leaves nothing. -/
theorem nil_iff (hbalance : Balance book owned) : Balance book [] ↔ owned = [] := by
  constructor
  · intro hnil
    apply List.eq_nil_iff_forall_not_mem.mpr
    intro r hr
    have hheld := hbalance.held_eq r
    rw [hnil.held_eq r, List.count_nil] at hheld
    have hpos := List.count_pos_iff.mpr hr
    omega
  · rintro rfl
    exact hbalance

end Balance

end Ledger
