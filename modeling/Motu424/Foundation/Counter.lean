import Mathlib.Data.List.Range
import Mathlib.Data.Nat.ModEq
import Mathlib.Tactic.Common

namespace Counter

variable {w : Nat} (limit step : BitVec w)

/-- The values that the counter takes below the limit, if the loop ends within a
number of rounds. -/
def visits : Nat → BitVec w → Option (List (BitVec w))
  | 0, _ => none
  | fuel + 1, off => if off < limit then (visits fuel (off + step)).map (off :: ·) else some []

/-- The number of values from a start on, in steps, below a limit. -/
def count (start limit step : Nat) : Nat := (limit - start + step - 1) / step

/-- These values, in order. -/
def values (start limit step : Nat) : List Nat := (List.range (count start limit step)).map (start + · * step)

/-- In exact arithmetic, the first value that is not below the limit is one of the
counter's. -/
def Fits (w start limit step : Nat) : Prop := start + count start limit step * step < 2 ^ w

instance (w start limit step : Nat) : Decidable (Fits w start limit step) :=
  inferInstanceAs (Decidable (_ < _))

section exact

variable {start limit step : Nat} (hstep : 0 < step)
include hstep

theorem count_of_le (hle : limit ≤ start) : count start limit step = 0 := by
  rw [count, Nat.sub_eq_zero_of_le hle]
  exact Nat.div_eq_of_lt (by omega)

theorem count_of_lt (hlt : start < limit) : count start limit step = count (start + step) limit step + 1 := by
  unfold count
  by_cases hmore : start + step ≤ limit
  · rw [show limit - start + step - 1 = limit - (start + step) + step - 1 + step by omega,
      Nat.add_div_right _ hstep]
  · rw [show limit - start + step - 1 = limit - start - 1 + step by omega, Nat.add_div_right _ hstep,
      Nat.div_eq_of_lt (by omega), Nat.div_eq_of_lt (by omega)]

theorem lt_count_iff (k : Nat) : k < count start limit step ↔ start + k * step < limit := by
  rw [count, Nat.lt_div_iff_mul_lt hstep]
  omega

/-- The values are those of the progression below the limit. -/
theorem mem_values_iff (n : Nat) :
    n ∈ values start limit step ↔ n < limit ∧ ∃ k, n = start + k * step := by
  simp only [values, List.mem_map, List.mem_range, lt_count_iff hstep]
  constructor
  · rintro ⟨k, hk, rfl⟩
    exact ⟨hk, k, rfl⟩
  · rintro ⟨hlt, k, rfl⟩
    exact ⟨k, hlt, rfl⟩

/-- They increase, so that each occurs once. -/
theorem values_increasing : (values start limit step).Pairwise (· < ·) := by
  rw [values, List.pairwise_map]
  apply List.pairwise_lt_range.imp
  intro i j hij
  have := Nat.mul_lt_mul_of_pos_right hij hstep
  omega

theorem values_of_lt (hlt : start < limit) :
    values start limit step = start :: values (start + step) limit step := by
  rw [values, values, count_of_lt hstep hlt, List.range_succ_eq_map, List.map_cons, List.map_map]
  congr 1
  · omega
  · apply List.map_congr_left
    intro k _
    simp only [Function.comp_apply, Nat.succ_mul]
    omega

theorem values_of_le (hle : limit ≤ start) : values start limit step = [] := by
  rw [values, count_of_le hstep hle]
  rfl

theorem fits_of_lt (hlt : start < limit) : Fits w start limit step ↔ Fits w (start + step) limit step := by
  unfold Fits
  rw [count_of_lt hstep hlt, Nat.succ_mul]
  omega

end exact

section machine

variable {limit step} {start : BitVec w}

/-- While the progression fits, the counter follows it and stops. -/
theorem visits_of_fits (hstep : 0 < step.toNat) (hfits : Fits w start.toNat limit.toNat step.toNat) :
    ∃ fuel offs, visits limit step fuel start = some offs ∧
      offs.map BitVec.toNat = values start.toNat limit.toNat step.toNat := by
  generalize hcount : count start.toNat limit.toNat step.toNat = k
  induction k generalizing start with
  | zero =>
    have hle : ¬ start.toNat < limit.toNat := by
      intro hlt
      rw [count_of_lt hstep hlt] at hcount
      cases hcount
    have hstop : ¬ start < limit := fun h => hle (BitVec.lt_def.mp h)
    refine ⟨1, [], by rw [visits, if_neg hstop], ?_⟩
    rw [values_of_le hstep (by omega)]
    rfl
  | succ k ih =>
    have hlt : start.toNat < limit.toNat := by
      by_contra hle
      rw [count_of_le hstep (by omega)] at hcount
      cases hcount
    have hrest := (fits_of_lt hstep hlt).mp hfits
    have hnext : (start + step).toNat = start.toNat + step.toNat := by
      rw [BitVec.toNat_add]
      apply Nat.mod_eq_of_lt
      exact Nat.lt_of_le_of_lt (Nat.le_add_right _ _) hrest
    rw [← hnext] at hrest
    obtain ⟨fuel, offs, hvisits, hvalues⟩ := ih hrest
      (by rw [hnext]; rw [count_of_lt hstep hlt] at hcount; omega)
    refine ⟨fuel + 1, start :: offs, ?_, ?_⟩
    · rw [visits, if_pos (BitVec.lt_def.mpr hlt), hvisits, Option.map_some]
    · rw [List.map_cons, hvalues, hnext, ← values_of_lt hstep hlt]

/-- A counter all of whose values stay below the limit never stops. -/
theorem visits_eq_none (hdvd : step.toNat ∣ 2 ^ w)
    (hbelow : ∀ n < 2 ^ w, n % step.toNat = start.toNat % step.toNat → n < limit.toNat) (fuel : Nat) :
    visits limit step fuel start = none := by
  induction fuel generalizing start with
  | zero => rfl
  | succ fuel ih =>
    have hlt : start < limit := BitVec.lt_def.mpr (hbelow _ start.isLt rfl)
    have hnext : (start + step).toNat % step.toNat = start.toNat % step.toNat := by
      rw [BitVec.toNat_add, Nat.mod_mod_of_dvd _ hdvd, Nat.add_mod_right]
    rw [visits, if_pos hlt, ih (by rwa [hnext]), Option.map_none]

/-- Where the progression passes the end of the word, the counter wraps below the
limit on every pass. -/
theorem visits_of_not_fits (hstep : 0 < step.toNat) (hdvd : step.toNat ∣ 2 ^ w)
    (hnot : ¬ Fits w start.toNat limit.toNat step.toNat) (fuel : Nat) :
    visits limit step fuel start = none := by
  have hcross : 2 ^ w ≤ start.toNat + count start.toNat limit.toNat step.toNat * step.toNat := by
    rw [Fits] at hnot
    omega
  have hlt : start.toNat < limit.toNat := by
    by_contra hle
    rw [count_of_le hstep (by omega), Nat.zero_mul] at hcross
    have := start.isLt
    omega
  apply visits_eq_none hdvd
  intro n hn hclass
  by_contra hle
  obtain ⟨k, hk⟩ := (Nat.modEq_iff_dvd' (by omega : start.toNat ≤ n)).mp hclass.symm
  have hcount : ¬ k < count start.toNat limit.toNat step.toNat := by
    rw [lt_count_iff hstep, Nat.mul_comm]
    omega
  have hmul := Nat.mul_le_mul_right step.toNat (Nat.not_lt.mp hcount)
  rw [Nat.mul_comm k] at hmul
  omega

end machine

end Counter
