import Mathlib.Data.Nat.ModEq
import Mathlib.Tactic.Common

namespace SampleClock

/-- The number of whole samples after a time, `rate` samples in `unit` units of time. -/
def samples (unit rate time : Nat) : Nat := time * rate / unit

/-- A later position is the same place of a ring exactly when the samples in between
fill it a whole number of times. -/
theorem mod_eq_mod_iff {a b size : Nat} (hle : a ≤ b) : a % size = b % size ↔ size ∣ b - a :=
  Nat.modEq_iff_dvd' hle

/-- Only equal positions are the same place of every ring. -/
theorem eq_of_forall_mod_eq {a b limit : Nat} (hle : a ≤ b) (hlimit : b - a + 1 < limit)
    (hsame : ∀ size, 0 < size → size < limit → a % size = b % size) : a = b := by
  have hdvd := (mod_eq_mod_iff hle).mp (hsame (b - a + 1) (by omega) hlimit)
  have hzero := Nat.eq_zero_of_dvd_of_lt hdvd (by omega)
  omega

variable {unit rate : Nat}

theorem samples_mono {time time' : Nat} (hle : time ≤ time') :
    samples unit rate time ≤ samples unit rate time' :=
  Nat.div_le_div_right (Nat.mul_le_mul_right rate hle)

/-- A delay adds no sample exactly when it does not complete the sample that has begun. -/
theorem samples_add_eq_iff (hunit : 0 < unit) (time delay : Nat) :
    samples unit rate time = samples unit rate (time + delay) ↔
      time * rate % unit + delay * rate < unit := by
  have hdiv := Nat.div_add_mod (time * rate) unit
  have hlt := Nat.mod_lt (time * rate) hunit
  rw [samples, samples, Nat.add_mul]
  constructor
  · intro heq
    have hnext := Nat.lt_mul_div_succ (time * rate + delay * rate) hunit
    rw [← heq, Nat.mul_add, Nat.mul_one] at hnext
    omega
  · intro hshort
    symm
    apply Nat.div_eq_of_lt_le
    · rw [Nat.mul_comm (time * rate / unit)]
      omega
    · rw [Nat.add_mul, Nat.one_mul, Nat.mul_comm (time * rate / unit)]
      omega

/-- The samples that are lost when the product wraps at a word size. -/
def lost_samples (unit rate word time : Nat) : Nat :=
  samples unit rate time - time * rate % word / unit

theorem wrapped_le_samples (word time : Nat) : time * rate % word / unit ≤ samples unit rate time :=
  Nat.div_le_div_right (Nat.mod_le _ _)

/-- A wrap loses samples, as long as the word is worth one. -/
theorem wrapped_eq_samples_iff {word : Nat} (hunit : 0 < unit) (hword : unit ≤ word) (time : Nat) :
    time * rate % word / unit = samples unit rate time ↔ time * rate < word := by
  constructor
  · intro heq
    by_contra hwrap
    have hless : time * rate % word + word ≤ time * rate := by
      have hmod := Nat.div_add_mod (time * rate) word
      have hquot : 1 ≤ time * rate / word := Nat.div_pos (by omega) (by omega)
      have hmul : word * 1 ≤ word * (time * rate / word) := Nat.mul_le_mul_left word hquot
      omega
    have hstep : time * rate % word / unit + 1 ≤ time * rate / unit := by
      rw [← Nat.add_div_right _ hunit]
      exact Nat.div_le_div_right (by omega)
    rw [samples] at heq
    omega
  · intro hfits
    rw [samples, Nat.mod_eq_of_lt hfits]

end SampleClock
