import Mathlib.Tactic.Common
import Mathlib.Data.Nat.Bitwise
import Mathlib.Tactic.Ring

namespace LittleEndian

/-- The low `k` bytes of a number, least significant first. -/
def split : Nat → Nat → List (BitVec 8)
  | 0, _ => []
  | k + 1, n => BitVec.ofNat 8 n :: split k (n / 256)

/-- The number whose bytes are listed, least significant first. -/
def combine : List (BitVec 8) → Nat
  | [] => 0
  | b :: bs => b.toNat + 256 * combine bs

@[simp] theorem length_split (k n : Nat) : (split k n).length = k := by
  induction k generalizing n with
  | zero => rfl
  | succ k ih => simp [split, ih]

theorem combine_split (k n : Nat) : combine (split k n) = n % 256 ^ k := by
  induction k generalizing n with
  | zero => simp [split, combine, Nat.mod_one]
  | succ k ih =>
    have hmod : n % 256 ^ (k + 1) = n % 256 + 256 * (n / 256 % 256 ^ k) := by
      rw [pow_succ, Nat.mul_comm, Nat.mod_mul]
    rw [split, combine, ih, hmod]
    rfl

theorem combine_split_of_lt {k n : Nat} (hn : n < 256 ^ k) : combine (split k n) = n := by
  rw [combine_split, Nat.mod_eq_of_lt hn]

theorem split_combine (bs : List (BitVec 8)) : split bs.length (combine bs) = bs := by
  induction bs with
  | nil => rfl
  | cons b bs ih =>
    have hb : b.toNat < 256 := b.isLt
    have hlow : BitVec.ofNat 8 (b.toNat + 256 * combine bs) = b := by
      apply BitVec.eq_of_toNat_eq
      simp only [BitVec.toNat_ofNat]
      omega
    have hhigh : (b.toNat + 256 * combine bs) / 256 = combine bs := by omega
    rw [List.length_cons, combine, split, hlow, hhigh, ih]

/-- Shifting a word past the bits of another and joining the two adds them. -/
theorem toNat_or_shiftLeft {w k : Nat} {low high : BitVec w} (hlow : low.toNat < 2 ^ k)
    (hhigh : high.toNat * 2 ^ k < 2 ^ w) :
    (low ||| high <<< k).toNat = low.toNat + 2 ^ k * high.toNat := by
  have hadd := Nat.two_pow_add_eq_or_of_lt hlow high.toNat
  rw [BitVec.toNat_or, BitVec.toNat_shiftLeft, Nat.shiftLeft_eq, Nat.mod_eq_of_lt hhigh, Nat.or_comm,
    Nat.mul_comm, ← hadd, Nat.add_comm]

end LittleEndian
