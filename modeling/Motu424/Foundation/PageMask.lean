import Mathlib.Data.Nat.Bitwise
import Mathlib.Tactic.Common

namespace PageMask

variable {w k : Nat}

/-- The word whose low `k` bits are zero and whose other bits are one. -/
def pageMask (w k : Nat) : BitVec w := ~~~ BitVec.ofNat w (2 ^ k - 1)

/-- The offset of a word inside its page. -/
theorem toNat_and_not_pageMask (x : BitVec w) (hk : k ≤ w) :
    (x &&& ~~~ pageMask w k).toNat = x.toNat % 2 ^ k := by
  have hpow : 2 ^ k ≤ 2 ^ w := Nat.pow_le_pow_right (by omega) hk
  have hpos : 0 < 2 ^ k := Nat.two_pow_pos k
  have hlow : (BitVec.ofNat w (2 ^ k - 1)).toNat = 2 ^ k - 1 := by
    rw [BitVec.toNat_ofNat, Nat.mod_eq_of_lt (by omega)]
  rw [pageMask, BitVec.not_not, BitVec.toNat_and, hlow, Nat.and_two_pow_sub_one_eq_mod]

/-- The part above a mask and the part below another word's have no bit in common. -/
theorem and_mask_disjoint (x y mask : BitVec w) : (x &&& mask) &&& (y &&& ~~~ mask) = 0#w := by
  ext i
  simp only [BitVec.getElem_and, BitVec.getElem_not, BitVec.getElem_zero]
  cases mask[i] <;> simp

/-- Joining the page of one word with the offset of another does not carry. -/
theorem toNat_join (x y mask : BitVec w) :
    ((x &&& mask) ||| (y &&& ~~~ mask)).toNat = (x &&& mask).toNat + (y &&& ~~~ mask).toNat := by
  have hdisjoint := and_mask_disjoint x y mask
  rw [← BitVec.add_eq_or_of_and_eq_zero _ _ hdisjoint, BitVec.toNat_add_of_and_eq_zero hdisjoint]

theorem join_self (x mask : BitVec w) : (x &&& mask) ||| (x &&& ~~~ mask) = x := by
  ext i
  simp only [BitVec.getElem_or, BitVec.getElem_and, BitVec.getElem_not]
  cases mask[i] <;> simp

/-- The page of a word. -/
theorem toNat_and_pageMask (x : BitVec w) (hk : k ≤ w) :
    (x &&& pageMask w k).toNat = x.toNat - x.toNat % 2 ^ k := by
  have hjoin := toNat_join x x (pageMask w k)
  rw [join_self, toNat_and_not_pageMask x hk] at hjoin
  omega

/-- The word with the page of one word and the offset of another. -/
theorem toNat_relocate (x y : BitVec w) (hk : k ≤ w) :
    ((x &&& pageMask w k) ||| (y &&& ~~~ pageMask w k)).toNat =
      x.toNat - x.toNat % 2 ^ k + y.toNat % 2 ^ k := by
  rw [toNat_join, toNat_and_pageMask x hk, toNat_and_not_pageMask y hk]

/-- Masking with a page tells whether a word lies in that page. -/
theorem and_pageMask_eq_iff (x base : BitVec w) (hk : k ≤ w) (hbase : base.toNat % 2 ^ k = 0) :
    x &&& pageMask w k = base ↔ base.toNat ≤ x.toNat ∧ x.toNat < base.toNat + 2 ^ k := by
  have hlt : x.toNat % 2 ^ k < 2 ^ k := Nat.mod_lt _ (Nat.two_pow_pos k)
  have hle : x.toNat % 2 ^ k ≤ x.toNat := Nat.mod_le _ _
  have hx := Nat.div_add_mod x.toNat (2 ^ k)
  have hb := Nat.div_add_mod base.toNat (2 ^ k)
  rw [← BitVec.toNat_inj, toNat_and_pageMask x hk]
  constructor
  · intro heq
    omega
  · rintro ⟨hlow, hhigh⟩
    have hquot : x.toNat / 2 ^ k = base.toNat / 2 ^ k := by
      apply Nat.div_eq_of_lt_le
      · rw [Nat.mul_comm]
        omega
      · rw [Nat.add_mul, Nat.mul_comm]
        omega
    rw [hquot] at hx
    omega

/-- Joining the page of one word with the offset of another adds the offset, modulo
the word size, exactly when the first word starts a page. -/
theorem join_eq_add_iff (x y : BitVec w) (hk : k ≤ w) :
    ((x &&& pageMask w k) ||| (y &&& ~~~ pageMask w k)) = x + (y &&& ~~~ pageMask w k) ↔
      x.toNat % 2 ^ k = 0 := by
  have hpow : 2 ^ k ≤ 2 ^ w := Nat.pow_le_pow_right (by omega) hk
  have hx := x.isLt
  have hxlt : x.toNat % 2 ^ k < 2 ^ k := Nat.mod_lt _ (Nat.two_pow_pos k)
  have hylt : y.toNat % 2 ^ k < 2 ^ k := Nat.mod_lt _ (Nat.two_pow_pos k)
  have hle : x.toNat % 2 ^ k ≤ x.toNat := Nat.mod_le _ _
  rw [← BitVec.toNat_inj, toNat_relocate x y hk, BitVec.toNat_add, toNat_and_not_pageMask y hk]
  constructor
  · intro heq
    by_cases hwrap : x.toNat + y.toNat % 2 ^ k < 2 ^ w
    · rw [Nat.mod_eq_of_lt hwrap] at heq
      omega
    · have hsub : (x.toNat + y.toNat % 2 ^ k) % 2 ^ w = x.toNat + y.toNat % 2 ^ k - 2 ^ w := by
        rw [Nat.mod_eq_sub_mod (by omega), Nat.mod_eq_of_lt (by omega)]
      omega
  · intro hpage
    -- a word that starts a page lies a whole page below the end
    have hdvd : 2 ^ k ∣ 2 ^ w - x.toNat :=
      Nat.dvd_sub (Nat.pow_dvd_pow 2 hk) (Nat.dvd_of_mod_eq_zero hpage)
    have hroom : 2 ^ k ≤ 2 ^ w - x.toNat := Nat.le_of_dvd (by omega) hdvd
    have hadd : (x.toNat + y.toNat % 2 ^ k) % 2 ^ w = x.toNat + y.toNat % 2 ^ k :=
      Nat.mod_eq_of_lt (by omega)
    omega

end PageMask
