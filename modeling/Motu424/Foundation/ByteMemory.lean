import Mathlib.Data.List.Induction
import Mathlib.Tactic.Common
import Motu424.Foundation.LittleEndian

/-- Byte-addressed memory. -/
def ByteMemory : Type := Nat → BitVec 8

namespace ByteMemory

/-- The memory with zero in every byte. -/
def zeroed : ByteMemory := fun _ => 0

/-- Put consecutive bytes at an address. -/
def store (mem : ByteMemory) (addr : Nat) (bytes : List (BitVec 8)) : ByteMemory :=
  fun a => if addr ≤ a then bytes.getD (a - addr) (mem a) else mem a

/-- The `n` bytes from an address on. -/
def load (mem : ByteMemory) (addr n : Nat) : List (BitVec 8) :=
  (List.range n).map fun k => mem (addr + k)

/-- The little-endian number in the `n` bytes from an address on. -/
def word (mem : ByteMemory) (addr n : Nat) : Nat := LittleEndian.combine (mem.load addr n)

/-- Put a list of stores in memory, the first one first. -/
def storeAll (mem : ByteMemory) (stores : List (Nat × List (BitVec 8))) : ByteMemory :=
  stores.foldl (fun m s => m.store s.1 s.2) mem

/-- Two ranges of addresses have no address in common. -/
def Apart (a m b n : Nat) : Prop := a + m ≤ b ∨ b + n ≤ a

instance (a m b n : Nat) : Decidable (Apart a m b n) := inferInstanceAs (Decidable (_ ∨ _))

@[simp] theorem storeAll_nil (mem : ByteMemory) : mem.storeAll [] = mem := rfl

@[simp] theorem storeAll_append (mem : ByteMemory) (xs ys : List (Nat × List (BitVec 8))) :
    mem.storeAll (xs ++ ys) = (mem.storeAll xs).storeAll ys := List.foldl_append

theorem storeAll_cons (mem : ByteMemory) (x : Nat × List (BitVec 8))
    (xs : List (Nat × List (BitVec 8))) :
    mem.storeAll (x :: xs) = (mem.store x.1 x.2).storeAll xs := rfl

theorem load_store_same (mem : ByteMemory) (addr : Nat) (bytes : List (BitVec 8)) :
    (mem.store addr bytes).load addr bytes.length = bytes := by
  apply List.ext_getElem
  · simp [load]
  · intro k hk hlen
    simp [load, store, hlen]

theorem load_store_apart (mem : ByteMemory) {addr n a : Nat} {bytes : List (BitVec 8)}
    (hapart : Apart addr n a bytes.length) : (mem.store a bytes).load addr n = mem.load addr n := by
  apply List.map_congr_left
  intro k hk
  have hkn : k < n := List.mem_range.mp hk
  simp only [store]
  split
  · have hout : bytes.length ≤ addr + k - a := by
      rcases hapart with h | h <;> omega
    exact List.getD_eq_default _ _ hout
  · rfl

theorem load_storeAll_apart (mem : ByteMemory) {addr n : Nat}
    {stores : List (Nat × List (BitVec 8))}
    (hapart : ∀ s ∈ stores, Apart addr n s.1 s.2.length) :
    (mem.storeAll stores).load addr n = mem.load addr n := by
  induction stores generalizing mem with
  | nil => rfl
  | cons s stores ih =>
    have hrest := ih (mem.store s.1 s.2) (fun t ht => hapart t (by simp [ht]))
    rw [storeAll_cons, hrest, load_store_apart mem (hapart s (by simp))]

/-- The last writer decides: a store that no later store overlaps is what the
memory holds in the end, whatever came before it. -/
theorem load_storeAll_last (mem : ByteMemory) (before : List (Nat × List (BitVec 8)))
    {addr : Nat} (bytes : List (BitVec 8)) {later : List (Nat × List (BitVec 8))}
    (hlater : ∀ s ∈ later, Apart addr bytes.length s.1 s.2.length) :
    (mem.storeAll (before ++ (addr, bytes) :: later)).load addr bytes.length = bytes := by
  rw [storeAll_append, storeAll_cons, load_storeAll_apart _ hlater, load_store_same]

/-- When every store that overlaps a range puts the same bytes there, and there
is one, their order does not matter. -/
theorem load_storeAll_of_mem (mem : ByteMemory) {addr : Nat} {bytes : List (BitVec 8)}
    {stores : List (Nat × List (BitVec 8))} (hmem : (addr, bytes) ∈ stores)
    (hall : ∀ s ∈ stores, s = (addr, bytes) ∨ Apart addr bytes.length s.1 s.2.length) :
    (mem.storeAll stores).load addr bytes.length = bytes := by
  induction stores using List.reverseRecOn with
  | nil => simp at hmem
  | append_singleton stores s ih =>
    rw [storeAll_append]
    rcases hall s (by simp) with rfl | hapart
    · exact load_store_same _ addr bytes
    · by_cases hs : s = (addr, bytes)
      · subst hs
        exact load_store_same _ addr bytes
      · have hin : (addr, bytes) ∈ stores := by
          rcases List.mem_append.mp hmem with h | h
          · exact h
          · exact absurd (List.mem_singleton.mp h).symm hs
        have hrest := ih hin fun t ht => hall t (by simp [ht])
        exact (load_store_apart _ hapart).trans hrest

theorem word_storeAll_apart (mem : ByteMemory) {addr n : Nat}
    {stores : List (Nat × List (BitVec 8))}
    (hapart : ∀ s ∈ stores, Apart addr n s.1 s.2.length) :
    (mem.storeAll stores).word addr n = mem.word addr n := by
  rw [word, load_storeAll_apart mem hapart, word]

/-- The word form of the last-writer rule. -/
theorem word_storeAll_last (mem : ByteMemory) (before : List (Nat × List (BitVec 8)))
    {addr n value : Nat} {later : List (Nat × List (BitVec 8))} (hvalue : value < 256 ^ n)
    (hlater : ∀ s ∈ later, Apart addr n s.1 s.2.length) :
    (mem.storeAll (before ++ (addr, LittleEndian.split n value) :: later)).word addr n = value := by
  have hlast := load_storeAll_last mem before (LittleEndian.split n value)
    (by simpa using hlater)
  rw [LittleEndian.length_split] at hlast
  rw [word, hlast, LittleEndian.combine_split_of_lt hvalue]

/-- The word form of `load_storeAll_of_mem`. -/
theorem word_storeAll_of_mem (mem : ByteMemory) {addr n value : Nat}
    {stores : List (Nat × List (BitVec 8))} (hvalue : value < 256 ^ n)
    (hmem : (addr, LittleEndian.split n value) ∈ stores)
    (hall : ∀ s ∈ stores, s = (addr, LittleEndian.split n value) ∨ Apart addr n s.1 s.2.length) :
    (mem.storeAll stores).word addr n = value := by
  have hload := load_storeAll_of_mem mem hmem (by simpa using hall)
  rw [LittleEndian.length_split] at hload
  rw [word, hload, LittleEndian.combine_split_of_lt hvalue]

/-- Two different addresses on the same grid are apart. -/
theorem apart_of_aligned {a b n : Nat} (ha : n ∣ a) (hb : n ∣ b) (hne : a ≠ b) :
    Apart a n b n := by
  obtain ⟨i, rfl⟩ := ha
  obtain ⟨j, rfl⟩ := hb
  have hij : i ≠ j := fun h => hne (by rw [h])
  rcases Nat.lt_or_gt_of_ne hij with h | h
  · left
    calc n * i + n = n * (i + 1) := by ring
      _ ≤ n * j := Nat.mul_le_mul_left n h
  · right
    calc n * j + n = n * (j + 1) := by ring
      _ ≤ n * i := Nat.mul_le_mul_left n h

end ByteMemory
