import Motu424.Init
import Motu424.Dma.Alloc
import Motu424.Foundation.PageMask

open Program PageMask

namespace motu424

/-- The value matches one of the five patterns of Windows DMA addresses. -/
def MagicAddress (val : U32) : Prop :=
  val &&& WIN_DMA_MAGIC_1_MASK = WIN_DMA_MAGIC_1_BASE ∨ val = WIN_DMA_MAGIC_2 ∨
  val = WIN_DMA_MAGIC_3 ∨ val &&& WIN_DMA_MAGIC_4_MASK = WIN_DMA_MAGIC_4_BASE ∨
  val &&& WIN_DMA_MAGIC_5_MASK = WIN_DMA_MAGIC_5_BASE

instance (val : U32) : Decidable (MagicAddress val) := inferInstanceAs (Decidable (_ ∨ _))

/-- The address lies in the DMA buffer of the context. -/
def InBuffer (c : motu424_ctx) (addr : U32) : Prop :=
  c.dma_addr.toNat ≤ addr.toNat ∧ addr.toNat < c.dma_addr.toNat + c.dma_size.toNat

instance (c : motu424_ctx) (addr : U32) : Decidable (InBuffer c addr) :=
  inferInstanceAs (Decidable (_ ∧ _))

/-- A captured DMA address is translated into the buffer, any other value is kept. -/
def TranslatesInside (c : motu424_ctx) (val : U32) : Prop :=
  if MagicAddress val then InBuffer c (motu424_translate_dma c val)
  else motu424_translate_dma c val = val

instance (c : motu424_ctx) (val : U32) : Decidable (TranslatesInside c val) :=
  inferInstanceAs (Decidable (if MagicAddress val then InBuffer c (motu424_translate_dma c val)
    else motu424_translate_dma c val = val))

/-- The room a value needs in the buffer. The fourth pattern keeps only the
64 KB page of the buffer's address, so the place of the buffer in that page
counts too. -/
def RoomFor (c : motu424_ctx) (val : U32) : Prop :=
  if val &&& WIN_DMA_MAGIC_1_MASK = WIN_DMA_MAGIC_1_BASE then
    val.toNat % 0x1000 < c.dma_size.toNat
  else if val = WIN_DMA_MAGIC_2 then 0 < c.dma_size.toNat
  else if val = WIN_DMA_MAGIC_3 then 0 < c.dma_size.toNat
  else if val &&& WIN_DMA_MAGIC_4_MASK = WIN_DMA_MAGIC_4_BASE then
    c.dma_addr.toNat % 0x10000 ≤ val.toNat % 0x10000 ∧
      val.toNat % 0x10000 < c.dma_addr.toNat % 0x10000 + c.dma_size.toNat
  else if val &&& WIN_DMA_MAGIC_5_MASK = WIN_DMA_MAGIC_5_BASE then
    0x222000 + val.toNat % 0x1000 < c.dma_size.toNat
  else True

theorem magic_1_mask_eq : WIN_DMA_MAGIC_1_MASK = pageMask 32 12 := by decide
theorem magic_4_mask_eq : WIN_DMA_MAGIC_4_MASK = pageMask 32 16 := by decide
theorem magic_5_mask_eq : WIN_DMA_MAGIC_5_MASK = pageMask 32 12 := by decide

section patterns

variable {c : motu424_ctx} (hbelow : c.dma_addr.toNat + c.dma_size.toNat ≤ 2 ^ 32)
include hbelow

/-- A buffer below 4 GB that is not empty has a 32-bit address. -/
theorem dma32_toNat (hsize : 0 < c.dma_size.toNat) :
    (c.dma_addr.truncate 32 : U32).toNat = c.dma_addr.toNat := by
  rw [BitVec.truncate_eq_setWidth, BitVec.toNat_setWidth, Nat.mod_eq_of_lt (by omega)]

/-- Keeping the page of the buffer's address and the offset of the value. -/
theorem inBuffer_relocate {k : Nat} (hk : k ≤ 32) (val : U32) :
    InBuffer c (((c.dma_addr.truncate 32 : U32) &&& pageMask 32 k) ||| (val &&& ~~~ pageMask 32 k)) ↔
      c.dma_addr.toNat % 2 ^ k ≤ val.toNat % 2 ^ k ∧
        val.toNat % 2 ^ k < c.dma_addr.toNat % 2 ^ k + c.dma_size.toNat := by
  rcases Nat.eq_zero_or_pos c.dma_size.toNat with hempty | hsize
  · rw [InBuffer, hempty]
    omega
  · have hle : c.dma_addr.toNat % 2 ^ k ≤ c.dma_addr.toNat := Nat.mod_le _ _
    rw [InBuffer, toNat_relocate _ _ hk, dma32_toNat hbelow hsize]
    omega

theorem inBuffer_base : InBuffer c (c.dma_addr.truncate 32) ↔ 0 < c.dma_size.toNat := by
  rcases Nat.eq_zero_or_pos c.dma_size.toNat with hempty | hsize
  · rw [InBuffer, hempty]
    omega
  · rw [InBuffer, dma32_toNat hbelow hsize]
    omega

/-- Adding to the buffer's address. A sum that wraps lies below the buffer. -/
theorem inBuffer_add (offset : U32) :
    InBuffer c ((c.dma_addr.truncate 32 : U32) + offset) ↔ offset.toNat < c.dma_size.toNat := by
  have hoffset := offset.isLt
  rcases Nat.eq_zero_or_pos c.dma_size.toNat with hempty | hsize
  · rw [InBuffer, hempty]
    omega
  · rw [InBuffer, BitVec.toNat_add, dma32_toNat hbelow hsize]
    omega

end patterns

/-- The fifth pattern adds the offset of the value to a fixed displacement. -/
theorem magic_5_offset_toNat (val : U32) :
    (WIN_DMA_MAGIC_5_OFF + (val &&& ~~~ WIN_DMA_MAGIC_5_MASK)).toNat =
      0x222000 + val.toNat % 0x1000 := by
  have hoffset : (val &&& ~~~ pageMask 32 12).toNat = val.toNat % 2 ^ 12 :=
    toNat_and_not_pageMask val (by omega)
  have hbase : WIN_DMA_MAGIC_5_OFF.toNat = 0x222000 := by decide
  have hlt : val.toNat % 2 ^ 12 < 2 ^ 12 := Nat.mod_lt _ (by omega)
  rw [magic_5_mask_eq, BitVec.toNat_add, hoffset, hbase]
  omega

/-- Each pattern needs its own room in a page-aligned buffer below 4 GB. -/
theorem translatesInside_iff {c : motu424_ctx} (hbuf : c.dma_buf ≠ none)
    (hpage : c.dma_addr.toNat % 4096 = 0) (hbelow : c.dma_addr.toNat + c.dma_size.toNat ≤ 2 ^ 32)
    (val : U32) : TranslatesInside c val ↔ RoomFor c val := by
  rw [TranslatesInside, RoomFor, motu424_translate_dma, if_neg hbuf]
  by_cases h1 : val &&& WIN_DMA_MAGIC_1_MASK = WIN_DMA_MAGIC_1_BASE
  · have hin := inBuffer_relocate hbelow (show 12 ≤ 32 by omega) val
    rw [if_pos (.inl h1), if_pos h1, if_pos h1, magic_1_mask_eq, hin]
    omega
  by_cases h2 : val = WIN_DMA_MAGIC_2
  · rw [if_pos (.inr (.inl h2)), if_neg h1, if_neg h1, if_pos h2, if_pos h2]
    exact inBuffer_base hbelow
  by_cases h3 : val = WIN_DMA_MAGIC_3
  · rw [if_pos (.inr (.inr (.inl h3))), if_neg h1, if_neg h1, if_neg h2, if_neg h2, if_pos h3, if_pos h3]
    exact inBuffer_base hbelow
  simp only [if_neg h1, if_neg h2, if_neg h3]
  by_cases h4 : val &&& WIN_DMA_MAGIC_4_MASK = WIN_DMA_MAGIC_4_BASE
  · have hmagic : MagicAddress val := .inr (.inr (.inr (.inl h4)))
    rw [if_pos hmagic, if_pos h4, if_pos h4, magic_4_mask_eq]
    exact inBuffer_relocate hbelow (by omega) val
  by_cases h5 : val &&& WIN_DMA_MAGIC_5_MASK = WIN_DMA_MAGIC_5_BASE
  · have hmagic : MagicAddress val := .inr (.inr (.inr (.inr h5)))
    rw [if_pos hmagic, if_neg h4, if_neg h4, if_pos h5, if_pos h5, BitVec.add_assoc,
      inBuffer_add hbelow, magic_5_offset_toNat]
  · have hplain : ¬ MagicAddress val := by
      rintro (h | h | h | h | h) <;> contradiction
    rw [if_neg hplain, if_neg h4, if_neg h4, if_neg h5, if_neg h5]
    exact iff_of_true rfl trivial

/-- A buffer has room for every value when it is 64 KB aligned and reaches past
the displacement of the fifth pattern by a page. -/
theorem roomFor_all_iff (c : motu424_ctx) :
    (∀ val, RoomFor c val) ↔ 0x10000 ∣ c.dma_addr.toNat ∧ 0x223000 ≤ c.dma_size.toNat := by
  constructor
  · intro hroom
    have h4 := hroom 0xBFD70000
    have h5 := hroom 0xBFF92FFF
    rw [RoomFor, if_neg (by decide), if_neg (by decide), if_neg (by decide), if_pos (by decide)] at h4
    rw [RoomFor, if_neg (by decide), if_neg (by decide), if_neg (by decide), if_neg (by decide),
      if_pos (by decide)] at h5
    have hstart : (0xBFD70000 : U32).toNat % 0x10000 = 0 := by decide
    have hend : (0xBFF92FFF : U32).toNat % 0x1000 = 0xFFF := by decide
    exact ⟨Nat.dvd_of_mod_eq_zero (by omega), by omega⟩
  · rintro ⟨haligned, hsize⟩ val
    have hmod : c.dma_addr.toNat % 0x10000 = 0 := Nat.mod_eq_zero_of_dvd haligned
    rw [RoomFor]
    split_ifs <;> omega

/-- After a successful allocation, a captured value is relocated into the buffer
exactly where the buffer has room for its pattern. -/
theorem relocated_inside_iff_room (env : Env) (m : Machine) (size : U64)
    (hok : (motu424_dma_alloc size).eval env m = 0)
    (hpage : ((motu424_dma_alloc size).exec env m).ctx.dma_addr.toNat % 4096 = 0)
    (hbelow : ((motu424_dma_alloc size).exec env m).ctx.dma_addr.toNat +
      ((motu424_dma_alloc size).exec env m).ctx.dma_size.toNat ≤ 2 ^ 32) (val : U32) :
    TranslatesInside ((motu424_dma_alloc size).exec env m).ctx val ↔
      RoomFor ((motu424_dma_alloc size).exec env m).ctx val := by
  apply translatesInside_iff _ hpage hbelow
  rcases motu424_dma_alloc_success hok with ⟨hbuf, _, hctx⟩ | ⟨buf, hctx⟩
  · rw [hctx]
    exact hbuf
  · rw [hctx]
    exact Option.some_ne_none buf.1

/-- The whole 4 MB buffer of the idle outside has room for the fourth pattern. -/
theorem idle_relocated_inside :
    TranslatesInside ((motu424_dma_alloc MOTU_DMA_BUF_MAX).exec .idle ⟨mapped_ctx, []⟩).ctx 0xBFD70123 ↔
      RoomFor ((motu424_dma_alloc MOTU_DMA_BUF_MAX).exec .idle ⟨mapped_ctx, []⟩).ctx 0xBFD70123 :=
  relocated_inside_iff_room .idle ⟨mapped_ctx, []⟩ MOTU_DMA_BUF_MAX (by decide) (by decide) (by decide) _

/-- An outside whose buffer is page aligned, but not 64 KB aligned. -/
def page_aligned_env : Env := { Env.idle with dma_alloc := fun _ _ => .ok (0x10000, 0x1008000) }

/-- With that buffer, of the full 4 MB, the start of the fourth pattern is
relocated to 32 KB before the buffer. -/
theorem magic_4_relocated_outside :
    (motu424_dma_alloc MOTU_DMA_BUF_MAX).eval page_aligned_env ⟨mapped_ctx, []⟩ = 0 ∧
    ((motu424_dma_alloc MOTU_DMA_BUF_MAX).exec page_aligned_env ⟨mapped_ctx, []⟩).ctx.dma_addr = 0x1008000 ∧
    ((motu424_dma_alloc MOTU_DMA_BUF_MAX).exec page_aligned_env ⟨mapped_ctx, []⟩).ctx.dma_size =
      MOTU_DMA_BUF_MAX ∧
    ¬ TranslatesInside
      ((motu424_dma_alloc MOTU_DMA_BUF_MAX).exec page_aligned_env ⟨mapped_ctx, []⟩).ctx 0xBFD70000 := by
  refine ⟨by decide, by decide, by decide, by decide⟩

end motu424
