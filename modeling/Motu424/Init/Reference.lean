import Motu424.Init.Translate

open PageMask

namespace motu424

/-- The word lies between two numbers, both included. -/
def InRange (low high : Nat) (val : U32) : Prop := low ≤ val.toNat ∧ val.toNat ≤ high

instance (low high : Nat) (val : U32) : Decidable (InRange low high val) := inferInstanceAs (Decidable (_ ∧ _))

/-- The relocation that the documentation of the replay tools gives, for a buffer
at a 32-bit address. -/
def documented_translation (dma_addr val : U32) : U32 :=
  if InRange 0x10914000 0x10914FFF val then dma_addr + (val &&& 0xFFF)
  else if val = 0xFE870000 then dma_addr
  else if val = 0x90000000 then dma_addr
  else if InRange 0xBFD70000 0xBFD7FFFF val then dma_addr + (val &&& 0xFFFF)
  else if InRange 0xBFF92000 0xBFF92FFF val then dma_addr + 0x222000 + (val &&& 0xFFF)
  else val

theorem magic_1_iff (val : U32) :
    val &&& WIN_DMA_MAGIC_1_MASK = WIN_DMA_MAGIC_1_BASE ↔ InRange 0x10914000 0x10914FFF val := by
  have hbase : WIN_DMA_MAGIC_1_BASE.toNat = 0x10914000 := by decide
  rw [magic_1_mask_eq, and_pageMask_eq_iff val _ (by omega) (by decide), hbase, InRange]
  omega

theorem magic_4_iff (val : U32) :
    val &&& WIN_DMA_MAGIC_4_MASK = WIN_DMA_MAGIC_4_BASE ↔ InRange 0xBFD70000 0xBFD7FFFF val := by
  have hbase : WIN_DMA_MAGIC_4_BASE.toNat = 0xBFD70000 := by decide
  rw [magic_4_mask_eq, and_pageMask_eq_iff val _ (by omega) (by decide), hbase, InRange]
  omega

theorem magic_5_iff (val : U32) :
    val &&& WIN_DMA_MAGIC_5_MASK = WIN_DMA_MAGIC_5_BASE ↔ InRange 0xBFF92000 0xBFF92FFF val := by
  have hbase : WIN_DMA_MAGIC_5_BASE.toNat = 0xBFF92000 := by decide
  rw [magic_5_mask_eq, and_pageMask_eq_iff val _ (by omega) (by decide), hbase, InRange]
  omega

theorem page_offset_eq : (0xFFF : U32) = ~~~ pageMask 32 12 := by decide
theorem magic_4_offset_eq : (0xFFFF : U32) = ~~~ pageMask 32 16 := by decide

/-- The driver's translation agrees with the documented one for a value exactly if
the value is outside the fourth pattern, or the buffer is 64 KB aligned: that
pattern is masked with 64 KB where the documentation adds to the base. -/
theorem translate_eq_documented_iff (c : motu424_ctx) (hbuf : c.dma_buf ≠ none)
    (hpage : (c.dma_addr.truncate 32 : U32).toNat % 4096 = 0) (val : U32) :
    motu424_translate_dma c val = documented_translation (c.dma_addr.truncate 32) val ↔
      (InRange 0xBFD70000 0xBFD7FFFF val → (c.dma_addr.truncate 32 : U32).toNat % 0x10000 = 0) := by
  rw [motu424_translate_dma, if_neg hbuf, documented_translation]
  simp only [magic_1_iff, magic_4_iff, magic_5_iff]
  by_cases h1 : InRange 0x10914000 0x10914FFF val
  · have hnot4 : ¬ InRange 0xBFD70000 0xBFD7FFFF val := by
      rw [InRange] at h1 ⊢
      omega
    rw [if_pos h1, if_pos h1, magic_1_mask_eq, page_offset_eq]
    exact iff_of_true ((join_eq_add_iff _ val (by omega)).mpr hpage) fun h4 => absurd h4 hnot4
  rw [if_neg h1, if_neg h1, WIN_DMA_MAGIC_2, WIN_DMA_MAGIC_3]
  by_cases h2 : val = 0xFE870000
  · rw [if_pos h2, if_pos h2, h2]
    exact iff_of_true rfl fun h4 => absurd h4 (by decide)
  by_cases h3 : val = 0x90000000
  · rw [if_neg h2, if_pos h3, if_neg h2, if_pos h3, h3]
    exact iff_of_true rfl fun h4 => absurd h4 (by decide)
  rw [if_neg h2, if_neg h3, if_neg h2, if_neg h3]
  by_cases h4 : InRange 0xBFD70000 0xBFD7FFFF val
  · rw [if_pos h4, if_pos h4, magic_4_mask_eq, magic_4_offset_eq, join_eq_add_iff _ val (by omega)]
    exact ⟨fun haligned _ => haligned, fun haligned => haligned h4⟩
  rw [if_neg h4, if_neg h4]
  refine iff_of_true ?_ fun h => absurd h h4
  by_cases h5 : InRange 0xBFF92000 0xBFF92FFF val
  · rw [if_pos h5, if_pos h5, magic_5_mask_eq, page_offset_eq]
    rfl
  · rw [if_neg h5, if_neg h5]

/-- A context with a page-aligned buffer that is not 64 KB aligned. -/
def page_aligned_ctx : motu424_ctx :=
  { mapped_ctx with dma_buf := some 0x10000, dma_addr := 0x1008000, dma_size := MOTU_DMA_BUF_MAX }

/-- With such a buffer the fifth pattern is still relocated as documented. -/
theorem magic_5_as_documented :
    motu424_translate_dma page_aligned_ctx 0xBFF92ABC =
      documented_translation (page_aligned_ctx.dma_addr.truncate 32) 0xBFF92ABC ↔
    (InRange 0xBFD70000 0xBFD7FFFF 0xBFF92ABC →
      (page_aligned_ctx.dma_addr.truncate 32 : U32).toNat % 0x10000 = 0) :=
  translate_eq_documented_iff page_aligned_ctx (by decide) (by decide) 0xBFF92ABC

/-- The start of the fourth pattern is relocated to 0x1000000 in place of the
buffer at 0x1008000. -/
theorem magic_4_not_as_documented :
    page_aligned_ctx.dma_buf ≠ none ∧ (page_aligned_ctx.dma_addr.truncate 32 : U32).toNat % 4096 = 0 ∧
    motu424_translate_dma page_aligned_ctx 0xBFD70000 = 0x1000000 ∧
    documented_translation (page_aligned_ctx.dma_addr.truncate 32) 0xBFD70000 = 0x1008000 ∧
    motu424_translate_dma page_aligned_ctx 0xBFD70000 ≠
      documented_translation (page_aligned_ctx.dma_addr.truncate 32) 0xBFD70000 := by
  refine ⟨by decide, by decide, by decide, by decide, by decide⟩

end motu424
