import Motu424.Dma.Alloc
import Motu424.Foundation.PageMask

open Program PageMask

namespace motu424

/-- The buffer is at least as large as what was asked for, and asking again succeeds
and changes nothing: no call to the platform, no register access, the same context. -/
structure Satisfied (env : Env) (size : U64) (m : Machine) : Prop where
  enough : size.toNat ≤ m.ctx.dma_size.toNat
  again : (motu424_dma_alloc size).eval env m = 0
  unchanged : (motu424_dma_alloc size).exec env m = m

theorem page_mask_eq : PAL_PAGE_MASK = pageMask 64 12 := by decide

/-- Unless the rounding wraps, a page-aligned size is not smaller. -/
theorem le_page_align {size : U64} (hwrap : size.toNat + 4096 ≤ 2 ^ 64) :
    size.toNat ≤ (page_align size).toNat := by
  have hround : (size + PAL_PAGE_SIZE - 1).toNat = size.toNat + 4095 := by
    rw [PAL_PAGE_SIZE]
    bv_omega
  rw [page_align, page_mask_eq, toNat_and_pageMask _ (by omega), hround]
  omega

/-- What is asked of the platform is at least the size, or the cap. -/
theorem le_dma_request {size : U64} (hwrap : size.toNat + 4096 ≤ 2 ^ 64) :
    min size.toNat MOTU_DMA_BUF_MAX.toNat ≤ (dma_request size).toNat := by
  have halign := le_page_align hwrap
  rw [dma_request]
  split_ifs with hcap
  · exact Nat.min_le_right _ _
  · exact (Nat.min_le_left _ _).trans halign

section request

variable (env : Env) (m : Machine) {size : U64}

/-- A buffer that is large enough satisfies the request. -/
theorem satisfied_of_reuses (hreuse : Reuses m.ctx size) : Satisfied env size m := by
  obtain ⟨heval, hexec⟩ := motu424_dma_alloc_reused env m size hreuse
  exact ⟨BitVec.le_def.mp hreuse.2, heval, hexec⟩

/-- After a success there is a buffer, of the size that was asked of the platform
unless the old one was large enough. -/
theorem dma_alloc_outcome (hok : (motu424_dma_alloc size).eval env m = 0) :
    ((motu424_dma_alloc size).exec env m).ctx.dma_buf ≠ none ∧
    (Reuses m.ctx size ∧ (motu424_dma_alloc size).exec env m = m ∨
      ((motu424_dma_alloc size).exec env m).ctx.dma_size = dma_request size) := by
  rcases motu424_dma_alloc_cases env m size with ⟨hbuf, hsize, _, hexec⟩ | ⟨err, heval, _⟩ | ⟨buf, _, _, hexec⟩
  · rw [hexec]
    exact ⟨hbuf, .inl ⟨⟨hbuf, hsize⟩, rfl⟩⟩
  · exact absurd (heval.symm.trans hok) err.nonzero
  · rw [hexec]
    exact ⟨Option.some_ne_none buf.1, .inr rfl⟩

/-- Up to the cap of 4 MB, or where the context holds a large enough buffer already,
a success satisfies the request. A larger request gets the cap. -/
theorem dma_alloc_satisfies (hok : (motu424_dma_alloc size).eval env m = 0) :
    (size ≤ MOTU_DMA_BUF_MAX ∨ Reuses m.ctx size →
      Satisfied env size ((motu424_dma_alloc size).exec env m)) ∧
    (size.toNat + 4096 ≤ 2 ^ 64 →
      min size.toNat MOTU_DMA_BUF_MAX.toNat ≤ ((motu424_dma_alloc size).exec env m).ctx.dma_size.toNat) := by
  obtain ⟨hbuf, ⟨hreuse, hsame⟩ | hnew⟩ := dma_alloc_outcome env m hok
  · rw [hsame]
    have hkept := BitVec.le_def.mp hreuse.2
    exact ⟨fun _ => satisfied_of_reuses env m hreuse, fun _ => (Nat.min_le_left _ _).trans hkept⟩
  · constructor
    · rintro (hsize | hreuse)
      · have hcap : MOTU_DMA_BUF_MAX.toNat = 0x400000 := by decide
        have hrequest := @le_dma_request size (by rw [BitVec.le_def] at hsize; omega)
        rw [Nat.min_eq_left (BitVec.le_def.mp hsize), ← hnew] at hrequest
        exact satisfied_of_reuses env _ ⟨hbuf, BitVec.le_def.mpr hrequest⟩
      · rw [(motu424_dma_alloc_reused env m size hreuse).2]
        exact satisfied_of_reuses env m hreuse
    · intro hwrap
      rw [hnew]
      exact le_dma_request hwrap

end request

/-- The request of both frontends, for the whole 4 MB. -/
theorem frontend_request_satisfied :
    (MOTU_DMA_BUF_MAX ≤ MOTU_DMA_BUF_MAX ∨ Reuses mapped_ctx MOTU_DMA_BUF_MAX →
      Satisfied .idle MOTU_DMA_BUF_MAX ((motu424_dma_alloc MOTU_DMA_BUF_MAX).exec .idle ⟨mapped_ctx, []⟩)) ∧
    (MOTU_DMA_BUF_MAX.toNat + 4096 ≤ 2 ^ 64 →
      min MOTU_DMA_BUF_MAX.toNat MOTU_DMA_BUF_MAX.toNat ≤
        ((motu424_dma_alloc MOTU_DMA_BUF_MAX).exec .idle ⟨mapped_ctx, []⟩).ctx.dma_size.toNat) :=
  dma_alloc_satisfies .idle ⟨mapped_ctx, []⟩ (by decide)

/-- A request for one byte more succeeds with 4 MB, which is less. -/
theorem larger_request_capped :
    (motu424_dma_alloc 0x400001).eval .idle ⟨mapped_ctx, []⟩ = 0 ∧
    ((motu424_dma_alloc 0x400001).exec .idle ⟨mapped_ctx, []⟩).ctx.dma_size = 0x400000 ∧
    ¬ Satisfied .idle 0x400001 ((motu424_dma_alloc 0x400001).exec .idle ⟨mapped_ctx, []⟩) := by
  have hsize : ((motu424_dma_alloc 0x400001).exec .idle ⟨mapped_ctx, []⟩).ctx.dma_size = 0x400000 := by
    decide
  refine ⟨by decide, hsize, fun hsatisfied => ?_⟩
  have henough := hsatisfied.enough
  rw [hsize] at henough
  exact absurd henough (by decide)

end motu424
