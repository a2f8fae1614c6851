import Motu424.Init.FullInit

open Program ByteMemory

namespace motu424

/-- The DSP words that the kick-start and the port loop write on purpose after
the replay. -/
def dsp_rewritten : List U32 := [0x3fffc, 0x7040, 0x6fec, 0x70d4, 0x70d8, 0x70dc]

/-- A word of the DSP memory that nothing after the replay is meant to write. -/
def DspWord (offset : U32) : Prop :=
  offset.toNat % 4 = 0 ∧ offset.toNat < 0x40000 ∧ offset ∉ dsp_rewritten

instance (offset : U32) : Decidable (DspWord offset) := inferInstanceAs (Decidable (_ ∧ _ ∧ _))

/-- The last BAR0 entry with an offset. -/
def last_dsp_entry (entries : List motu_init_entry) (offset : U32) : Option motu_init_entry :=
  (entries.filter fun e => e.bar = PAL_BAR_DSP ∧ e.offset = offset).getLast?

/-- Every DSP word holds the translated value of the last BAR0 entry for it, or
zero where there is none. -/
def InitSurvives (init : ByteMemory) (c : motu424_ctx) (entries : List motu_init_entry)
    (trace : List Event) : Prop :=
  ∀ offset, DspWord offset → bar_word init .dsp trace offset =
    (last_dsp_entry entries offset).elim 0 fun e => motu424_translate_dma c e.value

/-- The sequence leaves no DSP word different from zero. -/
def UploadsNothing (c : motu424_ctx) (entries : List motu_init_entry) : Prop :=
  ∀ offset, DspWord offset → ∀ e, last_dsp_entry entries offset = some e →
    motu424_translate_dma c e.value = 0

/-- The zeroing in the final check erases the uploaded program: the result of
the initialisation survives it exactly for a sequence whose result is zero
everywhere. -/
theorem init_survives_iff_uploads_nothing (env : Env) (init : ByteMemory) (m : Machine)
    (hmapped : m.ctx.Mapped) (fpga_fw : Option (List U8)) (blob : List U8) (hentries : blob.length % 9 = 0) :
    ((motu424_full_init fpga_fw (some blob)).eval env m = 0 →
      InitSurvives init m.ctx (init_entries blob)
        ((motu424_full_init fpga_fw (some blob)).exec env m).trace) ↔
    UploadsNothing m.ctx (init_entries blob) := by
  have hgood : ¬ BadBlob (some blob) := fun hbad => hbad.2 hentries
  have hok : (motu424_full_init fpga_fw (some blob)).eval env m = 0 := by
    rw [eval_motu424_full_init, if_neg hgood]
  constructor
  · intro hsurvives offset hword e he
    have hkept := hsurvives hok offset hword
    rw [motu424_full_init_clears env init hmapped.dsp hok hword.1 hword.2.1, he] at hkept
    exact hkept.symm
  · intro hnothing _ offset hword
    rw [motu424_full_init_clears env init hmapped.dsp hok hword.1 hword.2.1]
    cases he : last_dsp_entry (init_entries blob) offset with
    | none => rfl
    | some e => exact (hnothing offset hword e he).symm

/-- The first entry of the golden sequence: BAR0, offset 0x0, value 0x7ec582a. -/
def golden_first_entry : List U8 := [0x00, 0x00, 0x00, 0x00, 0x00, 0x2a, 0x58, 0xec, 0x07]

/-- Replaying only the first golden entry succeeds and loses it. -/
theorem golden_first_entry_lost :
    mapped_ctx.Mapped ∧ golden_first_entry ≠ [] ∧ golden_first_entry.length % 9 = 0 ∧
    (motu424_full_init none (some golden_first_entry)).eval .idle ⟨mapped_ctx, []⟩ = 0 ∧
    ¬ InitSurvives .zeroed mapped_ctx (init_entries golden_first_entry)
      ((motu424_full_init none (some golden_first_entry)).exec .idle ⟨mapped_ctx, []⟩).trace := by
  have hok : (motu424_full_init none (some golden_first_entry)).eval .idle ⟨mapped_ctx, []⟩ = 0 := by
    rw [eval_motu424_full_init, if_neg (by decide)]
  refine ⟨mapped_ctx_mapped, by decide, by decide, hok, fun hsurvives => ?_⟩
  have hkept := hsurvives 0 (by decide)
  rw [motu424_full_init_clears _ _ mapped_ctx_mapped.dsp hok (by decide) (by decide)] at hkept
  exact absurd hkept (by decide)

/-- For the first golden entry the upload is not nothing. -/
theorem golden_first_entry_uploads :
    ((motu424_full_init none (some golden_first_entry)).eval .idle ⟨mapped_ctx, []⟩ = 0 →
      InitSurvives .zeroed mapped_ctx (init_entries golden_first_entry)
        ((motu424_full_init none (some golden_first_entry)).exec .idle ⟨mapped_ctx, []⟩).trace) ↔
    UploadsNothing mapped_ctx (init_entries golden_first_entry) :=
  init_survives_iff_uploads_nothing .idle .zeroed ⟨mapped_ctx, []⟩ mapped_ctx_mapped none
    golden_first_entry (by decide)

/-- The descriptor words of the DMA engine describe the buffer of the context. -/
structure DescriptorInPlace (init_dsp init_reg : ByteMemory) (c : motu424_ctx) (trace : List Event) :
    Prop where
  word_7008 : bar_word init_dsp .dsp trace 0x7008 = c.dma_addr.truncate 32
  word_70a4 : bar_word init_dsp .dsp trace 0x70a4 = c.dma_addr.truncate 32
  buffer_config : bar_word init_dsp .dsp trace 0x70a8 = 0x30000
  transfer_config : bar_word init_dsp .dsp trace 0x70ac = 0x59c
  dma_base : bar_word init_reg .reg trace MOTU_REG_DMA_BASE = c.dma_addr.truncate 32

theorem DescriptorInPlace.config_ne_zero {init_dsp init_reg : ByteMemory} {c : motu424_ctx}
    {trace : List Event} (hplace : DescriptorInPlace init_dsp init_reg c trace) :
    bar_word init_dsp .dsp trace 0x70a8 ≠ 0 := by
  rw [hplace.buffer_config]
  decide

/-- The sequence itself writes to none of these words. -/
def SparesDescriptor (entries : List motu_init_entry) : Prop :=
  ∀ e ∈ entries, ∀ w ∈ [(PAL_BAR_DSP, (0x7008 : U32)), (PAL_BAR_DSP, 0x70a4), (PAL_BAR_DSP, 0x70a8),
    (PAL_BAR_DSP, 0x70ac), (PAL_BAR_REG, MOTU_REG_DMA_BASE)],
    e.bar = w.1 → Apart e.offset.toNat 4 w.2.toNat 4

/-- The allocation as both frontends ask for it, followed by the initialisation. -/
def alloc_then_init (size : U64) (fpga_fw init_seq : Option (List U8)) : Pal Int := do
  let err ← motu424_dma_alloc size
  if err ≠ 0 then pure err else motu424_full_init fpga_fw init_seq

/-- Where both steps succeed, the second one runs on the machine the first one
leaves, with the BARs still mapped. -/
theorem alloc_then_init_success {env : Env} {m : Machine} {size : U64}
    {fpga_fw init_seq : Option (List U8)} (hmapped : m.ctx.Mapped)
    (hok : (alloc_then_init size fpga_fw init_seq).eval env m = 0) :
    ∃ m', m'.ctx.Mapped ∧ (motu424_full_init fpga_fw init_seq).eval env m' = 0 ∧
      (alloc_then_init size fpga_fw init_seq).exec env m =
        (motu424_full_init fpga_fw init_seq).exec env m' := by
  have halloc : (motu424_dma_alloc size).eval env m = 0 := by
    by_contra hfail
    rw [alloc_then_init, eval_bind, if_pos hfail, eval_pure] at hok
    exact hfail hok
  refine ⟨(motu424_dma_alloc size).exec env m, ?_, ?_, ?_⟩
  · rw [motu424_ctx.mapped_iff]
    intro bar
    rw [motu424_dma_alloc_base]
    exact motu424_ctx.mapped_iff.mp hmapped bar
  · rw [alloc_then_init, eval_bind, halloc, if_neg (by decide)] at hok
    exact hok
  · rw [alloc_then_init, exec_bind, halloc, if_neg (by decide)]

/-- The buffer configuration word is gone afterwards: the zeroing in the
initialisation comes after the allocator has programmed it. -/
theorem alloc_then_init_clears_config {env : Env} (init : ByteMemory) {m : Machine} {size : U64}
    {fpga_fw init_seq : Option (List U8)} (hmapped : m.ctx.Mapped)
    (hok : (alloc_then_init size fpga_fw init_seq).eval env m = 0) :
    bar_word init .dsp ((alloc_then_init size fpga_fw init_seq).exec env m).trace 0x70a8 = 0 := by
  obtain ⟨m', hmapped', hinit, hexec⟩ := alloc_then_init_success hmapped hok
  rw [hexec]
  exact motu424_full_init_clears env init hmapped'.dsp hinit (by decide) (by decide)

/-- The descriptor never survives the initialisation, whatever the sequence. -/
theorem descriptor_not_in_place (env : Env) (init_dsp init_reg : ByteMemory) (m : Machine)
    (hmapped : m.ctx.Mapped) (size : U64) (fpga_fw init_seq : Option (List U8))
    (hok : (alloc_then_init size fpga_fw init_seq).eval env m = 0) :
    ¬ DescriptorInPlace init_dsp init_reg ((alloc_then_init size fpga_fw init_seq).exec env m).ctx
      ((alloc_then_init size fpga_fw init_seq).exec env m).trace := by
  intro hplace
  exact hplace.config_ne_zero (alloc_then_init_clears_config init_dsp hmapped hok)

theorem idle_alloc_then_init {init_seq : Option (List U8)} (hgood : ¬ BadBlob init_seq) :
    (alloc_then_init MOTU_DMA_BUF_MAX none init_seq).eval .idle ⟨mapped_ctx, []⟩ = 0 := by
  have halloc : (motu424_dma_alloc MOTU_DMA_BUF_MAX).eval .idle ⟨mapped_ctx, []⟩ = 0 := by decide
  rw [alloc_then_init, eval_bind, halloc, if_neg (by decide), eval_motu424_full_init, if_neg hgood]

/-- A warm boot without an init sequence loses the descriptor. -/
theorem warm_boot_loses_descriptor :
    ¬ DescriptorInPlace .zeroed .zeroed
      ((alloc_then_init MOTU_DMA_BUF_MAX none none).exec .idle ⟨mapped_ctx, []⟩).ctx
      ((alloc_then_init MOTU_DMA_BUF_MAX none none).exec .idle ⟨mapped_ctx, []⟩).trace :=
  descriptor_not_in_place .idle .zeroed .zeroed ⟨mapped_ctx, []⟩ mapped_ctx_mapped _ none none
    (idle_alloc_then_init (by decide))

/-- The first golden entry is not about the descriptor. -/
theorem golden_first_entry_spares : SparesDescriptor (init_entries golden_first_entry) := by
  have hentry : init_entries golden_first_entry = [⟨PAL_BAR_DSP, 0x0, 0x7ec582a⟩] := by decide
  rw [hentry, SparesDescriptor, List.forall_mem_singleton]
  simp only [List.forall_mem_cons]
  refine ⟨fun _ => ?_, fun _ => ?_, fun _ => ?_, fun _ => ?_, fun hbar => absurd hbar (by decide), nofun⟩
  · decide
  · decide
  · decide
  · decide

/-- So it loses it too. -/
theorem golden_first_entry_loses_descriptor :
    mapped_ctx.Mapped ∧ SparesDescriptor (init_entries golden_first_entry) ∧
    (alloc_then_init MOTU_DMA_BUF_MAX none (some golden_first_entry)).eval .idle ⟨mapped_ctx, []⟩ = 0 ∧
    ¬ DescriptorInPlace .zeroed .zeroed
      ((alloc_then_init MOTU_DMA_BUF_MAX none (some golden_first_entry)).exec .idle ⟨mapped_ctx, []⟩).ctx
      ((alloc_then_init MOTU_DMA_BUF_MAX none (some golden_first_entry)).exec .idle
        ⟨mapped_ctx, []⟩).trace := by
  have hok := @idle_alloc_then_init (some golden_first_entry) (by decide)
  refine ⟨mapped_ctx_mapped, golden_first_entry_spares, hok, fun hplace => ?_⟩
  exact hplace.config_ne_zero (alloc_then_init_clears_config .zeroed mapped_ctx_mapped hok)

end motu424
