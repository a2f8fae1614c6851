import Motu424.Init.Survival

open Program ByteMemory

namespace motu424

/-- The DSP memory holds after the initialisation what it held before. -/
def KeepsDspMemory (env : Env) (init : ByteMemory) (m : Machine) (fpga_fw init_seq : Option (List U8)) :
    Prop :=
  ∀ offset, DspWord offset →
    bar_word init .dsp ((motu424_full_init fpga_fw init_seq).exec env m).trace offset =
      bar_word init .dsp m.trace offset

/-- Without a sequence the initialisation goes through to its end. -/
theorem eval_warm_boot (env : Env) (m : Machine) {fpga_fw init_seq : Option (List U8)}
    (hseq : fw_size init_seq = 0) : (motu424_full_init fpga_fw init_seq).eval env m = 0 := by
  have hgood : ¬ BadBlob init_seq := by
    intro hbad
    have hsize := hbad.1
    omega
  rw [eval_motu424_full_init, if_neg hgood]

/-- An initialisation without a sequence, which is for warm boots, keeps the DSP
memory exactly when there is nothing in it to keep. -/
theorem warm_boot_keeps_dsp_iff (env : Env) (init : ByteMemory) (m : Machine)
    (hdsp : m.ctx.iobase_dsp ≠ .null) (fpga_fw init_seq : Option (List U8))
    (hseq : fw_size init_seq = 0) :
    KeepsDspMemory env init m fpga_fw init_seq ↔
      ∀ offset, DspWord offset → bar_word init .dsp m.trace offset = 0 := by
  have hcleared (offset : U32) (hoffset : DspWord offset) :
      bar_word init .dsp ((motu424_full_init fpga_fw init_seq).exec env m).trace offset = 0 :=
    motu424_full_init_clears env init hdsp (eval_warm_boot env m hseq) hoffset.1 hoffset.2.1
  constructor
  · intro hkeeps offset hoffset
    rw [← hkeeps offset hoffset, hcleared offset hoffset]
  · intro hzero offset hoffset
    rw [hcleared offset hoffset, hzero offset hoffset]

/-- A card whose DSP memory is empty has nothing to lose. -/
theorem empty_dsp_warm_boot : KeepsDspMemory .idle .zeroed ⟨mapped_ctx, []⟩ none none ↔
    ∀ offset, DspWord offset → bar_word .zeroed .dsp [] offset = 0 :=
  warm_boot_keeps_dsp_iff .idle .zeroed ⟨mapped_ctx, []⟩ (by decide) none none rfl

/-- A card with a running program loses its first word. -/
theorem warm_boot_loses_program : ¬ KeepsDspMemory .idle (fun _ => 1) ⟨mapped_ctx, []⟩ none none := by
  intro hkeeps
  have hword : DspWord 0 := by decide
  have hcleared := @motu424_full_init_clears .idle ⟨mapped_ctx, []⟩ none none (fun _ => 1) (by decide)
    (eval_warm_boot _ _ rfl) 0 hword.1 hword.2.1
  have hbefore : bar_word (fun _ => 1) .dsp [] 0 = 0 := (hkeeps 0 hword).symm.trans hcleared
  exact absurd hbefore (by decide)

end motu424
