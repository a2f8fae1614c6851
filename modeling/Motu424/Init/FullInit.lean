import Motu424.Init.DspMemory
import Motu424.Dma.Alloc

open Program LittleEndian ByteMemory

namespace motu424

/-- All three BARs are mapped. -/
structure motu424_ctx.Mapped (c : motu424_ctx) : Prop where
  dsp : c.iobase_dsp ≠ .null
  reg : c.iobase_reg ≠ .null
  port : c.iobase_port ≠ .null

theorem motu424_ctx.mapped_iff {c : motu424_ctx} : c.Mapped ↔ ∀ bar, c.base bar ≠ none := by
  constructor
  · intro hc bar
    cases bar with
    | dsp => exact Iomem.addr_ne_none hc.dsp
    | reg => exact Iomem.addr_ne_none hc.reg
    | port => exact Iomem.addr_ne_none hc.port
  · intro hbase
    exact ⟨fun h => hbase .dsp (congrArg Iomem.addr h), fun h => hbase .reg (congrArg Iomem.addr h),
      fun h => hbase .port (congrArg Iomem.addr h)⟩

theorem mapped_ctx_mapped : mapped_ctx.Mapped := ⟨by decide, by decide, by decide⟩

/-- A blob that the replay engine refuses: present, but not made of entries. -/
def BadBlob (init_seq : Option (List U8)) : Prop :=
  0 < fw_size init_seq ∧ fw_size init_seq % 9 ≠ 0

instance (init_seq : Option (List U8)) : Decidable (BadBlob init_seq) :=
  inferInstanceAs (Decidable (_ ∧ _))

theorem ne_none_of_fw_size_pos {fw : Option (List U8)} (hfw : 0 < fw_size fw) : fw ≠ none := by
  rintro rfl
  exact absurd hfw (by decide)

section results

variable (env : Env) (m : Machine)

theorem eval_motu424_load_fpga {fw : Option (List U8)} (hfw : 0 < fw_size fw) :
    (motu424_load_fpga fw).eval env m = 0 := by
  rw [motu424_load_fpga, eval_bind, if_neg (by omega)]
  simp only [eval_bind, eval_pure]

theorem eval_motu424_replay_sequence {init_seq : Option (List U8)} (hseq : 0 < fw_size init_seq) :
    (motu424_replay_sequence init_seq).eval env m = if BadBlob init_seq then -1 else 0 := by
  have hsome := ne_none_of_fw_size_pos hseq
  by_cases hbad : fw_size init_seq % 9 = 0
  · rw [motu424_replay_sequence, eval_bind, if_neg (by simp [hsome, hbad]; omega), if_neg (by simp [BadBlob, hbad])]
    simp only [eval_bind, eval_pure]
  · rw [motu424_replay_sequence, eval_bind, if_pos (by simp [hbad]), if_pos ⟨hseq, hbad⟩]
    simp only [eval_bind, eval_pure]

theorem eval_hw_init_check : hw_init_check.eval env m = 0 := by
  rw [hw_init_check, eval_bind, eval_bind, hw_init_status]
  simp only [eval_bind]
  split <;> rw [eval_bind, eval_pure]

theorem eval_motu424_hw_init : motu424_hw_init.eval env m = 0 := by
  rw [motu424_hw_init, eval_bind, eval_hw_init_check]

theorem eval_full_init_boot : full_init_boot.eval env m = 0 := by
  rw [full_init_boot, eval_bind, eval_bind, eval_motu424_hw_init]

theorem exec_full_init_boot : full_init_boot.exec env m = motu424_hw_init.exec env
    (motu424_post_init_port_loop.exec env (motu424_dsp_kickstart.exec env m)) := by
  rw [full_init_boot, exec_bind, exec_bind]

end results

section phases

variable (env : Env) {c : motu424_ctx} {before : List Event}

/-- A machine that the bring-up code on the hardware of `c` can have reached. -/
abbrev Bringup (c : motu424_ctx) (before : List Event) (m : Machine) : Prop :=
  m.Extends c.SameHw (Event.Within c fun _ _ _ => True) before

theorem WritesOnly.bringup {W : Bar → U32 → U32 → Prop} {α : Type} {p : Pal α}
    (hp : WritesOnly env c W p) {m : Machine} (hm : Bringup c before m) :
    Bringup c before (p.exec env m) :=
  Emits.mono hp (fun _ he => he.mono fun _ _ _ _ => trivial) before m hm

/-- What is logged when the replay engine refuses a blob. -/
def bad_blob_events (init_seq : Option (List U8)) : List Event :=
  [.log .err "invalid init sequence (%zu bytes)\n" [.int (fw_size init_seq)],
    .log .err "Init replay failed\n" []]

/-- A bad blob stops the initialisation, but only after the zeroing. -/
theorem full_init_dsp_bad_blob (m : Machine) {init_seq : Option (List U8)}
    (hbad : BadBlob init_seq) :
    (full_init_dsp init_seq).eval env m = -1 ∧ (full_init_dsp init_seq).exec env m =
      (motu424_zero_dsp_ram.exec env m).emit (bad_blob_events init_seq) := by
  have hreplay : (motu424_replay_sequence init_seq).exec env (motu424_zero_dsp_ram.exec env m) =
      (motu424_zero_dsp_ram.exec env m).emit
        [.log .err "invalid init sequence (%zu bytes)\n" [.int (fw_size init_seq)]] := by
    rw [motu424_replay_sequence, exec_bind, if_pos (by simp [hbad.2]), exec_bind, exec_pure, exec_pal_log,
      exec_get_ctx]
  have heval := eval_motu424_replay_sequence env (motu424_zero_dsp_ram.exec env m) hbad.1
  rw [if_pos hbad] at heval
  rw [full_init_dsp, eval_bind, exec_bind, if_pos hbad.1, eval_bind, exec_bind, heval, hreplay,
    if_pos (by decide), eval_bind, exec_bind, eval_pure, exec_pure, exec_pal_log, Machine.emit_emit]
  exact ⟨rfl, rfl⟩

/-- Any other init sequence takes the DSP phase to the boot of the card. -/
theorem full_init_dsp_boots (init_seq : Option (List U8)) {m : Machine} (hm : Bringup c before m)
    (hgood : ¬ BadBlob init_seq) :
    ∃ m', Bringup c before m' ∧ (full_init_dsp init_seq).eval env m = full_init_boot.eval env m' ∧
      (full_init_dsp init_seq).exec env m = full_init_boot.exec env m' := by
  have hzero := WritesOnly.bringup env motu424_zero_dsp_ram_writes hm
  by_cases hsize : 0 < fw_size init_seq
  · have heval := eval_motu424_replay_sequence env (motu424_zero_dsp_ram.exec env m) hsize
    rw [if_neg hgood] at heval
    refine ⟨_, WritesOnly.bringup env (motu424_replay_sequence_writes init_seq) hzero, ?_, ?_⟩
    · rw [full_init_dsp, eval_bind, if_pos hsize, eval_bind, heval, if_neg (by decide)]
    · rw [full_init_dsp, exec_bind, if_pos hsize, exec_bind, heval, if_neg (by decide)]
  · have hlog : WritesOnly env c zero_dsp_ram_writes
        (pal_log .warn "No init sequence — skipping (warm boot only)\n" []) := pal_log_writes _ _ _
    refine ⟨_, WritesOnly.bringup env hlog hzero, ?_, ?_⟩
    · rw [full_init_dsp, eval_bind, if_neg hsize, eval_bind]
    · rw [full_init_dsp, exec_bind, if_neg hsize, exec_bind]

/-- The FPGA phase always goes on to the DSP phase. -/
theorem motu424_full_init_loads (fpga_fw init_seq : Option (List U8)) {m : Machine}
    (hm : Bringup c before m) :
    ∃ m', Bringup c before m' ∧
      (motu424_full_init fpga_fw init_seq).eval env m = (full_init_dsp init_seq).eval env m' ∧
      (motu424_full_init fpga_fw init_seq).exec env m = (full_init_dsp init_seq).exec env m' := by
  by_cases hsize : 0 < fw_size fpga_fw
  · have heval := eval_motu424_load_fpga env m hsize
    refine ⟨_, WritesOnly.bringup env (motu424_load_fpga_writes fpga_fw) hm, ?_, ?_⟩
    · rw [motu424_full_init, if_pos hsize, eval_bind, heval, if_neg (by decide)]
    · rw [motu424_full_init, if_pos hsize, exec_bind, heval, if_neg (by decide)]
  · have hlog : WritesOnly env c zero_dsp_ram_writes
        (pal_log .info "No FPGA firmware — assuming warm boot\n" []) := pal_log_writes _ _ _
    refine ⟨_, WritesOnly.bringup env hlog hm, ?_, ?_⟩
    · rw [motu424_full_init, if_neg hsize, eval_bind]
    · rw [motu424_full_init, if_neg hsize, exec_bind]

/-- The initialisation succeeds exactly when its blob is not a bad one. -/
theorem eval_motu424_full_init (m : Machine) (fpga_fw init_seq : Option (List U8)) :
    (motu424_full_init fpga_fw init_seq).eval env m = if BadBlob init_seq then -1 else 0 := by
  have hm : Bringup m.ctx m.trace m := ⟨.refl _, [], by simp⟩
  obtain ⟨m₁, hm₁, heval, _⟩ := motu424_full_init_loads env fpga_fw init_seq hm
  by_cases hbad : BadBlob init_seq
  · rw [heval, if_pos hbad, (full_init_dsp_bad_blob env m₁ hbad).1]
  · obtain ⟨m₂, _, hboot, _⟩ := full_init_dsp_boots env init_seq hm₁ hbad
    rw [heval, if_neg hbad, hboot, eval_full_init_boot]

/-- A successful initialisation ends with `motu424_hw_init`, on the same hardware. -/
theorem motu424_full_init_ends_in_hw_init {m : Machine} {fpga_fw init_seq : Option (List U8)}
    (hok : (motu424_full_init fpga_fw init_seq).eval env m = 0) :
    ∃ m', Bringup m.ctx m.trace m' ∧
      (motu424_full_init fpga_fw init_seq).exec env m = motu424_hw_init.exec env m' := by
  have hgood : ¬ BadBlob init_seq := by
    intro hbad
    rw [eval_motu424_full_init, if_pos hbad] at hok
    exact absurd hok (by decide)
  have hm : Bringup m.ctx m.trace m := ⟨.refl _, [], by simp⟩
  obtain ⟨m₁, hm₁, _, hexec⟩ := motu424_full_init_loads env fpga_fw init_seq hm
  obtain ⟨m₂, hm₂, _, hboot⟩ := full_init_dsp_boots env init_seq hm₁ hgood
  have hkick := WritesOnly.bringup env motu424_dsp_kickstart_writes hm₂
  have hloop := WritesOnly.bringup env motu424_post_init_port_loop_writes hkick
  exact ⟨_, hloop, by rw [hexec, hboot, exec_full_init_boot]⟩

/-- After a successful initialisation every aligned DSP word below 0x40000 is
zero: the final check zeroes the DSP memory again. -/
theorem motu424_full_init_clears {m : Machine} {fpga_fw init_seq : Option (List U8)}
    (init : ByteMemory) (hmapped : m.ctx.iobase_dsp ≠ .null)
    (hok : (motu424_full_init fpga_fw init_seq).eval env m = 0)
    {offset : U32} (haligned : offset.toNat % 4 = 0) (hrange : offset.toNat < 0x40000) :
    bar_word init .dsp ((motu424_full_init fpga_fw init_seq).exec env m).trace offset = 0 := by
  obtain ⟨m', hm', hexec⟩ := motu424_full_init_ends_in_hw_init env hok
  rw [hexec]
  exact motu424_hw_init_clears env init m' (by rw [hm'.1.dsp]; exact hmapped) haligned hrange

end phases

end motu424
