import Motu424.Init.FullInit

open Program ByteMemory

namespace motu424

/-- Steps 2 and 3 of `motu424_hw_init`, up to the result of the poll. -/
def sync_poll : Pal Int := do
  let ctx ← get_ctx
  load_shadow ctx
  motu424_poll_reg PAL_BAR_DSP MOTU_SYNC_REG_STATUS 0x0 2000

/-- `motu424_hw_init` up to and including its poll of the sync status. -/
def hw_init_poll : Pal Int := do
  motu424_zero_dsp_ram
  sync_poll

/-- What `motu424_hw_init` makes of the result of the poll. -/
def hw_init_report (ctx : motu424_ctx) (err : Int) : Pal Int := do
  Program.when (err ≠ 0) (pal_log .warn "sync status poll failed (continuing)\n" [])
  let status ← pal_read32 ctx.iobase_port 0x00
  pal_log .info "post-init port status: 0x%08x\n" [.u32 status]
  if status &&& MOTU_PORT_LOCK_STATUS = MOTU_PORT_LOCK_STATUS then do
    pal_log .info "card sync achieved\n" []
    pure 0
  else do
    pal_log .warn "card not fully synced (status=0x%08x, expected mask 0x%02x)\n"
      [.u32 status, .u32 MOTU_PORT_LOCK_STATUS]
    pure 0

theorem exec_hw_init_check (env : Env) (m : Machine) :
    hw_init_check.exec env m =
      (hw_init_report m.ctx (sync_poll.eval env m)).exec env (sync_poll.exec env m) := (rfl)

/-- The poll is a part of `motu424_hw_init`, and its result goes nowhere else
than into the report. -/
theorem exec_motu424_hw_init (env : Env) (m : Machine) :
    motu424_hw_init.exec env m =
      (hw_init_report (motu424_zero_dsp_ram.exec env m).ctx (hw_init_poll.eval env m)).exec env
        (hw_init_poll.exec env m) := by
  rw [motu424_hw_init, hw_init_poll, exec_bind, exec_bind, eval_bind, exec_hw_init_check]

/-- The poll inside `motu424_hw_init` reports a timeout. -/
def SyncPollTimesOut (env : Env) (m : Machine) : Prop := hw_init_poll.eval env m ≠ 0

instance (env : Env) (m : Machine) : Decidable (SyncPollTimesOut env m) :=
  inferInstanceAs (Decidable (_ ≠ _))

section poll

variable (env : Env) (m : Machine)

/-- A poll whose first read matches succeeds. -/
theorem eval_motu424_poll_reg_first {offset expected : U32} {timeout_ms : Int} (htime : 0 < timeout_ms)
    (hread : env.read32 m.trace .dsp offset = expected) :
    (motu424_poll_reg PAL_BAR_DSP offset expected timeout_ms).eval env m = 0 := by
  obtain ⟨rounds, hrounds⟩ : ∃ rounds, timeout_ms.toNat = rounds + 1 :=
    ⟨timeout_ms.toNat - 1, by omega⟩
  have hval : (motu_read m.ctx PAL_BAR_DSP offset).eval env m = expected := by
    rw [motu_read, if_pos rfl, eval_pal_read32, hread]
  have hloop : (poll_reg_loop m.ctx PAL_BAR_DSP offset expected (rounds + 1) none).eval env m =
      (true, some expected) := by
    rw [poll_reg_loop, eval_bind, hval, if_pos rfl, eval_pure]
  rw [motu424_poll_reg, eval_bind, eval_get_ctx, exec_get_ctx, hrounds, eval_bind, hloop]
  rfl

/-- Between the zeroing and the poll no word behind a BAR changes. -/
theorem eval_sync_poll_of_zero (init : ByteMemory) (hkeeps : env.Keeps init .dsp MOTU_SYNC_REG_STATUS)
    (hzero : bar_word init .dsp m.trace MOTU_SYNC_REG_STATUS = 0) : sync_poll.eval env m = 0 := by
  have hshadow : WritesOnly env m.ctx (fun _ _ _ => False) (load_shadow m.ctx) :=
    load_shadow_writes (.refl m.ctx)
  have hread : env.read32 ((load_shadow m.ctx).exec env m).trace .dsp MOTU_SYNC_REG_STATUS = 0 := by
    rw [hkeeps, hshadow.bar_word_eq (.refl m.ctx), hzero]
  rw [sync_poll, eval_bind, eval_get_ctx, exec_get_ctx, eval_bind]
  exact eval_motu424_poll_reg_first env _ (by decide) hread

/-- On a card that keeps the sync status as it was written, the poll reads back the
zero that the driver wrote. -/
theorem eval_hw_init_poll_of_keeps (init : ByteMemory) (hdsp : m.ctx.iobase_dsp ≠ .null)
    (hkeeps : env.Keeps init .dsp MOTU_SYNC_REG_STATUS) : hw_init_poll.eval env m = 0 := by
  have hzero := motu424_zero_dsp_ram_clears env init m hdsp
    (show MOTU_SYNC_REG_STATUS.toNat % 4 = 0 by decide) (by decide)
  rw [hw_init_poll, eval_bind]
  exact eval_sync_poll_of_zero env _ init hkeeps hzero

end poll

/-- Whatever the sync status of such a card was before, the poll never reports a
timeout. -/
theorem sync_poll_never_times_out (env : Env) (init : ByteMemory) (m : Machine)
    (hdsp : m.ctx.iobase_dsp ≠ .null) (hkeeps : env.Keeps init .dsp MOTU_SYNC_REG_STATUS) :
    ¬ SyncPollTimesOut env m := by
  intro htimeout
  exact htimeout (eval_hw_init_poll_of_keeps env m init hdsp hkeeps)

/-- A card that reads back what was written over some initial content. -/
def keeping_env (init : ByteMemory) : Env :=
  { Env.idle with read32 := fun trace bar offset => bar_word init bar trace offset }

theorem keeping_env_keeps (init : ByteMemory) (bar : Bar) (offset : U32) :
    (keeping_env init).Keeps init bar offset := fun _ => rfl

/-- A memory without a zero byte. -/
def busy_memory : ByteMemory := fun _ => 1

theorem busy_memory_busy : bar_word busy_memory .dsp [] MOTU_SYNC_REG_STATUS ≠ 0 := by decide

/-- A busy card is taken for a ready one. -/
theorem busy_card_polled_ready :
    (keeping_env busy_memory).Keeps busy_memory .dsp MOTU_SYNC_REG_STATUS ∧
    bar_word busy_memory .dsp [] MOTU_SYNC_REG_STATUS ≠ 0 ∧
    ¬ SyncPollTimesOut (keeping_env busy_memory) ⟨mapped_ctx, []⟩ := by
  have hpoll := eval_hw_init_poll_of_keeps (keeping_env busy_memory) ⟨mapped_ctx, []⟩ busy_memory
    (by decide) (keeping_env_keeps _ _ _)
  exact ⟨keeping_env_keeps _ _ _, busy_memory_busy, fun htimeout => htimeout hpoll⟩

/-- The busy card as an instance of the general statement. -/
theorem busy_card_never_times_out : ¬ SyncPollTimesOut (keeping_env busy_memory) ⟨mapped_ctx, []⟩ :=
  sync_poll_never_times_out (keeping_env busy_memory) busy_memory ⟨mapped_ctx, []⟩ (by decide)
    (keeping_env_keeps _ _ _)

end motu424
