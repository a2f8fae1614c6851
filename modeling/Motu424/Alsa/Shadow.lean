import Motu424.Alsa.PortConf
import Motu424.Init.DspMemory

open Program Run

namespace motu424

/-- The driver remembers what the register holds. -/
def PortState.InSync (p : PortState) : Prop := p.shadow = p.conf

/-- The operation writes the register from what the driver remembers of it. -/
def PcmOp.IsPause : PcmOp → Prop
  | .trigger _ .pause_push => True
  | .trigger _ .pause_release => True
  | _ => False

/-- The operation clears the register behind the back of the shadow. -/
def PcmOp.PreparesPlayback : PcmOp → Prop
  | .prepare substream => substream.stream = .playback
  | _ => False

/-- Two configurations that differ in `DMA_EN` at most. -/
def SameButEnable (conf conf' : U32) : Prop :=
  conf &&& ~~~MOTU_PORT_CONF_DMA_EN = conf' &&& ~~~MOTU_PORT_CONF_DMA_EN

theorem sameButEnable_or (conf : U32) : SameButEnable (conf ||| MOTU_PORT_CONF_DMA_EN) conf := by
  rw [SameButEnable]
  ext i
  simp only [BitVec.getElem_and, BitVec.getElem_or, BitVec.getElem_not]
  cases MOTU_PORT_CONF_DMA_EN[i] <;> simp

theorem sameButEnable_and_not (conf : U32) :
    SameButEnable (conf &&& ~~~MOTU_PORT_CONF_DMA_EN) conf := by
  rw [SameButEnable, BitVec.and_assoc, BitVec.and_self]

namespace PortState

/-- An operation other than a playback prepare keeps the shadow fresh, and a
playback prepare does so only when the shadow is zero. -/
theorem InSync.step_iff {p : PortState} (hsync : p.InSync) (op : PcmOp) :
    (p.step op).InSync ↔ (op.PreparesPlayback → p.shadow = 0) := by
  cases op with
  | pcm_open substream => exact iff_of_true hsync fun h => h.elim
  | pcm_close substream => exact iff_of_true hsync fun h => h.elim
  | prepare substream =>
    cases hstream : substream.stream with
    | playback => simp [PortState.step, PortState.prepare, PcmOp.PreparesPlayback, InSync, hstream]
    | capture =>
      simp only [PortState.step, PortState.prepare, PcmOp.PreparesPlayback, InSync, hstream]
      exact iff_of_true hsync fun h => absurd h (by decide)
  | trigger substream cmd =>
    refine iff_of_true ?_ fun h => absurd h ?_
    · cases cmd with
      | other cmd => exact hsync
      | _ => rfl
    · exact not_false
  | hw_stop => exact iff_of_true rfl fun h => h.elim

/-- Written from a fresh shadow, a pause changes nothing but `DMA_EN`. -/
theorem InSync.pause {p : PortState} (hsync : p.InSync) {op : PcmOp} (hpause : op.IsPause) :
    SameButEnable (p.step op).conf p.conf := by
  cases op with
  | trigger substream cmd =>
    rw [InSync] at hsync
    cases cmd with
    | pause_push =>
      simp only [step, trigger, written, hsync]
      exact sameButEnable_and_not p.conf
    | pause_release =>
      simp only [step, trigger, written, hsync]
      exact sameButEnable_or p.conf
    | _ => exact hpause.elim
  | _ => exact hpause.elim

end PortState

theorem stores_eq_nil_of_within {c : motu424_ctx} {events : List Event} {bar : Bar}
    (hevents : ∀ e ∈ events, e.Within c fun _ _ _ => False) : stores bar events = [] := by
  rw [List.eq_nil_iff_forall_not_mem]
  intro s hs
  obtain ⟨_, _, hfalse, _⟩ := stores_of_within hevents hs
  exact hfalse

/-- `motu424_hw_init` loads the shadow, and writes nothing after it. -/
theorem motu424_hw_init_in_sync {env : Env} {init : ByteMemory}
    (hkeeps : env.Keeps init .reg MOTU_REG_PORT_CONF) (m : Machine) (hreg : m.ctx.iobase_reg ≠ .null) :
    (motu424_hw_init.exec env m).ctx.iobase_reg ≠ .null ∧
    ((motu424_hw_init.exec env m).port_state init).InSync := by
  obtain ⟨m₁, hzero, hctx⟩ : ∃ m₁, motu424_zero_dsp_ram.exec env m = m₁ ∧ m₁.ctx = m.ctx :=
    ⟨_, rfl, by rw [exec_motu424_zero_dsp_ram, Machine.emit_ctx]⟩
  have hload : (load_shadow m₁.ctx).exec env m₁ =
      ⟨{ m₁.ctx with port_conf_shadow := port_conf init m₁.trace },
        m₁.trace ++ [.read .reg m₁.ctx.iobase_reg.addr MOTU_REG_PORT_CONF]⟩ := by
    have hread : env.read32 m₁.trace .reg MOTU_REG_PORT_CONF = port_conf init m₁.trace := hkeeps _
    rw [load_shadow, if_pos (by rw [hctx]; exact hreg), exec_bind, exec_pal_read32, eval_pal_read32, hread]
    rfl
  have hsame : m₁.ctx.SameHw ((load_shadow m₁.ctx).exec env m₁).ctx := by
    rw [hload]
    exact ⟨rfl, rfl, rfl, rfl, rfl, rfl⟩
  -- from here on the context stays exactly as it is
  have hquiet : Emits env (· = ((load_shadow m₁.ctx).exec env m₁).ctx)
      (Event.Within m₁.ctx fun _ _ _ => False) (hw_init_status m₁.ctx) :=
    hw_init_status_writes (fun _ h => h ▸ hsame) (.refl _)
  obtain ⟨hend, new, hnew, hwithin⟩ := hquiet.spec ((load_shadow m₁.ctx).exec env m₁) rfl
  have hexec : motu424_hw_init.exec env m =
      (hw_init_status m₁.ctx).exec env ((load_shadow m₁.ctx).exec env m₁) := by
    rw [motu424_hw_init, exec_bind, hzero, hw_init_check, exec_bind, exec_bind, eval_get_ctx, exec_get_ctx]
  rw [hexec, PortState.InSync, Machine.port_state, hend, hnew,
    port_conf_frame init _ (stores_eq_nil_of_within hwithin), hload]
  constructor
  · rw [hctx]
    exact hreg
  · exact (port_conf_frame init m₁.trace rfl).symm

/-- Along a run the shadow is what the register holds, and the pauses change
nothing but `DMA_EN`. -/
def ShadowFresh (env : Env) (init : ByteMemory) (motu : motu424_linux) (ops : List PcmOp) : Prop :=
  (motu.machine.port_state init).InSync ∧
  Along (pcm_step env) motu ops fun _ s op =>
    ((pcm_step env s op).machine.port_state init).InSync ∧
    (op.IsPause → SameButEnable ((pcm_step env s op).machine.port_state init).conf
      (s.machine.port_state init).conf)

/-- The invariant that carries the shadow along a run. -/
def Synced (init : ByteMemory) (motu : motu424_linux) : Prop :=
  motu.machine.ctx.iobase_reg ≠ .null ∧ (motu.machine.port_state init).InSync

section step

variable {env : Env} {init : ByteMemory} (hkeeps : env.Keeps init .reg MOTU_REG_PORT_CONF)
  {motu : motu424_linux} (hsynced : Synced init motu) (op : PcmOp)
include hkeeps hsynced

/-- A step is as it should be exactly when it does not prepare playback on a
shadow with bits set. -/
theorem Synced.fresh_step_iff :
    (((pcm_step env motu op).machine.port_state init).InSync ∧ (op.IsPause →
      SameButEnable ((pcm_step env motu op).machine.port_state init).conf
        (motu.machine.port_state init).conf)) ↔
    (op.PreparesPlayback → motu.machine.ctx.port_conf_shadow = 0) := by
  obtain ⟨hmapped, hsync⟩ := hsynced
  obtain ⟨_, hport⟩ := @pcm_step_refines env init hkeeps motu op hmapped
  rw [hport]
  constructor
  · intro hfresh
    exact (hsync.step_iff op).mp hfresh.1
  · intro hguard
    exact ⟨(hsync.step_iff op).mpr hguard, hsync.pause⟩

/-- Such a step keeps the invariant. -/
theorem Synced.step (hguard : op.PreparesPlayback → motu.machine.ctx.port_conf_shadow = 0) :
    Synced init (pcm_step env motu op) := by
  obtain ⟨hmapped, hsync⟩ := hsynced
  obtain ⟨hmapped', hport⟩ := @pcm_step_refines env init hkeeps motu op hmapped
  refine ⟨hmapped', ?_⟩
  rw [hport]
  exact (hsync.step_iff op).mpr hguard

end step

/-- After `motu424_hw_init` the shadow stays fresh exactly in the runs that
prepare playback only while the shadow is zero. -/
theorem shadow_fresh_iff (env : Env) (init : ByteMemory)
    (hkeeps : env.Keeps init .reg MOTU_REG_PORT_CONF) (m : Machine) (hreg : m.ctx.iobase_reg ≠ .null)
    (motu : motu424_linux) (hinit : motu.machine = motu424_hw_init.exec env m) (ops : List PcmOp) :
    ShadowFresh env init motu ops ↔ Along (pcm_step env) motu ops fun _ s op =>
      op.PreparesPlayback → s.machine.ctx.port_conf_shadow = 0 := by
  have hstart : Synced init motu := by
    rw [Synced, hinit]
    exact motu424_hw_init_in_sync hkeeps m hreg
  rw [ShadowFresh, and_iff_right hstart.2]
  exact along_iff (fun _ _ op hs => hs.fresh_step_iff hkeeps op)
    (fun _ _ op hs hguard => hs.step hkeeps op hguard) hstart

/-- An outside whose control registers read back what was written to them. -/
def register_env : Env := { Env.idle with read32 := fun trace bar offset => bar_word .zeroed bar trace offset }

theorem register_env_keeps (offset : U32) : register_env.Keeps .zeroed .reg offset := fun _ => rfl

/-- The driver with no substream open. -/
def no_streams (machine : Machine) : motu424_linux where
  machine := machine
  playback_substream := none
  capture_substream := none
  playback_hw := none
  capture_hw := none

theorem no_streams_machine (machine : Machine) : (no_streams machine).machine = machine := rfl

theorem mapped_ctx_reg : mapped_ctx.iobase_reg ≠ .null := by decide

/-- A stereo substream with two periods of 1024 bytes. -/
def test_substream (stream : snd_pcm_stream) : snd_pcm_substream where
  addr := 0x8000
  stream := stream
  runtime :=
    { format := .s32_le
      channels := 2
      rate := 48000
      period_size := 128
      buffer_size := 256
      dma_area := some 0x9000 }

/-- Starting and stopping capture keeps the shadow fresh. -/
theorem capture_cycle_fresh :
    ShadowFresh register_env .zeroed (no_streams (motu424_hw_init.exec register_env ⟨mapped_ctx, []⟩))
      [.trigger (test_substream .capture) .start, .trigger (test_substream .capture) .stop] ↔
    Along (pcm_step register_env) (no_streams (motu424_hw_init.exec register_env ⟨mapped_ctx, []⟩))
      [.trigger (test_substream .capture) .start, .trigger (test_substream .capture) .stop]
      fun _ s op => op.PreparesPlayback → s.machine.ctx.port_conf_shadow = 0 :=
  shadow_fresh_iff register_env .zeroed (register_env_keeps _) ⟨mapped_ctx, []⟩ mapped_ctx_reg
    (no_streams _) (no_streams_machine _) _

/-- A running configuration has `DMA_EN` set. -/
theorem start_conf_ne_zero (stream : snd_pcm_stream) (conf : U32) : start_conf stream conf ≠ 0 := by
  intro hzero
  have hbit := congrArg (BitVec.getLsbD · 7) hzero
  cases stream <;>
    simp [start_conf, MOTU_PORT_CONF_DMA_EN, MOTU_PORT_CONF_RUN, MOTU_PORT_CONF_DMA_RD] at hbit

/-- Preparing playback while capture runs leaves the running configuration in
the shadow. -/
theorem playback_prepare_stale :
    ¬ ShadowFresh register_env .zeroed (no_streams (motu424_hw_init.exec register_env ⟨mapped_ctx, []⟩))
      [.trigger (test_substream .capture) .start, .prepare (test_substream .playback)] := by
  intro hfresh
  obtain ⟨hreg, _⟩ := motu424_hw_init_in_sync (register_env_keeps _) ⟨mapped_ctx, []⟩ mapped_ctx_reg
  generalize motu424_hw_init.exec register_env ⟨mapped_ctx, []⟩ = m at hreg hfresh
  obtain ⟨_, hrun⟩ := pcm_run_refines (register_env_keeps _) (no_streams m)
    ([.trigger (test_substream .capture) .start] ++ [.prepare (test_substream .playback)]) hreg
  obtain ⟨hsync, _⟩ := hfresh.2 [.trigger (test_substream .capture) .start]
    (.prepare (test_substream .playback)) [] rfl
  rw [← @run_append_singleton _ _ (pcm_step register_env), hrun] at hsync
  exact start_conf_ne_zero .capture _ hsync

end motu424
