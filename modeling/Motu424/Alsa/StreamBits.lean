import Motu424.Alsa.Duplex

open Program Run

namespace motu424

/-- The driver takes the DMA to be running exactly when it is enabled. -/
def PortState.FlagTrue (p : PortState) : Prop :=
  p.dma_running = 1 ↔ p.conf &&& MOTU_PORT_CONF_DMA_EN ≠ 0

/-- The operation clears the flag and leaves the register alone. -/
def PcmOp.PreparesCapture : PcmOp → Prop
  | .prepare substream => substream.stream = .capture
  | _ => False

theorem stop_conf_and_enable (conf : U32) : stop_conf conf &&& MOTU_PORT_CONF_DMA_EN = 0 :=
  and_not_and_eq_zero conf (by decide)

namespace PortState

theorem flagTrue_started {conf : U32} (henabled : conf &&& MOTU_PORT_CONF_DMA_EN ≠ 0) :
    (written conf 1).FlagTrue := iff_of_true rfl henabled

theorem flagTrue_stopped {conf shadow : U32} (hdisabled : conf &&& MOTU_PORT_CONF_DMA_EN = 0) :
    FlagTrue ⟨conf, shadow, 0⟩ := iff_of_false (by simp) (not_not.mpr hdisabled)

/-- A trigger moves the flag and the bit together. -/
theorem FlagTrue.trigger {p : PortState} (hflag : p.FlagTrue) (stream : snd_pcm_stream)
    (cmd : snd_pcm_trigger) : (p.trigger stream cmd).FlagTrue := by
  cases cmd with
  | start => exact flagTrue_started (start_conf_and_enable p.conf stream)
  | resume => exact flagTrue_started (start_conf_and_enable p.conf stream)
  | stop => exact flagTrue_stopped (stop_conf_and_enable p.conf)
  | suspend => exact flagTrue_stopped (stop_conf_and_enable p.conf)
  | pause_release => exact flagTrue_started (or_enable_and_enable p.shadow)
  | pause_push => exact flagTrue_stopped (and_not_and_eq_zero p.shadow (by decide))
  | other cmd => exact hflag

/-- An operation other than a capture prepare keeps the flag true, and a capture
prepare does so only when the DMA is not running. -/
theorem FlagTrue.step_iff {p : PortState} (hflag : p.FlagTrue) (op : PcmOp) :
    (p.step op).FlagTrue ↔ (op.PreparesCapture → p.dma_running ≠ 1) := by
  cases op with
  | pcm_open substream => exact iff_of_true hflag fun h => h.elim
  | pcm_close substream => exact iff_of_true hflag fun h => h.elim
  | prepare substream =>
    cases hstream : substream.stream with
    | playback =>
      simp only [PortState.step, PortState.prepare, PcmOp.PreparesCapture, hstream]
      exact iff_of_true (flagTrue_stopped (BitVec.zero_and ..)) fun h => absurd h (by decide)
    | capture =>
      simp only [PortState.step, PortState.prepare, PcmOp.PreparesCapture, hstream, true_imp_iff]
      have hrunning : p.dma_running ≠ 1 ↔ p.conf &&& MOTU_PORT_CONF_DMA_EN = 0 :=
        (not_congr hflag).trans not_not
      rw [hrunning]
      constructor
      · intro hflag'
        by_contra henabled
        exact absurd (hflag'.mpr henabled) (by simp)
      · intro hdisabled
        exact flagTrue_stopped hdisabled
  | trigger substream cmd => exact iff_of_true (hflag.trigger substream.stream cmd) fun h => h.elim
  | hw_stop => exact iff_of_true (flagTrue_stopped (stop_conf_and_enable p.conf)) fun h => h.elim

end PortState

/-- In every state of a run the flag tells whether the DMA is enabled. -/
def FlagStaysTrue (env : Env) (init : ByteMemory) (motu : motu424_linux) (ops : List PcmOp) : Prop :=
  (motu.machine.port_state init).FlagTrue ∧
  Along (pcm_step env) motu ops fun _ s op => ((pcm_step env s op).machine.port_state init).FlagTrue

/-- From a stopped port the flag stays true exactly in the runs that prepare
capture only while it says that the DMA is not running. -/
theorem flag_stays_true_iff (env : Env) (init : ByteMemory)
    (hkeeps : env.Keeps init .reg MOTU_REG_PORT_CONF) (motu : motu424_linux)
    (hreg : motu.machine.ctx.iobase_reg ≠ .null) (hstopped : motu.machine.ctx.dma_running = 0)
    (hdisabled : port_conf init motu.machine.trace &&& MOTU_PORT_CONF_DMA_EN = 0) (ops : List PcmOp) :
    FlagStaysTrue env init motu ops ↔ Along (pcm_step env) motu ops fun _ s op =>
      op.PreparesCapture → s.machine.ctx.dma_running ≠ 1 := by
  have hstart : (motu.machine.port_state init).FlagTrue := by
    rw [Machine.port_state, hstopped]
    exact PortState.flagTrue_stopped hdisabled
  have hiff (s : motu424_linux) (op : PcmOp) (hs : s.machine.ctx.iobase_reg ≠ .null ∧
      (s.machine.port_state init).FlagTrue) :
      ((pcm_step env s op).machine.port_state init).FlagTrue ↔
        (op.PreparesCapture → s.machine.ctx.dma_running ≠ 1) := by
    rw [(pcm_step_refines hkeeps s op hs.1).2]
    exact hs.2.step_iff op
  rw [FlagStaysTrue, and_iff_right hstart]
  refine @along_iff _ _ (pcm_step env) motu ops (fun s => s.machine.ctx.iobase_reg ≠ .null ∧
    (s.machine.port_state init).FlagTrue) _ _ (fun _ s op hs => hiff s op hs) ?_ ⟨hreg, hstart⟩
  intro _ s op hs hguard
  exact ⟨(pcm_step_refines hkeeps s op hs.1).1, (hiff s op hs).mpr hguard⟩

/-- Playback on its own keeps the flag true. -/
theorem playback_alone_flag_true :
    FlagStaysTrue register_env .zeroed (no_streams ⟨mapped_ctx, []⟩)
      [.prepare (test_substream .playback), .trigger (test_substream .playback) .start] ↔
    Along (pcm_step register_env) (no_streams ⟨mapped_ctx, []⟩)
      [.prepare (test_substream .playback), .trigger (test_substream .playback) .start]
      fun _ s op => op.PreparesCapture → s.machine.ctx.dma_running ≠ 1 :=
  flag_stays_true_iff register_env .zeroed (register_env_keeps _) (no_streams ⟨mapped_ctx, []⟩)
    mapped_ctx_reg rfl (by decide) _

/-- Preparing capture while playback runs makes the flag lie: the DMA stays enabled. -/
theorem capture_prepare_flag_lies :
    mapped_ctx.dma_running = 0 ∧ port_conf .zeroed [] &&& MOTU_PORT_CONF_DMA_EN = 0 ∧
    ¬ FlagStaysTrue register_env .zeroed (no_streams ⟨mapped_ctx, []⟩)
      [.trigger (test_substream .playback) .start, .prepare (test_substream .capture)] := by
  refine ⟨rfl, by decide, ?_⟩
  intro htrue
  obtain ⟨_, hrun⟩ := pcm_run_refines (register_env_keeps _) (no_streams ⟨mapped_ctx, []⟩)
    ([.trigger (test_substream .playback) .start] ++ [.prepare (test_substream .capture)]) mapped_ctx_reg
  have hflag : (pcm_step register_env _ _).machine.port_state .zeroed |>.FlagTrue :=
    htrue.2 [.trigger (test_substream .playback) .start] (.prepare (test_substream .capture)) [] rfl
  rw [← @run_append_singleton _ _ (pcm_step register_env), hrun] at hflag
  exact absurd (hflag.mpr (start_conf_and_enable _ .playback)) (by decide)

/-- The bits that the stream operations are about. -/
def stream_bits : U32 :=
  MOTU_PORT_CONF_DMA_EN ||| MOTU_PORT_CONF_RUN ||| MOTU_PORT_CONF_DMA_RD ||| MOTU_PORT_CONF_START

/-- The port routing and FPGA bits of a configuration. -/
def other_bits (conf : U32) : U32 := conf &&& ~~~stream_bits

/-- The operation writes the register from what it holds, and remembers it. -/
def PcmOp.RemembersConf : PcmOp → Prop
  | .trigger _ .start => True
  | .trigger _ .resume => True
  | .trigger _ .stop => True
  | .trigger _ .suspend => True
  | .hw_stop => True
  | _ => False

/-- The next operation that writes the register from an earlier value is a pause. -/
def PauseNext : List PcmOp → Prop
  | [] => False
  | op :: ops => op.IsPause ∨ ¬ op.RemembersConf ∧ PauseNext ops

/-- Whatever a playback prepare clears, a pause restores from the shadow before
the loss is remembered. -/
def RestoresConf : List PcmOp → Prop
  | [] => True
  | op :: ops => (op.PreparesPlayback → PauseNext ops) ∧ RestoresConf ops

section other_bits

variable (conf : U32)

@[simp] theorem other_bits_zero : other_bits 0#32 = 0#32 := BitVec.zero_and

/-- Setting stream bits does not show in the other bits. -/
theorem other_bits_or {added : U32} (hadded : added &&& ~~~stream_bits = 0#32) :
    other_bits (conf ||| added) = other_bits conf := or_and_eq_and conf hadded

/-- Nor does clearing them. -/
theorem other_bits_and_not {cleared : U32} (hcleared : ~~~cleared &&& ~~~stream_bits = ~~~stream_bits) :
    other_bits (conf &&& ~~~cleared) = other_bits conf := by
  rw [other_bits, other_bits, BitVec.and_assoc, hcleared]

@[simp] theorem other_bits_start_conf (stream : snd_pcm_stream) :
    other_bits (start_conf stream conf) = other_bits conf := by
  have hrun := other_bits_or conf
    (show (MOTU_PORT_CONF_DMA_EN ||| MOTU_PORT_CONF_RUN) &&& ~~~stream_bits = 0#32 by decide)
  cases stream with
  | playback => exact (other_bits_or _ (by decide)).trans hrun
  | capture => exact (other_bits_and_not _ (by decide)).trans hrun

@[simp] theorem other_bits_stop_conf : other_bits (stop_conf conf) = other_bits conf :=
  other_bits_and_not conf (by decide)

@[simp] theorem other_bits_or_enable : other_bits (conf ||| MOTU_PORT_CONF_DMA_EN) = other_bits conf :=
  other_bits_or conf (by decide)

@[simp] theorem other_bits_and_not_enable :
    other_bits (conf &&& ~~~MOTU_PORT_CONF_DMA_EN) = other_bits conf :=
  other_bits_and_not conf (by decide)

end other_bits

namespace PortState

/-- The other bits of the register and of its shadow. -/
def others (p : PortState) : U32 × U32 := (other_bits p.conf, other_bits p.shadow)

/-- What an operation does to the other bits: a playback prepare clears those of
the register, a pause brings the remembered ones back, a start or stop remembers
those of the register, and any other operation leaves both alone. -/
theorem others_step (p : PortState) (op : PcmOp) :
    (op.PreparesPlayback ∧ ¬ op.IsPause ∧ ¬ op.RemembersConf ∧
      (p.step op).others = (0, p.others.2)) ∨
    (¬ op.PreparesPlayback ∧ op.IsPause ∧ (p.step op).others = (p.others.2, p.others.2)) ∨
    (¬ op.PreparesPlayback ∧ ¬ op.IsPause ∧ op.RemembersConf ∧
      (p.step op).others = (p.others.1, p.others.1)) ∨
    (¬ op.PreparesPlayback ∧ ¬ op.IsPause ∧ ¬ op.RemembersConf ∧ (p.step op).others = p.others) := by
  cases op with
  | pcm_open substream => exact .inr (.inr (.inr ⟨id, id, id, rfl⟩))
  | pcm_close substream => exact .inr (.inr (.inr ⟨id, id, id, rfl⟩))
  | prepare substream =>
    cases hstream : substream.stream with
    | playback =>
      refine .inl ⟨hstream, id, id, ?_⟩
      simp [step, prepare, hstream, others]
    | capture =>
      refine .inr (.inr (.inr ⟨?_, id, id, ?_⟩))
      · simp [PcmOp.PreparesPlayback, hstream]
      · simp [step, prepare, hstream, others]
  | trigger substream cmd =>
    cases cmd with
    | start => exact .inr (.inr (.inl ⟨id, id, trivial, by simp [step, trigger, written, others]⟩))
    | resume => exact .inr (.inr (.inl ⟨id, id, trivial, by simp [step, trigger, written, others]⟩))
    | stop => exact .inr (.inr (.inl ⟨id, id, trivial, by simp [step, trigger, written, others]⟩))
    | suspend => exact .inr (.inr (.inl ⟨id, id, trivial, by simp [step, trigger, written, others]⟩))
    | pause_push => exact .inr (.inl ⟨id, trivial, by simp [step, trigger, written, others]⟩)
    | pause_release => exact .inr (.inl ⟨id, trivial, by simp [step, trigger, written, others]⟩)
    | other cmd => exact .inr (.inr (.inr ⟨id, id, id, rfl⟩))
  | hw_stop => exact .inr (.inr (.inl ⟨id, id, trivial, by simp [step, written, others]⟩))

/-- Bits that neither the register nor the shadow has any more never come back. -/
theorem others_lost {p : PortState} (hlost : p.others = (0, 0)) (ops : List PcmOp) :
    (run step p ops).others = (0, 0) := by
  induction ops generalizing p with
  | nil => exact hlost
  | cons op ops ih =>
    refine ih (p := p.step op) ?_
    rcases p.others_step op with ⟨_, _, _, hstep⟩ | ⟨_, _, hstep⟩ | ⟨_, _, _, hstep⟩ | ⟨_, _, _, hstep⟩ <;>
      rw [hstep, hlost]

/-- As long as the register has the bits, only a playback prepare takes them away. -/
theorem others_step_of_kept {bits : U32} {p : PortState} (hkept : p.others = (bits, bits)) (op : PcmOp) :
    (op.PreparesPlayback ∧ (p.step op).others = (0, bits)) ∨
    (¬ op.PreparesPlayback ∧ (p.step op).others = (bits, bits)) := by
  rcases p.others_step op with ⟨hprep, _, _, hstep⟩ | ⟨hprep, _, hstep⟩ | ⟨hprep, _, _, hstep⟩ |
    ⟨hprep, _, _, hstep⟩
  · exact .inl ⟨hprep, by rw [hstep, hkept]⟩
  · exact .inr ⟨hprep, by rw [hstep, hkept]⟩
  · exact .inr ⟨hprep, by rw [hstep, hkept]⟩
  · exact .inr ⟨hprep, by rw [hstep, hkept]⟩

/-- When only the shadow has them, a pause brings them back, and an operation that
remembers the register loses them. -/
theorem others_step_of_cleared {bits : U32} {p : PortState} (hcleared : p.others = (0, bits)) (op : PcmOp) :
    (¬ op.IsPause ∧ ¬ op.RemembersConf ∧ (p.step op).others = (0, bits)) ∨
    (¬ op.PreparesPlayback ∧ op.IsPause ∧ (p.step op).others = (bits, bits)) ∨
    (¬ op.IsPause ∧ op.RemembersConf ∧ (p.step op).others = (0, 0)) := by
  rcases p.others_step op with ⟨_, hpause, hrem, hstep⟩ | ⟨hprep, hpause, hstep⟩ |
    ⟨_, hpause, hrem, hstep⟩ | ⟨_, hpause, hrem, hstep⟩
  · exact .inl ⟨hpause, hrem, by rw [hstep, hcleared]⟩
  · exact .inr (.inl ⟨hprep, hpause, by rw [hstep, hcleared]⟩)
  · exact .inr (.inr ⟨hpause, hrem, by rw [hstep, hcleared]⟩)
  · exact .inl ⟨hpause, hrem, by rw [hstep, hcleared]⟩

/-- With the bits in the shadow, the register has them at the end of a run
exactly when every loss is restored, one from before the run included. -/
theorem others_kept_iff {bits : U32} (hbits : bits ≠ 0) {p : PortState} (ops : List PcmOp) :
    (p.others = (bits, bits) → ((run step p ops).others.1 = bits ↔ RestoresConf ops)) ∧
    (p.others = (0, bits) →
      ((run step p ops).others.1 = bits ↔ PauseNext ops ∧ RestoresConf ops)) := by
  induction ops generalizing p with
  | nil =>
    constructor
    · intro hkept
      exact iff_of_true (congrArg Prod.fst hkept) trivial
    · intro hcleared
      refine iff_of_false ?_ fun hnext => hnext.1
      intro hzero
      exact hbits (hzero.symm.trans (congrArg Prod.fst hcleared))
  | cons op ops ih =>
    obtain ⟨hkept, hcleared⟩ := @ih (p.step op)
    have hrun : run step p (op :: ops) = run step (p.step op) ops := rfl
    rw [hrun]
    constructor
    · intro hp
      rcases others_step_of_kept hp op with ⟨hprep, hstep⟩ | ⟨hprep, hstep⟩
      · rw [hcleared hstep]
        simp [RestoresConf, hprep]
      · rw [hkept hstep]
        simp [RestoresConf, hprep]
    · intro hp
      rcases others_step_of_cleared hp op with ⟨hpause, hrem, hstep⟩ | ⟨hprep, hpause, hstep⟩ |
        ⟨hpause, hrem, hstep⟩
      · rw [hcleared hstep]
        simp only [RestoresConf, PauseNext, hpause, hrem, false_or, not_false_iff, true_and]
        tauto
      · rw [hkept hstep]
        simp [RestoresConf, PauseNext, hprep, hpause]
      · -- the loss is remembered
        have hlost := others_lost hstep ops
        rw [hlost]
        refine iff_of_false (Ne.symm hbits) ?_
        simp [PauseNext, hpause, hrem]

end PortState

/-- From a fresh shadow, a run of stream operations leaves the other bits of the
register as they were exactly when there are none or every loss is restored. -/
theorem other_bits_kept_iff (env : Env) (init : ByteMemory)
    (hkeeps : env.Keeps init .reg MOTU_REG_PORT_CONF) (motu : motu424_linux)
    (hreg : motu.machine.ctx.iobase_reg ≠ .null)
    (hfresh : motu.machine.ctx.port_conf_shadow = port_conf init motu.machine.trace) (ops : List PcmOp) :
    other_bits (port_conf init (run (pcm_step env) motu ops).machine.trace) =
        other_bits (port_conf init motu.machine.trace) ↔
      other_bits (port_conf init motu.machine.trace) = 0 ∨ RestoresConf ops := by
  obtain ⟨_, hrun⟩ := pcm_run_refines hkeeps motu ops hreg
  obtain ⟨bits, hbits⟩ : ∃ bits, other_bits (port_conf init motu.machine.trace) = bits := ⟨_, rfl⟩
  have hstart : (motu.machine.port_state init).others = (bits, bits) := by
    rw [PortState.others, Machine.port_state, hfresh, hbits]
  have hend : other_bits (port_conf init (run (pcm_step env) motu ops).machine.trace) =
      (run PortState.step (motu.machine.port_state init) ops).others.1 := by
    rw [← hrun]
    rfl
  rw [hend, hbits]
  by_cases hzero : bits = 0
  · have hlost := PortState.others_lost (hstart.trans (by rw [hzero])) ops
    rw [hlost]
    exact iff_of_true hzero.symm (.inl hzero)
  · rw [(PortState.others_kept_iff hzero ops).1 hstart, or_iff_right hzero]

/-- A control BAR whose port configuration has routing bits. -/
def routed_memory : ByteMemory := fun _ => 1

/-- An outside with such a BAR. -/
def routed_env : Env :=
  { Env.idle with read32 := fun trace bar offset => bar_word routed_memory bar trace offset }

/-- A driver that has loaded its shadow from that BAR. -/
def routed_driver : motu424_linux := no_streams ⟨{ mapped_ctx with port_conf_shadow := 0x1010101 }, []⟩

/-- Starting and stopping capture keeps the routing bits. -/
theorem capture_cycle_keeps_other_bits :
    other_bits (port_conf routed_memory (run (pcm_step routed_env) routed_driver
      [.trigger (test_substream .capture) .start, .trigger (test_substream .capture) .stop]).machine.trace) =
        other_bits (port_conf routed_memory []) ↔
    other_bits (port_conf routed_memory []) = 0 ∨
      RestoresConf [.trigger (test_substream .capture) .start, .trigger (test_substream .capture) .stop] :=
  other_bits_kept_iff routed_env routed_memory (fun _ => rfl) routed_driver mapped_ctx_reg (by decide) _

/-- Preparing playback loses them. -/
theorem playback_prepare_loses_other_bits :
    routed_driver.machine.ctx.port_conf_shadow = port_conf routed_memory routed_driver.machine.trace ∧
    other_bits (port_conf routed_memory (run (pcm_step routed_env) routed_driver
      [.prepare (test_substream .playback)]).machine.trace) ≠ other_bits (port_conf routed_memory []) := by
  refine ⟨by decide, ?_⟩
  obtain ⟨_, hrun⟩ := @pcm_run_refines routed_env routed_memory (fun _ => rfl) routed_driver
    [.prepare (test_substream .playback)] mapped_ctx_reg
  have hconf : port_conf routed_memory (run (pcm_step routed_env) routed_driver
      [.prepare (test_substream .playback)]).machine.trace = 0 := congrArg PortState.conf hrun
  rw [hconf]
  decide

end motu424
