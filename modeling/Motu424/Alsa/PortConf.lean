import Motu424.Alsa
import Motu424.Pal.Trace
import Motu424.Foundation.Run

open Program ByteMemory Run

namespace motu424

/-- The operations of the PCM devices and the shutdown of the hardware. -/
inductive PcmOp where
  | pcm_open (substream : snd_pcm_substream)
  | pcm_close (substream : snd_pcm_substream)
  | prepare (substream : snd_pcm_substream)
  | trigger (substream : snd_pcm_substream) (cmd : snd_pcm_trigger)
  | hw_stop
  deriving DecidableEq, Repr

/-- Run an operation through the table of its direction. -/
def PcmOp.run (op : PcmOp) : Alsa Int :=
  match op with
  | .pcm_open substream => (motu424_pcm_ops substream.stream).pcm_open substream
  | .pcm_close substream => (motu424_pcm_ops substream.stream).pcm_close substream
  | .prepare substream => (motu424_pcm_ops substream.stream).prepare substream
  | .trigger substream cmd => (motu424_pcm_ops substream.stream).trigger substream cmd
  | .hw_stop => shared motu424_hw_stop >>= fun _ => pure 0

/-- The state an operation leaves behind. -/
def pcm_step (env : Env) (motu : motu424_linux) (op : PcmOp) : motu424_linux := op.run.exec env motu

structure PortState where
  conf : U32
  shadow : U32
  dma_running : Int
  deriving DecidableEq, Repr

/-- The configuration in which a direction runs. -/
def start_conf (stream : snd_pcm_stream) (conf : U32) : U32 :=
  let conf := conf ||| (MOTU_PORT_CONF_DMA_EN ||| MOTU_PORT_CONF_RUN)
  match stream with
  | .playback => conf ||| MOTU_PORT_CONF_DMA_RD
  | .capture => conf &&& ~~~MOTU_PORT_CONF_DMA_RD

/-- The configuration in which nothing runs. -/
def stop_conf (conf : U32) : U32 :=
  conf &&& ~~~(MOTU_PORT_CONF_DMA_EN ||| MOTU_PORT_CONF_RUN ||| MOTU_PORT_CONF_DMA_RD |||
    MOTU_PORT_CONF_START)

/-- A configuration that is written and remembered. -/
def PortState.written (conf : U32) (dma_running : Int) : PortState := ⟨conf, conf, dma_running⟩

def PortState.trigger (p : PortState) (stream : snd_pcm_stream) : snd_pcm_trigger → PortState
  | .start | .resume => .written (start_conf stream p.conf) 1
  | .stop | .suspend => .written (stop_conf p.conf) 0
  | .pause_release => .written (p.shadow ||| MOTU_PORT_CONF_DMA_EN) 1
  | .pause_push => .written (p.shadow &&& ~~~MOTU_PORT_CONF_DMA_EN) 0
  | .other _ => p

/-- Preparing playback clears the register, but not what is remembered of it. -/
def PortState.prepare (p : PortState) : snd_pcm_stream → PortState
  | .playback => ⟨0, p.shadow, 0⟩
  | .capture => ⟨p.conf, p.shadow, 0⟩

def PortState.step (p : PortState) : PcmOp → PortState
  | .pcm_open _ => p
  | .pcm_close _ => p
  | .prepare substream => p.prepare substream.stream
  | .trigger substream cmd => p.trigger substream.stream cmd
  | .hw_stop => .written (stop_conf p.conf) 0

/-- What the register holds after a trace. -/
def port_conf (init : ByteMemory) (trace : List Event) : U32 := bar_word init .reg trace MOTU_REG_PORT_CONF

/-- The port configuration of the machine. -/
def Machine.port_state (init : ByteMemory) (m : Machine) : PortState :=
  ⟨port_conf init m.trace, m.ctx.port_conf_shadow, m.ctx.dma_running⟩

section register

variable (init : ByteMemory) (before : List Event) {base : Nat} {value : U32} {later : List Event}

theorem port_conf_frame (hlater : stores .reg later = []) :
    port_conf init (before ++ later) = port_conf init before :=
  bar_word_frame init before (by simp [hlater])

/-- The last write to the register decides what it holds, whatever is written
to other registers afterwards. -/
theorem port_conf_write (hlater : ∀ s ∈ stores .reg later, Apart 0 4 s.1 s.2.length) :
    port_conf init (before ++ .write .reg (some base) MOTU_REG_PORT_CONF value :: later) = value :=
  bar_word_last_write init before base MOTU_REG_PORT_CONF value hlater

end register

/-- What the first part of `motu424_playback_prepare` does outside. -/
def prepare_clear_events (c : motu424_ctx) : List Event :=
  match c.dma_buf with
  | none => [.spin_lock]
  | some buf => [.spin_lock, .memset buf 0 c.dma_size]

/-- What it does after it has cleared the port configuration. -/
def prepare_size_events (c : motu424_ctx) (runtime : snd_pcm_runtime) : List Event :=
  [.write .reg c.iobase_reg.addr MOTU_REG_DMA_SIZE
    (BitVec.ofNat 32 (frames_to_bytes runtime runtime.period_size))] ++
  (if c.dma_addr ≠ 0 then
    [.write .reg c.iobase_reg.addr MOTU_REG_DMA_BASE (c.dma_addr.truncate 32)] else []) ++
  [.spin_unlock]

section exec

variable (env : Env) (m : Machine)

theorem exec_shared {α : Type} (p : Pal α) (motu : motu424_linux) :
    (shared p).exec env motu = { motu with machine := p.exec env motu.machine } := (rfl)

theorem exec_clear_dma_buf :
    (clear_dma_buf m.ctx).exec env (m.emit [.spin_lock]) = m.emit (prepare_clear_events m.ctx) := by
  cases hbuf : m.ctx.dma_buf with
  | none => simp [clear_dma_buf, prepare_clear_events, hbuf]
  | some buf => simp [clear_dma_buf, prepare_clear_events, hbuf]

theorem exec_motu424_playback_prepare (substream : snd_pcm_substream) :
    (motu424_playback_prepare substream).exec env m =
      ⟨{ m.ctx with rate := substream.runtime.rate, dma_running := 0 },
        (m.trace ++ prepare_clear_events m.ctx) ++
          .write .reg m.ctx.iobase_reg.addr MOTU_REG_PORT_CONF 0 ::
            prepare_size_events m.ctx substream.runtime⟩ := by
  rw [motu424_playback_prepare]
  simp only [exec_bind, exec_pal_spinlock_lock_irqsave, eval_get_ctx, exec_get_ctx, Machine.emit_ctx,
    exec_clear_dma_buf, exec_when_emit env _ (exec_pal_write32 env _ _ _ _), exec_pal_write32, exec_set_ctx,
    exec_pal_spinlock_unlock_irqrestore, exec_pure, Machine.emit_emit]
  simp [Machine.emit, prepare_size_events]

theorem exec_motu424_capture_prepare (substream : snd_pcm_substream) :
    (motu424_capture_prepare substream).exec env m =
      ⟨{ m.ctx with rate := substream.runtime.rate, dma_running := 0 },
        m.trace ++ [.spin_lock, .spin_unlock]⟩ := by
  simp [motu424_capture_prepare, Machine.emit]

@[simp] theorem exec_write_port_conf (val : U32) (dma_running : Int) :
    (write_port_conf val dma_running).exec env m =
      ⟨{ m.ctx with port_conf_shadow := val, dma_running := dma_running },
        m.trace ++ [.write .reg m.ctx.iobase_reg.addr MOTU_REG_PORT_CONF val]⟩ := by
  simp [write_port_conf, Machine.emit]

/-- The register read that opens a start or a stop. -/
def read_conf_events (c : motu424_ctx) : List Event :=
  [.spin_lock, .read .reg c.iobase_reg.addr MOTU_REG_PORT_CONF]

/-- What a start or a resume does before it looks at the clock. -/
def start_events (env : Env) (m : Machine) (stream : snd_pcm_stream) : List Event :=
  read_conf_events m.ctx ++ [.write .reg m.ctx.iobase_reg.addr MOTU_REG_PORT_CONF
    (start_conf stream (env.read32 (m.trace ++ [.spin_lock]) .reg MOTU_REG_PORT_CONF))]

theorem exec_trigger_start (substream : snd_pcm_substream) {cmd : snd_pcm_trigger}
    (hcmd : cmd = .start ∨ cmd = .resume) :
    (motu424_trigger substream cmd).exec env m =
      ⟨{ m.ctx with
          port_conf_shadow := start_conf substream.stream
            (env.read32 (m.trace ++ [.spin_lock]) .reg MOTU_REG_PORT_CONF)
          dma_running := 1
          start_time_ns := env.ktime_get_ns (m.trace ++ start_events env m substream.stream) },
        (m.trace ++ read_conf_events m.ctx) ++
          .write .reg m.ctx.iobase_reg.addr MOTU_REG_PORT_CONF (start_conf substream.stream
            (env.read32 (m.trace ++ [.spin_lock]) .reg MOTU_REG_PORT_CONF)) :: [.spin_unlock]⟩ := by
  cases hstream : substream.stream with
  | playback =>
    rcases hcmd with rfl | rfl <;>
      simp [motu424_trigger, trigger_switch, hstream, Machine.emit, start_conf, read_conf_events, start_events]
  | capture =>
    rcases hcmd with rfl | rfl <;>
      simp [motu424_trigger, trigger_switch, hstream, Machine.emit, start_conf, read_conf_events, start_events]

theorem exec_trigger_stop (substream : snd_pcm_substream) {cmd : snd_pcm_trigger}
    (hcmd : cmd = .stop ∨ cmd = .suspend) :
    (motu424_trigger substream cmd).exec env m =
      ⟨{ m.ctx with
          port_conf_shadow := stop_conf (env.read32 (m.trace ++ [.spin_lock]) .reg MOTU_REG_PORT_CONF)
          dma_running := 0 },
        (m.trace ++ read_conf_events m.ctx) ++
          .write .reg m.ctx.iobase_reg.addr MOTU_REG_PORT_CONF
            (stop_conf (env.read32 (m.trace ++ [.spin_lock]) .reg MOTU_REG_PORT_CONF)) ::
              [.spin_unlock]⟩ := by
  rcases hcmd with rfl | rfl <;>
    simp [motu424_trigger, trigger_switch, Machine.emit, stop_conf, read_conf_events]

theorem exec_trigger_pause_push (substream : snd_pcm_substream) :
    (motu424_trigger substream .pause_push).exec env m =
      ⟨{ m.ctx with
          port_conf_shadow := m.ctx.port_conf_shadow &&& ~~~MOTU_PORT_CONF_DMA_EN
          dma_running := 0 },
        (m.trace ++ [.spin_lock]) ++ .write .reg m.ctx.iobase_reg.addr MOTU_REG_PORT_CONF
          (m.ctx.port_conf_shadow &&& ~~~MOTU_PORT_CONF_DMA_EN) :: [.spin_unlock]⟩ := by
  simp [motu424_trigger, trigger_switch, Machine.emit]

theorem exec_trigger_pause_release (substream : snd_pcm_substream) :
    (motu424_trigger substream .pause_release).exec env m =
      ⟨{ m.ctx with
          port_conf_shadow := m.ctx.port_conf_shadow ||| MOTU_PORT_CONF_DMA_EN
          dma_running := 1 },
        (m.trace ++ [.spin_lock]) ++ .write .reg m.ctx.iobase_reg.addr MOTU_REG_PORT_CONF
          (m.ctx.port_conf_shadow ||| MOTU_PORT_CONF_DMA_EN) :: [.spin_unlock]⟩ := by
  simp [motu424_trigger, trigger_switch, Machine.emit]

theorem exec_trigger_other (substream : snd_pcm_substream) (cmd : Int) :
    (motu424_trigger substream (.other cmd)).exec env m = m.emit [.spin_lock, .spin_unlock] := by
  simp [motu424_trigger, trigger_switch]

theorem exec_motu424_hw_stop (hreg : m.ctx.iobase_reg ≠ .null) :
    motu424_hw_stop.exec env m =
      ⟨{ m.ctx with
          port_conf_shadow := stop_conf (env.read32 m.trace .reg MOTU_REG_PORT_CONF)
          dma_running := 0 },
        (m.trace ++ [.read .reg m.ctx.iobase_reg.addr MOTU_REG_PORT_CONF]) ++
          .write .reg m.ctx.iobase_reg.addr MOTU_REG_PORT_CONF
            (stop_conf (env.read32 m.trace .reg MOTU_REG_PORT_CONF)) :: []⟩ := by
  rw [motu424_hw_stop, exec_bind, eval_get_ctx, exec_get_ctx, if_neg hreg]
  simp [Machine.emit, stop_conf]

end exec

/-- What a callback on the shared context does to the port configuration, as
long as the control registers are mapped. -/
def Refines {α : Type} (env : Env) (init : ByteMemory) (p : Pal α) (f : PortState → PortState) : Prop :=
  ∀ m : Machine, m.ctx.iobase_reg ≠ .null →
    (p.exec env m).ctx.iobase_reg = m.ctx.iobase_reg ∧
    (p.exec env m).port_state init = f (m.port_state init)

section refinement

variable {env : Env} {init : ByteMemory}

/-- A step whose only write to the control registers is a configuration that it
also remembers. -/
theorem port_state_written {m m' : Machine} (hreg : m.ctx.iobase_reg ≠ .null) {quiet later : List Event}
    {conf : U32} (htrace : m'.trace = (m.trace ++ quiet) ++
      .write .reg m.ctx.iobase_reg.addr MOTU_REG_PORT_CONF conf :: later)
    (hlater : stores .reg later = []) (hshadow : m'.ctx.port_conf_shadow = conf) :
    m'.port_state init = .written conf m'.ctx.dma_running := by
  obtain ⟨base, hbase⟩ := Iomem.exists_addr hreg
  rw [hbase] at htrace
  have hconf : port_conf init m'.trace = conf := by
    rw [htrace]
    exact port_conf_write init (m.trace ++ quiet) (by simp [hlater])
  rw [Machine.port_state, hconf, hshadow, PortState.written]

/-- A step that writes to no control register and does not touch the shadow. -/
theorem port_state_quiet {m m' : Machine} {quiet : List Event} (htrace : m'.trace = m.trace ++ quiet)
    (hquiet : stores .reg quiet = []) (hshadow : m'.ctx.port_conf_shadow = m.ctx.port_conf_shadow) :
    m'.port_state init =
      ⟨(m.port_state init).conf, (m.port_state init).shadow, m'.ctx.dma_running⟩ := by
  rw [Machine.port_state, htrace, port_conf_frame init m.trace hquiet, hshadow]
  rfl

theorem stores_prepare_size_events {c : motu424_ctx} (runtime : snd_pcm_runtime)
    {s : Nat × List (BitVec 8)} (hs : s ∈ stores .reg (prepare_size_events c runtime)) : 4 ≤ s.1 := by
  obtain ⟨e, he, hse⟩ := List.mem_flatMap.mp hs
  simp only [prepare_size_events, List.mem_append, List.mem_singleton] at he
  have hsize : 4 ≤ MOTU_REG_DMA_SIZE.toNat := by decide
  have hbase : 4 ≤ MOTU_REG_DMA_BASE.toNat := by decide
  rcases he with (rfl | he) | rfl
  · cases haddr : c.iobase_reg.addr <;> simp_all [Event.stores]
  · split at he
    · cases List.mem_singleton.mp he
      cases haddr : c.iobase_reg.addr <;> simp_all [Event.stores]
    · cases he
  · cases hse

theorem motu424_playback_prepare_refines (substream : snd_pcm_substream) :
    Refines env init (motu424_playback_prepare substream) (·.prepare .playback) := by
  intro m hreg
  obtain ⟨base, hbase⟩ := Iomem.exists_addr hreg
  have hlater : ∀ s ∈ stores .reg (prepare_size_events m.ctx substream.runtime),
      Apart 0 4 s.1 s.2.length := fun s hs => .inl (stores_prepare_size_events _ hs)
  have hconf := @port_conf_write init (m.trace ++ prepare_clear_events m.ctx) base 0 _ hlater
  rw [exec_motu424_playback_prepare]
  refine ⟨rfl, ?_⟩
  rw [Machine.port_state, hbase, hconf]
  rfl

theorem motu424_capture_prepare_refines (substream : snd_pcm_substream) :
    Refines env init (motu424_capture_prepare substream) (·.prepare .capture) := by
  intro m _
  rw [exec_motu424_capture_prepare]
  exact ⟨rfl, @port_state_quiet init m _ [.spin_lock, .spin_unlock] rfl rfl rfl⟩

/-- A callback through the shared context of the driver. -/
theorem Refines.shared {α : Type} {p : Pal α} {f : PortState → PortState} (hp : Refines env init p f)
    {motu : motu424_linux} (hreg : motu.machine.ctx.iobase_reg ≠ .null) :
    ((motu424.shared p).exec env motu).machine.ctx.iobase_reg ≠ .null ∧
    ((motu424.shared p).exec env motu).machine.port_state init = f (motu.machine.port_state init) := by
  obtain ⟨hsame, hport⟩ := hp motu.machine hreg
  rw [exec_shared]
  exact ⟨hsame ▸ hreg, hport⟩

variable (hkeeps : env.Keeps init .reg MOTU_REG_PORT_CONF)
include hkeeps

/-- A read of the register after events that write to none. -/
theorem read_port_conf (m : Machine) {quiet : List Event} (hquiet : stores .reg quiet = []) :
    env.read32 (m.trace ++ quiet) .reg MOTU_REG_PORT_CONF = (m.port_state init).conf :=
  (hkeeps _).trans (port_conf_frame init m.trace hquiet)

/-- A start or resume reads the register, and writes and remembers a running
configuration. -/
theorem trigger_start_refines (substream : snd_pcm_substream) {cmd : snd_pcm_trigger}
    (hcmd : cmd = .start ∨ cmd = .resume) :
    Refines env init (motu424_trigger substream cmd)
      fun p => .written (start_conf substream.stream p.conf) 1 := by
  intro m hreg
  have hread := read_port_conf hkeeps m (show stores .reg [.spin_lock] = [] from rfl)
  have hexec := exec_trigger_start env m substream hcmd
  rw [hread] at hexec
  rw [hexec]
  exact ⟨rfl, port_state_written hreg rfl rfl rfl⟩

/-- A stop or suspend reads it too, and writes and remembers a stopped one. -/
theorem trigger_stop_refines (substream : snd_pcm_substream) {cmd : snd_pcm_trigger}
    (hcmd : cmd = .stop ∨ cmd = .suspend) :
    Refines env init (motu424_trigger substream cmd) fun p => .written (stop_conf p.conf) 0 := by
  intro m hreg
  have hread := read_port_conf hkeeps m (show stores .reg [.spin_lock] = [] from rfl)
  rw [exec_trigger_stop env m substream hcmd, hread]
  exact ⟨rfl, port_state_written hreg rfl rfl rfl⟩

theorem motu424_trigger_refines (substream : snd_pcm_substream) (cmd : snd_pcm_trigger) :
    Refines env init (motu424_trigger substream cmd) (·.trigger substream.stream cmd) := by
  cases cmd with
  | start => exact trigger_start_refines hkeeps substream (.inl rfl)
  | resume => exact trigger_start_refines hkeeps substream (.inr rfl)
  | stop => exact trigger_stop_refines hkeeps substream (.inl rfl)
  | suspend => exact trigger_stop_refines hkeeps substream (.inr rfl)
  | pause_push =>
    intro m hreg
    rw [exec_trigger_pause_push]
    exact ⟨rfl, port_state_written hreg rfl rfl rfl⟩
  | pause_release =>
    intro m hreg
    rw [exec_trigger_pause_release]
    exact ⟨rfl, port_state_written hreg rfl rfl rfl⟩
  | other cmd =>
    intro m _
    rw [exec_trigger_other]
    exact ⟨rfl, @port_state_quiet init m _ [.spin_lock, .spin_unlock] rfl rfl rfl⟩

theorem motu424_hw_stop_refines :
    Refines env init motu424_hw_stop fun p => .written (stop_conf p.conf) 0 := by
  intro m hreg
  have hread := read_port_conf hkeeps m (show stores .reg [] = [] from rfl)
  rw [List.append_nil] at hread
  rw [exec_motu424_hw_stop env m hreg, hread]
  exact ⟨rfl, port_state_written hreg rfl rfl rfl⟩

/-- The abstract port configuration follows every operation. -/
theorem pcm_step_refines (motu : motu424_linux) (op : PcmOp)
    (hreg : motu.machine.ctx.iobase_reg ≠ .null) :
    (pcm_step env motu op).machine.ctx.iobase_reg ≠ .null ∧
    (pcm_step env motu op).machine.port_state init = (motu.machine.port_state init).step op := by
  cases op with
  | pcm_open substream =>
    have hmachine : (pcm_step env motu (.pcm_open substream)).machine = motu.machine := by
      rw [pcm_step, PcmOp.run]
      cases substream.stream <;> rfl
    rw [hmachine]
    exact ⟨hreg, rfl⟩
  | pcm_close substream =>
    have hmachine : (pcm_step env motu (.pcm_close substream)).machine = motu.machine := by
      rw [pcm_step, PcmOp.run]
      cases substream.stream <;> rfl
    rw [hmachine]
    exact ⟨hreg, rfl⟩
  | prepare substream =>
    cases hstream : substream.stream with
    | playback =>
      simp only [pcm_step, PcmOp.run, PortState.step, hstream]
      exact (motu424_playback_prepare_refines substream).shared hreg
    | capture =>
      simp only [pcm_step, PcmOp.run, PortState.step, hstream]
      exact (motu424_capture_prepare_refines substream).shared hreg
  | trigger substream cmd =>
    have hcallback : (motu424_pcm_ops substream.stream).trigger substream cmd =
        shared (motu424_trigger substream cmd) := by
      cases substream.stream <;> rfl
    rw [pcm_step, PcmOp.run, hcallback]
    exact (motu424_trigger_refines hkeeps substream cmd).shared hreg
  | hw_stop =>
    rw [pcm_step, PcmOp.run, exec_bind, exec_pure]
    exact (motu424_hw_stop_refines hkeeps).shared hreg

/-- So it follows every run. -/
theorem pcm_run_refines (motu : motu424_linux) (ops : List PcmOp)
    (hreg : motu.machine.ctx.iobase_reg ≠ .null) :
    (run (pcm_step env) motu ops).machine.ctx.iobase_reg ≠ .null ∧
    (run (pcm_step env) motu ops).machine.port_state init =
      run PortState.step (motu.machine.port_state init) ops :=
  @run_simulates _ _ _ (pcm_step env) motu ops (fun s => s.machine.port_state init) PortState.step
    (fun s => s.machine.ctx.iobase_reg ≠ .null) (fun s op hmapped => pcm_step_refines hkeeps s op hmapped)
    hreg

end refinement

end motu424
