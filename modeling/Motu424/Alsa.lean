import Motu424.Init

namespace motu424

inductive snd_pcm_stream where
  | playback
  | capture
  deriving DecidableEq, Repr

inductive snd_pcm_info where
  | interleaved
  | block_transfer
  | mmap
  | mmap_valid
  | pause
  deriving DecidableEq, Repr

inductive snd_pcm_format where
  | s32_le
  deriving DecidableEq, Repr

def snd_pcm_format.physical_width : snd_pcm_format → Nat
  | .s32_le => 32

/-- The constraints that a driver puts on the runtime of a substream. -/
structure snd_pcm_hardware where
  info : List snd_pcm_info
  formats : List snd_pcm_format
  rates : List U32
  rate_min : U32
  rate_max : U32
  channels_min : Nat
  channels_max : Nat
  buffer_bytes_max : Nat
  period_bytes_min : Nat
  period_bytes_max : Nat
  periods_min : Nat
  periods_max : Nat
  deriving DecidableEq, Repr

/-- A negotiated configuration. Sizes are in frames, and the area is where the
application's samples are. -/
structure snd_pcm_runtime where
  format : snd_pcm_format
  channels : Nat
  rate : U32
  period_size : U64
  buffer_size : U64
  dma_area : Option Nat
  deriving DecidableEq, Repr

/-- The bits of one frame. -/
def snd_pcm_runtime.frame_bits (runtime : snd_pcm_runtime) : Nat :=
  runtime.channels * runtime.format.physical_width

def frames_to_bytes (runtime : snd_pcm_runtime) (size : U64) : Nat :=
  size.toNat * runtime.frame_bits / 8

def bytes_to_frames (runtime : snd_pcm_runtime) (size : Nat) : Nat :=
  size * 8 / runtime.frame_bits

/-- What the ALSA core lets an application negotiate. The number of periods need
not be a whole one. -/
@[mk_iff] structure snd_pcm_hardware.Admits (hw : snd_pcm_hardware) (runtime : snd_pcm_runtime) : Prop where
  format : runtime.format ∈ hw.formats
  channels : hw.channels_min ≤ runtime.channels ∧ runtime.channels ≤ hw.channels_max
  rate : runtime.rate ∈ hw.rates ∧ hw.rate_min ≤ runtime.rate ∧ runtime.rate ≤ hw.rate_max
  buffer_bytes : frames_to_bytes runtime runtime.buffer_size ≤ hw.buffer_bytes_max
  period_bytes : hw.period_bytes_min ≤ frames_to_bytes runtime runtime.period_size ∧
    frames_to_bytes runtime runtime.period_size ≤ hw.period_bytes_max
  periods : hw.periods_min * runtime.period_size.toNat ≤ runtime.buffer_size.toNat ∧
    runtime.buffer_size.toNat ≤ hw.periods_max * runtime.period_size.toNat

instance (hw : snd_pcm_hardware) (runtime : snd_pcm_runtime) : Decidable (hw.Admits runtime) :=
  decidable_of_iff' _ (hw.admits_iff runtime)

/-- A substream as the callbacks receive it. -/
structure snd_pcm_substream where
  addr : Nat
  stream : snd_pcm_stream
  runtime : snd_pcm_runtime
  deriving DecidableEq, Repr

/-- The trigger commands that the driver knows, and any other number. -/
inductive snd_pcm_trigger where
  | start
  | stop
  | pause_push
  | pause_release
  | suspend
  | resume
  | other (cmd : Int)
  deriving DecidableEq, Repr

def EINVAL : Int := 22

def motu424_pcm_hw : snd_pcm_hardware where
  info := [.interleaved, .block_transfer, .mmap, .mmap_valid, .pause]
  formats := [.s32_le]
  rates := [44100, 48000, 88200, 96000]
  rate_min := 44100
  rate_max := 96000
  channels_min := 2
  channels_max := 2
  buffer_bytes_max := MOTU_DMA_BUF_MAX.toNat
  period_bytes_min := MOTU_DMA_PERIOD_BYTES_MIN
  period_bytes_max := MOTU_DMA_PERIOD_BYTES_MAX
  periods_min := MOTU_DMA_PERIODS_MIN
  periods_max := MOTU_DMA_PERIODS_MAX

/-- The driver's own data: the shared context with its history, the registered
substreams, and the constraints that `open` stored in their runtimes. -/
structure motu424_linux where
  machine : Machine
  playback_substream : Option Nat
  capture_substream : Option Nat
  playback_hw : Option snd_pcm_hardware
  capture_hw : Option snd_pcm_hardware
  deriving DecidableEq, Repr

abbrev Alsa (α : Type) : Type := Program Env motu424_linux α

/-- Run shared code on the context of the device. -/
def shared {α : Type} (p : Pal α) : Alsa α :=
  p.zoom id motu424_linux.machine fun m motu => { motu with machine := m }

def motu424_playback_open (substream : snd_pcm_substream) : Alsa Int := do
  Program.update fun motu =>
    { motu with playback_substream := some substream.addr, playback_hw := some motu424_pcm_hw }
  pure 0

def motu424_playback_close (_substream : snd_pcm_substream) : Alsa Int := do
  Program.update fun motu => { motu with playback_substream := none }
  pure 0

def motu424_capture_open (substream : snd_pcm_substream) : Alsa Int := do
  Program.update fun motu =>
    { motu with capture_substream := some substream.addr, capture_hw := some motu424_pcm_hw }
  pure 0

def motu424_capture_close (_substream : snd_pcm_substream) : Alsa Int := do
  Program.update fun motu => { motu with capture_substream := none }
  pure 0

/-- The clearing of the DMA buffer in `motu424_playback_prepare`. -/
def clear_dma_buf (ctx : motu424_ctx) : Pal Unit :=
  match ctx.dma_buf with
  | none => pure ()
  | some buf => memset buf 0 ctx.dma_size

def motu424_playback_prepare (substream : snd_pcm_substream) : Pal Int := do
  pal_spinlock_lock_irqsave
  let ctx ← get_ctx
  clear_dma_buf ctx
  let period_bytes : U32 :=
    BitVec.ofNat 32 (frames_to_bytes substream.runtime substream.runtime.period_size)
  pal_write32 ctx.iobase_reg MOTU_REG_PORT_CONF 0
  pal_write32 ctx.iobase_reg MOTU_REG_DMA_SIZE period_bytes
  Program.when (ctx.dma_addr ≠ 0) <|
    pal_write32 ctx.iobase_reg MOTU_REG_DMA_BASE (ctx.dma_addr.truncate 32)
  set_ctx fun ctx => { ctx with rate := substream.runtime.rate, dma_running := 0 }
  pal_spinlock_unlock_irqrestore
  pure 0

def motu424_capture_prepare (substream : snd_pcm_substream) : Pal Int := do
  pal_spinlock_lock_irqsave
  set_ctx fun ctx => { ctx with rate := substream.runtime.rate, dma_running := 0 }
  pal_spinlock_unlock_irqrestore
  pure 0

/-- Write a new configuration and remember it. -/
def write_port_conf (val : U32) (dma_running : Int) : Pal Unit := do
  let ctx ← get_ctx
  pal_write32 ctx.iobase_reg MOTU_REG_PORT_CONF val
  set_ctx fun ctx => { ctx with port_conf_shadow := val, dma_running := dma_running }

/-- The switch in `motu424_trigger`. -/
def trigger_switch (stream : snd_pcm_stream) (cmd : snd_pcm_trigger) : Pal Int := do
  let ctx ← get_ctx
  match cmd with
  | .start | .resume => do
    let val ← pal_read32 ctx.iobase_reg MOTU_REG_PORT_CONF
    let val := val ||| (MOTU_PORT_CONF_DMA_EN ||| MOTU_PORT_CONF_RUN)
    let val := match stream with
      | .playback => val ||| MOTU_PORT_CONF_DMA_RD
      | .capture => val &&& ~~~MOTU_PORT_CONF_DMA_RD
    write_port_conf val 1
    let now ← ktime_get_ns
    set_ctx fun ctx => { ctx with start_time_ns := now }
    pure 0
  | .stop | .suspend => do
    let val ← pal_read32 ctx.iobase_reg MOTU_REG_PORT_CONF
    write_port_conf (val &&& ~~~(MOTU_PORT_CONF_DMA_EN ||| MOTU_PORT_CONF_RUN |||
      MOTU_PORT_CONF_DMA_RD ||| MOTU_PORT_CONF_START)) 0
    pure 0
  | .pause_release => do
    write_port_conf (ctx.port_conf_shadow ||| MOTU_PORT_CONF_DMA_EN) 1
    pure 0
  | .pause_push => do
    write_port_conf (ctx.port_conf_shadow &&& ~~~MOTU_PORT_CONF_DMA_EN) 0
    pure 0
  | .other _ => pure (-EINVAL)

def motu424_trigger (substream : snd_pcm_substream) (cmd : snd_pcm_trigger) : Pal Int := do
  pal_spinlock_lock_irqsave
  let ret ← trigger_switch substream.stream cmd
  pal_spinlock_unlock_irqrestore
  pure ret

def motu424_pointer (substream : snd_pcm_substream) : Pal U64 := do
  let ctx ← get_ctx
  let hw_ptr ← pal_read32 ctx.iobase_reg MOTU_REG_DMA_CTRL
  if ctx.dma_running ≠ 0 ∧ 0 < hw_ptr ∧ hw_ptr.zeroExtend 64 < ctx.dma_size then do
    let pos : U64 := BitVec.ofNat 64 (bytes_to_frames substream.runtime hw_ptr.toNat)
    pure (if pos ≥ substream.runtime.buffer_size then 0 else pos)
  else if ctx.dma_running ≠ 0 ∧ 0 < substream.runtime.buffer_size then do
    let now ← ktime_get_ns
    let elapsed_ns := now - ctx.start_time_ns
    let frames := elapsed_ns * ctx.rate.zeroExtend 64 / 1000000000
    pure (frames % substream.runtime.buffer_size)
  else pure 0

/-- One round of the loop in `motu424_playback_ack`. -/
def playback_ack_round (alsa_buf hw_buf : Buffer) (i : Nat) : Pal Unit := do
  let val_l ← load alsa_buf (i * 2)
  let val_r ← load alsa_buf (i * 2 + 1)
  store hw_buf (i * MOTU_CHANNELS_PER_FRAME + 2) val_l
  store hw_buf (i * MOTU_CHANNELS_PER_FRAME + 3) val_r

def motu424_playback_ack (substream : snd_pcm_substream) : Pal Int := do
  let ctx ← get_ctx
  match ctx.dma_buf, substream.runtime.dma_area with
  | some dma_buf, some dma_area => do
    Program.forEach (List.range substream.runtime.buffer_size.toNat)
      (playback_ack_round (.area dma_area) (.dma dma_buf))
    pure 0
  | _, _ => pure 0

/-- One round of the loop in `motu424_capture_ack`. -/
def capture_ack_round (alsa_buf hw_buf : Buffer) (i : Nat) : Pal Unit := do
  let val_l ← load hw_buf (i * MOTU_CHANNELS_PER_FRAME + 2)
  store alsa_buf (i * 2) val_l
  let val_r ← load hw_buf (i * MOTU_CHANNELS_PER_FRAME + 3)
  store alsa_buf (i * 2 + 1) val_r

def motu424_capture_ack (substream : snd_pcm_substream) : Pal Int := do
  let ctx ← get_ctx
  match ctx.dma_buf, substream.runtime.dma_area with
  | some dma_buf, some dma_area => do
    Program.forEach (List.range substream.runtime.buffer_size.toNat)
      (capture_ack_round (.area dma_area) (.dma dma_buf))
    pure 0
  | _, _ => pure 0

/-- The callbacks of a PCM direction. -/
structure snd_pcm_ops where
  pcm_open : snd_pcm_substream → Alsa Int
  pcm_close : snd_pcm_substream → Alsa Int
  prepare : snd_pcm_substream → Alsa Int
  trigger : snd_pcm_substream → snd_pcm_trigger → Alsa Int
  ack : snd_pcm_substream → Alsa Int

def motu424_playback_ops : snd_pcm_ops where
  pcm_open := motu424_playback_open
  pcm_close := motu424_playback_close
  prepare := fun substream => shared (motu424_playback_prepare substream)
  trigger := fun substream cmd => shared (motu424_trigger substream cmd)
  ack := fun substream => shared (motu424_playback_ack substream)

def motu424_capture_ops : snd_pcm_ops where
  pcm_open := motu424_capture_open
  pcm_close := motu424_capture_close
  prepare := fun substream => shared (motu424_capture_prepare substream)
  trigger := fun substream cmd => shared (motu424_trigger substream cmd)
  ack := fun substream => shared (motu424_capture_ack substream)

/-- The tables that `motu424_pcm_new` registers for the two directions. -/
def motu424_pcm_ops : snd_pcm_stream → snd_pcm_ops
  | .playback => motu424_playback_ops
  | .capture => motu424_capture_ops

end motu424
