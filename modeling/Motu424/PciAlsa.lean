import Motu424.Alsa
import Motu424.Foundation.Run

open Program Run

namespace motu424.pci_alsa

/-- The code that a failed service of the kernel returns. -/
structure KernelError where
  code : Int
  negative : code < 0
  deriving DecidableEq, Repr

/-- What the sound core does when it is told that a period has passed. -/
inductive Elapsed where
  -- the stream does not run for it
  | unheard
  -- it asks for the position
  | updated
  -- it asks for the position, and stops the stream, which is drained or was overrun
  | stopped
  deriving DecidableEq, Repr

/-- What the driver does to the outside: the memory that it takes and gives back,
the words of its own buffer and of the area of the stream, the control registers,
the timer, and notices to the sound core. -/
inductive PciEvent where
  | new_runtime
  | malloc_pages (size : Nat) (result : Except KernelError Nat)
  | free_pages
  | dma_alloc_coherent (size : U64) (result : Option (Nat × U64))
  | dma_free_coherent (size : U64) (vaddr : Nat) (dma : U64)
  | memset (vaddr : Nat) (byte : U8) (size : U64)
  | store (vaddr : Nat) (index : Nat) (value : U32)
  | load (area : Nat) (index : Nat)
  | ioread32 (offset : U32)
  | iowrite32 (offset value : U32)
  | spin_lock
  | spin_unlock
  | mod_timer (msecs : Nat)
  | timer_delete_sync (ends : Bool)
  | period_elapsed (substream : Nat) (answer : Elapsed)
  | dev_info (fmt : String) (args : List LogArg)

/-- The outside as the driver meets it, which also says whether the wait for the function
of the timer ends when the timer is deleted. -/
structure PciEnv where
  malloc_pages : List PciEvent → Nat → Except KernelError Nat
  dma_alloc_coherent : List PciEvent → U64 → Option (Nat × U64)
  ioread32 : List PciEvent → U32 → U32
  ktime_get_ns : List PciEvent → U64
  load : List PciEvent → Nat → Nat → U32
  period_elapsed : List PciEvent → Nat → Elapsed
  timer_delete_sync : List PciEvent → Bool

/-- An outside that grants every request, whose clock stands still and that lets the
stream run on. -/
def PciEnv.idle : PciEnv where
  malloc_pages := fun _ _ => .ok 0x9000
  dma_alloc_coherent := fun _ _ => some (0x10000, 0x1000000)
  ioread32 := fun _ _ => 0
  ktime_get_ns := fun _ => 0
  load := fun _ _ _ => 0
  period_elapsed := fun _ _ => .updated
  timer_delete_sync := fun _ => true

structure motu_pci where
  playback_substream : Option Nat
  dma_running : U32
  start_time_ns : U64
  sg_table : Option Nat
  sg_table_dma : U64
  shadow_buf : Option Nat
  shadow_buf_dma : U64
  shadow_buf_size : U64
  deriving DecidableEq, Repr

/-- The runtime of a substream that was not configured yet. -/
def blank_runtime : snd_pcm_runtime where
  format := .s32_le
  channels := 0
  rate := 0
  period_size := 0
  buffer_size := 0
  dma_area := none

/-- The driver with the runtime of its only substream, the bytes of the area of
that runtime, whether the timer is pending, the counter of its ticks, and all that
was done so far. -/
structure PciDriver where
  motu : motu_pci
  runtime : snd_pcm_runtime
  dma_bytes : Nat
  period_timer : Bool
  tick : U32
  history : List PciEvent

/-- The driver as the probe leaves it. -/
def PciDriver.probed : PciDriver where
  motu :=
    { playback_substream := none
      dma_running := 0
      start_time_ns := 0
      sg_table := none
      sg_table_dma := 0
      shadow_buf := none
      shadow_buf_dma := 0
      shadow_buf_size := 0 }
  runtime := blank_runtime
  dma_bytes := 0
  period_timer := false
  tick := 0
  history := []

abbrev PciAlsa (α : Type) : Type := Program PciEnv PciDriver α

def PciDriver.emit (d : PciDriver) (events : List PciEvent) : PciDriver :=
  { d with history := d.history ++ events }

def perform (event : PciEvent) : PciAlsa Unit := Program.update fun d => d.emit [event]

def get_motu : PciAlsa motu_pci := Program.gets PciDriver.motu

def get_runtime : PciAlsa snd_pcm_runtime := Program.gets PciDriver.runtime

def set_motu (f : motu_pci → motu_pci) : PciAlsa Unit := Program.update fun d => { d with motu := f d.motu }

def ioread32 (offset : U32) : PciAlsa U32 := do
  let val ← Program.asks fun env d => env.ioread32 d.history offset
  perform (.ioread32 offset)
  pure val

def iowrite32 (value offset : U32) : PciAlsa Unit := perform (.iowrite32 offset value)

def ktime_get_ns : PciAlsa U64 := Program.asks fun env d => env.ktime_get_ns d.history

/-- It gives the runtime an area of the size, or leaves it with none. -/
def snd_pcm_lib_malloc_pages (size : Nat) : PciAlsa (Except KernelError Unit) := do
  let result ← Program.asks fun env d => env.malloc_pages d.history size
  perform (.malloc_pages size result)
  match result with
  | .error err => do
    Program.update fun d => { d with runtime := { d.runtime with dma_area := none } }
    pure (.error err)
  | .ok area => do
    Program.update fun d => { d with runtime := { d.runtime with dma_area := some area }, dma_bytes := size }
    pure (.ok ())

def snd_pcm_lib_free_pages : PciAlsa Int := do
  perform .free_pages
  Program.update fun d => { d with runtime := { d.runtime with dma_area := none } }
  pure 0

def dma_alloc_coherent (size : U64) : PciAlsa (Option (Nat × U64)) := do
  let result ← Program.asks fun env d => env.dma_alloc_coherent d.history size
  perform (.dma_alloc_coherent size result)
  pure result

def dma_free_coherent (size : U64) (vaddr : Nat) (dma : U64) : PciAlsa Unit :=
  perform (.dma_free_coherent size vaddr dma)

def mod_timer (msecs : Nat) : PciAlsa Unit := do
  perform (.mod_timer msecs)
  Program.update fun d => { d with period_timer := true }

/-- It returns whether the wait for the function of the timer ends, which it does not
where that function is what waits. -/
def timer_delete_sync : PciAlsa Bool := do
  let ends ← Program.asks fun env d => env.timer_delete_sync d.history
  perform (.timer_delete_sync ends)
  Program.update fun d => { d with period_timer := false }
  pure ends

/-- The bytes of a word in the other order. -/
def cpu_to_be32 (val : U32) : U32 :=
  (val <<< 24) ||| ((val &&& 0xFF00) <<< 8) ||| ((val >>> 8) &&& 0xFF00) ||| (val >>> 24)

def ENOMEM : Int := 12

def snd_motu_playback_hw : snd_pcm_hardware where
  -- the flag SYNC_START, which no code looks at, is the only one left out
  info := [.interleaved, .block_transfer, .mmap, .mmap_valid, .pause]
  formats := [.s32_le]
  rates := [48000]
  rate_min := 48000
  rate_max := 48000
  channels_min := 2
  channels_max := 2
  buffer_bytes_max := 32 * 1024
  period_bytes_min := 1024
  period_bytes_max := 16 * 1024
  periods_min := 2
  periods_max := 16

/-- The configuration that is asked for, which the sound core has checked against
the constraints of the driver. -/
structure snd_pcm_hw_params where
  config : snd_pcm_runtime
  admitted : snd_motu_playback_hw.Admits config

def params_buffer_size (hw_params : snd_pcm_hw_params) : U32 := hw_params.config.buffer_size.truncate 32

def params_buffer_bytes (hw_params : snd_pcm_hw_params) : Nat :=
  frames_to_bytes hw_params.config hw_params.config.buffer_size

def snd_motu_open (substream : Nat) : PciAlsa Int := do
  set_motu fun motu => { motu with playback_substream := some substream }
  pure 0

def snd_motu_close : PciAlsa Int := do
  set_motu fun motu => { motu with playback_substream := none }
  pure 0

/-- The part of `snd_motu_hw_params` that gives back a buffer that is too small. -/
def drop_small_buf (hw_bytes : U32) : PciAlsa Unit := do
  let motu ← get_motu
  match motu.shadow_buf with
  | none => pure ()
  | some buf =>
    Program.when (motu.shadow_buf_size < hw_bytes.zeroExtend 64) do
      dma_free_coherent motu.shadow_buf_size buf motu.shadow_buf_dma
      set_motu fun motu => { motu with shadow_buf := none }

/-- The part that takes a new one where there is none. -/
def take_buf (hw_bytes : U32) : PciAlsa Int := do
  let motu ← get_motu
  match motu.shadow_buf with
  | some _ => pure 0
  | none => do
    set_motu fun motu => { motu with shadow_buf_size := hw_bytes.zeroExtend 64 }
    let result ← dma_alloc_coherent (hw_bytes.zeroExtend 64)
    match result with
    | none => pure (-ENOMEM)
    | some (buf, dma) => do
      set_motu fun motu => { motu with shadow_buf := some buf, shadow_buf_dma := dma }
      perform (.memset buf 0 (hw_bytes.zeroExtend 64))
      pure 0

def snd_motu_hw_params (hw_params : snd_pcm_hw_params) : PciAlsa Int := do
  let hw_bytes : U32 := params_buffer_size hw_params * 392
  let err ← snd_pcm_lib_malloc_pages (params_buffer_bytes hw_params)
  match err with
  | .error err => pure err.code
  | .ok () => do
    drop_small_buf hw_bytes
    take_buf hw_bytes

def snd_motu_hw_free : PciAlsa Int := do
  let motu ← get_motu
  match motu.shadow_buf with
  | none => pure ()
  | some buf => do
    dma_free_coherent motu.shadow_buf_size buf motu.shadow_buf_dma
    set_motu fun motu => { motu with shadow_buf := none }
  snd_pcm_lib_free_pages

/-- The status words that a frame begins with. -/
def status_word (frame_idx ch : Nat) : U32 :=
  if frame_idx < 32 then (if ch = 0 then cpu_to_be32 (1 <<< frame_idx) else 0)
  else if frame_idx < 64 then (if ch = 0 then 0 else cpu_to_be32 (1 <<< (frame_idx - 32)))
  else 0

/-- The word of every other channel. -/
def channel_word (frame_idx : Nat) : U32 := if frame_idx &&& 0x20 ≠ 0 then 0x7FFFFFFF else 0x80000000

def prepare_frame (buf frame_idx : Nat) : PciAlsa Unit := do
  perform (.store buf (frame_idx * 98 + 0) (status_word frame_idx 0))
  perform (.store buf (frame_idx * 98 + 1) (status_word frame_idx 1))
  Program.forEach (List.range' 2 96) fun ch =>
    perform (.store buf (frame_idx * 98 + ch) (channel_word frame_idx))

def snd_motu_prepare : PciAlsa Int := do
  let motu ← get_motu
  let runtime ← get_runtime
  let dma_size : U32 := runtime.period_size.truncate 32 * 392
  match motu.shadow_buf with
  | none => pure ()
  | some buf => Program.forEach (List.range runtime.buffer_size.toNat) (prepare_frame buf)
  iowrite32 0 0x10
  iowrite32 dma_size 0x14
  if motu.sg_table ≠ none then iowrite32 (motu.sg_table_dma.truncate 32) MOTU_REG_DMA_BASE
  else iowrite32 0 MOTU_REG_DMA_BASE
  pure 0

/-- It returns nothing where it waits for ever, with the lock held. -/
def snd_motu_trigger (cmd : snd_pcm_trigger) : PciAlsa (Option Int) := do
  perform .spin_lock
  match cmd with
  | .start => do
    let val ← ioread32 MOTU_REG_PORT_CONF
    iowrite32 (val ||| 0x80 ||| 0x20000 ||| 0x40000) MOTU_REG_PORT_CONF
    let now ← ktime_get_ns
    set_motu fun motu => { motu with start_time_ns := now, dma_running := 1 }
    mod_timer 10
    perform .spin_unlock
    pure (some 0)
  | .stop => do
    let val ← ioread32 MOTU_REG_PORT_CONF
    iowrite32 (val &&& ~~~(0x2 ||| 0x80 ||| 0x4000 ||| 0x8000 ||| 0x80000000)) MOTU_REG_PORT_CONF
    set_motu fun motu => { motu with dma_running := 0 }
    let ends ← timer_delete_sync
    if ends then do
      perform .spin_unlock
      pure (some 0)
    else pure none
  | _ => do
    perform .spin_unlock
    pure (some (-EINVAL))

def snd_motu_pointer : PciAlsa U64 := do
  let motu ← get_motu
  let runtime ← get_runtime
  if motu.dma_running ≠ 0 ∧ 0 < runtime.buffer_size then do
    let now ← ktime_get_ns
    let elapsed_ns := now - motu.start_time_ns
    let frames := elapsed_ns * 48 / 1000000
    pure (frames % runtime.buffer_size)
  else pure 0

/-- One round of the loop of `snd_motu_ack`. -/
def ack_frame (area buf i : Nat) : PciAlsa Unit := do
  let val_l ← Program.asks fun env d => env.load d.history area (i * 2 + 0)
  perform (.load area (i * 2 + 0))
  let val_r ← Program.asks fun env d => env.load d.history area (i * 2 + 1)
  perform (.load area (i * 2 + 1))
  perform (.store buf (i * 98 + 2) val_l)
  perform (.store buf (i * 98 + 3) val_r)

def snd_motu_ack : PciAlsa Int := do
  let motu ← get_motu
  let runtime ← get_runtime
  match motu.shadow_buf, runtime.dma_area with
  | some buf, some area => do
    Program.forEach (List.range runtime.buffer_size.toNat) (ack_frame area buf)
    pure 0
  | _, _ => pure 0

/-- The sound core is told of a period, and calls the driver back before it returns, if it
does return. -/
def snd_pcm_period_elapsed (substream : Nat) : PciAlsa Bool := do
  let answer ← Program.asks fun env d => env.period_elapsed d.history substream
  perform (.period_elapsed substream answer)
  match answer with
  | .unheard => pure true
  | .updated => do
    let _ ← snd_motu_pointer
    pure true
  | .stopped => do
    let _ ← snd_motu_pointer
    let ret ← snd_motu_trigger .stop
    pure ret.isSome

/-- The log line of every tenth tick. -/
def log_tick : PciAlsa Unit := do
  let r00 ← ioread32 0x00
  let r18 ← ioread32 0x18
  let r1c ← ioread32 0x1c
  let r20 ← ioread32 0x20
  perform (.dev_info "Timer Tick: r00=%08x, r18=%08x, r1c=%08x, r20=%08x\n" [.u32 r00, .u32 r18, .u32 r1c, .u32 r20])

def motu_timer_function : PciAlsa Unit := do
  let motu ← get_motu
  match motu.playback_substream with
  | none => pure ()
  | some substream =>
    Program.when (motu.dma_running ≠ 0) do
      let tick ← Program.gets PciDriver.tick
      Program.update fun d => { d with tick := tick + 1 }
      Program.when (tick.srem 10 = 0) log_tick
      let back ← snd_pcm_period_elapsed substream
      Program.when (back = true) (mod_timer 10)

inductive irqreturn_t where
  | irq_none
  | irq_handled
  deriving DecidableEq, Repr

/-- It returns nothing where the sound core does not come back. -/
def snd_motu_interrupt : PciAlsa (Option irqreturn_t) := do
  let status ← ioread32 MOTU_REG_INT_STATUS
  if status = 0 ∨ status = 0xffffffff then pure (some .irq_none)
  else do
    perform (.dev_info "INTERRUPT FIRED! Status: 0x%08x\n" [.u32 status])
    iowrite32 status MOTU_REG_INT_ACK
    let motu ← get_motu
    match motu.playback_substream with
    | none => pure (some .irq_handled)
    | some substream =>
      if motu.dma_running ≠ 0 then do
        let back ← snd_pcm_period_elapsed substream
        pure (if back then some .irq_handled else none)
      else pure (some .irq_handled)

section specs

variable (env : PciEnv) (d : PciDriver)

@[simp] theorem PciDriver.emit_motu (events : List PciEvent) : (d.emit events).motu = d.motu := (rfl)

@[simp] theorem PciDriver.emit_runtime (events : List PciEvent) : (d.emit events).runtime = d.runtime := (rfl)

@[simp] theorem PciDriver.emit_history (events : List PciEvent) :
    (d.emit events).history = d.history ++ events := (rfl)

theorem PciDriver.emit_nil : d.emit [] = d := by simp [PciDriver.emit]

theorem PciDriver.emit_emit (xs ys : List PciEvent) : (d.emit xs).emit ys = d.emit (xs ++ ys) := by
  simp [PciDriver.emit]

@[simp] theorem exec_perform (event : PciEvent) : (perform event).exec env d = d.emit [event] := (rfl)

@[simp] theorem eval_get_motu : get_motu.eval env d = d.motu := (rfl)

@[simp] theorem exec_get_motu : get_motu.exec env d = d := (rfl)

@[simp] theorem eval_get_runtime : get_runtime.eval env d = d.runtime := (rfl)

@[simp] theorem exec_get_runtime : get_runtime.exec env d = d := (rfl)

@[simp] theorem exec_set_motu (f : motu_pci → motu_pci) :
    (set_motu f).exec env d = { d with motu := f d.motu } := (rfl)

@[simp] theorem exec_ioread32 (offset : U32) : (ioread32 offset).exec env d = d.emit [.ioread32 offset] := (rfl)

@[simp] theorem exec_iowrite32 (value offset : U32) :
    (iowrite32 value offset).exec env d = d.emit [.iowrite32 offset value] := (rfl)

@[simp] theorem exec_ktime_get_ns : ktime_get_ns.exec env d = d := (rfl)

@[simp] theorem eval_dma_alloc_coherent (size : U64) :
    (dma_alloc_coherent size).eval env d = env.dma_alloc_coherent d.history size := (rfl)

@[simp] theorem exec_dma_alloc_coherent (size : U64) : (dma_alloc_coherent size).exec env d =
    d.emit [.dma_alloc_coherent size (env.dma_alloc_coherent d.history size)] := (rfl)

@[simp] theorem exec_mod_timer (msecs : Nat) :
    (mod_timer msecs).exec env d = { d.emit [.mod_timer msecs] with period_timer := true } := (rfl)

@[simp] theorem eval_timer_delete_sync :
    timer_delete_sync.eval env d = env.timer_delete_sync d.history := (rfl)

@[simp] theorem exec_timer_delete_sync : timer_delete_sync.exec env d =
    { d.emit [.timer_delete_sync (env.timer_delete_sync d.history)] with period_timer := false } := (rfl)

end specs

inductive PciCall where
  | pcm_open (substream : Nat)
  | pcm_close
  | hw_params (params : snd_pcm_hw_params)
  | hw_free
  | prepare
  | trigger (cmd : snd_pcm_trigger)
  | pointer
  | ack
  | timer
  | interrupt

/-- An open gives the substream a new runtime. -/
def core_open (substream : Nat) : PciAlsa Int := do
  perform .new_runtime
  Program.update fun d => { d with runtime := blank_runtime }
  snd_motu_open substream

/-- Parameters that the driver takes are those of the runtime from then on. -/
def core_hw_params (params : snd_pcm_hw_params) : PciAlsa Int := do
  let ret ← snd_motu_hw_params params
  Program.when (0 ≤ ret) <|
    Program.update fun d => { d with runtime := { params.config with dma_area := d.runtime.dma_area } }
  pure ret

/-- A timer that is pending expires, one that is not does nothing. -/
def expire : PciAlsa Unit := do
  let pending ← Program.gets PciDriver.period_timer
  Program.when (pending = true) do
    Program.update fun d => { d with period_timer := false }
    motu_timer_function

def PciCall.run : PciCall → PciAlsa Unit
  | .pcm_open substream => core_open substream >>= fun _ => pure ()
  | .pcm_close => snd_motu_close >>= fun _ => pure ()
  | .hw_params params => core_hw_params params >>= fun _ => pure ()
  | .hw_free => snd_motu_hw_free >>= fun _ => pure ()
  | .prepare => snd_motu_prepare >>= fun _ => pure ()
  | .trigger cmd => snd_motu_trigger cmd >>= fun _ => pure ()
  | .pointer => snd_motu_pointer >>= fun _ => pure ()
  | .ack => snd_motu_ack >>= fun _ => pure ()
  | .timer => expire
  | .interrupt => snd_motu_interrupt >>= fun _ => pure ()

/-- The driver after a call. One that waits for ever is left at what it did so far, and the
calls after it are not held up by the lock that it keeps. -/
def pci_step (env : PciEnv) (d : PciDriver) (call : PciCall) : PciDriver := call.run.exec env d

end motu424.pci_alsa
