import Motu424.Hw
import Motu424.Foundation.Program

namespace motu424

/-- A `void *` into the mapping of one BAR: its address, or none for NULL. -/
structure Iomem (bar : Bar) where
  addr : Option Nat
  deriving DecidableEq, Repr

def Iomem.null {bar : Bar} : Iomem bar := ⟨none⟩

theorem Iomem.addr_ne_none {bar : Bar} {base : Iomem bar} (hbase : base ≠ .null) : base.addr ≠ none :=
  fun h => hbase (congrArg Iomem.mk h)

theorem Iomem.exists_addr {bar : Bar} {base : Iomem bar} (hbase : base ≠ .null) :
    ∃ addr, base.addr = some addr :=
  Option.ne_none_iff_exists'.mp (Iomem.addr_ne_none hbase)

/-- The error code of a failed PAL call, which callers test against zero. -/
structure PalError where
  code : Int
  nonzero : code ≠ 0
  deriving DecidableEq, Repr

inductive LogLevel where
  | err
  | warn
  | info
  | dbg
  deriving DecidableEq, Repr

/-- An argument of a log call. An automatic variable that was never assigned is
logged as `undef`. -/
inductive LogArg where
  | u32 (value : U32)
  | u64 (value : U64)
  | int (value : Int)
  | ptr (addr : Option Nat)
  | text (value : String)
  | undef
  deriving DecidableEq, Repr

/-- A buffer of 32-bit words that the driver shares with others: the DMA buffer
with the card, the area of a PCM stream with the application. -/
inductive Buffer where
  | dma (vaddr : Nat)
  | area (vaddr : Nat)
  deriving DecidableEq, Repr

/-- What the driver does to the outside: register accesses, accesses to shared
buffers by word index, delays, log lines, locking, the memory and interrupt
services of the platform, and notices to the sound core. -/
inductive Event where
  | read (bar : Bar) (base : Option Nat) (offset : U32)
  | write (bar : Bar) (base : Option Nat) (offset value : U32)
  | msleep (msecs : Nat)
  | resched
  | log (level : LogLevel) (fmt : String) (args : List LogArg)
  | memset (vaddr : Nat) (byte : U8) (size : U64)
  | dma_alloc (size : U64) (result : Option (Nat × U64))
  | dma_free (vaddr : Nat) (paddr : U64) (size : U64)
  | irq_request (granted : Bool)
  | irq_free
  | spin_lock
  | spin_unlock
  | load (buf : Buffer) (index : Nat)
  | store (buf : Buffer) (index : Nat) (value : U32)
  | map_io (start : U64) (length : U32) (result : Option Nat)
  | unmap_io (base : Nat) (length : U32)
  | period_elapsed (substream : Nat)
  | complete (status : U32) (bytes : Nat) (output : List U32)
  deriving DecidableEq, Repr

/-- The outside as the driver meets it. Every answer may depend on the whole
history of what the driver did before. -/
structure Env where
  read32 : List Event → Bar → U32 → U32
  dma_alloc : List Event → U64 → Except PalError (Nat × U64)
  irq_request : List Event → Except PalError Unit
  ktime_get_ns : List Event → U64
  load : List Event → Buffer → Nat → U32

/-- The shared driver context. -/
structure motu424_ctx where
  iobase_dsp : Iomem .dsp
  iobase_reg : Iomem .reg
  iobase_port : Iomem .port
  dma_buf : Option Nat
  dma_addr : U64
  dma_size : U64
  port_conf_shadow : U32
  rate : U32
  dma_running : Int
  start_time_ns : U64
  deriving DecidableEq, Repr

/-- The context that both frontends set up: zeroed, with the BARs mapped at the
given addresses. -/
def motu424_ctx.fresh (dsp reg port : Option Nat) : motu424_ctx where
  iobase_dsp := ⟨dsp⟩
  iobase_reg := ⟨reg⟩
  iobase_port := ⟨port⟩
  dma_buf := none
  dma_addr := 0
  dma_size := 0
  port_conf_shadow := 0
  rate := MOTU_RATE_48000
  dma_running := 0
  start_time_ns := 0

/-- A context with all three BARs mapped and no DMA buffer. -/
def mapped_ctx : motu424_ctx := .fresh (some 0x1000) (some 0x2000) (some 0x3000)

/-- An outside that reads zero everywhere, grants every request and whose clock
stands still. -/
def Env.idle : Env where
  read32 := fun _ _ _ => 0
  dma_alloc := fun _ _ => .ok (0x10000, 0x1000000)
  irq_request := fun _ => .ok ()
  ktime_get_ns := fun _ => 0
  load := fun _ _ _ => 0

/-- The driver context together with everything the driver has done so far,
oldest first. -/
structure Machine where
  ctx : motu424_ctx
  trace : List Event
  deriving DecidableEq, Repr

abbrev Pal (α : Type) : Type := Program Env Machine α

def Machine.emit (m : Machine) (events : List Event) : Machine :=
  { m with trace := m.trace ++ events }

def perform (event : Event) : Pal Unit := Program.update fun m => m.emit [event]

def get_ctx : Pal motu424_ctx := Program.gets Machine.ctx

def set_ctx (f : motu424_ctx → motu424_ctx) : Pal Unit :=
  Program.update fun m => { m with ctx := f m.ctx }

def pal_write32 {bar : Bar} (base : Iomem bar) (offset value : U32) : Pal Unit :=
  perform (.write bar base.addr offset value)

def pal_read32 {bar : Bar} (base : Iomem bar) (offset : U32) : Pal U32 := do
  let val ← Program.asks fun env m => env.read32 m.trace bar offset
  perform (.read bar base.addr offset)
  pure val

def pal_msleep (msecs : Nat) : Pal Unit := perform (.msleep msecs)

def pal_cond_resched : Pal Unit := perform .resched

def pal_log (level : LogLevel) (fmt : String) (args : List LogArg) : Pal Unit :=
  perform (.log level fmt args)

def pal_dma_alloc (size : U64) : Pal (Except PalError (Nat × U64)) := do
  let result ← Program.asks fun env m => env.dma_alloc m.trace size
  perform (.dma_alloc size result.toOption)
  pure result

def pal_dma_free (vaddr : Nat) (paddr size : U64) : Pal Unit :=
  perform (.dma_free vaddr paddr size)

def memset (vaddr : Nat) (byte : U8) (size : U64) : Pal Unit :=
  perform (.memset vaddr byte size)

def pal_irq_request : Pal (Except PalError Unit) := do
  let result ← Program.asks fun env m => env.irq_request m.trace
  perform (.irq_request result.toBool)
  pure result

def pal_irq_free : Pal Unit := perform .irq_free

def ktime_get_ns : Pal U64 := Program.asks fun env m => env.ktime_get_ns m.trace

def pal_spinlock_lock_irqsave : Pal Unit := perform .spin_lock

def pal_spinlock_unlock_irqrestore : Pal Unit := perform .spin_unlock

/-- Read a word of a shared buffer. -/
def load (buf : Buffer) (index : Nat) : Pal U32 := do
  let val ← Program.asks fun env m => env.load m.trace buf index
  perform (.load buf index)
  pure val

/-- Write a word of a shared buffer. -/
def store (buf : Buffer) (index : Nat) (value : U32) : Pal Unit := perform (.store buf index value)

def PAL_BAR_DSP : U8 := 0
def PAL_BAR_REG : U8 := 1
def PAL_BAR_PORT : U8 := 2

def motu_write (ctx : motu424_ctx) (bar : U8) (offset value : U32) : Pal Unit :=
  if bar = PAL_BAR_DSP then pal_write32 ctx.iobase_dsp offset value
  else if bar = PAL_BAR_REG then pal_write32 ctx.iobase_reg offset value
  else if bar = PAL_BAR_PORT then pal_write32 ctx.iobase_port offset value
  else pure ()

def motu_read (ctx : motu424_ctx) (bar : U8) (offset : U32) : Pal U32 :=
  if bar = PAL_BAR_DSP then pal_read32 ctx.iobase_dsp offset
  else if bar = PAL_BAR_REG then pal_read32 ctx.iobase_reg offset
  else if bar = PAL_BAR_PORT then pal_read32 ctx.iobase_port offset
  else pure 0xffffffff

section specs

variable (env : Env) (m : Machine)

@[simp] theorem Machine.emit_ctx (events : List Event) : (m.emit events).ctx = m.ctx := (rfl)

@[simp] theorem Machine.emit_trace (events : List Event) :
    (m.emit events).trace = m.trace ++ events := (rfl)

@[simp] theorem Machine.emit_nil : m.emit [] = m := by simp [Machine.emit]

@[simp] theorem Machine.emit_emit (xs ys : List Event) :
    (m.emit xs).emit ys = m.emit (xs ++ ys) := by simp [Machine.emit]

@[simp] theorem exec_perform (event : Event) : (perform event).exec env m = m.emit [event] := (rfl)

@[simp] theorem eval_get_ctx : get_ctx.eval env m = m.ctx := (rfl)

@[simp] theorem exec_get_ctx : get_ctx.exec env m = m := (rfl)

@[simp] theorem exec_set_ctx (f : motu424_ctx → motu424_ctx) :
    (set_ctx f).exec env m = { m with ctx := f m.ctx } := (rfl)

@[simp] theorem exec_pal_write32 {bar : Bar} (base : Iomem bar) (offset value : U32) :
    (pal_write32 base offset value).exec env m = m.emit [.write bar base.addr offset value] := (rfl)

@[simp] theorem eval_pal_read32 {bar : Bar} (base : Iomem bar) (offset : U32) :
    (pal_read32 base offset).eval env m = env.read32 m.trace bar offset := (rfl)

@[simp] theorem exec_pal_read32 {bar : Bar} (base : Iomem bar) (offset : U32) :
    (pal_read32 base offset).exec env m = m.emit [.read bar base.addr offset] := (rfl)

@[simp] theorem exec_pal_msleep (msecs : Nat) :
    (pal_msleep msecs).exec env m = m.emit [.msleep msecs] := (rfl)

@[simp] theorem exec_pal_cond_resched : pal_cond_resched.exec env m = m.emit [.resched] := (rfl)

@[simp] theorem exec_pal_log (level : LogLevel) (fmt : String) (args : List LogArg) :
    (pal_log level fmt args).exec env m = m.emit [.log level fmt args] := (rfl)

@[simp] theorem eval_pal_dma_alloc (size : U64) :
    (pal_dma_alloc size).eval env m = env.dma_alloc m.trace size := (rfl)

@[simp] theorem exec_pal_dma_alloc (size : U64) :
    (pal_dma_alloc size).exec env m =
      m.emit [.dma_alloc size (env.dma_alloc m.trace size).toOption] := (rfl)

@[simp] theorem exec_pal_dma_free (vaddr : Nat) (paddr size : U64) :
    (pal_dma_free vaddr paddr size).exec env m = m.emit [.dma_free vaddr paddr size] := (rfl)

@[simp] theorem exec_memset (vaddr : Nat) (byte : U8) (size : U64) :
    (memset vaddr byte size).exec env m = m.emit [.memset vaddr byte size] := (rfl)

@[simp] theorem eval_pal_irq_request :
    pal_irq_request.eval env m = env.irq_request m.trace := (rfl)

@[simp] theorem exec_pal_irq_request :
    pal_irq_request.exec env m = m.emit [.irq_request (env.irq_request m.trace).toBool] := (rfl)

@[simp] theorem exec_pal_irq_free : pal_irq_free.exec env m = m.emit [.irq_free] := (rfl)

@[simp] theorem exec_pal_spinlock_lock_irqsave :
    pal_spinlock_lock_irqsave.exec env m = m.emit [.spin_lock] := (rfl)

@[simp] theorem exec_pal_spinlock_unlock_irqrestore :
    pal_spinlock_unlock_irqrestore.exec env m = m.emit [.spin_unlock] := (rfl)

@[simp] theorem eval_load (buf : Buffer) (index : Nat) :
    (load buf index).eval env m = env.load m.trace buf index := (rfl)

@[simp] theorem exec_load (buf : Buffer) (index : Nat) :
    (load buf index).exec env m = m.emit [.load buf index] := (rfl)

@[simp] theorem exec_store (buf : Buffer) (index : Nat) (value : U32) :
    (store buf index value).exec env m = m.emit [.store buf index value] := (rfl)

@[simp] theorem eval_ktime_get_ns : ktime_get_ns.eval env m = env.ktime_get_ns m.trace := (rfl)

@[simp] theorem exec_ktime_get_ns : ktime_get_ns.exec env m = m := (rfl)

theorem exec_when_emit {c : Prop} [Decidable c] {p : Pal Unit} {events : List Event}
    (hp : p.exec env m = m.emit events) :
    (Program.when c p).exec env m = m.emit (if c then events else []) := by
  by_cases hc : c
  · rw [Program.exec_when, if_pos hc, if_pos hc, hp]
  · rw [Program.exec_when, if_neg hc, if_neg hc, Machine.emit_nil]

/-- A loop whose rounds only append events appends them round by round. -/
theorem exec_forEach_emit {ι : Type} {body : ι → Pal Unit} {events : ι → List Event}
    (hbody : ∀ i m, (body i).exec env m = m.emit (events i)) (is : List ι) :
    (Program.forEach is body).exec env m = m.emit (is.flatMap events) := by
  induction is generalizing m with
  | nil => simp
  | cons i is ih => rw [Program.exec_forEach_cons, hbody, ih, Machine.emit_emit, List.flatMap_cons]

end specs

end motu424
