import Motu424.Alsa

namespace motu424.linux

/-- The frontend's calls of the kernel, with what the kernel answered. -/
inductive KernelEvent where
  | snd_card_new (err : Int)
  | snd_card_free
  | snd_pcm_new (err : Int)
  | snd_card_register (err : Int)
  | kzalloc (granted : Bool)
  | kfree
  | pci_enable_device (err : Int)
  | pci_disable_device
  | pci_set_master
  | dma_set_mask_and_coherent (mask : U64) (err : Int)
  | pci_request_regions (err : Int)
  | pci_release_regions
  | pci_iomap (bar : Bar) (result : Option Nat)
  | pci_iounmap (bar : Bar) (addr : Nat)
  | request_firmware (name : String) (granted : Bool)
  | release_firmware (name : String)
  | request_irq (irq : U32) (err : Int)
  | free_irq (irq : U32)
  | pci_set_drvdata
  deriving DecidableEq, Repr

/-- What the core has the driver do with a device. -/
inductive PciOp where
  | probe
  | remove
  deriving DecidableEq, Repr

/-- The outside of the Linux driver: also the ALSA core, the PCI core, and the
firmware and interrupt services. Every answer may depend on all calls before, and
whether the core counts a device as added also on what it does with it. -/
structure LinuxEnv extends Env where
  pci_irq : U32
  snd_card_new : List KernelEvent → Int
  snd_pcm_new : List KernelEvent → Int
  snd_card_register : List KernelEvent → Int
  kzalloc : List KernelEvent → Bool
  pci_enable_device : List KernelEvent → Int
  dma_set_mask_and_coherent : List KernelEvent → Int
  pci_request_regions : List KernelEvent → Int
  pci_iomap : List KernelEvent → Bar → Option Nat
  request_firmware : List KernelEvent → String → Except PalError (List U8)
  request_irq : List KernelEvent → U32 → Int
  pci_dev_is_added : PciOp → List KernelEvent → Bool

structure pal_device where
  irq : U32
  deriving DecidableEq, Repr

/-- The interrupt number of a device that has none. -/
def NO_IRQ : U32 := -1

/-- The PCI device with the private data of its card, whether the driver has set
its data and whether it is bound to it, and the calls of the kernel so far. -/
structure pci_dev extends motu424_linux where
  pal_dev : pal_device
  lock : Bool
  fw_fpga : Option (List U8)
  fw_init : Option (List U8)
  drvdata : Bool
  bound : Bool
  history : List KernelEvent
  deriving DecidableEq, Repr

/-- The private data that `motu424_probe` sets up before its first step. -/
def pci_dev.set_up (lock : Bool) (d : pci_dev) : pci_dev := { d with
  machine.ctx := .fresh none none none
  playback_substream := none
  capture_substream := none
  playback_hw := none
  capture_hw := none
  pal_dev := ⟨NO_IRQ⟩
  lock := lock
  fw_fpga := none
  fw_init := none }

/-- A device that no driver has touched. -/
def pci_dev.unbound : pci_dev where
  machine := ⟨.fresh none none none, []⟩
  playback_substream := none
  capture_substream := none
  playback_hw := none
  capture_hw := none
  pal_dev := ⟨NO_IRQ⟩
  lock := false
  fw_fpga := none
  fw_init := none
  drvdata := false
  bound := false
  history := []

def pci_dev.record (d : pci_dev) (events : List KernelEvent) : pci_dev :=
  { d with history := d.history ++ events }

abbrev Linux (α : Type) : Type := Program LinuxEnv pci_dev α

/-- Run shared code on the context of the device. -/
def shared {α : Type} (p : Pal α) : Linux α :=
  p.zoom LinuxEnv.toEnv (fun d => d.machine) fun m d => { d with machine := m }

def log (level : LogLevel) (fmt : String) (args : List LogArg) : Linux Unit :=
  shared (pal_log level fmt args)

/-- Call the kernel without waiting for an answer. -/
def tell (event : KernelEvent) : Linux Unit := Program.update fun d => d.record [event]

/-- Call the kernel and take its answer. -/
def ask {α : Type} (answer : LinuxEnv → List KernelEvent → α) (event : α → KernelEvent) : Linux α := do
  let result ← Program.asks fun env d => answer env d.history
  tell (event result)
  pure result

def snd_card_new : Linux Int := ask LinuxEnv.snd_card_new .snd_card_new

def snd_pcm_new : Linux Int := ask LinuxEnv.snd_pcm_new .snd_pcm_new

def snd_card_register : Linux Int := ask LinuxEnv.snd_card_register .snd_card_register

def pci_request_regions : Linux Int := ask LinuxEnv.pci_request_regions .pci_request_regions

def request_firmware (name : String) : Linux (Except PalError (List U8)) :=
  ask (fun env history => env.request_firmware history name) fun fw => .request_firmware name fw.toBool

def pal_pci_enable : Linux Int := ask LinuxEnv.pci_enable_device .pci_enable_device

def pal_pci_set_master : Linux Unit := tell .pci_set_master

def pal_pci_set_dma_mask (bits : Nat) : Linux Int :=
  ask LinuxEnv.dma_set_mask_and_coherent (.dma_set_mask_and_coherent (DMA_BIT_MASK bits))

def pal_iomap (bar : Bar) : Linux (Iomem bar) :=
  ask (fun env history => ⟨env.pci_iomap history bar⟩) fun base => .pci_iomap bar base.addr

def pal_spinlock_create : Linux Bool := ask LinuxEnv.kzalloc .kzalloc

def pal_irq_request : Linux Int := do
  let irq ← Program.asks fun env _ => env.pci_irq
  let err ← ask (fun env history => env.request_irq history irq) (.request_irq irq)
  if err ≠ 0 then pure err
  else do
    Program.update fun d => { d with pal_dev.irq := irq }
    pure 0

def pal_irq_free : Linux Unit := do
  let dev ← Program.gets pci_dev.pal_dev
  Program.when (0 ≤ dev.irq.toInt) do
    tell (.free_irq dev.irq)
    Program.update fun d => { d with pal_dev.irq := NO_IRQ }

def stop_hardware : Pal Unit := do
  let ctx ← get_ctx
  Program.when (ctx.iobase_reg ≠ .null) do
    pal_write32 ctx.iobase_reg MOTU_REG_INT_MASK 0
    motu424_hw_stop

def release_firmware (name : String) (fw : Option (List U8)) : Linux Unit :=
  Program.when (fw ≠ none) (tell (.release_firmware name))

def pci_iounmap {bar : Bar} (base : Iomem bar) : Linux Unit :=
  match base.addr with
  | none => pure ()
  | some addr => tell (.pci_iounmap bar addr)

def release_pci (op : PciOp) : Linux Unit := do
  let added ← Program.asks fun env d => env.pci_dev_is_added op d.history
  Program.when added do
    tell .pci_release_regions
    tell .pci_disable_device

def MOTU_FW_FPGA : String := "motu424/altera424b.rbf"
def MOTU_FW_INIT_SEQ : String := "motu424/init_sequence.bin"

/-- The `private_free` of the card, whose private data are never NULL, during a probe or a
remove. -/
def motu424_free (op : PciOp) : Linux Unit := do
  shared stop_hardware
  pal_irq_free
  shared motu424_dma_free
  let d ← Program.gets id
  release_firmware MOTU_FW_FPGA d.fw_fpga
  release_firmware MOTU_FW_INIT_SEQ d.fw_init
  pci_iounmap d.machine.ctx.iobase_port
  pci_iounmap d.machine.ctx.iobase_reg
  pci_iounmap d.machine.ctx.iobase_dsp
  Program.when d.lock (tell .kfree)
  release_pci op

/-- The ALSA core calls `private_free` of the card. -/
def snd_card_free (op : PciOp) : Linux Unit := do
  tell .snd_card_free
  motu424_free op

def ENOMEM : Int := 12

/-- The exit of `motu424_probe` for every failure after the card exists. -/
def err_card (err : Int) : Linux Int := do
  snd_card_free .probe
  pure err

/-- Step 9, and the end of a successful probe. -/
def register_card : Linux Int := do
  let err ← snd_card_register
  if err ≠ 0 then err_card err
  else do
    tell .pci_set_drvdata
    Program.update fun d => { d with drvdata := true }
    let d ← Program.gets id
    log .info "MOTU PCI-424 initialized at %d Hz\n" [.u32 d.machine.ctx.rate]
    pure 0

def motu424_pcm_new : Linux Int := do
  let err ← snd_pcm_new
  if err < 0 then pure err else pure 0

/-- Step 8. -/
def create_pcm : Linux Int := do
  let err ← motu424_pcm_new
  if err ≠ 0 then do
    log .err "PCM creation failed\n" []
    err_card err
  else register_card

def unmask_interrupt : Pal Unit := do
  let ctx ← get_ctx
  pal_write32 ctx.iobase_reg MOTU_REG_INT_MASK MOTU_INT_PERIOD_ELAPSED

/-- Step 7. -/
def request_interrupt : Linux Int := do
  let err ← pal_irq_request
  if err ≠ 0 then do
    log .err "cannot grab IRQ\n" []
    err_card err
  else do
    shared unmask_interrupt
    create_pcm

/-- Step 6. -/
def init_hardware : Linux Unit := do
  let d ← Program.gets id
  let err ← shared (motu424_full_init d.fw_fpga d.fw_init)
  Program.when (err ≠ 0) (log .warn "Hardware init incomplete\n" [])

/-- Ask for a firmware file and record it, or NULL in its place. -/
def load_firmware (name warning : String) (put : Option (List U8) → pci_dev → pci_dev) :
    Linux Unit := do
  let fw ← request_firmware name
  match fw with
  | .error _ => do
    log .warn warning []
    Program.update (put none)
  | .ok bytes => Program.update (put (some bytes))

/-- Step 4. -/
def load_fpga : Linux Unit :=
  load_firmware MOTU_FW_FPGA "FPGA firmware not found; assuming warm boot\n"
    fun fw d => { d with fw_fpga := fw }

/-- Step 5. -/
def load_init_sequence : Linux Unit :=
  load_firmware MOTU_FW_INIT_SEQ "Init sequence not found; skipping (warm boot)\n"
    fun fw d => { d with fw_init := fw }

/-- The steps from the firmware on. -/
def bring_up : Linux Int := do
  load_fpga
  load_init_sequence
  init_hardware
  request_interrupt

/-- Step 3. -/
def allocate_dma : Linux Int := do
  let err ← shared (motu424_dma_alloc MOTU_DMA_BUF_MAX)
  if err ≠ 0 then do
    log .err "DMA buffer alloc failed\n" []
    err_card err
  else bring_up

/-- Record the mapping of a BAR. -/
def set_base (ctx : motu424_ctx) : (bar : Bar) → Iomem bar → motu424_ctx
  | .dsp, base => { ctx with iobase_dsp := base }
  | .reg, base => { ctx with iobase_reg := base }
  | .port, base => { ctx with iobase_port := base }

def map_bar (bar : Bar) : Linux Unit := do
  let base ← pal_iomap bar
  Program.update fun d => { d with machine.ctx := set_base d.machine.ctx bar base }

def check_bars : Linux Int := do
  let d ← Program.gets id
  if d.machine.ctx.iobase_dsp = .null ∨ d.machine.ctx.iobase_reg = .null ∨
      d.machine.ctx.iobase_port = .null then do
    log .err "failed to map BARs\n" []
    err_card (-ENOMEM)
  else allocate_dma

def map_bars : Linux Int := do
  map_bar .dsp
  map_bar .reg
  map_bar .port
  check_bars

/-- Step 2. -/
def request_regions : Linux Int := do
  let err ← pci_request_regions
  if err ≠ 0 then err_card err else map_bars

def set_dma_mask : Linux Int := do
  pal_pci_set_master
  let err ← pal_pci_set_dma_mask 32
  if err ≠ 0 then do
    log .err "32-bit DMA not supported\n" []
    err_card err
  else request_regions

/-- Step 1. -/
def enable_pci : Linux Int := do
  let err ← pal_pci_enable
  if err ≠ 0 then err_card err else set_dma_mask

def motu424_probe : Linux Int := do
  let err ← snd_card_new
  if err < 0 then pure err
  else do
    let lock ← pal_spinlock_create
    Program.update (pci_dev.set_up lock)
    enable_pci

def motu424_remove : Linux Unit := do
  let d ← Program.gets id
  Program.when d.drvdata (snd_card_free .remove)

/-- The core binds the driver if its probe succeeds. -/
def probe_device : Linux Unit := do
  let err ← motu424_probe
  Program.update fun d => { d with bound := err = 0 }

def remove_device : Linux Unit := do
  motu424_remove
  Program.update fun d => { d with drvdata := false, bound := false }

/-- The core probes a device that has no driver, and removes the driver of a
bound one. -/
def pci_step (env : LinuxEnv) (d : pci_dev) : PciOp → pci_dev
  | .probe => if d.bound then d else probe_device.exec env d
  | .remove => if d.bound then remove_device.exec env d else d

end motu424.linux
