import Motu424.PciAlsa
import Motu424.Probe

open Program
open motu424.linux (KernelEvent PciOp)

namespace motu424.pci_alsa.card

/-- What the code does to the outside: calls of the kernel, accesses to the private data
of the card, register accesses, pauses and lines of text. -/
inductive CardEvent where
  | kernel (event : KernelEvent)
  | private_data
  | ioread32 (bar : Bar) (base : Option Nat) (offset : U32)
  | iowrite32 (bar : Bar) (base : Option Nat) (offset value : U32)
  | iowrite32_rep (base : Option Nat) (data : List U8) (count : Nat)
  | msleep (msecs : Nat)
  | dev_info (fmt : String) (args : List LogArg)
  | dev_err (fmt : String) (args : List LogArg)
  deriving DecidableEq, Repr

/-- The private data of a card that the probe and the remove use. -/
structure motu_card where
  iobase_dsp : Option Nat
  iobase_reg : Option Nat
  iobase_port : Option Nat
  irq : U32
  deriving DecidableEq, Repr

/-- The private data of a new card. -/
def motu_card.zeroed : motu_card := ⟨none, none, none, 0⟩

/-- The outside. A service of the kernel fails with a negative code, and `freed` is
what the memory of the private data holds once it was given back. -/
structure CardEnv where
  pci_irq : U32
  snd_card_new : List CardEvent → Except KernelError Unit
  snd_pcm_new : List CardEvent → Except KernelError Unit
  snd_card_register : List CardEvent → Except KernelError Unit
  pci_enable_device : List CardEvent → Except KernelError Unit
  dma_set_mask_and_coherent : List CardEvent → Except KernelError Unit
  pci_request_regions : List CardEvent → Except KernelError Unit
  request_irq : List CardEvent → Except KernelError Unit
  request_firmware : List CardEvent → Except KernelError (List U8)
  pci_iomap : List CardEvent → Bar → Option Nat
  ioread32 : List CardEvent → Bar → Option Nat → U32 → U32
  freed : List CardEvent → motu_card → motu_card

/-- The device with the private data of its last card, which are in memory that may be
freed, whether the driver is bound to it, and all that was done so far. -/
structure CardDevice where
  motu : motu_card
  bound : Bool
  history : List CardEvent
  deriving DecidableEq, Repr

/-- A device that no driver has touched. -/
def CardDevice.unbound : CardDevice := ⟨.zeroed, false, []⟩

abbrev CardCode (α : Type) : Type := Program CardEnv CardDevice α

def perform (event : CardEvent) : CardCode Unit :=
  Program.update fun d => { d with history := d.history ++ [event] }

def tell (event : KernelEvent) : CardCode Unit := perform (.kernel event)

/-- The code that a service returns. -/
def code_of {α : Type} : Except KernelError α → Int
  | .ok _ => 0
  | .error err => err.code

/-- Call a service and take its code. -/
def ask (answer : CardEnv → List CardEvent → Except KernelError Unit) (event : Int → KernelEvent) :
    CardCode Int := do
  let result ← Program.asks fun env d => answer env d.history
  tell (event (code_of result))
  pure (code_of result)

/-- Look at the private data. -/
def get_motu : CardCode motu_card := do
  perform .private_data
  Program.gets CardDevice.motu

def set_motu (f : motu_card → motu_card) : CardCode Unit := do
  perform .private_data
  Program.update fun d => { d with motu := f d.motu }

/-- It gives the private data back with the card. -/
def snd_card_free : CardCode Unit := do
  let left ← Program.asks fun env d => env.freed d.history d.motu
  tell .snd_card_free
  Program.update fun d => { d with motu := left }

def ioread32 (bar : Bar) (base : Option Nat) (offset : U32) : CardCode U32 := do
  let val ← Program.asks fun env d => env.ioread32 d.history bar base offset
  perform (.ioread32 bar base offset)
  pure val

def iowrite32 (value : U32) (bar : Bar) (base : Option Nat) (offset : U32) : CardCode Unit :=
  perform (.iowrite32 bar base offset value)

def pci_iomap (bar : Bar) : CardCode (Option Nat) := do
  let result ← Program.asks fun env d => env.pci_iomap d.history bar
  tell (.pci_iomap bar result)
  pure result

/-- It does nothing for NULL. -/
def pci_iounmap (bar : Bar) : Option Nat → CardCode Unit
  | none => pure ()
  | some addr => tell (.pci_iounmap bar addr)

def EIO : Int := 5

def FIRMWARE : String := "motu/altera424b.rbf"

def request_firmware : CardCode (Except KernelError (List U8)) := do
  let fw ← Program.asks fun env d => env.request_firmware d.history
  tell (.request_firmware FIRMWARE fw.toBool)
  pure fw

def motu_load_fpga (fw : List U8) : CardCode Int := do
  let motu ← get_motu
  perform (.dev_info "Starting FPGA firmware upload (size: %zu)...\n" [.int fw.length])
  if motu.iobase_port = none then do
    perform (.dev_err "No I/O port available for firmware upload.\n" [])
    pure (- EIO)
  else do
    let val ← ioread32 .reg motu.iobase_reg MOTU_REG_PORT_CONF
    iowrite32 (val &&& ~~~0x10000) .reg motu.iobase_reg MOTU_REG_PORT_CONF
    perform (.msleep 50)
    iowrite32 (val ||| 0x10000) .reg motu.iobase_reg MOTU_REG_PORT_CONF
    perform (.msleep 50)
    perform (.dev_info "Pumping %zu bytes to I/O Port 0x00...\n" [.int fw.length])
    perform (.iowrite32_rep motu.iobase_port fw (fw.length / 4))
    perform (.msleep 100)
    perform (.dev_info "FPGA firmware upload complete.\n" [])
    pure 0

/-- The round of the loop of `motu_dump_registers` for an offset. -/
def dump_register (i : U32) : CardCode Unit := do
  let motu ← get_motu
  let val ← ioread32 .reg motu.iobase_reg i
  Program.when (val ≠ 0 ∧ val ≠ 0xffffffff)
    (perform (.dev_info "Offset 0x%02x: 0x%08x\n" [.u32 i, .u32 val]))

def motu_dump_registers : CardCode Unit := do
  perform (.dev_info "--- MOTU Port 0 Dump ---\n" [])
  Program.forEach ((List.range 32).map fun n => BitVec.ofNat 32 (4 * n)) dump_register

/-- It looks for the card in the private data, and for the device once it has a PCM. -/
def snd_motu_pcm_new : CardCode Int := do
  perform .private_data
  let err ← ask CardEnv.snd_pcm_new .snd_pcm_new
  if err < 0 then pure err
  else do
    perform .private_data
    pure 0

/-- The exit for a failure with the BARs mapped. -/
def err_mapped (err : Int) : CardCode Int := do
  let motu ← get_motu
  pci_iounmap .reg motu.iobase_reg
  pci_iounmap .dsp motu.iobase_dsp
  tell .pci_release_regions
  tell .pci_disable_device
  snd_card_free
  pure err

/-- The exit for a failure with the interrupt requested. -/
def err_irq (err : Int) : CardCode Int := do
  let motu ← get_motu
  tell (.free_irq motu.irq)
  err_mapped err

def register_card : CardCode Int := do
  let err ← ask CardEnv.snd_card_register .snd_card_register
  if err < 0 then err_irq err
  else do
    tell .pci_set_drvdata
    perform (.dev_info "MOTU PCI Driver Loaded - HW Counter Version\n" [])
    motu_dump_registers
    pure 0

def create_pcm : CardCode Int := do
  let motu ← get_motu
  iowrite32 0 .reg motu.iobase_reg 0x24
  let err ← snd_motu_pcm_new
  if err < 0 then err_irq (- EIO) else register_card

def request_interrupt : CardCode Int := do
  let irq ← Program.asks fun env _ => env.pci_irq
  let err ← ask CardEnv.request_irq (.request_irq irq)
  if err ≠ 0 then do
    perform (.dev_err "unable to grab IRQ %d\n" [.u32 irq])
    err_mapped err
  else do
    set_motu fun motu => { motu with irq := irq }
    create_pcm

/-- The writes and reads that find out which registers can be written. The four reads of
a line of text are made from right to left, an order that the language leaves open. -/
def test_registers : CardCode Unit := do
  let motu ← get_motu
  perform (.dev_info "Testing writable registers...\n" [])
  iowrite32 0x11111111 .reg motu.iobase_reg 0x04
  iowrite32 0x22222222 .reg motu.iobase_reg 0x08
  iowrite32 0x44444444 .reg motu.iobase_reg 0x10
  iowrite32 0x55555555 .reg motu.iobase_reg 0x14
  let r14 ← ioread32 .reg motu.iobase_reg 0x14
  let r10 ← ioread32 .reg motu.iobase_reg 0x10
  let r08 ← ioread32 .reg motu.iobase_reg 0x08
  let r04 ← ioread32 .reg motu.iobase_reg 0x04
  perform (.dev_info "Readback: 0x04: %08x, 0x08: %08x, 0x10: %08x, 0x14: %08x\n"
    [.u32 r04, .u32 r08, .u32 r10, .u32 r14])

def load_firmware : CardCode Unit := do
  let fw ← request_firmware
  match fw with
  | .error err => perform (.dev_err "Failed to load firmware motu/altera424b.rbf (err=%d)\n" [.int err.code])
  | .ok bytes => do
    let _err ← motu_load_fpga bytes
    tell (.release_firmware FIRMWARE)

/-- One line of the dump of BAR2. -/
def dump_port (base : Option Nat) (fmt : String) (offset : U32) : CardCode Unit := do
  let val ← ioread32 .port base offset
  perform (.dev_info fmt [.u32 val])

def dump_ports : CardCode Unit := do
  let motu ← get_motu
  Program.when (motu.iobase_port ≠ none) do
    perform (.dev_info "--- BAR2 I/O Port Dump ---\n" [])
    dump_port motu.iobase_port "Port 0x00: %08x\n" 0x00
    dump_port motu.iobase_port "Port 0x04: %08x\n" 0x04
    dump_port motu.iobase_port "Port 0x08: %08x\n" 0x08
    dump_port motu.iobase_port "Port 0x0C: %08x\n" 0x0C

/-- Map a BAR and keep its address in the private data. -/
def map_bar (bar : Bar) (store : Option Nat → motu_card → motu_card) : CardCode Unit := do
  let base ← pci_iomap bar
  set_motu (store base)

def map_bars : CardCode Unit := do
  map_bar .dsp fun base motu => { motu with iobase_dsp := base }
  map_bar .reg fun base motu => { motu with iobase_reg := base }
  map_bar .port fun base motu => { motu with iobase_port := base }

/-- The steps with the regions of the device. -/
def bring_up : CardCode Int := do
  map_bars
  dump_ports
  load_firmware
  test_registers
  request_interrupt

def request_regions : CardCode Int := do
  let err ← ask CardEnv.pci_request_regions .pci_request_regions
  if err < 0 then do
    tell .pci_disable_device
    snd_card_free
    pure (- EIO)
  else bring_up

def set_dma_mask : CardCode Int := do
  tell .pci_set_master
  let err ← ask CardEnv.dma_set_mask_and_coherent (.dma_set_mask_and_coherent (DMA_BIT_MASK 32))
  if err ≠ 0 then do
    perform (.dev_err "Architecture does not support 32-bit PCI busmaster DMA\n" [])
    tell .pci_disable_device
    snd_card_free
    pure (- EIO)
  else request_regions

def enable_pci : CardCode Int := do
  let err ← ask CardEnv.pci_enable_device .pci_enable_device
  if err < 0 then do
    snd_card_free
    pure (- EIO)
  else set_dma_mask

/-- The private data come zeroed with the card. -/
def snd_motu_probe : CardCode Int := do
  let err ← ask CardEnv.snd_card_new .snd_card_new
  if err < 0 then pure err
  else do
    Program.update fun d => { d with motu := .zeroed }
    perform .private_data
    enable_pci

def snd_motu_remove : CardCode Unit := do
  let motu ← get_motu
  iowrite32 0 .reg motu.iobase_reg 0x24
  snd_card_free
  let motu ← get_motu
  tell (.free_irq motu.irq)
  let motu ← get_motu
  pci_iounmap .port motu.iobase_port
  let motu ← get_motu
  pci_iounmap .reg motu.iobase_reg
  let motu ← get_motu
  pci_iounmap .dsp motu.iobase_dsp
  tell .pci_release_regions
  tell .pci_disable_device

/-- The core binds the driver if its probe succeeds. -/
def probe_device : CardCode Unit := do
  let err ← snd_motu_probe
  Program.update fun d => { d with bound := err = 0 }

def remove_device : CardCode Unit := do
  snd_motu_remove
  Program.update fun d => { d with bound := false }

/-- The core probes a device that has no driver, and removes the driver of a bound one. -/
def card_step (env : CardEnv) (d : CardDevice) : PciOp → CardDevice
  | .probe => if d.bound then d else probe_device.exec env d
  | .remove => if d.bound then remove_device.exec env d else d

end motu424.pci_alsa.card
