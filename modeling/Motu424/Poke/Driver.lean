import Motu424.Poke

open Program

namespace motu424.poke

inductive MOTU_IOC where
  | ioc_poke
  | ioc_get_dma
  | ioc_read_dma
  | other (cmd : U32)
  deriving DecidableEq, Repr

/-- The memory of the caller that a request points to: the data that can be copied
from it, and whether it can be copied to. -/
structure UserPtr where
  data : Option motu_ioctl_data
  writable : Bool
  deriving DecidableEq, Repr

/-- What the driver does to the outside. A pointer is an address, or none for
NULL. -/
inductive DriverEvent where
  | pci_dev_put
  | pci_set_master
  | dma_set_mask (bits : Nat)
  | dma_alloc_coherent (size : U64) (result : Option (Nat × U64))
  | memset (addr : Nat) (byte : U8) (size : U64)
  | pr_err (fmt : String)
  | pr_info (fmt : String) (args : List LogArg)
  | pci_request_regions (name : String)
  | pci_iomap (bar : Bar) (result : Option Nat)
  | load (base : Option Nat) (offset : U32)
  | ioread32 (base : Nat) (offset : U32)
  | iowrite32 (base : Nat) (offset value : U32)
  | copy_data_to_user (data : motu_ioctl_data)
  | copy_addr_to_user (addr : U32)
  deriving DecidableEq, Repr

/-- The outside as the driver meets it. -/
structure DriverEnv where
  pci_get_device : Bool
  pci_enable_device : Int
  dma_alloc_coherent : U64 → Option (Nat × U64)
  pci_iomap : Bar → Option Nat
  misc_register : Int
  load : List DriverEvent → Option Nat → U32 → U32
  ioread32 : List DriverEvent → Nat → U32 → U32

/-- The globals of the driver, with its history. -/
structure PokeDriver where
  iobase_bar0 : Option Nat
  iobase_bar1 : Option Nat
  iobase_bar2 : Option Nat
  dma_buf : Option Nat
  dma_phys : U64
  history : List DriverEvent
  deriving DecidableEq, Repr

/-- The globals when the module is loaded. -/
def PokeDriver.zeroed : PokeDriver where
  iobase_bar0 := none
  iobase_bar1 := none
  iobase_bar2 := none
  dma_buf := none
  dma_phys := 0
  history := []

def dma_size : U64 := 4 * 1024 * 1024

abbrev Driver (α : Type) : Type := Program DriverEnv PokeDriver α

def act (event : DriverEvent) : Driver Unit :=
  Program.update fun d => { d with history := d.history ++ [event] }

def ENODEV : Int := 19
def EIO : Int := 5
def EFAULT : Int := 14
def EINVAL : Int := 22
def ENOTTY : Int := 25

/-- The allocation of the buffer, which may fail without consequence. -/
def alloc_dma_buf : Driver Unit := do
  let result ← Program.asks fun env _ => env.dma_alloc_coherent dma_size
  act (.dma_alloc_coherent dma_size result)
  match result with
  | none => act (.pr_err "MOTU: Failed to allocate 4MB DMA buffer!\n")
  | some (buf, phys) => do
    Program.update fun d => { d with dma_buf := some buf, dma_phys := phys }
    act (.memset buf 0 dma_size)
    act (.pr_info "MOTU: Allocated 4MB DMA buffer at physical %pad\n" [.u64 phys])

def iomap (bar : Bar) : Driver (Option Nat) := do
  let result ← Program.asks fun env _ => env.pci_iomap bar
  act (.pci_iomap bar result)
  pure result

def map_bars : Driver Unit := do
  act (.pci_request_regions "motu_poke")
  let bar0 ← iomap .dsp
  Program.update fun d => { d with iobase_bar0 := bar0 }
  let bar1 ← iomap .reg
  Program.update fun d => { d with iobase_bar1 := bar1 }
  let bar2 ← iomap .port
  Program.update fun d => { d with iobase_bar2 := bar2 }

def motu_poke_init : Driver Int := do
  let env ← Program.asks fun env _ => env
  if env.pci_get_device = false then pure (-ENODEV)
  else if env.pci_enable_device < 0 then do
    act .pci_dev_put
    pure (- EIO)
  else do
    act .pci_set_master
    act (.dma_set_mask 32)
    alloc_dma_buf
    map_bars
    pure env.misc_register

def copy_data_to_user (arg : UserPtr) (data : motu_ioctl_data) : Driver Int :=
  if arg.writable then do
    act (.copy_data_to_user data)
    pure 0
  else pure (-EFAULT)

def ioctl_get_dma (arg : UserPtr) : Driver Int := do
  let d ← Program.gets id
  if arg.writable then do
    act (.copy_addr_to_user (d.dma_phys.truncate 32))
    pure 0
  else pure (-EFAULT)

/-- The sum in the bounds check is one of 32 bits, which is then widened. -/
def ioctl_read_dma (arg : UserPtr) : Driver Int :=
  match arg.data with
  | none => pure (-EFAULT)
  | some data =>
    if (data.offset + 4).zeroExtend 64 > dma_size then pure (-EINVAL)
    else do
      let d ← Program.gets id
      let value ← Program.asks fun env d => env.load d.history d.dma_buf data.offset
      act (.load d.dma_buf data.offset)
      copy_data_to_user arg { data with value := value }

/-- The access to a mapped BAR. -/
def poke_bar (arg : UserPtr) (data : motu_ioctl_data) (base : Option Nat) : Driver Int :=
  match base with
  | none => pure (-ENODEV)
  | some base =>
    if data.write ≠ 0 then do
      act (.iowrite32 base data.offset data.value)
      pure 0
    else do
      let value ← Program.asks fun env d => env.ioread32 d.history base data.offset
      act (.ioread32 base data.offset)
      copy_data_to_user arg { data with value := value }

def ioctl_poke_reg (arg : UserPtr) : Driver Int := do
  let d ← Program.gets id
  match arg.data with
  | none => pure (-EFAULT)
  | some data =>
    if data.bar = 0 then poke_bar arg data d.iobase_bar0
    else if data.bar = 1 then poke_bar arg data d.iobase_bar1
    else if data.bar = 2 then poke_bar arg data d.iobase_bar2
    else pure (-EINVAL)

def motu_ioctl (cmd : MOTU_IOC) (arg : UserPtr) : Driver Int :=
  match cmd with
  | .ioc_get_dma => ioctl_get_dma arg
  | .ioc_read_dma => ioctl_read_dma arg
  | .ioc_poke => ioctl_poke_reg arg
  | .other _ => pure (-ENOTTY)

/-- The bytes that a trace reads from the buffer, by base and offset. -/
def DriverEvent.buffer_read : DriverEvent → Option (Option Nat × U32)
  | .load base offset => some (base, offset)
  | _ => none

def buffer_reads (events : List DriverEvent) : List (Option Nat × U32) :=
  events.filterMap DriverEvent.buffer_read

/-- There is a buffer, and the four bytes at the offset lie in it. -/
def PokeDriver.Holds (d : PokeDriver) (offset : U32) : Prop :=
  d.dma_buf ≠ none ∧ offset.toNat + 4 ≤ dma_size.toNat

/-- A read of the buffer is checked: where the four bytes are not in the buffer,
the request fails and reads nothing. -/
def ReadChecked (env : DriverEnv) (d : PokeDriver) (data : motu_ioctl_data) (writable : Bool) : Prop :=
  ¬ d.Holds data.offset → (motu_ioctl .ioc_read_dma ⟨some data, writable⟩).eval env d < 0 ∧
    ∃ new, ((motu_ioctl .ioc_read_dma ⟨some data, writable⟩).exec env d).history = d.history ++ new ∧
      buffer_reads new = []

/-- The sum of the check does not wrap, and if it lets the offset pass there is a
buffer. -/
def OffsetSafe (d : PokeDriver) (offset : U32) : Prop :=
  offset.toNat + 4 < 0x100000000 ∧ (d.dma_buf ≠ none ∨ dma_size.toNat < offset.toNat + 4)

theorem toNat_dma_size : dma_size.toNat = 4194304 := rfl

/-- What the check compares. -/
theorem check_iff (offset : U32) : (offset + 4).zeroExtend 64 > dma_size ↔
    dma_size.toNat < (offset.toNat + 4) % 0x100000000 := by
  have hsum : (offset + 4).toNat = (offset.toNat + 4) % 0x100000000 := BitVec.toNat_add offset 4
  have hwide : ((offset + 4).zeroExtend 64).toNat = (offset.toNat + 4) % 0x100000000 := by
    rw [BitVec.zeroExtend_eq_setWidth, BitVec.toNat_setWidth, hsum]
    omega
  rw [gt_iff_lt, BitVec.lt_def, hwide]

section check

variable (env : DriverEnv) (d : PokeDriver) {data : motu_ioctl_data} (writable : Bool)

theorem read_dma_refused (hcheck : (data.offset + 4).zeroExtend 64 > dma_size) :
    (motu_ioctl .ioc_read_dma ⟨some data, writable⟩).eval env d = -EINVAL ∧
      (motu_ioctl .ioc_read_dma ⟨some data, writable⟩).exec env d = d := by
  unfold motu_ioctl ioctl_read_dma
  simp only [if_pos hcheck, eval_pure, exec_pure, and_self]

theorem read_dma_granted (hcheck : ¬ (data.offset + 4).zeroExtend 64 > dma_size) :
    ∃ rest, ((motu_ioctl .ioc_read_dma ⟨some data, writable⟩).exec env d).history =
      d.history ++ .load d.dma_buf data.offset :: rest := by
  unfold motu_ioctl ioctl_read_dma copy_data_to_user
  simp only [if_neg hcheck]
  cases writable with
  | false => exact ⟨[], rfl⟩
  | true => exact ⟨[_], List.append_assoc ..⟩

/-- A read that passes the check is made, wherever it goes. -/
theorem not_checked_of_granted (hcheck : ¬ (data.offset + 4).zeroExtend 64 > dma_size)
    (houtside : ¬ d.Holds data.offset) : ¬ ReadChecked env d data writable := by
  obtain ⟨rest, hexec⟩ := read_dma_granted env d writable hcheck
  intro hchecked
  obtain ⟨_, new, hnew, hnone⟩ := hchecked houtside
  rw [hexec] at hnew
  rw [← List.append_cancel_left hnew] at hnone
  cases hnone

/-- The read is checked exactly for the offsets that are safe. -/
theorem read_checked_iff : ReadChecked env d data writable ↔ OffsetSafe d data.offset := by
  have hlt := data.offset.isLt
  have hsize := toNat_dma_size
  by_cases hcheck : (data.offset + 4).zeroExtend 64 > dma_size
  · obtain ⟨heval, hexec⟩ := read_dma_refused env d writable hcheck
    have hsum := (check_iff data.offset).mp hcheck
    apply iff_of_true
    · intro _
      rw [heval, hexec]
      exact ⟨by decide, [], (List.append_nil _).symm, rfl⟩
    · exact ⟨by omega, .inr (by omega)⟩
  · have hsum := (check_iff data.offset).not.mp hcheck
    constructor
    · intro hchecked
      by_contra hunsafe
      refine not_checked_of_granted env d writable hcheck (fun hinside => hunsafe ?_) hchecked
      exact ⟨by have := hinside.2; omega, .inl hinside.1⟩
    · rintro ⟨hnowrap, hbuf | hbeyond⟩ houtside
      · exact absurd ⟨hbuf, by omega⟩ houtside
      · omega

end check

/-- A machine with the card, and with memory for the buffer or without. -/
def DriverEnv.idle (buffer : Option (Nat × U64)) : DriverEnv where
  pci_get_device := true
  pci_enable_device := 0
  dma_alloc_coherent := fun _ => buffer
  pci_iomap := fun _ => some 0x1000
  misc_register := 0
  load := fun _ _ _ => 0
  ioread32 := fun _ _ _ => 0

/-- The driver after loading on such a machine. -/
def loaded (buffer : Option (Nat × U64)) : PokeDriver := motu_poke_init.exec (.idle buffer) .zeroed

/-- An offset just below 4 GB passes the check of the loaded driver, and so does
any small one of a driver that got no buffer. -/
theorem unchecked_reads :
    ¬ ReadChecked (.idle (some (0x10000, 0x1000000))) (loaded (some (0x10000, 0x1000000)))
      ⟨0xFFFFFFFC, 0, 0, 0⟩ true ∧
    ¬ ReadChecked (.idle none) (loaded none) ⟨0, 0, 0, 0⟩ true := by
  constructor
  · apply not_checked_of_granted
    · decide
    · intro hinside
      exact absurd hinside.2 (by decide)
  · apply not_checked_of_granted
    · decide
    · intro hinside
      exact hinside.1 rfl

end motu424.poke
