import Motu424.ReplayTrace.Smart

open Program
open motu424.poke

namespace motu424.replay

/-- A request for an address: its outcome, and the address, which is zero before. -/
def ioctl_addr (cmd : U32) : Replay (Int × U32) := do
  let before ← Program.gets fun r => r.driver.history.length
  let ret ← on_driver (motu_ioctl (request_of cmd) ⟨some ⟨0, 0, 0, 0⟩, true⟩)
  let dma_addr ← Program.gets fun r => ((r.driver.history.drop before).filterMap smart.copied_addr).getLast?.getD 0
  pure (ret, dma_addr)

/-- The loop over the words of the DSP memory. -/
def zero_dsp_ram : Replay Unit := Program.forEach (List.range 0x10000) fun i => write_reg 0 (BitVec.ofNat 32 (i * 4)) 0

/-- The calls of an included golden file, with the offset and the value of each. -/
def golden_calls (calls : List (Nat × Nat)) : Replay Unit :=
  Program.forEach calls fun call => write_reg 0 (BitVec.ofNat 32 call.1) (BitVec.ofNat 32 call.2)

/-- The writes that start the DSP. -/
def kickstart : Replay Unit := do
  write_reg 2 0x0 0x0
  write_reg 0 0x3fffc 0x0
  write_reg 2 0x4 0x2

namespace poke_fpga

/-- The number that this tool has for the address of the buffer. -/
def GET_DMA : U32 := 0x12345678

/-- The inner loop of the upload, which returns the last value of the line. -/
def upload_bits (byte : U8) : List Nat → U32 → Replay U32
  | [], val_prev => pure val_prev
  | bit :: bits, val_prev => do
    let data_bit : U32 := if byte &&& (1 <<< bit) ≠ 0 then 0x20 else 0x00
    let val : U32 := 0x40 ||| data_bit
    write_reg 1 0x300008 val_prev
    write_reg 1 0x300008 val
    write_reg 1 0x300008 (val ||| 0x80)
    upload_bits byte bits val

def upload_bytes : List U8 → U32 → Replay Unit
  | [], _ => pure ()
  | byte :: bytes, val_prev => do
    let val ← upload_bits byte (List.range 8) val_prev
    upload_bytes bytes val

def upload (fw : List U8) : Replay Unit := do
  tell (.printf "1. Uploading FPGA Firmware to BAR1 (bit-banging)...\n" [])
  write_reg 2 0x4 0x1
  write_reg 1 0x300000 0xE0
  write_reg 1 0x300004 0xE0
  write_reg 1 0x300008 0x00
  upload_bytes fw 0x40
  write_reg 1 0x300004 0xC0
  write_reg 2 0x8 0x0
  tell (.printf "\n   Firmware upload complete.\n" [])

def load_dsp (golden_dsp golden_dsp_patch : List (Nat × Nat)) : Replay Unit := do
  tell (.printf "2. Zeroing out DSP RAM...\n" [])
  zero_dsp_ram
  tell (.usleep 10000)
  tell (.printf "   Uploading precise DSP Instructions to BAR0...\n" [])
  golden_calls golden_dsp
  tell (.printf "   Applying dynamic DSP patches (includes Routing and Sample Rate)...\n" [])
  golden_calls golden_dsp_patch
  tell (.printf "   DSP upload complete.\n" [])

def boot (dma_addr : U32) : Replay Int := do
  tell (.printf "   Using Linux physical DMA address: 0x%X\n" [.u32 dma_addr])
  tell (.printf "3. Commanding DSP to boot...\n" [])
  kickstart
  tell (.usleep 500000)
  let vector ← read_reg 0 0x3fffc
  tell (.printf "Boot Vector is: 0x%X\n" [.u32 vector])
  let port1 ← read_reg 2 0x0
  tell (.printf "Current Status (Port 1): 0x%X\n" [.u32 port1])
  let port2 ← read_reg 2 0x4
  tell (.printf "Current Status (Port 2): 0x%X\n" [.u32 port2])
  tell (.printf "\nDONE! Watch the 24I/O Sync Light.\n" [])
  pure 0

/-- `main` once the device and the firmware file are open. -/
def run (fw : List U8) (golden_dsp golden_dsp_patch : List (Nat × Nat)) : Replay Int := do
  upload fw
  load_dsp golden_dsp golden_dsp_patch
  let (ret, dma_addr) ← ioctl_addr GET_DMA
  if ret < 0 then do
    tell (.perror "GET_DMA")
    pure 1
  else boot dma_addr

def main (device : Bool) (argv0 : String) (argument : Argument (List U8))
    (golden_dsp golden_dsp_patch : List (Nat × Nat)) : Replay Int :=
  if device = false then do
    tell (.perror "open /dev/motu_poke")
    pure 1
  else
    match argument with
    | .missing => do
      tell (.printf "Usage: %s <firmware_file>\n" [.text argv0])
      pure 1
    | .no_file => do
      tell (.perror "open firmware")
      pure 1
    | .file fw => run fw golden_dsp golden_dsp_patch

end poke_fpga

namespace safe_sync

def MOTU_IOC_GET_DMA : U32 := IOR 2 4

/-- A round of the inner loop of the upload. -/
def upload_bit (byte : U8) (bit : Nat) : Replay Unit := do
  let data_bit : U32 := if byte &&& (1 <<< bit) ≠ 0 then 0x20 else 0x00
  let val : U32 := 0x40 ||| data_bit
  write_reg 1 0x300008 val
  write_reg 1 0x300008 val
  write_reg 1 0x300008 (val ||| 0x80)

def upload (fw : List U8) : Replay Unit := do
  tell (.printf "1. Uploading FPGA Firmware...\n" [])
  write_reg 2 0x4 0x1
  write_reg 1 0x300000 0xE0
  write_reg 1 0x300004 0xE0
  write_reg 1 0x300008 0x00
  Program.forEach fw fun byte => Program.forEach (List.range 8) (upload_bit byte)
  write_reg 1 0x300004 0xC0
  write_reg 2 0x8 0x0
  tell (.printf "   Firmware upload complete.\n" [])

def load_dsp (golden_dsp golden_dsp_patch : List (Nat × Nat)) : Replay Unit := do
  tell (.printf "2. Clearing and Uploading DSP Brain...\n" [])
  zero_dsp_ram
  golden_calls golden_dsp
  golden_calls golden_dsp_patch

def boot (dma_addr : U32) : Replay Unit := do
  tell (.printf "3. Kickstarting DSP with Linux DMA at 0x%X\n" [.u32 dma_addr])
  kickstart
  tell (.usleep 500000)
  let vector ← read_reg 0 0x3fffc
  tell (.printf "   Boot Vector Check: 0x%X\n" [.u32 vector])

/-- A statement of `golden_sequence.c`: a call, whose value may be made from the address
of the buffer, or a pause. -/
inductive Statement where
  | write_reg (bar : Int) (offset : U32) (value : U32 → U32)
  | usleep (usec : Nat)

def Statement.perform (dma_addr : U32) : Statement → Replay Unit
  | .write_reg bar offset value => replay.write_reg bar offset (value dma_addr)
  | .usleep usec => tell (.usleep usec)

def configure (dma_addr : U32) (golden_sequence : List Statement) : Replay Unit := do
  tell (.printf "4. Sending exhaustive configuration (%d steps)...\n" [.int 24678])
  Program.forEach golden_sequence (Statement.perform dma_addr)
  tell (.printf "\nDONE! Card should now be live. Watch the lights.\n" [])
  tell (.printf "Starting background IRQ ACK loop to keep DSP active...\n" [])

/-- A round of the loop at the end, which never ends. -/
def ack_round : Replay Unit := do
  write_reg 1 0x400000 0x10
  tell (.usleep 500)

/-- `main` once the device and the firmware file are open, up to the given round of the
loop at its end. -/
def run (fw : List U8) (golden_dsp golden_dsp_patch : List (Nat × Nat)) (golden_sequence : List Statement)
    (rounds : Nat) : Replay Unit := do
  upload fw
  load_dsp golden_dsp golden_dsp_patch
  let (_ret, dma_addr) ← ioctl_addr MOTU_IOC_GET_DMA
  boot dma_addr
  configure dma_addr golden_sequence
  Program.forEach (List.range rounds) fun _ => ack_round

/-- `main` with the device and the firmware file, if they can be opened. It returns only
if they cannot. -/
def main (device : Bool) (firmware : Option (List U8)) (golden_dsp golden_dsp_patch : List (Nat × Nat))
    (golden_sequence : List Statement) (rounds : Nat) : Replay (Option Int) :=
  if device = false then do
    tell (.perror "open /dev/motu_poke")
    pure (some 1)
  else
    match firmware with
    | none => do
      tell (.perror "open firmware")
      pure (some 1)
    | some fw => do
      run fw golden_dsp golden_dsp_patch golden_sequence rounds
      pure none

end safe_sync

end motu424.replay
