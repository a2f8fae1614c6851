import Motu424.Pal

namespace motu424.poke

structure motu_ioctl_data where
  offset : U32
  value : U32
  write : Int
  bar : Int
  deriving DecidableEq, Repr

/-- What a tool does to the outside: register requests to the poke driver and
lines of text. -/
inductive ToolEvent where
  | ioctl (data : motu_ioctl_data)
  | perror (text : String)
  | printf (fmt : String) (args : List LogArg)
  deriving DecidableEq, Repr

/-- The driver as the tools meet it: the value that a request leaves in its data,
unless it fails. The answer may depend on all that was done before. -/
structure ToolEnv where
  ioctl : List ToolEvent → motu_ioctl_data → Option U32

/-- A driver that grants every request and reads zero everywhere. -/
def ToolEnv.idle : ToolEnv where
  ioctl := fun _ _ => some 0

abbrev Tool (α : Type) : Type := Program ToolEnv (List ToolEvent) α

def tell (event : ToolEvent) : Tool Unit := Program.update fun history => history ++ [event]

def printf (fmt : String) (args : List LogArg) : Tool Unit := tell (.printf fmt args)

def perror (text : String) : Tool Unit := tell (.perror text)

def ioctl_poke (data : motu_ioctl_data) : Tool (Option U32) := do
  let value ← Program.asks fun env history => env.ioctl history data
  tell (.ioctl data)
  pure value

def read_reg (bar : Int) (offset : U32) : Tool U32 := do
  let value ← ioctl_poke { offset := offset, value := 0, write := 0, bar := bar }
  match value with
  | none => do
    perror "ioctl POKE read"
    pure 0xFFFFFFFF
  | some value => pure value

def write_reg (bar : Int) (offset value : U32) : Tool Unit := do
  let value ← ioctl_poke { offset := offset, value := value, write := 1, bar := bar }
  match value with
  | none => perror "ioctl POKE write"
  | some _ => pure ()

/-- The body of the loop of `cmd_scan`, which counts the registers that are not
blank. -/
def scan_round (bar : Int) (off : U32) (found : Int) : Tool Int := do
  let val ← read_reg bar off
  if val ≠ 0 ∧ val ≠ 0xFFFFFFFF then do
    printf "  BAR%d 0x%08X = 0x%08X\n" [.int bar, .u32 off, .u32 val]
    pure (found + 1)
  else pure found

/-- The loop of `cmd_scan`, for a number of rounds at most. -/
def scan_loop (bar : Int) (step end_ : U32) : Nat → U32 → Int → Tool (Option Int)
  | 0, _, _ => pure none
  | fuel + 1, off, found =>
    if off < end_ then do
      let found ← scan_round bar off found
      scan_loop bar step end_ fuel (off + step) found
    else pure (some found)

def scan_step (bar : Int) : U32 := if bar = 0 then 4 else 0x1000

/-- `cmd_scan` on its parsed arguments, with the defaults of the missing ones. It
returns the number of registers found, if the loop ends within its rounds. -/
def cmd_scan (bar : Int) (start end_ : Option U32) (fuel : Nat) : Tool (Option Int) := do
  let start := start.getD 0
  let end_ := end_.getD 0x100000
  let step := scan_step bar
  printf "Scanning BAR%d 0x%08X - 0x%08X (step 0x%X)...\n" [.int bar, .u32 start, .u32 end_, .u32 step]
  let found ← scan_loop bar step end_ fuel start 0
  match found with
  | none => pure none
  | some found => do
    printf "Scan complete: %d non-zero registers found.\n" [.int found]
    pure (some found)

/-- The inner loop of the upload in `cmd_fpga`: the listed bits of one byte,
starting with the previous line value and returning the last one. -/
def upload_bits (byte : U8) : List Nat → U32 → Tool U32
  | [], val_prev => pure val_prev
  | bit :: bits, val_prev => do
    let data_bit : U32 := if byte &&& (1 <<< bit) ≠ 0 then 0x20 else 0x00
    let val : U32 := 0x40 ||| data_bit
    write_reg 1 0x300008 val_prev
    write_reg 1 0x300008 val
    write_reg 1 0x300008 (val ||| 0x80)
    upload_bits byte bits val

/-- The outer loop of the upload. -/
def upload_bytes : List U8 → U32 → Tool Unit
  | [], _ => pure ()
  | byte :: bytes, val_prev => do
    let val ← upload_bits byte (List.range 8) val_prev
    upload_bytes bytes val

/-- The part of `cmd_fpga` that uploads the bitstream it has read. -/
def cmd_fpga_upload (fw : List U8) : Tool Unit := do
  printf "1. Uploading FPGA bitstream (%zu bytes)...\n" [.int fw.length]
  write_reg 2 0x4 0x1
  write_reg 1 0x300000 0xE0
  write_reg 1 0x300004 0xE0
  write_reg 1 0x300008 0x00
  upload_bytes fw 0x40
  write_reg 1 0x300004 0xC0
  write_reg 2 0x8 0x0
  printf "   FPGA bitstream loaded.\n" []

namespace fix_bitbang

/-- This tool does not look at the outcome of a request. -/
def write_reg (bar : Int) (offset value : U32) : Tool Unit := do
  let _value ← ioctl_poke { offset := offset, value := value, write := 1, bar := bar }
  pure ()

/-- One round of the inner loop of `main`. -/
def pulse_bit (byte : U8) (bit : Nat) : Tool Unit := do
  let data_bit : U32 := if byte &&& (1 <<< bit) ≠ 0 then 0x20 else 0x00
  let val_low : U32 := 0x40 ||| data_bit
  let val_high : U32 := 0xC0 ||| data_bit
  write_reg 1 0x300008 val_low
  write_reg 1 0x300008 val_high
  write_reg 1 0x300008 val_low

/-- The main loop, from the byte with index `i` on. -/
def main_loop (fw_size : Nat) : Nat → List U8 → Tool Unit
  | _, [] => pure ()
  | i, byte :: bytes => do
    Program.forEach (List.range 8) (pulse_bit byte)
    Program.when (i % 1000 = 0) (printf "\rProgress: %zu/%zu" [.int i, .int fw_size])
    main_loop fw_size (i + 1) bytes

/-- `main` once the device and the firmware file are open. -/
def upload (fw : List U8) : Tool Unit := do
  printf "Final Corrected FPGA Upload (Clock returning to LOW)...\n" []
  write_reg 2 0x4 0x1
  write_reg 1 0x300000 0xE0
  write_reg 1 0x300004 0xE0
  write_reg 1 0x300008 0x00
  main_loop fw.length 0 fw
  write_reg 1 0x300004 0xC0
  write_reg 2 0x8 0x0
  printf "\nFirmware upload complete. Watch the rack unit!\n" []

/-- `main`, which opens the device and then the firmware file. -/
def main (device : Bool) (firmware : Option (List U8)) : Tool Int :=
  if device = false then do
    perror "open"
    pure 1
  else
    match firmware with
    | none => do
      perror "open firmware"
      pure 1
    | some fw => do
      upload fw
      pure 0

end fix_bitbang

/-- A register write, by the number of the BAR. -/
structure RegWrite where
  bar : Int
  offset : U32
  value : U32
  deriving DecidableEq, Repr

def ToolEvent.reg_write : ToolEvent → Option RegWrite
  | .ioctl data => if data.write ≠ 0 then some ⟨data.bar, data.offset, data.value⟩ else none
  | _ => none

/-- The register writes that a tool asks for, in order. -/
def tool_writes (history : List ToolEvent) : List RegWrite := history.filterMap ToolEvent.reg_write

def ToolEvent.reg_read : ToolEvent → Option (Int × U32)
  | .ioctl data => if data.write = 0 then some (data.bar, data.offset) else none
  | _ => none

/-- The registers that a tool asks to read, in order. -/
def tool_reads (history : List ToolEvent) : List (Int × U32) := history.filterMap ToolEvent.reg_read

section specs

variable (env : ToolEnv) (history : List ToolEvent)

@[simp] theorem exec_tell (event : ToolEvent) : (tell event).exec env history = history ++ [event] := (rfl)

@[simp] theorem exec_printf (fmt : String) (args : List LogArg) :
    (printf fmt args).exec env history = history ++ [.printf fmt args] := (rfl)

@[simp] theorem exec_perror (text : String) : (perror text).exec env history = history ++ [.perror text] := (rfl)

@[simp] theorem eval_ioctl_poke (data : motu_ioctl_data) :
    (ioctl_poke data).eval env history = env.ioctl history data := (rfl)

@[simp] theorem exec_ioctl_poke (data : motu_ioctl_data) :
    (ioctl_poke data).exec env history = history ++ [.ioctl data] := (rfl)

@[simp] theorem tool_writes_append (xs ys : List ToolEvent) :
    tool_writes (xs ++ ys) = tool_writes xs ++ tool_writes ys :=
  List.filterMap_append

@[simp] theorem tool_reads_append (xs ys : List ToolEvent) :
    tool_reads (xs ++ ys) = tool_reads xs ++ tool_reads ys :=
  List.filterMap_append

/-- A read is one request, with a line of text if it fails. -/
theorem exec_read_reg (bar : Int) (offset : U32) :
    ∃ new, (read_reg bar offset).exec env history = history ++ new ∧ tool_reads new = [(bar, offset)] := by
  rw [read_reg, Program.exec_bind, eval_ioctl_poke, exec_ioctl_poke]
  cases env.ioctl history { offset := offset, value := 0, write := 0, bar := bar } with
  | none => exact ⟨[_, .perror "ioctl POKE read"], List.append_assoc .., rfl⟩
  | some value => exact ⟨[_], rfl, rfl⟩

/-- So is a write. -/
theorem exec_write_reg (bar : Int) (offset value : U32) :
    ∃ new, (write_reg bar offset value).exec env history = history ++ new ∧
      tool_writes new = [⟨bar, offset, value⟩] := by
  rw [write_reg, Program.exec_bind, eval_ioctl_poke, exec_ioctl_poke]
  cases env.ioctl history { offset := offset, value := value, write := 1, bar := bar } with
  | none => exact ⟨[_, .perror "ioctl POKE write"], List.append_assoc .., rfl⟩
  | some value => exact ⟨[_], rfl, rfl⟩

theorem fix_bitbang.exec_write_reg (bar : Int) (offset value : U32) :
    (fix_bitbang.write_reg bar offset value).exec env history =
      history ++ [.ioctl { offset := offset, value := value, write := 1, bar := bar }] := (rfl)

end specs

end motu424.poke
