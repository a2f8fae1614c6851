import Motu424.Wdf.Requests
import Motu424.Wdf.Frontends

open Program ByteMemory

namespace motu424.wdf

/-- What the tool shows and how long it waits. -/
inductive TestEvent where
  | printf (fmt : String) (args : List LogArg)
  | sleep (msecs : Nat)
  deriving DecidableEq, Repr

/-- The tool, whether it has opened the device, and the machine behind the device. -/
structure TestTool where
  machine : Machine
  opened : Bool
  output : List TestEvent
  deriving DecidableEq, Repr

/-- The outside: that of the driver, and the system between the tool and the driver. The
driver gives its device no name, so whether the system opens a device under the path of the
tool is up to what else is installed. It may refuse a request before the driver gets it, and
it makes an error of the status that the driver completes a request with. -/
structure TestEnv where
  driver : Env
  opens : TestTool → Except U32 Unit
  hands_on : TestTool → WDFREQUEST → Except U32 Unit
  last_error : NTSTATUS → U32

/-- The system hands every request to an open device on to its driver. -/
def TestEnv.Delivers (env : TestEnv) : Prop :=
  ∀ t : TestTool, t.opened = true → ∀ request, env.hands_on t request = .ok ()

abbrev Test (α : Type) : Type := Program TestEnv TestTool α

def printf (fmt : String) (args : List LogArg) : Test Unit :=
  Program.update fun t => { t with output := t.output ++ [.printf fmt args] }

def Sleep (msecs : Nat) : Test Unit := Program.update fun t => { t with output := t.output ++ [.sleep msecs] }

def DEVICE_PATH : String := "\\\\.\\MOTU424"

def open_device : Test Int := do
  let result ← Program.asks fun env t => env.opens t
  match result with
  | .error err => do
    printf "ERROR: Cannot open device %ws (error=%lu)\n" [.text DEVICE_PATH, .u32 err]
    printf "Make sure the motu424 driver is installed and the device is present.\n" []
    pure (-1)
  | .ok () => do
    Program.update fun t => { t with opened := true }
    pure 0

def close_device : Test Unit := Program.update fun t => { t with opened := false }

/-- How a request ends: with an error or the bytes that were returned and the words of the
output. -/
abbrev IoResult := Except U32 Unit × Nat × List U32

/-- The driver carries the request out, and the system returns what it completes it with. -/
def carry_out (request : WDFREQUEST) : Test IoResult := do
  let answer ← Program.asks fun env t =>
    (completions ((request_step env.driver t.machine request).since t.machine)).getLast?
  let env ← Program.asks fun env _ => env
  Program.update fun t => { t with machine := request_step env.driver t.machine request }
  match answer with
  | some (status, bytes, output) =>
    if NT_SUCCESS status then pure (.ok (), bytes, output)
    else pure (.error (env.last_error status), bytes, [])
  -- the driver completes every request, so there always is an answer
  | none => pure (.error 0, 0, [])

def DeviceIoControl (request : WDFREQUEST) : Test IoResult := do
  let handed ← Program.asks fun env t => env.hands_on t request
  match handed with
  | .error err => pure (.error err, 0, [])
  | .ok () => carry_out request

/-- The result of `ioctl`: its return value, the bytes returned and the output buffer. -/
structure IoctlResult where
  ret : Int
  returned : Nat
  out : List U32
  deriving DecidableEq, Repr

/-- The helper `ioctl`, with the words that the output buffer holds before. -/
def ioctl (code : U32) (input : List U8) (out : List U32) : Test IoctlResult := do
  let (result, bytesReturned, output) ← DeviceIoControl ⟨code, input, 4 * out.length⟩
  match result with
  | .error err => do
    printf "ERROR: IOCTL 0x%lx failed (error=%lu)\n" [.u32 code, .u32 err]
    pure ⟨-1, bytesReturned, out⟩
  | .ok () => pure ⟨0, bytesReturned, output ++ out.drop output.length⟩

/-- The bytes of a register operation. -/
def MOTU424_REG_OP.bytes (op : MOTU424_REG_OP) : List U8 :=
  LittleEndian.split 4 op.bar.toNat ++ LittleEndian.split 4 op.offset.toNat ++ LittleEndian.split 4 op.value.toNat

def MOTU424_REG_OP.words (op : MOTU424_REG_OP) : List U32 := [op.bar, op.offset, op.value]

/-- The field of a structure of words. -/
def field (out : List U32) (i : Nat) : U32 := out.getD i 0

def test_info (failures : Int) : Test Int := do
  printf "[Test %d] Get device info... " [.int 1]
  let r ← ioctl IOCTL_MOTU424_GET_INFO [] [0, 0, 0, 0]
  if r.ret = 0 ∧ r.returned = 16 then do
    printf "PASS\n" []
    printf "  Rate: %u Hz, DMA: %s, Status: 0x%08x\n"
      [.u32 (field r.out 0), .text (if field r.out 1 ≠ 0 then "ON" else "OFF"), .u32 (field r.out 2)]
    if field r.out 2 &&& 0x13 = 0x13 then printf "  Clock sync: LOCKED\n" []
    else printf "  Clock sync: NOT LOCKED (warm boot?)\n" []
    pure failures
  else do
    printf "FAIL\n" []
    pure (failures + 1)

def test_status (failures : Int) : Test Int := do
  printf "[Test %d] Read BAR2 status... " [.int 2]
  let r ← ioctl IOCTL_MOTU424_GET_STATUS [] [0]
  if r.ret = 0 ∧ r.returned = 4 then do
    printf "PASS (0x%08x)\n" [.u32 (field r.out 0)]
    pure failures
  else do
    printf "FAIL\n" []
    pure (failures + 1)

/-- Tests 3 to 6, which read a register. -/
def test_read_reg (title : String) (n : Int) (bar offset : U32) (failures : Int) : Test Int := do
  printf title [.int n]
  let op : MOTU424_REG_OP := ⟨bar, offset, 0⟩
  let r ← ioctl IOCTL_MOTU424_READ_REG op.bytes op.words
  if r.ret = 0 then do
    printf "PASS (0x%08x)\n" [.u32 (field r.out 2)]
    pure failures
  else do
    printf "FAIL\n" []
    pure (failures + 1)

/-- Tests 7, 9 and 11, which start or stop the DMA. -/
def test_command (title : String) (n : Int) (code : U32) (failures : Int) : Test Int := do
  printf title [.int n]
  let r ← ioctl code [] []
  if r.ret = 0 then do
    printf "PASS\n" []
    pure failures
  else do
    printf "FAIL\n" []
    pure (failures + 1)

def test_position (failures : Int) : Test Int := do
  printf "[Test %d] Read DMA position... " [.int 8]
  let r ← ioctl IOCTL_MOTU424_GET_POSITION [] [0]
  if r.ret = 0 then do
    printf "PASS (0x%08x)\n" [.u32 (field r.out 0)]
    pure failures
  else do
    printf "FAIL\n" []
    pure (failures + 1)

def test_moving (failures : Int) : Test Int := do
  printf "[Test %d] Read DMA position (after start)... " [.int 10]
  Sleep 100
  let r1 ← ioctl IOCTL_MOTU424_GET_POSITION [] [0]
  Sleep 100
  let r2 ← ioctl IOCTL_MOTU424_GET_POSITION [] [0]
  let pos1 := field r1.out 0
  let pos2 := field r2.out 0
  if pos1 ≠ 0 ∨ pos2 ≠ 0 then printf "PASS (pos1=0x%08x pos2=0x%08x)\n" [.u32 pos1, .u32 pos2]
  else printf "PASS (positions are 0 — may need audio data)\n" []
  pure failures

def test_stopped (failures : Int) : Test Int := do
  printf "[Test %d] Verify DMA stopped... " [.int 12]
  let r ← ioctl IOCTL_MOTU424_GET_INFO [] [0, 0, 0, 0]
  if field r.out 1 = 0 then do
    printf "PASS\n" []
    pure failures
  else do
    printf "FAIL (dma_running=%u)\n" [.u32 (field r.out 1)]
    pure (failures + 1)

def test_suite : Test Int := do
  printf "=== MOTU PCI-424 Test Suite ===\n\n" []
  let failures ← test_info 0
  let failures ← test_status failures
  let failures ← test_read_reg "[Test %d] Read BAR1 0x00 (port config)... " 3 1 0x00 failures
  let failures ← test_read_reg "[Test %d] Read BAR1 0x18 (DMA base)... " 4 1 0x18 failures
  let failures ← test_read_reg "[Test %d] Read BAR0 0x6fec (sync status)... " 5 0 0x6fec failures
  let failures ← test_read_reg "[Test %d] Read BAR0 0x3fffc (DSP boot vector)... " 6 0 0x3fffc failures
  let failures ← test_command "[Test %d] Stop DMA... " 7 IOCTL_MOTU424_STOP failures
  let failures ← test_position failures
  let failures ← test_command "[Test %d] Start DMA... " 9 IOCTL_MOTU424_START failures
  let failures ← test_moving failures
  let failures ← test_command "[Test %d] Stop DMA (cleanup)... " 11 IOCTL_MOTU424_STOP failures
  let failures ← test_stopped failures
  printf "\n=== Results: %d/%d tests passed ===\n" [.int (12 - failures), .int 12]
  if failures > 0 then do
    printf "FAILED: %d test(s) failed\n" [.int failures]
    pure 1
  else do
    printf "ALL TESTS PASSED\n" []
    pure 0

/-- The path of `main` for the command `test`. -/
def main_test : Test Int := do
  let err ← open_device
  if err ≠ 0 then pure 1
  else do
    let ret ← test_suite
    close_device
    pure ret

end motu424.wdf
