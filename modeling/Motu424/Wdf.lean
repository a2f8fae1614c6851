import Motu424.Init

namespace motu424.wdf

abbrev NTSTATUS := U32

def NT_SUCCESS (status : NTSTATUS) : Prop := 0 ≤ status.toInt

instance (status : NTSTATUS) : Decidable (NT_SUCCESS status) := inferInstanceAs (Decidable (_ ≤ _))

def STATUS_SUCCESS : NTSTATUS := 0
def STATUS_INVALID_PARAMETER : NTSTATUS := 0xC000000D
def STATUS_INVALID_DEVICE_REQUEST : NTSTATUS := 0xC0000010
def STATUS_BUFFER_TOO_SMALL : NTSTATUS := 0xC0000023
def STATUS_INSUFFICIENT_RESOURCES : NTSTATUS := 0xC000009A
def STATUS_DEVICE_NOT_READY : NTSTATUS := 0xC00000A3
def STATUS_DEVICE_CONFIGURATION_ERROR : NTSTATUS := 0xC0000182

/-- The status of a call that failed. -/
structure NtError where
  status : NTSTATUS
  failed : ¬ NT_SUCCESS status
  deriving DecidableEq, Repr

/-- A translated resource, by the type of its descriptor. -/
inductive CmResource where
  | memory (start : U64) (length : U32)
  | port (start : U64) (length : U32)
  | interrupt
  | other
  deriving DecidableEq, Repr

/-- How reading a firmware file goes. -/
inductive FirmwareFile where
  | missing (err : NtError)
  | size_unknown (err : NtError)
  | no_memory (size : Nat)
  | unreadable (err : NtError)
  | contents (bytes : List U8)
  deriving DecidableEq, Repr

/-- The outside of the Windows driver: also the mapping of physical ranges and
the files in the driver directory. -/
structure WdfEnv extends Env where
  map_io : List Event → U64 → U32 → Option Nat
  firmware_file : String → FirmwareFile

structure DEVICE_CONTEXT where
  machine : Machine
  bar0_base : Option Nat
  bar0_len : U32
  bar1_base : Option Nat
  bar1_len : U32
  bar2_base : Option Nat
  bar2_len : U32
  fw_fpga_data : Option (List U8)
  fw_init_data : Option (List U8)
  deriving DecidableEq, Repr

/-- The zeroed context of `EvtDriverDeviceAdd`. -/
def DEVICE_CONTEXT.fresh : DEVICE_CONTEXT where
  machine := ⟨.fresh none none none, []⟩
  bar0_base := none
  bar0_len := 0
  bar1_base := none
  bar1_len := 0
  bar2_base := none
  bar2_len := 0
  fw_fpga_data := none
  fw_init_data := none

abbrev Wdf (α : Type) : Type := Program WdfEnv DEVICE_CONTEXT α

/-- Run shared code on the context of the device. -/
def shared {α : Type} (p : Pal α) : Wdf α :=
  p.zoom WdfEnv.toEnv DEVICE_CONTEXT.machine fun m d => { d with machine := m }

def log (level : LogLevel) (fmt : String) (args : List LogArg) : Wdf Unit :=
  shared (pal_log level fmt args)

def MmMapIoSpaceEx (start : U64) (length : U32) : Wdf (Option Nat) := do
  let base ← Program.asks fun env d => env.map_io d.machine.trace start length
  shared (perform (.map_io start length base))
  pure base

/-- Read a file into a new buffer. The caller gets no data unless the status is
a success. -/
def LoadFirmwareFile (filename : String) : Wdf (NTSTATUS × Option (List U8)) := do
  let file ← Program.asks fun env _ => env.firmware_file filename
  match file with
  | .missing err => do
    log .warn "Firmware file not found: %ws (0x%x)\n" [.text filename, .u32 err.status]
    pure (err.status, none)
  | .size_unknown err => do
    log .err "ZwQueryInformationFile failed: 0x%x\n" [.u32 err.status]
    pure (err.status, none)
  | .no_memory size => do
    log .err "Failed to allocate %zu bytes for fw\n" [.int size]
    pure (STATUS_INSUFFICIENT_RESOURCES, none)
  | .unreadable err => do
    log .err "ZwReadFile failed: 0x%x\n" [.u32 err.status]
    pure (err.status, none)
  | .contents bytes => do
    log .info "Loaded firmware: %ws (%zu bytes)\n" [.text filename, .int bytes.length]
    pure (STATUS_SUCCESS, some bytes)

/-- The inner switch of the resource loop: record a mapped range as the BAR with
this index. -/
def assign_bar (bar_index base : Nat) (length : U32) (d : DEVICE_CONTEXT) : DEVICE_CONTEXT :=
  match bar_index with
  | 0 => { d with
      bar0_base := some base
      bar0_len := length
      machine.ctx.iobase_dsp := ⟨some base⟩ }
  | 1 => { d with
      bar1_base := some base
      bar1_len := length
      machine.ctx.iobase_reg := ⟨some base⟩ }
  | 2 => { d with
      bar2_base := some base
      bar2_len := length
      machine.ctx.iobase_port := ⟨some base⟩ }
  | _ => d

/-- The resource loop, from the descriptor after `bar_index` memory ranges on. A
missing descriptor is skipped. -/
def parse_resources : Nat → List (Option CmResource) → Wdf NTSTATUS
  | _, [] => pure STATUS_SUCCESS
  | bar_index, none :: resources => parse_resources bar_index resources
  | bar_index, some (.memory start length) :: resources => do
    let base ← MmMapIoSpaceEx start length
    match base with
    | none => do
      log .err "MmMapIoSpace failed for BAR (phys=0x%llx len=%lu)\n" [.u64 start, .u32 length]
      pure STATUS_INSUFFICIENT_RESOURCES
    | some base => do
      log .info "BAR%d: phys=0x%llx len=%lu virt=%p\n"
        [.int bar_index, .u64 start, .u32 length, .ptr (some base)]
      Program.update (assign_bar bar_index base length)
      parse_resources (bar_index + 1) resources
  | bar_index, some (.port start length) :: resources => do
    log .info "I/O port BAR: phys=0x%llx len=%lu\n" [.u64 start, .u32 length]
    parse_resources bar_index resources
  | bar_index, some .interrupt :: resources => do
    log .info "IRQ resource found\n" []
    parse_resources bar_index resources
  | bar_index, some .other :: resources => parse_resources bar_index resources

def alloc_dma_buffer : Wdf Unit := do
  let err ← shared (motu424_dma_alloc MOTU_DMA_BUF_MAX)
  Program.when (err ≠ 0) (log .warn "DMA alloc failed (continuing)\n" [])

def FPGA_FILE : String := "\\SystemRoot\\System32\\drivers\\motu424\\altera424b.rbf"
def INIT_FILE : String := "\\SystemRoot\\System32\\drivers\\motu424\\init_sequence.bin"

def load_fpga_file : Wdf Unit := do
  let (status, data) ← LoadFirmwareFile FPGA_FILE
  Program.when (¬ NT_SUCCESS status) (log .warn "FPGA firmware not found (warm boot)\n" [])
  Program.update fun d => { d with fw_fpga_data := data }

def load_init_file : Wdf Unit := do
  let (status, data) ← LoadFirmwareFile INIT_FILE
  Program.when (¬ NT_SUCCESS status) (log .warn "Init sequence not found (warm boot)\n" [])
  Program.update fun d => { d with fw_init_data := data }

def init_hardware : Wdf Unit := do
  let d ← Program.gets id
  let err ← shared (motu424_full_init d.fw_fpga_data d.fw_init_data)
  Program.when (err ≠ 0) (log .warn "Hardware init incomplete: %d\n" [.int err])

def enable_interrupt : Pal Unit := do
  let err ← pal_irq_request
  let ctx ← get_ctx
  match err with
  | .error _ => pal_log .warn "IRQ request failed\n" []
  | .ok _ => do
    pal_write32 ctx.iobase_reg MOTU_REG_INT_MASK MOTU_INT_PERIOD_ELAPSED
    pal_log .info "IRQ enabled\n" []

/-- The part of `EvtDevicePrepareHardware` after the check of the BARs. -/
def bring_up : Wdf NTSTATUS := do
  alloc_dma_buffer
  load_fpga_file
  load_init_file
  init_hardware
  shared enable_interrupt
  pure STATUS_SUCCESS

/-- The check of the BARs and what follows it. -/
def check_bars : Wdf NTSTATUS := do
  let d ← Program.gets id
  if d.machine.ctx.iobase_dsp = .null ∨ d.machine.ctx.iobase_reg = .null then do
    log .err "Missing required BARs (dsp=%p reg=%p)\n"
      [.ptr d.machine.ctx.iobase_dsp.addr, .ptr d.machine.ctx.iobase_reg.addr]
    pure STATUS_DEVICE_CONFIGURATION_ERROR
  else bring_up

def EvtDevicePrepareHardware (resources : List (Option CmResource)) : Wdf NTSTATUS := do
  log .info "PrepareHardware: %lu translated resources\n" [.int resources.length]
  let status ← parse_resources 0 resources
  if NT_SUCCESS status then check_bars else pure status

def MmUnmapIoSpace (base : Nat) (length : U32) : Wdf Unit := shared (perform (.unmap_io base length))

def disable_interrupt : Pal Unit := do
  let ctx ← get_ctx
  Program.when (ctx.iobase_reg ≠ .null) (pal_write32 ctx.iobase_reg MOTU_REG_INT_MASK 0)

def free_firmware : Wdf Unit :=
  Program.update fun d => { d with fw_fpga_data := none, fw_init_data := none }

/-- Unmap the range that is recorded as a BAR, and forget it. -/
def unmap_bar (base : DEVICE_CONTEXT → Option Nat) (length : DEVICE_CONTEXT → U32)
    (forget : DEVICE_CONTEXT → DEVICE_CONTEXT) : Wdf Unit := do
  let d ← Program.gets id
  match base d with
  | none => pure ()
  | some addr => do
    MmUnmapIoSpace addr (length d)
    Program.update forget

def unmap_bar0 : Wdf Unit :=
  unmap_bar (·.bar0_base) (·.bar0_len) fun d => { d with
    bar0_base := none
    machine.ctx.iobase_dsp := .null }

def unmap_bar1 : Wdf Unit :=
  unmap_bar (·.bar1_base) (·.bar1_len) fun d => { d with
    bar1_base := none
    machine.ctx.iobase_reg := .null }

def unmap_bar2 : Wdf Unit :=
  unmap_bar (·.bar2_base) (·.bar2_len) fun d => { d with
    bar2_base := none
    machine.ctx.iobase_port := .null }

def EvtDeviceReleaseHardware : Wdf NTSTATUS := do
  log .info "ReleaseHardware\n" []
  shared motu424_hw_stop
  shared disable_interrupt
  shared pal_irq_free
  shared motu424_dma_free
  free_firmware
  unmap_bar0
  unmap_bar1
  unmap_bar2
  pure STATUS_SUCCESS

def FILE_DEVICE_UNKNOWN : U32 := 0x22
def METHOD_BUFFERED : U32 := 0
def FILE_ANY_ACCESS : U32 := 0

def CTL_CODE (device_type function method access : U32) : U32 :=
  device_type <<< 16 ||| access <<< 14 ||| function <<< 2 ||| method

def MOTU424_IOCTL (function : U32) : U32 :=
  CTL_CODE FILE_DEVICE_UNKNOWN function METHOD_BUFFERED FILE_ANY_ACCESS

def IOCTL_MOTU424_GET_INFO : U32 := MOTU424_IOCTL 0x800
def IOCTL_MOTU424_START : U32 := MOTU424_IOCTL 0x801
def IOCTL_MOTU424_STOP : U32 := MOTU424_IOCTL 0x802
def IOCTL_MOTU424_GET_POSITION : U32 := MOTU424_IOCTL 0x803
def IOCTL_MOTU424_READ_REG : U32 := MOTU424_IOCTL 0x805
def IOCTL_MOTU424_WRITE_REG : U32 := MOTU424_IOCTL 0x806
def IOCTL_MOTU424_GET_STATUS : U32 := MOTU424_IOCTL 0x807

/-- A device control request: its code, its input, and the room for its output. -/
structure WDFREQUEST where
  code : U32
  input : List U8
  output_length : Nat
  deriving DecidableEq, Repr

structure MOTU424_REG_OP where
  bar : U32
  offset : U32
  value : U32
  deriving DecidableEq, Repr

/-- The register operation in the first twelve bytes of an input. -/
def MOTU424_REG_OP.of_input : List U8 → Option MOTU424_REG_OP
  | b0 :: b1 :: b2 :: b3 :: o0 :: o1 :: o2 :: o3 :: v0 :: v1 :: v2 :: v3 :: _ =>
    some ⟨le32 b0 b1 b2 b3, le32 o0 o1 o2 o3, le32 v0 v1 v2 v3⟩
  | _ => none

/-- The status, the byte count and the output words of a request. -/
abbrev Answer := NTSTATUS × Nat × List U32

/-- An answer that is only a status. -/
def Answer.of_status (status : NTSTATUS) : Answer := (status, 0, [])

/-- An answer of whole words. -/
def Answer.of_words (words : List U32) : Answer := (STATUS_SUCCESS, 4 * words.length, words)

/-- Read a register if its BAR is mapped. -/
def read_or_zero {bar : Bar} (base : Iomem bar) (offset : U32) : Pal U32 :=
  if base = .null then pure 0 else pal_read32 base offset

def ioctl_get_info (output_length : Nat) : Pal Answer :=
  if output_length < 16 then pure (.of_status STATUS_BUFFER_TOO_SMALL)
  else do
    let ctx ← get_ctx
    let port_status ← read_or_zero ctx.iobase_port 0
    let port_conf ← read_or_zero ctx.iobase_reg MOTU_REG_PORT_CONF
    pure (.of_words [ctx.rate, BitVec.ofInt 32 ctx.dma_running, port_status, port_conf])

def ioctl_start : Pal Answer := do
  let ctx ← get_ctx
  if ctx.iobase_reg = .null then pure (.of_status STATUS_DEVICE_NOT_READY)
  else do
    let val ← pal_read32 ctx.iobase_reg MOTU_REG_PORT_CONF
    let val := val ||| (MOTU_PORT_CONF_DMA_EN ||| MOTU_PORT_CONF_RUN ||| MOTU_PORT_CONF_DMA_RD)
    pal_write32 ctx.iobase_reg MOTU_REG_PORT_CONF val
    set_ctx fun ctx => { ctx with port_conf_shadow := val, dma_running := 1 }
    pal_log .info "DMA started\n" []
    pure (.of_status STATUS_SUCCESS)

def ioctl_stop : Pal Answer := do
  let ctx ← get_ctx
  if ctx.iobase_reg = .null then pure (.of_status STATUS_DEVICE_NOT_READY)
  else do
    let val ← pal_read32 ctx.iobase_reg MOTU_REG_PORT_CONF
    let val := val &&& ~~~(MOTU_PORT_CONF_DMA_EN ||| MOTU_PORT_CONF_RUN |||
      MOTU_PORT_CONF_DMA_RD ||| MOTU_PORT_CONF_START)
    pal_write32 ctx.iobase_reg MOTU_REG_PORT_CONF val
    set_ctx fun ctx => { ctx with port_conf_shadow := val, dma_running := 0 }
    pal_log .info "DMA stopped\n" []
    pure (.of_status STATUS_SUCCESS)

def ioctl_get_position (output_length : Nat) : Pal Answer :=
  if output_length < 4 then pure (.of_status STATUS_BUFFER_TOO_SMALL)
  else do
    let ctx ← get_ctx
    let pos ← read_or_zero ctx.iobase_reg MOTU_REG_DMA_CTRL
    pure (.of_words [pos])

/-- The answer to a register read: the operation with the value filled in, if
the output has room for it. -/
def read_reg_answer (regOp : MOTU424_REG_OP) (output_length : Nat) (value : U32) : Answer :=
  if output_length < 12 then .of_status STATUS_BUFFER_TOO_SMALL
  else .of_words [regOp.bar, regOp.offset, value]

def ioctl_read_reg (input : List U8) (output_length : Nat) : Pal Answer := do
  let ctx ← get_ctx
  match MOTU424_REG_OP.of_input input with
  | none => pure (.of_status STATUS_BUFFER_TOO_SMALL)
  | some regOp =>
    if regOp.bar = 0 then do
      let value ← pal_read32 ctx.iobase_dsp regOp.offset
      pure (read_reg_answer regOp output_length value)
    else if regOp.bar = 1 then do
      let value ← pal_read32 ctx.iobase_reg regOp.offset
      pure (read_reg_answer regOp output_length value)
    else if regOp.bar = 2 then do
      let value ← pal_read32 ctx.iobase_port regOp.offset
      pure (read_reg_answer regOp output_length value)
    else pure (.of_status STATUS_INVALID_PARAMETER)

def ioctl_write_reg (input : List U8) : Pal Answer := do
  let ctx ← get_ctx
  match MOTU424_REG_OP.of_input input with
  | none => pure (.of_status STATUS_BUFFER_TOO_SMALL)
  | some regOp =>
    if regOp.bar = 0 then do
      pal_write32 ctx.iobase_dsp regOp.offset regOp.value
      pure (.of_status STATUS_SUCCESS)
    else if regOp.bar = 1 then do
      pal_write32 ctx.iobase_reg regOp.offset regOp.value
      pure (.of_status STATUS_SUCCESS)
    else if regOp.bar = 2 then do
      pal_write32 ctx.iobase_port regOp.offset regOp.value
      pure (.of_status STATUS_SUCCESS)
    else pure (.of_status STATUS_INVALID_PARAMETER)

def ioctl_get_status (output_length : Nat) : Pal Answer :=
  if output_length < 4 then pure (.of_status STATUS_BUFFER_TOO_SMALL)
  else do
    let ctx ← get_ctx
    let status_val ← read_or_zero ctx.iobase_port 0
    pure (.of_words [status_val])

/-- The switch over the control code. -/
def ioctl_switch (request : WDFREQUEST) : Pal Answer :=
  if request.code = IOCTL_MOTU424_GET_INFO then ioctl_get_info request.output_length
  else if request.code = IOCTL_MOTU424_START then ioctl_start
  else if request.code = IOCTL_MOTU424_STOP then ioctl_stop
  else if request.code = IOCTL_MOTU424_GET_POSITION then ioctl_get_position request.output_length
  else if request.code = IOCTL_MOTU424_READ_REG then
    ioctl_read_reg request.input request.output_length
  else if request.code = IOCTL_MOTU424_WRITE_REG then ioctl_write_reg request.input
  else if request.code = IOCTL_MOTU424_GET_STATUS then ioctl_get_status request.output_length
  else pure (.of_status STATUS_INVALID_DEVICE_REQUEST)

def EvtIoDeviceControl (request : WDFREQUEST) : Pal NTSTATUS := do
  let (status, bytesReturned, output) ← ioctl_switch request
  perform (.complete status bytesReturned output)
  pure status

end motu424.wdf
