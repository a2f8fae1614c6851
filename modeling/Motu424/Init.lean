import Motu424.Dma
import Motu424.Fpga

namespace motu424

def motu424_translate_dma (ctx : motu424_ctx) (val : U32) : U32 :=
  if ctx.dma_buf = none then val
  else
    let dma32 : U32 := ctx.dma_addr.truncate 32
    if val &&& WIN_DMA_MAGIC_1_MASK = WIN_DMA_MAGIC_1_BASE then
      (dma32 &&& WIN_DMA_MAGIC_1_MASK) ||| (val &&& ~~~WIN_DMA_MAGIC_1_MASK)
    else if val = WIN_DMA_MAGIC_2 then dma32
    else if val = WIN_DMA_MAGIC_3 then dma32
    else if val &&& WIN_DMA_MAGIC_4_MASK = WIN_DMA_MAGIC_4_BASE then
      (dma32 &&& WIN_DMA_MAGIC_4_MASK) ||| (val &&& ~~~WIN_DMA_MAGIC_4_MASK)
    else if val &&& WIN_DMA_MAGIC_5_MASK = WIN_DMA_MAGIC_5_BASE then
      dma32 + WIN_DMA_MAGIC_5_OFF + (val &&& ~~~WIN_DMA_MAGIC_5_MASK)
    else val

/-- The loop of `motu424_poll_reg` with its remaining rounds. It returns whether
a read matched, and the last value read. -/
def poll_reg_loop (ctx : motu424_ctx) (bar : U8) (offset expected : U32) :
    Nat → Option U32 → Pal (Bool × Option U32)
  | 0, val => pure (false, val)
  | rounds + 1, _ => do
    let val ← motu_read ctx bar offset
    if val = expected then pure (true, some val)
    else do
      pal_msleep 1
      poll_reg_loop ctx bar offset expected rounds (some val)

def motu424_poll_reg (bar : U8) (offset expected : U32) (timeout_ms : Int) : Pal Int := do
  let ctx ← get_ctx
  let (found, val) ← poll_reg_loop ctx bar offset expected timeout_ms.toNat none
  if found then pure 0
  else do
    pal_log .dbg "poll timeout: bar=%u offset=0x%x expected=0x%x got=0x%x (after %d ms)\n"
      [.int bar.toNat, .u32 offset, .u32 expected, val.elim .undef .u32, .int timeout_ms]
    pure (-1)

def zero_dsp_ram_round (ctx : motu424_ctx) (i : Nat) : Pal Unit := do
  pal_write32 ctx.iobase_dsp (BitVec.ofNat 32 (i * 4)) 0
  Program.when (i &&& 0xFFF = 0) pal_cond_resched

def motu424_zero_dsp_ram : Pal Unit := do
  let ctx ← get_ctx
  pal_log .info "Zeroing DSP RAM (64K words)\n" []
  Program.forEach (List.range 0x10000) (zero_dsp_ram_round ctx)

def motu424_dsp_kickstart : Pal Unit := do
  let ctx ← get_ctx
  pal_log .info "Kick-starting DSP\n" []
  pal_write32 ctx.iobase_port 0x0 0x0
  pal_write32 ctx.iobase_dsp 0x3fffc 0x0
  pal_write32 ctx.iobase_port 0x4 0x2
  pal_msleep 500
  let boot ← pal_read32 ctx.iobase_dsp 0x3fffc
  pal_log .info "DSP boot vector: 0x%08x\n" [.u32 boot]
  let port1 ← pal_read32 ctx.iobase_port 0x0
  pal_log .info "Port 1 status: 0x%08x\n" [.u32 port1]
  let port2 ← pal_read32 ctx.iobase_port 0x4
  pal_log .info "Port 2 status: 0x%08x\n" [.u32 port2]

/-- The periodic status check of the port loop, the `count`-th one. -/
def port_loop_status_check (ctx : motu424_ctx) (count : Nat) : Pal Unit := do
  let s1 ← pal_read32 ctx.iobase_dsp 0x70d4
  Program.when (s1 ≠ 0) (pal_write32 ctx.iobase_dsp 0x70d4 0x0)
  let s2 ← pal_read32 ctx.iobase_dsp 0x70dc
  let s3 ← pal_read32 ctx.iobase_dsp 0x70d8
  Program.when (s3 ≠ 0) (pal_write32 ctx.iobase_dsp 0x70d8 0x0)
  Program.when (s2 ≠ 0) (pal_write32 ctx.iobase_dsp 0x70dc 0x0)
  pal_log .dbg "port loop status check %d: 0x70d4=0x%x 0x70d8=0x%x 0x70dc=0x%x\n"
    [.int count, .u32 s1, .u32 s3, .u32 s2]

def port_loop_round (ctx : motu424_ctx) (port_iter : Nat) : Pal Unit := do
  let _dma_addr ← pal_read32 ctx.iobase_dsp 0x6fd8
  pal_write32 ctx.iobase_dsp 0x7040 0x0
  let _ ← pal_read32 ctx.iobase_dsp 0x6fec
  pal_write32 ctx.iobase_dsp 0x6fec 0x0
  let status ← pal_read32 ctx.iobase_port 0x0
  Program.when (status ≠ MOTU_PORT_LOCK_STATUS) <|
    pal_log .dbg "port loop iter %d: status=0x%02x (expected 0x%02x)\n"
      [.int port_iter, .u32 status, .u32 MOTU_PORT_LOCK_STATUS]
  pal_write32 ctx.iobase_reg 0x400000 0x10
  Program.when (port_iter &&& 7 = 7) (port_loop_status_check ctx (port_iter / 8 + 1))
  pal_cond_resched

def motu424_post_init_port_loop : Pal Unit := do
  let ctx ← get_ctx
  pal_log .info "Running post-init port configuration loop\n" []
  Program.forEach (List.range 32) (port_loop_round ctx)
  pal_log .info "Port configuration loop complete\n" []

/-- The 32-bit field in four bytes of an entry, low byte first. -/
def le32 (b0 b1 b2 b3 : U8) : U32 :=
  b0.zeroExtend 32 ||| (b1.zeroExtend 32 <<< 8) ||| (b2.zeroExtend 32 <<< 16) |||
    (b3.zeroExtend 32 <<< 24)

/-- One round of the replay loop, for the entry with index `i`. -/
def replay_entry (ctx : motu424_ctx) (i : Nat) (entry : motu_init_entry) : Pal Unit := do
  let value := motu424_translate_dma ctx entry.value
  if entry.bar = MOTU_INIT_POLL_MARKER then do
    let _ ← motu424_poll_reg PAL_BAR_DSP entry.offset value 1000
    pure ()
  else do
    motu_write ctx entry.bar entry.offset value
    Program.when (i &&& 0x3FF = 0) pal_cond_resched

/-- The entries of a blob, nine bytes each. -/
def init_entries : List U8 → List motu_init_entry
  | bar :: o0 :: o1 :: o2 :: o3 :: v0 :: v1 :: v2 :: v3 :: blob =>
    ⟨bar, le32 o0 o1 o2 o3, le32 v0 v1 v2 v3⟩ :: init_entries blob
  | _ => []

/-- The replay loop, from the entry with index `i` on. -/
def replay_entries (ctx : motu424_ctx) : Nat → List motu_init_entry → Pal Unit
  | _, [] => pure ()
  | i, entry :: entries => do
    replay_entry ctx i entry
    replay_entries ctx (i + 1) entries

def motu424_replay_sequence (seq_data : Option (List U8)) : Pal Int := do
  let ctx ← get_ctx
  let seq_size := fw_size seq_data
  let count := seq_size / 9
  if seq_data = none ∨ seq_size = 0 ∨ seq_size % 9 ≠ 0 then do
    pal_log .err "invalid init sequence (%zu bytes)\n" [.int seq_size]
    pure (-1)
  else do
    pal_log .info "Replaying %zu register writes\n" [.int count]
    replay_entries ctx 0 (init_entries (seq_data.getD []))
    pal_log .info "Init sequence replay complete (%zu writes)\n" [.int count]
    pure 0

/-- Step 2 of `motu424_hw_init`. -/
def load_shadow (ctx : motu424_ctx) : Pal Unit :=
  if ctx.iobase_reg ≠ .null then do
    let conf ← pal_read32 ctx.iobase_reg MOTU_REG_PORT_CONF
    set_ctx fun ctx => { ctx with port_conf_shadow := conf }
  else set_ctx fun ctx => { ctx with port_conf_shadow := 0 }

/-- Steps 3 and 4 of `motu424_hw_init`. -/
def hw_init_status (ctx : motu424_ctx) : Pal Int := do
  let err ← motu424_poll_reg PAL_BAR_DSP MOTU_SYNC_REG_STATUS 0x0 2000
  Program.when (err ≠ 0) (pal_log .warn "sync status poll failed (continuing)\n" [])
  let status ← pal_read32 ctx.iobase_port 0x00
  pal_log .info "post-init port status: 0x%08x\n" [.u32 status]
  if status &&& MOTU_PORT_LOCK_STATUS = MOTU_PORT_LOCK_STATUS then do
    pal_log .info "card sync achieved\n" []
    pure 0
  else do
    pal_log .warn "card not fully synced (status=0x%08x, expected mask 0x%02x)\n"
      [.u32 status, .u32 MOTU_PORT_LOCK_STATUS]
    pure 0

/-- The steps of `motu424_hw_init` after the zeroing. -/
def hw_init_check : Pal Int := do
  let ctx ← get_ctx
  load_shadow ctx
  hw_init_status ctx

def motu424_hw_init : Pal Int := do
  motu424_zero_dsp_ram
  hw_init_check

def motu424_hw_stop : Pal Unit := do
  let ctx ← get_ctx
  if ctx.iobase_reg = .null then pure ()
  else do
    let val ← pal_read32 ctx.iobase_reg MOTU_REG_PORT_CONF
    let val := val &&& ~~~(MOTU_PORT_CONF_DMA_EN ||| MOTU_PORT_CONF_RUN |||
      MOTU_PORT_CONF_DMA_RD ||| MOTU_PORT_CONF_START)
    pal_write32 ctx.iobase_reg MOTU_REG_PORT_CONF val
    set_ctx fun ctx => { ctx with port_conf_shadow := val, dma_running := 0 }

/-- The part of the full initialisation after the replay. -/
def full_init_boot : Pal Int := do
  motu424_dsp_kickstart
  motu424_post_init_port_loop
  motu424_hw_init

/-- The part of the full initialisation after the FPGA load. -/
def full_init_dsp (init_seq : Option (List U8)) : Pal Int := do
  motu424_zero_dsp_ram
  if fw_size init_seq > 0 then do
    let err ← motu424_replay_sequence init_seq
    if err ≠ 0 then do
      pal_log .err "Init replay failed\n" []
      pure err
    else full_init_boot
  else do
    pal_log .warn "No init sequence — skipping (warm boot only)\n" []
    full_init_boot

def motu424_full_init (fpga_fw init_seq : Option (List U8)) : Pal Int := do
  if fw_size fpga_fw > 0 then do
    let err ← motu424_load_fpga fpga_fw
    if err ≠ 0 then do
      pal_log .err "FPGA load failed\n" []
      pure err
    else full_init_dsp init_seq
  else do
    pal_log .info "No FPGA firmware — assuming warm boot\n" []
    full_init_dsp init_seq

end motu424
