import Motu424.Pal

namespace motu424

def FPGA_DATA_BIT : U32 := 0x20
def FPGA_CLK_BIT : U32 := 0x80
def FPGA_BASE_VAL : U32 := 0x40

/-- The size of a firmware image, zero for a NULL pointer. -/
def fw_size (fw : Option (List U8)) : Nat := (fw.getD []).length

/-- The inner loop of the bit-bang: the listed bits of one byte, starting with
the previous line value and returning the last one. -/
def load_fpga_bits (ctx : motu424_ctx) (byte : U8) : List Nat → U32 → Pal U32
  | [], val_prev => pure val_prev
  | bit :: bits, val_prev => do
    let data_bit : U32 := if byte &&& (1 <<< bit) ≠ 0 then FPGA_DATA_BIT else 0
    let val : U32 := FPGA_BASE_VAL ||| data_bit
    pal_write32 ctx.iobase_reg MOTU_REG_FPGA_CTRL val_prev
    pal_write32 ctx.iobase_reg MOTU_REG_FPGA_CTRL val
    pal_write32 ctx.iobase_reg MOTU_REG_FPGA_CTRL (val ||| FPGA_CLK_BIT)
    load_fpga_bits ctx byte bits val

/-- The outer loop of the bit-bang, from the byte with index `i` on. -/
def load_fpga_bytes (ctx : motu424_ctx) : Nat → List U8 → U32 → Pal Unit
  | _, [], _ => pure ()
  | i, byte :: bytes, val_prev => do
    let val ← load_fpga_bits ctx byte (List.range 8) val_prev
    Program.when (i &&& 0x3FFF = 0) pal_cond_resched
    load_fpga_bytes ctx (i + 1) bytes val

def motu424_load_fpga (fw_data : Option (List U8)) : Pal Int := do
  let ctx ← get_ctx
  if fw_size fw_data = 0 then pure (-1)
  else do
    pal_log .info "Loading FPGA bitstream (%zu bytes)\n" [.int (fw_size fw_data)]
    pal_write32 ctx.iobase_port 0x4 0x1
    pal_write32 ctx.iobase_reg 0x300000 0xE0
    pal_write32 ctx.iobase_reg 0x300004 0xE0
    pal_write32 ctx.iobase_reg MOTU_REG_FPGA_CTRL 0x00
    load_fpga_bytes ctx 0 (fw_data.getD []) FPGA_BASE_VAL
    pal_write32 ctx.iobase_reg 0x300004 0xC0
    pal_write32 ctx.iobase_port 0x8 0x0
    let status ← pal_read32 ctx.iobase_port 0x00
    pal_log .info "FPGA status after load: 0x%08x\n" [.u32 status]
    Program.when (status &&& MOTU_PORT_LOCK_STATUS ≠ MOTU_PORT_LOCK_STATUS) <|
      pal_log .warn "FPGA may not be fully configured (status=0x%08x, expected 0x%02x)\n"
        [.u32 status, .u32 MOTU_PORT_LOCK_STATUS]
    pal_log .info "FPGA bitstream loaded (%zu bytes)\n" [.int (fw_size fw_data)]
    pure 0

end motu424
