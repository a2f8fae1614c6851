import Mathlib.Tactic.Common

namespace motu424

abbrev U8 := BitVec 8
abbrev U32 := BitVec 32
abbrev U64 := BitVec 64

/-- The three PCI BARs of the card: DSP memory, control registers, FPGA
configuration port. -/
inductive Bar where
  | dsp
  | reg
  | port
  deriving DecidableEq, Repr

def MOTU_BAR_DSP_SIZE : Nat := 4 * 1024 * 1024
def MOTU_BAR_REG_SIZE : Nat := 8 * 1024 * 1024
def MOTU_BAR_PORT_SIZE : Nat := 16

def MOTU_REG_PORT_CONF : U32 := 0x00
def MOTU_REG_DMA_CTRL : U32 := 0x10
def MOTU_REG_DMA_SIZE : U32 := 0x14
def MOTU_REG_DMA_BASE : U32 := 0x18
def MOTU_REG_INT_STATUS : U32 := 0x20
def MOTU_REG_INT_ACK : U32 := 0x20
def MOTU_REG_INT_MASK : U32 := 0x24
def MOTU_REG_FPGA_CTRL : U32 := 0x300008

def MOTU_PORT_CONF_DMA_EN : U32 := 0x80
def MOTU_PORT_CONF_RUN : U32 := 0x20000
def MOTU_PORT_CONF_DMA_RD : U32 := 0x40000
def MOTU_PORT_CONF_START : U32 := 0x80000000

def MOTU_INT_PERIOD_ELAPSED : U32 := 1

def MOTU_SYNC_REG_STATUS : U32 := 0x70d0
def MOTU_PORT_LOCK_STATUS : U32 := 0x13

def MOTU_CHANNELS_PER_FRAME : Nat := 98
def MOTU_BYTES_PER_FRAME : Nat := MOTU_CHANNELS_PER_FRAME * 4
def MOTU_RATE_48000 : U32 := 48000
def MOTU_DMA_BUF_MAX : U64 := 4 * 1024 * 1024
def MOTU_DMA_PERIODS_MIN : Nat := 2
def MOTU_DMA_PERIODS_MAX : Nat := 16
def MOTU_DMA_PERIOD_BYTES_MIN : Nat := 1024
def MOTU_DMA_PERIOD_BYTES_MAX : Nat := 64 * 1024

/-- One entry of the initialisation sequence. -/
structure motu_init_entry where
  bar : U8
  offset : U32
  value : U32
  deriving DecidableEq, Repr

def MOTU_INIT_POLL_MARKER : U8 := 0xFF

def WIN_DMA_MAGIC_1_BASE : U32 := 0x10914000
def WIN_DMA_MAGIC_1_MASK : U32 := 0xFFFFF000
def WIN_DMA_MAGIC_2 : U32 := 0xFE870000
def WIN_DMA_MAGIC_3 : U32 := 0x90000000
def WIN_DMA_MAGIC_4_BASE : U32 := 0xBFD70000
def WIN_DMA_MAGIC_4_MASK : U32 := 0xFFFF0000
def WIN_DMA_MAGIC_5_BASE : U32 := 0xBFF92000
def WIN_DMA_MAGIC_5_MASK : U32 := 0xFFFFF000
def WIN_DMA_MAGIC_5_OFF : U32 := 0x222000

end motu424
