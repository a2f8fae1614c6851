import Motu424.Pal

namespace motu424

def PAL_PAGE_SIZE : U64 := 4096
def PAL_PAGE_MASK : U64 := ~~~(PAL_PAGE_SIZE - 1)

def page_align (size : U64) : U64 := (size + PAL_PAGE_SIZE - 1) &&& PAL_PAGE_MASK

def DMA_BIT_MASK (bits : Nat) : U64 := if bits = 64 then ~~~0 else (1 <<< bits) - 1

def motu424_dma_free : Pal Unit := do
  let ctx ← get_ctx
  match ctx.dma_buf with
  | none => pure ()
  | some buf => do
    pal_dma_free buf ctx.dma_addr ctx.dma_size
    set_ctx fun ctx => { ctx with dma_buf := none, dma_addr := 0, dma_size := 0 }

def motu424_dma_setup_sg : Pal Int := do
  let ctx ← get_ctx
  if ctx.dma_buf = none then pure (-1)
  else do
    let dma_addr32 : U32 := ctx.dma_addr.truncate 32
    let dma_size32 : U32 := ctx.dma_size.truncate 32
    pal_write32 ctx.iobase_dsp 0x7008 dma_addr32
    pal_write32 ctx.iobase_dsp 0x70a4 dma_addr32
    pal_write32 ctx.iobase_dsp 0x70a8 0x30000
    pal_write32 ctx.iobase_dsp 0x70ac 0x59c
    pal_write32 ctx.iobase_reg MOTU_REG_DMA_BASE dma_addr32
    pal_log .info "DMA SG setup: addr=0x%08x size=%u\n" [.u32 dma_addr32, .u32 dma_size32]
    pure 0

/-- The size that the allocator asks the platform for. -/
def dma_request (size : U64) : U64 :=
  let size := page_align size
  if size > MOTU_DMA_BUF_MAX then MOTU_DMA_BUF_MAX else size

/-- The part of the allocation after the reuse test and the free. -/
def dma_alloc_new (size : U64) : Pal Int := do
  let size := dma_request size
  let result ← pal_dma_alloc size
  match result with
  | .error err => do
    pal_log .err "failed to allocate %zu byte DMA buffer\n" [.u64 size]
    pure err.code
  | .ok (vaddr, paddr) => do
    set_ctx fun ctx => { ctx with dma_buf := some vaddr, dma_addr := paddr, dma_size := size }
    memset vaddr 0 size
    pal_log .info "allocated %zu byte DMA buffer at phys 0x%llx\n" [.u64 size, .u64 paddr]
    let err ← motu424_dma_setup_sg
    if err ≠ 0 then do
      pal_dma_free vaddr paddr size
      set_ctx fun ctx => { ctx with dma_buf := none }
      pure err
    else pure 0

def motu424_dma_alloc (size : U64) : Pal Int := do
  let ctx ← get_ctx
  if ctx.dma_buf ≠ none ∧ ctx.dma_size ≥ size then pure 0
  else do
    Program.when (ctx.dma_buf ≠ none) motu424_dma_free
    dma_alloc_new size

/-- The events of a descriptor set-up. -/
def sg_events (ctx : motu424_ctx) : List Event :=
  [.write .dsp ctx.iobase_dsp.addr 0x7008 (ctx.dma_addr.truncate 32),
    .write .dsp ctx.iobase_dsp.addr 0x70a4 (ctx.dma_addr.truncate 32),
    .write .dsp ctx.iobase_dsp.addr 0x70a8 0x30000,
    .write .dsp ctx.iobase_dsp.addr 0x70ac 0x59c,
    .write .reg ctx.iobase_reg.addr MOTU_REG_DMA_BASE (ctx.dma_addr.truncate 32),
    .log .info "DMA SG setup: addr=0x%08x size=%u\n"
      [.u32 (ctx.dma_addr.truncate 32), .u32 (ctx.dma_size.truncate 32)]]

end motu424
