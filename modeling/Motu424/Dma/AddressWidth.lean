import Motu424.Dma.Descriptor

open Program ByteMemory Ledger Run

namespace motu424

inductive Frontend where
  | linux
  | windows
  deriving DecidableEq, Repr

/-- The profiles of a DMA enabler that the driver uses. -/
inductive WDF_DMA_PROFILE where
  | WdfDmaProfileScatterGather64
  deriving DecidableEq, Repr

/-- The bits of the logical addresses that a profile allows. -/
def WDF_DMA_PROFILE.address_bits : WDF_DMA_PROFILE → Nat
  | .WdfDmaProfileScatterGather64 => 64

/-- The profile of the enabler that `EvtDriverDeviceAdd` creates. -/
def EvtDriverDeviceAdd_profile : WDF_DMA_PROFILE := .WdfDmaProfileScatterGather64

/-- The mask in force after a call, given the one before it. -/
def pal_pci_set_dma_mask : Frontend → Nat → U64 → U64
  | .linux, bits, _ => DMA_BIT_MASK bits
  | .windows, _, mask => mask

/-- The addresses that each frontend lets the platform choose from: `motu424_probe`
sets a mask, and on Windows the profile of the enabler decides. -/
def Frontend.dma_mask : Frontend → U64
  | .linux => pal_pci_set_dma_mask .linux 32 (~~~0)
  | .windows => DMA_BIT_MASK EvtDriverDeviceAdd_profile.address_bits

/-- The platform grants only addresses under a mask. -/
def Env.GrantsUnder (env : Env) (mask : U64) : Prop :=
  ∀ trace size buf, env.dma_alloc trace size = .ok buf → buf.2 ≤ mask

/-- The address of the buffer that an allocation will leave: that of the buffer it
keeps, or else the one that the platform grants. -/
def buffer_address (env : Env) (m : Machine) (size : U64) : U64 :=
  if Reuses m.ctx size then m.ctx.dma_addr
  else match env.dma_alloc (dma_request_machine m).trace (dma_request size) with
    | .ok buf => buf.2
    | .error _ => 0

/-- The card has the whole address of the buffer in its words. -/
def AddressProgrammed (init : Bar → ByteMemory) (m : Machine) : Prop :=
  ∀ w ∈ dma_base_words, (base_word init m.trace w).toNat = m.ctx.dma_addr.toNat

theorem zero_le_mask (mask : U64) : 0#64 ≤ mask := by
  rw [BitVec.le_def]
  exact Nat.zero_le _

theorem truncate_toNat_eq_iff (addr : U64) :
    (addr.truncate 32 : U32).toNat = addr.toNat ↔ addr.toNat < 2 ^ 32 := by
  rw [BitVec.toNat_setWidth]
  omega

section allocation

variable {env : Env} {init : Bar → ByteMemory} {m : Machine} {size : U64}

/-- A successful allocation leaves a buffer with that address. -/
theorem motu424_dma_alloc_address (hok : (motu424_dma_alloc size).eval env m = 0) :
    ((motu424_dma_alloc size).exec env m).ctx.dma_buf ≠ none ∧
    ((motu424_dma_alloc size).exec env m).ctx.dma_addr = buffer_address env m size := by
  by_cases hreuse : Reuses m.ctx size
  · rw [(motu424_dma_alloc_reused env m size hreuse).2, buffer_address, if_pos hreuse]
    exact ⟨hreuse.1, rfl⟩
  · rw [buffer_address, if_neg hreuse]
    cases hresult : env.dma_alloc (dma_request_machine m).trace (dma_request size) with
    | error err =>
      obtain ⟨heval, _⟩ := motu424_dma_alloc_refused env m size hreuse hresult
      exact absurd (heval.symm.trans hok) err.nonzero
    | ok buf =>
      obtain ⟨_, hexec⟩ := motu424_dma_alloc_granted env m size hreuse hresult
      rw [hexec]
      exact ⟨by simp [dma_owned], rfl⟩

/-- It is programmed whole exactly when it has 32 bits. -/
theorem Attached.addressProgrammed_iff (hm : Attached init m)
    (hok : (motu424_dma_alloc size).eval env m = 0) :
    AddressProgrammed init ((motu424_dma_alloc size).exec env m) ↔
      (buffer_address env m size).toNat < 2 ^ 32 := by
  obtain ⟨hbuf, haddr⟩ := motu424_dma_alloc_address hok
  have hwords : BaseWords init ((motu424_dma_alloc size).exec env m).trace
      (((motu424_dma_alloc size).exec env m).ctx.dma_addr.truncate 32) :=
    (hm.step env (.alloc size)).words hbuf
  rw [AddressProgrammed, haddr, ← truncate_toNat_eq_iff]
  rw [haddr] at hwords
  constructor
  · intro hprogrammed
    have hfirst := hprogrammed (.dsp, 0x7008) (by simp [dma_base_words])
    rw [hwords _ (by simp [dma_base_words])] at hfirst
    exact hfirst
  · intro hwhole w hw
    rw [hwords w hw, hwhole]

/-- The calls keep the address of the context under the mask. -/
theorem dma_step_under {mask : U64} (hmask : env.GrantsUnder mask) (hm : m.ctx.dma_addr ≤ mask)
    (op : DmaOp) : (dma_step env m op).ctx.dma_addr ≤ mask := by
  have hfreed : (dma_freed m.ctx).dma_addr ≤ mask := by
    rw [dma_freed]
    split
    · exact hm
    · exact zero_le_mask _
  cases op with
  | free =>
    rw [dma_step, DmaOp.run, exec_bind, exec_pure, exec_motu424_dma_free]
    exact hfreed
  | alloc size =>
    rw [dma_step, DmaOp.run]
    rcases motu424_dma_alloc_cases env m size with ⟨_, _, _, hexec⟩ | ⟨_, _, hexec⟩ |
      ⟨buf, hresult, _, hexec⟩
    · rw [hexec]
      exact hm
    · rw [hexec]
      exact hfreed
    · rw [hexec]
      exact hmask _ _ buf hresult

/-- So the address that an allocation leaves is under it as well. -/
theorem buffer_address_under {mask : U64} (hmask : env.GrantsUnder mask) (hm : m.ctx.dma_addr ≤ mask) :
    buffer_address env m size ≤ mask := by
  rw [buffer_address]
  split
  · exact hm
  · split
    · next buf hresult => exact hmask _ _ buf hresult
    · exact zero_le_mask _

end allocation

theorem linux_dma_mask : Frontend.linux.dma_mask.toNat = 2 ^ 32 - 1 := by decide

/-- After a successful allocation in any state that calls reach from a fresh driver,
the card has the address of the buffer always on Linux, and on Windows exactly when
the address has 32 bits. -/
theorem address_programmed_iff (frontend : Frontend) (env : Env)
    (hmask : env.GrantsUnder frontend.dma_mask) (init : Bar → ByteMemory) (dsp reg : Nat)
    (port : Option Nat) (ops : List DmaOp) (size : U64)
    (hok : (motu424_dma_alloc size).eval env
      (run (dma_step env) (fresh_machine (some dsp) (some reg) port) ops) = 0) :
    AddressProgrammed init ((motu424_dma_alloc size).exec env
      (run (dma_step env) (fresh_machine (some dsp) (some reg) port) ops)) ↔
    frontend = .linux ∨ (buffer_address env
      (run (dma_step env) (fresh_machine (some dsp) (some reg) port) ops) size).toNat < 2 ^ 32 := by
  have hunder : (run (dma_step env) (fresh_machine (some dsp) (some reg) port) ops).ctx.dma_addr ≤
      frontend.dma_mask :=
    @run_invariant _ _ (dma_step env) _ _ (fun s => s.ctx.dma_addr ≤ frontend.dma_mask)
      (fun _ op hs => dma_step_under hmask hs op) (zero_le_mask _)
  have hattached : Attached init (run (dma_step env) (fresh_machine (some dsp) (some reg) port) ops) :=
    run_invariant (fun _ op hs => hs.step env op) (.fresh dsp reg port)
  generalize run (dma_step env) (fresh_machine (some dsp) (some reg) port) ops = m at *
  rw [hattached.addressProgrammed_iff hok]
  refine (or_iff_right_of_imp ?_).symm
  rintro rfl
  have haddr : buffer_address env m size ≤ Frontend.linux.dma_mask := buffer_address_under hmask hunder
  rw [BitVec.le_def, linux_dma_mask] at haddr
  omega

/-- The first allocation of the probe on Linux. -/
theorem linux_address_programmed :
    AddressProgrammed (fun _ => .zeroed) ((motu424_dma_alloc MOTU_DMA_BUF_MAX).exec .idle
      (fresh_machine (some 0x1000) (some 0x2000) (some 0x3000))) ↔
    Frontend.linux = .linux ∨ (buffer_address .idle
      (fresh_machine (some 0x1000) (some 0x2000) (some 0x3000)) MOTU_DMA_BUF_MAX).toNat < 2 ^ 32 := by
  refine address_programmed_iff .linux .idle ?_ (fun _ => .zeroed) 0x1000 0x2000 (some 0x3000) []
    MOTU_DMA_BUF_MAX (by decide)
  intro trace size buf hbuf
  cases hbuf
  decide

/-- A platform that puts the buffer at 4 GB. -/
def high_env : Env := { Env.idle with dma_alloc := fun _ _ => .ok (0x10000, 0x100000000) }

/-- Windows allows that, and the card is told zero. -/
theorem windows_high_address_lost : high_env.GrantsUnder Frontend.windows.dma_mask ∧
    (motu424_dma_alloc MOTU_DMA_BUF_MAX).eval high_env
      (fresh_machine (some 0x1000) (some 0x2000) (some 0x3000)) = 0 ∧
    ¬ AddressProgrammed (fun _ => .zeroed) ((motu424_dma_alloc MOTU_DMA_BUF_MAX).exec high_env
      (fresh_machine (some 0x1000) (some 0x2000) (some 0x3000))) := by
  have hok : (motu424_dma_alloc MOTU_DMA_BUF_MAX).eval high_env
      (fresh_machine (some 0x1000) (some 0x2000) (some 0x3000)) = 0 := by decide
  refine ⟨?_, hok, ?_⟩
  · intro trace size buf hbuf
    cases hbuf
    decide
  · rw [(Attached.fresh 0x1000 0x2000 (some 0x3000)).addressProgrammed_iff hok]
    decide

end motu424
