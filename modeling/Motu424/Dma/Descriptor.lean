import Motu424.Dma.Ownership
import Motu424.Pal.Trace

open Program ByteMemory Ledger Run

namespace motu424

/-- The words in which the card looks for the address of the buffer. -/
def dma_base_words : List (Bar × U32) := [(.dsp, 0x7008), (.dsp, 0x70a4), (.reg, MOTU_REG_DMA_BASE)]

section words

variable (init : Bar → ByteMemory)

/-- What one of them holds after a trace. -/
def base_word (trace : List Event) (w : Bar × U32) : U32 := bar_word (init w.1) w.1 trace w.2

/-- All of them hold the same value. -/
def BaseWords (trace : List Event) (value : U32) : Prop :=
  ∀ w ∈ dma_base_words, base_word init trace w = value

/-- Each of them is zero or refers to a buffer that the platform has not got back. -/
def PointsAtLive (m : Machine) : Prop :=
  ∀ w ∈ dma_base_words, base_word init m.trace w = 0 ∨
    ∃ a, 0 < held (dma_book m.trace) a ∧ base_word init m.trace w = a.paddr.truncate 32

variable {init}

theorem base_word_frame (before : List Event) {later : List Event}
    (hlater : ∀ bar, stores bar later = []) (w : Bar × U32) :
    base_word init (before ++ later) w = base_word init before w :=
  bar_word_frame (init w.1) before (by simp [hlater])

/-- A descriptor set-up leaves the low half of the address in all the words. -/
theorem base_words_sg_events (before : List Event) {c : motu424_ctx} (hdsp : c.iobase_dsp ≠ .null)
    (hreg : c.iobase_reg ≠ .null) :
    BaseWords init (before ++ sg_events c) (c.dma_addr.truncate 32) := by
  obtain ⟨dsp, hdsp⟩ := Iomem.exists_addr hdsp
  obtain ⟨reg, hreg⟩ := Iomem.exists_addr hreg
  rw [sg_events, hdsp, hreg, BaseWords, dma_base_words]
  generalize (c.dma_addr.truncate 32 : U32) = value
  rw [List.forall_mem_cons, List.forall_mem_cons, List.forall_mem_singleton]
  refine ⟨?_, ?_, ?_⟩
  · refine @bar_word_of_mem (init .dsp) .dsp before dsp 0x7008 value _ (by simp) ?_
    simp [Event.stores, Apart]
  · refine @bar_word_of_mem (init .dsp) .dsp before dsp 0x70a4 value _ (by simp) ?_
    simp [Event.stores, Apart]
  · refine @bar_word_of_mem (init .reg) .reg before reg MOTU_REG_DMA_BASE value _ (by simp) ?_
    simp [Event.stores]

end words

/-- The card was told the address of the buffer of the context, if it has one. -/
structure Attached (init : Bar → ByteMemory) (m : Machine) : Prop where
  owns : OwnsExactly m
  dsp : m.ctx.iobase_dsp ≠ .null
  reg : m.ctx.iobase_reg ≠ .null
  words : m.ctx.dma_buf ≠ none → BaseWords init m.trace (m.ctx.dma_addr.truncate 32)

theorem stores_dma_free_events (c : motu424_ctx) (bar : Bar) : stores bar (dma_free_events c) = [] := by
  cases hbuf : c.dma_buf with
  | none => rw [dma_free_events, hbuf, stores_nil]
  | some buf => simp [dma_free_events, hbuf, Event.stores]

theorem dma_freed_dsp (c : motu424_ctx) : (dma_freed c).iobase_dsp = c.iobase_dsp :=
  congrArg Iomem.mk (dma_freed_base c .dsp)

theorem dma_freed_reg (c : motu424_ctx) : (dma_freed c).iobase_reg = c.iobase_reg :=
  congrArg Iomem.mk (dma_freed_base c .reg)

/-- The live buffer is that of the context. -/
theorem OwnsExactly.pointsAtLive_iff {init : Bar → ByteMemory} {m : Machine} (howns : OwnsExactly m) :
    PointsAtLive init m ↔ ∀ w ∈ dma_base_words,
      base_word init m.trace w = 0 ∨ base_word init m.trace w = m.ctx.dma_addr.truncate 32 := by
  apply forall₂_congr
  intro w _
  cases hbuf : m.ctx.dma_buf with
  | none =>
    obtain ⟨haddr, _, hheld⟩ := howns.none_live hbuf
    simp [hheld, haddr]
  | some buf =>
    have hheld := howns.one_live buf hbuf
    constructor
    · rintro (hzero | ⟨a, ha, hword⟩)
      · exact .inl hzero
      · rw [hheld] at ha
        split at ha
        · next heq => exact .inr (by rw [hword, ← heq])
        · exact absurd ha (by decide)
    · rintro (hzero | hword)
      · exact .inl hzero
      · exact .inr ⟨⟨buf, m.ctx.dma_addr, m.ctx.dma_size⟩, by simp [hheld], hword⟩

namespace Attached

variable {init : Bar → ByteMemory} {m : Machine}

theorem fresh (dsp reg : Nat) (port : Option Nat) : Attached init (fresh_machine (some dsp) (some reg) port) where
  owns := .fresh _ _ _
  dsp := by simp [fresh_machine, motu424_ctx.fresh, Iomem.null]
  reg := by simp [fresh_machine, motu424_ctx.fresh, Iomem.null]
  words := fun hbuf => absurd rfl hbuf

/-- Without a buffer there is nothing the card could have been told. -/
theorem detached (hm : Attached init m) {quiet : List Event} (hbook : dma_book quiet = []) :
    Attached init ((dma_request_machine m).emit quiet) where
  owns := hm.owns.freed.emit hbook
  dsp := by
    rw [Machine.emit_ctx, dma_request_machine, dma_freed_dsp]
    exact hm.dsp
  reg := by
    rw [Machine.emit_ctx, dma_request_machine, dma_freed_reg]
    exact hm.reg
  words := fun hbuf => absurd (dma_freed_buf m.ctx) hbuf

/-- The card is told the address of a new buffer. -/
theorem granted (hm : Attached init m) (size : U64) (buf : Nat × U64) :
    Attached init ⟨dma_owned m.ctx size buf,
      (dma_request_machine m).trace ++ dma_alloc_events m.ctx size buf⟩ where
  owns := hm.owns.freed.granted (dma_freed_buf m.ctx) m.ctx size buf
  dsp := hm.dsp
  reg := hm.reg
  words := fun _ => by
    rw [dma_alloc_events, ← List.append_assoc]
    exact base_words_sg_events _ hm.dsp hm.reg

/-- Every call keeps the card attached, whatever the platform answers. -/
theorem step (env : Env) (hm : Attached init m) (op : DmaOp) : Attached init (dma_step env m op) := by
  cases op with
  | free =>
    have hfree : dma_step env m .free = (dma_request_machine m).emit [] := by
      rw [dma_step, DmaOp.run, exec_bind, exec_pure, exec_motu424_dma_free, Machine.emit_nil,
        dma_request_machine]
    rw [hfree]
    exact hm.detached rfl
  | alloc size =>
    rcases motu424_dma_alloc_cases env m size with ⟨_, _, _, hexec⟩ | ⟨_, _, hexec⟩ | ⟨buf, _, _, hexec⟩
    · rw [dma_step, DmaOp.run, hexec]
      exact hm
    · rw [dma_step, DmaOp.run, hexec]
      exact hm.detached rfl
    · rw [dma_step, DmaOp.run, hexec]
      exact hm.granted size buf

end Attached

/-- The card forgets nothing: the call neither frees a buffer for good nor replaces
one by nothing. -/
def DmaOp.LeavesBuffer (env : Env) (m : Machine) : DmaOp → Prop
  | .free => m.ctx.dma_buf = none
  | .alloc size => m.ctx.dma_buf = none ∨ size ≤ m.ctx.dma_size ∨
      ∃ buf, env.dma_alloc (dma_request_machine m).trace (dma_request size) = .ok buf

/-- The card is never left pointing at freed memory along a run. -/
def NeverDangles (env : Env) (init : Bar → ByteMemory) (m : Machine) (ops : List DmaOp) : Prop :=
  PointsAtLive init m ∧ Along (dma_step env) m ops fun _ s op => PointsAtLive init (dma_step env s op)

section dangling

variable {init : Bar → ByteMemory} {m : Machine}

/-- Where the card is attached, its words hold the low half of the address of the
context, which is zero without a buffer. -/
theorem Attached.pointsAtLive_iff (hm : Attached init m) :
    PointsAtLive init m ↔ BaseWords init m.trace (m.ctx.dma_addr.truncate 32) := by
  rw [hm.owns.pointsAtLive_iff]
  constructor
  · intro hpoints
    by_cases hbuf : m.ctx.dma_buf = none
    · intro w hw
      obtain ⟨haddr, _⟩ := hm.owns.none_live hbuf
      have hword := hpoints w hw
      rw [haddr] at hword ⊢
      exact hword.elim id id
    · exact hm.words hbuf
  · intro hwords w hw
    exact .inr (hwords w hw)

/-- When the buffer goes and nothing takes its place, the card keeps its address. -/
theorem Attached.detached_pointsAtLive_iff (hm : Attached init m) (hlive : PointsAtLive init m)
    {quiet : List Event} (hbook : dma_book quiet = []) (hquiet : ∀ bar, stores bar quiet = []) :
    PointsAtLive init ((dma_request_machine m).emit quiet) ↔ m.ctx.dma_addr.truncate 32 = 0#32 := by
  have hwords := hm.pointsAtLive_iff.mp hlive
  have hsame (w : Bar × U32) : base_word init ((dma_request_machine m).emit quiet).trace w =
      base_word init m.trace w := by
    rw [Machine.emit_trace, dma_request_machine, base_word_frame _ hquiet,
      base_word_frame _ (stores_dma_free_events m.ctx)]
  have haddr : ((dma_request_machine m).emit quiet).ctx.dma_addr = 0 :=
    ((hm.detached hbook).owns.none_live (dma_freed_buf m.ctx)).1
  rw [(hm.detached hbook).pointsAtLive_iff, haddr]
  constructor
  · intro hzero
    have hfirst := hzero (.dsp, 0x7008) (by simp [dma_base_words])
    rw [hsame, hwords _ (by simp [dma_base_words])] at hfirst
    exact hfirst
  · intro hzero w hw
    rw [hsame, hwords w hw, hzero]
    rfl

/-- A call leaves the card with live addresses exactly when it leaves a buffer or
the address that is lost looks like none. -/
theorem Attached.step_pointsAtLive_iff (env : Env) (hm : Attached init m) (hlive : PointsAtLive init m)
    (op : DmaOp) : PointsAtLive init (dma_step env m op) ↔
      m.ctx.dma_addr.truncate 32 = 0#32 ∨ op.LeavesBuffer env m := by
  have hnone (hbuf : m.ctx.dma_buf = none) : m.ctx.dma_addr.truncate 32 = 0#32 := by
    rw [(hm.owns.none_live hbuf).1]
    rfl
  cases op with
  | free =>
    rw [dma_step, DmaOp.run, exec_bind, exec_pure, exec_motu424_dma_free, ← dma_request_machine,
      ← Machine.emit_nil (dma_request_machine m), hm.detached_pointsAtLive_iff hlive rfl fun _ => rfl]
    exact (or_iff_left_of_imp hnone).symm
  | alloc size =>
    rw [dma_step, DmaOp.run]
    by_cases hreuse : Reuses m.ctx size
    · rw [(motu424_dma_alloc_reused env m size hreuse).2]
      exact iff_of_true hlive (.inr (.inr (.inl hreuse.2)))
    · cases hresult : env.dma_alloc (dma_request_machine m).trace (dma_request size) with
      | error err =>
        rw [(motu424_dma_alloc_refused env m size hreuse hresult).2,
          hm.detached_pointsAtLive_iff hlive rfl fun _ => rfl]
        refine (or_iff_left_of_imp ?_).symm
        rintro (hbuf | hsize | ⟨buf, hbuf⟩)
        · exact hnone hbuf
        · exact hnone (by_contra fun hbuf => hreuse ⟨hbuf, hsize⟩)
        · rw [hresult] at hbuf
          cases hbuf
      | ok buf =>
        rw [(motu424_dma_alloc_granted env m size hreuse hresult).2]
        have hnew := hm.granted size buf
        refine iff_of_true ?_ (.inr (.inr (.inr ⟨buf, hresult⟩)))
        exact hnew.pointsAtLive_iff.mpr (hnew.words (by simp [dma_owned]))

end dangling

/-- From a fresh driver on a card whose words are zero, the card never points at
freed memory exactly in the runs that never give up a buffer without a new one,
unless the low half of its address is zero. -/
theorem never_dangles_iff (env : Env) (init : Bar → ByteMemory) (hzero : BaseWords init [] 0)
    (dsp reg : Nat) (port : Option Nat) (ops : List DmaOp) :
    NeverDangles env init (fresh_machine (some dsp) (some reg) port) ops ↔
    Along (dma_step env) (fresh_machine (some dsp) (some reg) port) ops fun _ s op =>
      s.ctx.dma_addr.truncate 32 = 0#32 ∨ op.LeavesBuffer env s := by
  have hfresh := @Attached.fresh init dsp reg port
  have hlive : PointsAtLive init (fresh_machine (some dsp) (some reg) port) :=
    hfresh.pointsAtLive_iff.mpr hzero
  rw [NeverDangles, and_iff_right hlive]
  refine @along_iff _ _ (dma_step env) (fresh_machine (some dsp) (some reg) port) ops
    (fun s => Attached init s ∧ PointsAtLive init s) _ _ ?_ ?_ ⟨hfresh, hlive⟩
  · rintro _ s op ⟨hs, hpoints⟩
    exact hs.step_pointsAtLive_iff env hpoints op
  · rintro _ s op ⟨hs, hpoints⟩ hguard
    exact ⟨hs.step env op, (hs.step_pointsAtLive_iff env hpoints op).mpr hguard⟩

/-- A card with zero in every word. -/
theorem base_words_zeroed : BaseWords (fun _ => .zeroed) [] 0 := by
  rw [BaseWords, dma_base_words, List.forall_mem_cons, List.forall_mem_cons, List.forall_mem_singleton]
  exact ⟨by decide, by decide, by decide⟩

/-- Allocating and growing are safe on a platform that never refuses. -/
theorem grow_never_dangles :
    NeverDangles .idle (fun _ => .zeroed) (fresh_machine (some 0x1000) (some 0x2000) (some 0x3000))
      [.alloc 4096, .alloc 8192] ↔
    Along (dma_step .idle) (fresh_machine (some 0x1000) (some 0x2000) (some 0x3000))
      [.alloc 4096, .alloc 8192] fun _ s op =>
        s.ctx.dma_addr.truncate 32 = 0#32 ∨ op.LeavesBuffer .idle s :=
  never_dangles_iff .idle (fun _ => .zeroed) base_words_zeroed 0x1000 0x2000 (some 0x3000) _

/-- Freeing the buffer leaves the card with its address. -/
theorem free_dangles : BaseWords (fun _ => .zeroed) [] 0 ∧
    ¬ NeverDangles .idle (fun _ => .zeroed) (fresh_machine (some 0x1000) (some 0x2000) (some 0x3000))
      [.alloc 4096, .free] := by
  refine ⟨base_words_zeroed, fun hnever => ?_⟩
  have hattached := @Attached.step (fun _ => .zeroed) _ .idle
    (.fresh 0x1000 0x2000 (some 0x3000)) (.alloc 4096)
  have hallocated := hnever.2 [] (.alloc 4096) [.free] rfl
  have hfreed := hnever.2 [.alloc 4096] .free [] rfl
  have hbuffer := (hattached.step_pointsAtLive_iff .idle hallocated .free).mp hfreed
  revert hbuffer
  rw [DmaOp.LeavesBuffer]
  decide

end motu424
