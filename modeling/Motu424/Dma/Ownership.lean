import Motu424.Dma.Alloc
import Motu424.Foundation.Ledger
import Motu424.Foundation.Run

open Program Ledger Run

namespace motu424

/-- The calls that the frontends make for the DMA buffer. -/
inductive DmaOp where
  | alloc (size : U64)
  | free
  deriving DecidableEq, Repr

def DmaOp.run : DmaOp → Pal Int
  | .alloc size => motu424_dma_alloc size
  | .free => motu424_dma_free >>= fun _ => pure 0

/-- The state a call leaves behind. -/
def dma_step (env : Env) (m : Machine) (op : DmaOp) : Machine := op.run.exec env m

/-- A driver that has just set up its context. -/
def fresh_machine (dsp reg port : Option Nat) : Machine := ⟨.fresh dsp reg port, []⟩

/-- A buffer as the platform knows it. -/
structure Allocation where
  vaddr : Nat
  paddr : U64
  size : U64
  deriving DecidableEq, Repr

/-- The entry that an event makes in the account of the platform. -/
def Event.entry : Event → Option (Entry Allocation)
  | .dma_alloc size (some (vaddr, paddr)) => some (.take ⟨vaddr, paddr, size⟩)
  | .dma_free vaddr paddr size => some (.give ⟨vaddr, paddr, size⟩)
  | _ => none

def dma_book (trace : List Event) : List (Entry Allocation) := trace.filterMap Event.entry

@[simp] theorem dma_book_append (xs ys : List Event) : dma_book (xs ++ ys) = dma_book xs ++ dma_book ys :=
  List.filterMap_append

/-- Whatever the platform has granted and not got back is the buffer of the
context, and it only gets back what it has granted. -/
structure OwnsExactly (m : Machine) : Prop where
  none_live : m.ctx.dma_buf = none →
    m.ctx.dma_addr = 0 ∧ m.ctx.dma_size = 0 ∧ ∀ a, held (dma_book m.trace) a = 0
  one_live : ∀ buf, m.ctx.dma_buf = some buf →
    ∀ a, held (dma_book m.trace) a = if ⟨buf, m.ctx.dma_addr, m.ctx.dma_size⟩ = a then 1 else 0
  solvent : Solvent (dma_book m.trace)

theorem dma_freed_buf (c : motu424_ctx) : (dma_freed c).dma_buf = none := by
  by_cases hbuf : c.dma_buf = none
  · rw [dma_freed, if_pos hbuf, hbuf]
  · rw [dma_freed, if_neg hbuf]

namespace OwnsExactly

variable {m : Machine}

/-- A fresh driver owns nothing. -/
theorem fresh (dsp reg port : Option Nat) : OwnsExactly (fresh_machine dsp reg port) where
  none_live := fun _ => ⟨rfl, rfl, fun _ => rfl⟩
  one_live := fun buf hbuf => by cases hbuf
  solvent := solvent_nil

/-- Whatever keeps the buffer of the context and the account of the platform. -/
theorem same_buffer (howns : OwnsExactly m) {m' : Machine} (hbuf : m'.ctx.dma_buf = m.ctx.dma_buf)
    (haddr : m'.ctx.dma_addr = m.ctx.dma_addr) (hsize : m'.ctx.dma_size = m.ctx.dma_size)
    (hbook : dma_book m'.trace = dma_book m.trace) : OwnsExactly m' where
  none_live := by
    rw [hbuf, haddr, hsize, hbook]
    exact howns.none_live
  one_live := by
    rw [hbuf, haddr, hsize, hbook]
    exact howns.one_live
  solvent := by
    rw [hbook]
    exact howns.solvent

/-- Events that the platform's account does not see. -/
theorem emit (howns : OwnsExactly m) {events : List Event} (hevents : dma_book events = []) :
    OwnsExactly (m.emit events) := by
  have hbook : dma_book (m.emit events).trace = dma_book m.trace := by
    rw [Machine.emit_trace, dma_book_append, hevents, List.append_nil]
  exact howns.same_buffer rfl rfl rfl hbook

/-- Freeing gives back the one allocation that is held, if there is one. -/
theorem freed (howns : OwnsExactly m) : OwnsExactly (dma_request_machine m) := by
  cases hbuf : m.ctx.dma_buf with
  | none =>
    have hsame : dma_request_machine m = m := by
      rw [dma_request_machine, dma_freed, dma_free_events, if_pos hbuf, hbuf, List.append_nil]
    rw [hsame]
    exact howns
  | some buf =>
    have hheld := howns.one_live buf hbuf
    have hbook : dma_book (dma_request_machine m).trace =
        dma_book m.trace ++ [.give ⟨buf, m.ctx.dma_addr, m.ctx.dma_size⟩] := by
      rw [dma_request_machine, dma_book_append, dma_free_events, hbuf]
      rfl
    have hctx : (dma_request_machine m).ctx =
        { m.ctx with dma_buf := none, dma_addr := 0, dma_size := 0 } := by
      rw [dma_request_machine, dma_freed, if_neg (by simp [hbuf])]
    constructor
    · intro _
      refine ⟨by rw [hctx], by rw [hctx], fun a => ?_⟩
      rw [hbook, held_append, hheld, held_give]
      split <;> rfl
    · intro buf' hbuf'
      rw [hctx] at hbuf'
      cases hbuf'
    · rw [hbook]
      apply howns.solvent.give
      rw [hheld, if_pos rfl]
      decide

/-- A granted allocation becomes the one that is held. -/
theorem granted (howns : OwnsExactly m) (hfree : m.ctx.dma_buf = none) (c : motu424_ctx) (size : U64)
    (buf : Nat × U64) : OwnsExactly ⟨dma_owned c size buf, m.trace ++ dma_alloc_events c size buf⟩ := by
  obtain ⟨_, _, hheld⟩ := howns.none_live hfree
  have hbook : dma_book (m.trace ++ dma_alloc_events c size buf) =
      dma_book m.trace ++ [.take ⟨buf.1, buf.2, dma_request size⟩] := by
    rw [dma_book_append]
    rfl
  constructor
  · intro hnone
    cases hnone
  · intro buf' hbuf' a
    cases hbuf'
    rw [hbook, held_append, hheld, held_take, Int.zero_add]
    rfl
  · rw [hbook]
    exact howns.solvent.take _

/-- Every call keeps the ownership exact, whatever the platform answers. -/
theorem step (env : Env) (howns : OwnsExactly m) (op : DmaOp) : OwnsExactly (dma_step env m op) := by
  cases op with
  | free =>
    rw [dma_step, DmaOp.run, exec_bind, exec_pure, exec_motu424_dma_free]
    exact howns.freed
  | alloc size =>
    rcases motu424_dma_alloc_cases env m size with ⟨_, _, _, hexec⟩ | ⟨_, _, hexec⟩ | ⟨buf, _, _, hexec⟩
    · rw [dma_step, DmaOp.run, hexec]
      exact howns
    · rw [dma_step, DmaOp.run, hexec]
      exact howns.freed.emit rfl
    · rw [dma_step, DmaOp.run, hexec]
      exact howns.freed.granted (dma_freed_buf m.ctx) m.ctx size buf

end OwnsExactly

/-- In every state that allocations and frees can reach from a fresh driver, the
context names exactly the live allocation, and no free was ever wrong. -/
theorem dma_ownership_exact (env : Env) (dsp reg port : Option Nat) (ops : List DmaOp) :
    OwnsExactly (run (dma_step env) (fresh_machine dsp reg port) ops) :=
  run_invariant (fun _ op howns => howns.step env op) (.fresh dsp reg port)

end motu424
