import Motu424.Dma
import Motu424.Pal.Emits

open Program

namespace motu424

/-- The context after `motu424_dma_free`. -/
def dma_freed (c : motu424_ctx) : motu424_ctx :=
  if c.dma_buf = none then c else { c with dma_buf := none, dma_addr := 0, dma_size := 0 }

/-- What `motu424_dma_free` does outside. -/
def dma_free_events (c : motu424_ctx) : List Event :=
  match c.dma_buf with
  | none => []
  | some buf => [.dma_free buf c.dma_addr c.dma_size]

/-- The context with a new buffer of the size that is asked of the platform. -/
def dma_owned (c : motu424_ctx) (size : U64) (buf : Nat × U64) : motu424_ctx :=
  { c with dma_buf := some buf.1, dma_addr := buf.2, dma_size := dma_request size }

/-- What a successful allocation does outside after a possible free. -/
def dma_alloc_events (c : motu424_ctx) (size : U64) (buf : Nat × U64) : List Event :=
  [.dma_alloc (dma_request size) (some buf), .memset buf.1 0 (dma_request size),
    .log .info "allocated %zu byte DMA buffer at phys 0x%llx\n" [.u64 (dma_request size), .u64 buf.2]] ++
  sg_events (dma_owned c size buf)

theorem exec_motu424_dma_free (env : Env) (m : Machine) :
    motu424_dma_free.exec env m = ⟨dma_freed m.ctx, m.trace ++ dma_free_events m.ctx⟩ := by
  rw [motu424_dma_free, exec_bind, exec_get_ctx, eval_get_ctx]
  cases hbuf : m.ctx.dma_buf with
  | none => simp [dma_freed, dma_free_events, hbuf]
  | some buf => simp [dma_freed, dma_free_events, hbuf, Machine.emit]

theorem dma_owned_freed (c : motu424_ctx) (size : U64) (buf : Nat × U64) :
    dma_owned (dma_freed c) size buf = dma_owned c size buf := by
  by_cases hbuf : c.dma_buf = none <;> simp [dma_freed, dma_owned, hbuf]

theorem eval_motu424_dma_setup_sg (env : Env) (m : Machine) :
    motu424_dma_setup_sg.eval env m = if m.ctx.dma_buf = none then -1 else 0 := by
  by_cases hbuf : m.ctx.dma_buf = none <;> simp [motu424_dma_setup_sg, hbuf]

theorem exec_motu424_dma_setup_sg (env : Env) (m : Machine) (hbuf : m.ctx.dma_buf ≠ none) :
    motu424_dma_setup_sg.exec env m = m.emit (sg_events m.ctx) := by
  simp [motu424_dma_setup_sg, hbuf, sg_events]

/-- The machine on which the allocator calls the platform. -/
def dma_request_machine (m : Machine) : Machine :=
  ⟨dma_freed m.ctx, m.trace ++ dma_free_events m.ctx⟩

theorem exec_free_when (env : Env) (m : Machine) :
    (Program.when (m.ctx.dma_buf ≠ none) motu424_dma_free).exec env m = dma_request_machine m := by
  by_cases hbuf : m.ctx.dma_buf = none
  · obtain ⟨c, trace⟩ := m
    simp_all [dma_request_machine, dma_freed, dma_free_events]
  · rw [exec_when, if_pos hbuf, exec_motu424_dma_free]
    rfl

/-- A refused allocation returns the platform's code. -/
theorem dma_alloc_new_refused (env : Env) (m : Machine) (size : U64) {err : PalError}
    (hresult : env.dma_alloc m.trace (dma_request size) = .error err) :
    (dma_alloc_new size).eval env m = err.code ∧ (dma_alloc_new size).exec env m =
      m.emit [.dma_alloc (dma_request size) none,
        .log .err "failed to allocate %zu byte DMA buffer\n" [.u64 (dma_request size)]] := by
  simp [dma_alloc_new, hresult, Except.toOption]

/-- A granted allocation is recorded, cleared and programmed into the card. The
failure exit after the descriptor set-up is never taken. -/
theorem dma_alloc_new_granted (env : Env) (m : Machine) (size : U64) {buf : Nat × U64}
    (hresult : env.dma_alloc m.trace (dma_request size) = .ok buf) :
    (dma_alloc_new size).eval env m = 0 ∧ (dma_alloc_new size).exec env m =
      ⟨dma_owned m.ctx size buf, m.trace ++ dma_alloc_events m.ctx size buf⟩ := by
  obtain ⟨vaddr, paddr⟩ := buf
  simp [dma_alloc_new, hresult, Except.toOption, eval_motu424_dma_setup_sg,
    exec_motu424_dma_setup_sg, dma_owned, dma_alloc_events, Machine.emit]

/-- The allocator keeps a buffer that is large enough. -/
def Reuses (c : motu424_ctx) (size : U64) : Prop := c.dma_buf ≠ none ∧ size ≤ c.dma_size

instance (c : motu424_ctx) (size : U64) : Decidable (Reuses c size) := inferInstanceAs (Decidable (_ ∧ _))

section outcomes

variable (env : Env) (m : Machine) (size : U64)

theorem motu424_dma_alloc_reused (hreuse : Reuses m.ctx size) :
    (motu424_dma_alloc size).eval env m = 0 ∧ (motu424_dma_alloc size).exec env m = m := by
  have hreuse : m.ctx.dma_buf ≠ none ∧ m.ctx.dma_size ≥ size := hreuse
  constructor
  · rw [motu424_dma_alloc, eval_bind, eval_get_ctx, exec_get_ctx, if_pos hreuse, eval_pure]
  · rw [motu424_dma_alloc, exec_bind, eval_get_ctx, exec_get_ctx, if_pos hreuse, exec_pure]

/-- Otherwise it asks the platform for a new one, after it has freed the old. -/
theorem motu424_dma_alloc_replaced (hreuse : ¬ Reuses m.ctx size) :
    (motu424_dma_alloc size).eval env m = (dma_alloc_new size).eval env (dma_request_machine m) ∧
    (motu424_dma_alloc size).exec env m = (dma_alloc_new size).exec env (dma_request_machine m) := by
  have hnew : ¬ (m.ctx.dma_buf ≠ none ∧ m.ctx.dma_size ≥ size) := hreuse
  constructor
  · rw [motu424_dma_alloc, eval_bind, eval_get_ctx, exec_get_ctx, if_neg hnew, eval_bind,
      exec_free_when]
  · rw [motu424_dma_alloc, exec_bind, eval_get_ctx, exec_get_ctx, if_neg hnew, exec_bind,
      exec_free_when]

theorem motu424_dma_alloc_refused (hreuse : ¬ Reuses m.ctx size) {err : PalError}
    (hresult : env.dma_alloc (dma_request_machine m).trace (dma_request size) = .error err) :
    (motu424_dma_alloc size).eval env m = err.code ∧
    (motu424_dma_alloc size).exec env m = (dma_request_machine m).emit
      [.dma_alloc (dma_request size) none,
        .log .err "failed to allocate %zu byte DMA buffer\n" [.u64 (dma_request size)]] := by
  obtain ⟨heval, hexec⟩ := motu424_dma_alloc_replaced env m size hreuse
  rw [heval, hexec]
  exact dma_alloc_new_refused env _ size hresult

theorem motu424_dma_alloc_granted (hreuse : ¬ Reuses m.ctx size) {buf : Nat × U64}
    (hresult : env.dma_alloc (dma_request_machine m).trace (dma_request size) = .ok buf) :
    (motu424_dma_alloc size).eval env m = 0 ∧
    (motu424_dma_alloc size).exec env m = ⟨dma_owned m.ctx size buf,
      (dma_request_machine m).trace ++ dma_alloc_events m.ctx size buf⟩ := by
  obtain ⟨heval, hexec⟩ := motu424_dma_alloc_replaced env m size hreuse
  obtain ⟨hzero, hnew⟩ := dma_alloc_new_granted env _ size hresult
  have howned : dma_owned (dma_request_machine m).ctx size buf = dma_owned m.ctx size buf :=
    dma_owned_freed m.ctx size buf
  rw [dma_alloc_events, howned] at hnew
  rw [heval, hexec, dma_alloc_events]
  exact ⟨hzero, hnew⟩

/-- The three outcomes of the allocator: the buffer is reused, the platform
refuses, or a new buffer is in place. -/
theorem motu424_dma_alloc_cases :
    (m.ctx.dma_buf ≠ none ∧ size ≤ m.ctx.dma_size ∧ (motu424_dma_alloc size).eval env m = 0 ∧
      (motu424_dma_alloc size).exec env m = m) ∨
    (∃ err : PalError, (motu424_dma_alloc size).eval env m = err.code ∧
      (motu424_dma_alloc size).exec env m = (dma_request_machine m).emit
        [.dma_alloc (dma_request size) none,
          .log .err "failed to allocate %zu byte DMA buffer\n" [.u64 (dma_request size)]]) ∨
    (∃ buf, env.dma_alloc (dma_request_machine m).trace (dma_request size) = .ok buf ∧
      (motu424_dma_alloc size).eval env m = 0 ∧
      (motu424_dma_alloc size).exec env m = ⟨dma_owned m.ctx size buf,
        (dma_request_machine m).trace ++ dma_alloc_events m.ctx size buf⟩) := by
  by_cases hreuse : Reuses m.ctx size
  · left
    exact ⟨hreuse.1, hreuse.2, motu424_dma_alloc_reused env m size hreuse⟩
  · right
    cases hresult : env.dma_alloc (dma_request_machine m).trace (dma_request size) with
    | error err =>
      left
      exact ⟨err, motu424_dma_alloc_refused env m size hreuse hresult⟩
    | ok buf =>
      right
      exact ⟨buf, rfl, motu424_dma_alloc_granted env m size hreuse hresult⟩

end outcomes

theorem dma_freed_base (c : motu424_ctx) (bar : Bar) : (dma_freed c).base bar = c.base bar := by
  by_cases hbuf : c.dma_buf = none
  · rw [dma_freed, if_pos hbuf]
  · rw [dma_freed, if_neg hbuf]
    cases bar <;> rfl

/-- The allocator keeps the mappings, whatever its outcome. -/
theorem motu424_dma_alloc_base (env : Env) (m : Machine) (size : U64) (bar : Bar) :
    ((motu424_dma_alloc size).exec env m).ctx.base bar = m.ctx.base bar := by
  rcases motu424_dma_alloc_cases env m size with ⟨_, _, _, hexec⟩ | ⟨_, _, hexec⟩ | ⟨buf, _, _, hexec⟩
  · rw [hexec]
  · rw [hexec, Machine.emit_ctx]
    exact dma_freed_base m.ctx bar
  · rw [hexec]
    cases bar <;> rfl

/-- A successful allocation leaves a buffer in the context, either the one that
was there or a new one. -/
theorem motu424_dma_alloc_success {env : Env} {m : Machine} {size : U64}
    (hok : (motu424_dma_alloc size).eval env m = 0) :
    (m.ctx.dma_buf ≠ none ∧ size ≤ m.ctx.dma_size ∧ ((motu424_dma_alloc size).exec env m).ctx = m.ctx) ∨
    ∃ buf, ((motu424_dma_alloc size).exec env m).ctx = dma_owned m.ctx size buf := by
  rcases motu424_dma_alloc_cases env m size with ⟨hbuf, hsize, _, hexec⟩ | ⟨err, heval, _⟩ | ⟨buf, _, _, hexec⟩
  · exact .inl ⟨hbuf, hsize, by rw [hexec]⟩
  · exact absurd (heval.symm.trans hok) err.nonzero
  · exact .inr ⟨buf, by rw [hexec]⟩

end motu424
