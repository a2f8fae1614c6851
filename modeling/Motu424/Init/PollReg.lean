import Motu424.Init.Footprint

open Program

namespace motu424

/-- The register access of `motu_read`. There is none for a tag that names no BAR. -/
def read_access (ctx : motu424_ctx) (bar : U8) (offset : U32) : List Event :=
  (tag_bar bar).toList.map fun b => .read b (ctx.base b) offset

/-- What a round of the poll does when the value it reads is not the expected one. -/
def missed_round (ctx : motu424_ctx) (bar : U8) (offset : U32) : List Event :=
  read_access ctx bar offset ++ [.msleep 1]

/-- What a round does that reads a value: it sleeps unless the value is the expected
one. -/
def round_events (ctx : motu424_ctx) (bar : U8) (offset expected val : U32) : List Event :=
  if val = expected then read_access ctx bar offset else missed_round ctx bar offset

/-- The stream of values that the register returns to a poll that never matches. -/
def polled (env : Env) (bar : U8) (offset : U32) : Machine → Nat → U32
  | m, 0 => (motu_read m.ctx bar offset).eval env m
  | m, i + 1 => polled env bar offset (m.emit (missed_round m.ctx bar offset)) i

def timeout_line (bar : U8) (offset expected : U32) (timeout_ms : Int) (got : LogArg) : Event :=
  .log .dbg "poll timeout: bar=%u offset=0x%x expected=0x%x got=0x%x (after %d ms)\n"
    [.int bar.toNat, .u32 offset, .u32 expected, got, .int timeout_ms]

/-- The values of a read history: they stand at the head of the stream, they are no
more than the rounds allow, and no value before the last one matches. -/
structure ReadHistory (env : Env) (m : Machine) (bar : U8) (offset expected : U32) (rounds : Nat)
    (history : List U32) : Prop where
  reads : history = (List.range history.length).map (polled env bar offset m)
  bounded : history.length ≤ rounds
  stops : ∀ val ∈ history.dropLast, val ≠ expected

/-- The call reports exactly what it saw: it makes the reads of a history, with a
sleep after each one that does not match, and logs no value but one of them. -/
structure Reports (env : Env) (m : Machine) (bar : U8) (offset expected : U32) (timeout_ms : Int)
    (history : List U32) : Prop extends
    ReadHistory env m bar offset expected timeout_ms.toNat history where
  returns_zero_iff : (motu424_poll_reg bar offset expected timeout_ms).eval env m = 0 ↔
    ∃ i < timeout_ms.toNat, polled env bar offset m i = expected
  events : ∃ log, ((motu424_poll_reg bar offset expected timeout_ms).exec env m).since m =
      history.flatMap (round_events m.ctx bar offset expected) ++ log ∧
    ∀ line ∈ log, ∃ val ∈ history, line = timeout_line bar offset expected timeout_ms (.u32 val)

section loop

variable {env : Env} {m : Machine} {bar : U8} {offset expected : U32} {rounds : Nat}

theorem exec_motu_read (env : Env) (m : Machine) (ctx : motu424_ctx) (bar : U8) (offset : U32) :
    (motu_read ctx bar offset).exec env m = m.emit (read_access ctx bar offset) := by
  unfold motu_read read_access tag_bar
  split_ifs with hdsp hreg hport
  · rfl
  · rfl
  · rfl
  · rw [Option.toList_none, List.map_nil, Machine.emit_nil, exec_pure]

theorem ReadHistory.nil : ReadHistory env m bar offset expected 0 [] where
  reads := rfl
  bounded := Nat.le_refl 0
  stops := by simp

/-- The first read matches. -/
theorem ReadHistory.matched (hmatch : polled env bar offset m 0 = expected) :
    ReadHistory env m bar offset expected (rounds + 1) [expected] where
  reads := by simp [hmatch]
  bounded := by simp
  stops := by simp

/-- The first read does not match, and the poll goes on. -/
theorem ReadHistory.missed {history : List U32} (hmiss : polled env bar offset m 0 ≠ expected)
    (hrest : ReadHistory env (m.emit (missed_round m.ctx bar offset)) bar offset expected rounds history) :
    ReadHistory env m bar offset expected (rounds + 1) (polled env bar offset m 0 :: history) where
  reads := by
    rw [List.length_cons, List.range_succ_eq_map, List.map_cons, List.map_map]
    exact congrArg _ hrest.reads
  bounded := Nat.succ_le_succ hrest.bounded
  stops := by
    intro val hval
    cases history with
    | nil => simp at hval
    | cons next history =>
      rw [List.dropLast_cons_of_ne_nil (List.cons_ne_nil _ _)] at hval
      rcases List.mem_cons.mp hval with rfl | hval
      · exact hmiss
      · exact hrest.stops val hval

/-- What the loop leaves behind: the reads of a history and what it found in them.
A loop that finds nothing uses up its rounds. -/
structure LoopRun (env : Env) (m : Machine) (bar : U8) (offset expected : U32) (rounds : Nat)
    (val : Option U32) (history : List U32) : Prop extends
    ReadHistory env m bar offset expected rounds history where
  exec : (poll_reg_loop m.ctx bar offset expected rounds val).exec env m =
    m.emit (history.flatMap (round_events m.ctx bar offset expected))
  eval : (poll_reg_loop m.ctx bar offset expected rounds val).eval env m =
    (decide (expected ∈ history), history.getLast?.or val)
  exhausted : expected ∉ history → history.length = rounds

theorem LoopRun.nil {val : Option U32} : LoopRun env m bar offset expected 0 val [] where
  toReadHistory := .nil
  exec := by rw [poll_reg_loop, exec_pure, List.flatMap_nil, Machine.emit_nil]
  eval := by simp [poll_reg_loop]
  exhausted := fun _ => rfl

theorem LoopRun.matched {val : Option U32} (hmatch : polled env bar offset m 0 = expected) :
    LoopRun env m bar offset expected (rounds + 1) val [expected] := by
  have hval : (motu_read m.ctx bar offset).eval env m = expected := hmatch
  refine ⟨.matched hmatch, ?_, ?_, ?_⟩
  · rw [poll_reg_loop, exec_bind, hval, if_pos rfl, exec_pure, exec_motu_read, List.flatMap_singleton,
      round_events, if_pos rfl]
  · rw [poll_reg_loop, eval_bind, hval, if_pos rfl, eval_pure]
    simp
  · simp

theorem LoopRun.missed {val : Option U32} {history : List U32} (hmiss : polled env bar offset m 0 ≠ expected)
    (hrest : LoopRun env (m.emit (missed_round m.ctx bar offset)) bar offset expected rounds
      (some (polled env bar offset m 0)) history) :
    LoopRun env m bar offset expected (rounds + 1) val (polled env bar offset m 0 :: history) := by
  have hval : ¬ (motu_read m.ctx bar offset).eval env m = expected := hmiss
  have hsleep : (pal_msleep 1).exec env ((motu_read m.ctx bar offset).exec env m) =
      m.emit (missed_round m.ctx bar offset) := by
    rw [exec_pal_msleep, exec_motu_read, Machine.emit_emit, missed_round]
  refine ⟨.missed hmiss hrest.toReadHistory, ?_, ?_, ?_⟩
  · rw [poll_reg_loop, exec_bind, if_neg hval, exec_bind, hsleep, List.flatMap_cons, round_events,
      if_neg hmiss, ← Machine.emit_emit]
    exact hrest.exec
  · rw [poll_reg_loop, eval_bind, if_neg hval, eval_bind, hsleep]
    refine hrest.eval.trans ?_
    rw [Option.or_some, List.getLast?_cons, Option.some_or]
    simp [Ne.symm hmiss]
  · intro hnone
    rw [List.mem_cons, not_or] at hnone
    rw [List.length_cons, hrest.exhausted hnone.2]

theorem poll_reg_loop_run (env : Env) (m : Machine) (bar : U8) (offset expected : U32) (rounds : Nat)
    (val : Option U32) : ∃ history, LoopRun env m bar offset expected rounds val history := by
  induction rounds generalizing m val with
  | zero => exact ⟨[], .nil⟩
  | succ rounds ih =>
    by_cases hmatch : polled env bar offset m 0 = expected
    · exact ⟨[expected], .matched hmatch⟩
    · obtain ⟨history, hrest⟩ := ih (m.emit (missed_round m.ctx bar offset)) (some (polled env bar offset m 0))
      exact ⟨_, .missed hmatch hrest⟩

/-- The expected value is in the history exactly when the rounds would let the poll
see it. -/
theorem LoopRun.mem_iff {val : Option U32} {history : List U32}
    (hrun : LoopRun env m bar offset expected rounds val history) :
    expected ∈ history ↔ ∃ i < rounds, polled env bar offset m i = expected := by
  have hmem : expected ∈ history ↔ ∃ i < history.length, polled env bar offset m i = expected := by
    conv => lhs; rw [hrun.reads]
    simp
  constructor
  · intro hfound
    obtain ⟨i, hi, hread⟩ := hmem.mp hfound
    exact ⟨i, Nat.lt_of_lt_of_le hi hrun.bounded, hread⟩
  · rintro ⟨i, hi, hread⟩
    by_contra hnone
    rw [← hrun.exhausted hnone] at hi
    exact hnone (hmem.mpr ⟨i, hi, hread⟩)

/-- The call is the loop, and a log line when the loop found nothing. -/
theorem LoopRun.call {timeout_ms : Int} {history : List U32}
    (hrun : LoopRun env m bar offset expected timeout_ms.toNat none history) :
    (motu424_poll_reg bar offset expected timeout_ms).eval env m = (if expected ∈ history then 0 else -1) ∧
    ((motu424_poll_reg bar offset expected timeout_ms).exec env m).since m =
      history.flatMap (round_events m.ctx bar offset expected) ++
        if expected ∈ history then []
        else [timeout_line bar offset expected timeout_ms (history.getLast?.elim .undef .u32)] := by
  rw [motu424_poll_reg, eval_bind, exec_bind, eval_get_ctx, exec_get_ctx, eval_bind, exec_bind, hrun.exec,
    hrun.eval, Option.or_none]
  dsimp only
  by_cases hfound : expected ∈ history
  · rw [if_pos (decide_eq_true hfound), if_pos hfound, if_pos hfound, List.append_nil]
    exact ⟨rfl, since_emit ..⟩
  · rw [if_neg (by simpa using hfound), if_neg hfound, if_neg hfound, eval_bind, exec_bind, exec_pal_log,
      exec_pure, Machine.emit_emit, since_emit]
    exact ⟨rfl, rfl⟩

end loop

section call

variable (env : Env) (m : Machine) (bar : U8) (offset expected : U32) {timeout_ms : Int}

/-- With a round to make the call reports what it saw. -/
theorem motu424_poll_reg_reports (htime : 0 < timeout_ms) :
    ∃ history, Reports env m bar offset expected timeout_ms history := by
  obtain ⟨history, hrun⟩ := poll_reg_loop_run env m bar offset expected timeout_ms.toNat none
  obtain ⟨heval, hevents⟩ := hrun.call
  refine ⟨history, hrun.toReadHistory, ?_, _, hevents, ?_⟩
  · rw [heval, ← hrun.mem_iff]
    by_cases hfound : expected ∈ history
    · simp [hfound]
    · simp [hfound]
  · intro line hline
    by_cases hfound : expected ∈ history
    · rw [if_pos hfound] at hline
      cases hline
    · rw [if_neg hfound, List.mem_singleton] at hline
      have hlength := hrun.exhausted hfound
      have hne : history ≠ [] := by
        rintro rfl
        rw [List.length_nil] at hlength
        omega
      refine ⟨history.getLast hne, List.getLast_mem hne, ?_⟩
      rw [hline, List.getLast?_eq_some_getLast hne, Option.elim_some]

/-- Without one it logs a value that it never read. -/
theorem motu424_poll_reg_logs_undef (htime : timeout_ms ≤ 0) :
    ¬ ∃ history, Reports env m bar offset expected timeout_ms history := by
  rintro ⟨history, hreports⟩
  have hrounds : timeout_ms.toNat = 0 := Int.toNat_of_nonpos htime
  obtain rfl : history = [] := by
    have hbound := hreports.bounded
    rw [hrounds] at hbound
    exact List.length_eq_zero_iff.mp (Nat.le_zero.mp hbound)
  have hrun : LoopRun env m bar offset expected timeout_ms.toNat none [] := by
    rw [hrounds]
    exact .nil
  obtain ⟨log, hlog, hvalues⟩ := hreports.events
  rw [hrun.call.2, if_neg List.not_mem_nil] at hlog
  obtain ⟨val, hval, _⟩ := hvalues _ (List.append_cancel_left hlog ▸ List.mem_singleton_self _)
  cases hval

theorem motu424_poll_reg_reports_iff (timeout_ms : Int) :
    (∃ history, Reports env m bar offset expected timeout_ms history) ↔ 0 < timeout_ms := by
  constructor
  · intro hreports
    by_contra htime
    exact motu424_poll_reg_logs_undef env m bar offset expected (Int.not_lt.mp htime) hreports
  · exact motu424_poll_reg_reports env m bar offset expected

end call

/-- A poll of a register that reads zero, for zero milliseconds. -/
theorem poll_for_no_time_logs_undef :
    ¬ ∃ history, Reports Env.idle ⟨mapped_ctx, []⟩ PAL_BAR_DSP MOTU_SYNC_REG_STATUS 0 0 history :=
  motu424_poll_reg_logs_undef _ _ _ _ _ (Int.le_refl 0)

end motu424
