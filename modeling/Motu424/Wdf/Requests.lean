import Motu424.Wdf
import Motu424.Pal.Trace

open Program

namespace motu424.wdf

/-- The answer that an event hands to the framework. -/
def completion : Event → Option Answer
  | .complete status bytes output => some (status, bytes, output)
  | _ => none

/-- The answers of a trace, in order. -/
def completions (trace : List Event) : List Answer := trace.filterMap completion

/-- What a request leaves behind that fails: no bytes, no register written and
the context as it was. -/
structure FailsCleanly (m m' : Machine) (bytes : Nat) : Prop where
  bytes : bytes = 0
  ctx : m'.ctx = m.ctx
  writes : WritesNothing (m'.since m)

/-- What the switch may do with a request before it is completed. -/
structure Answered (output_length : Nat) (m : Machine) (answer : Answer) (m' : Machine) : Prop where
  trace : ∃ new, m'.trace = m.trace ++ new ∧ completions new = []
  failure : ¬ NT_SUCCESS answer.1 → FailsCleanly m m' answer.2.1
  success : NT_SUCCESS answer.1 → answer.2.1 ≤ output_length

/-- Neither a write nor a completion. -/
def Harmless : Event → Prop
  | .write _ _ _ _ => False
  | .complete _ _ _ => False
  | _ => True

theorem completions_of_harmless {events : List Event} (hevents : ∀ e ∈ events, Harmless e) :
    completions events = [] := by
  apply List.filterMap_eq_nil_iff.mpr
  intro e he
  have hharmless := hevents e he
  cases e with
  | complete status bytes output => exact hharmless.elim
  | _ => rfl

section answers

variable {env : Env} {m : Machine} {output_length : Nat} {answer : Answer} {events : List Event}

/-- A status alone, after harmless events, answers a request either way. -/
theorem Answered.status (status : NTSTATUS) (hevents : ∀ e ∈ events, Harmless e) :
    Answered output_length m (.of_status status) (m.emit events) where
  trace := ⟨events, rfl, completions_of_harmless hevents⟩
  failure := fun _ => by
    refine ⟨rfl, rfl, ?_⟩
    rw [since_emit]
    exact fun bar base offset value hwrite => hevents _ hwrite
  success := fun _ => Nat.zero_le _

/-- An answer that succeeds must fit. -/
theorem Answered.of_success {m' : Machine} {new : List Event} (hsuccess : answer.1 = STATUS_SUCCESS)
    (hnew : m'.trace = m.trace ++ new) (hcompletions : completions new = [])
    (hfits : answer.2.1 ≤ output_length) : Answered output_length m answer m' where
  trace := ⟨new, hnew, hcompletions⟩
  failure := fun hfailure => absurd (by rw [hsuccess]; decide) hfailure
  success := fun _ => hfits

theorem Answered.words {words : List U32} (hevents : ∀ e ∈ events, Harmless e)
    (hfits : 4 * words.length ≤ output_length) :
    Answered output_length m (.of_words words) (m.emit events) :=
  Answered.of_success rfl rfl (completions_of_harmless hevents) hfits

/-- A program that answers a request in one way or the other. -/
abbrev Answers (env : Env) (m : Machine) (output_length : Nat) (p : Pal Answer) : Prop :=
  Ends env m (Answered output_length m) p

theorem Answers.status (status : NTSTATUS) : Answers env m output_length (pure (.of_status status)) := by
  have h := @Answered.status m output_length [] status (by simp)
  rwa [Machine.emit_nil] at h

theorem exec_read_or_zero {bar : Bar} (base : Iomem bar) (offset : U32) :
    ∃ events, (read_or_zero base offset).exec env m = m.emit events ∧ ∀ e ∈ events, Harmless e := by
  unfold read_or_zero
  split
  · exact ⟨[], by simp, by simp⟩
  · exact ⟨_, rfl, by simp [Harmless]⟩

theorem ioctl_get_info_answers : Answers env m output_length (ioctl_get_info output_length) := by
  unfold ioctl_get_info
  refine Ends.ite (fun _ => Answers.status _) fun hsize => ?_
  obtain ⟨first, hfirst, hharmless⟩ := @exec_read_or_zero env m _ m.ctx.iobase_port 0
  obtain ⟨second, hsecond, hharmless'⟩ :=
    @exec_read_or_zero env (m.emit first) _ m.ctx.iobase_reg MOTU_REG_PORT_CONF
  refine Ends.bind (Ends.bind (Ends.bind (Ends.pure ?_)))
  rw [exec_get_ctx, eval_get_ctx, hfirst, hsecond, Machine.emit_emit]
  apply Answered.words
  · exact List.forall_mem_append.mpr ⟨hharmless, hharmless'⟩
  · simp only [List.length_cons, List.length_nil]
    omega

/-- A request for one word of a register. -/
theorem word_request_answers {bar : Bar} (base : motu424_ctx → Iomem bar) (offset : U32) :
    Answers env m output_length
      (if output_length < 4 then pure (.of_status STATUS_BUFFER_TOO_SMALL)
      else do
        let ctx ← get_ctx
        let word ← read_or_zero (base ctx) offset
        pure (.of_words [word])) := by
  refine Ends.ite (fun _ => Answers.status _) fun hsize => ?_
  obtain ⟨events, hexec, hharmless⟩ := @exec_read_or_zero env m _ (base m.ctx) offset
  refine Ends.bind (Ends.bind (Ends.pure ?_))
  rw [exec_get_ctx, eval_get_ctx, hexec]
  apply Answered.words hharmless
  simp only [List.length_cons, List.length_nil]
  omega

/-- A register that is read and written back, with a note in the context. -/
theorem write_back_answers {bar : Bar} (base : Iomem bar) (offset : U32) (val : U32 → U32)
    (note : U32 → motu424_ctx → motu424_ctx) (fmt : String) :
    Answers env m output_length (do
      let old ← pal_read32 base offset
      pal_write32 base offset (val old)
      set_ctx (note old)
      pal_log .info fmt []
      pure (.of_status STATUS_SUCCESS)) := by
  have hnew (old : U32) : m.trace ++ [Event.read bar base.addr offset] ++
      [Event.write bar base.addr offset (val old)] ++ [Event.log .info fmt []] =
      m.trace ++ [.read bar base.addr offset, .write bar base.addr offset (val old), .log .info fmt []] := by
    simp
  exact Answered.of_success rfl (hnew _) rfl (Nat.zero_le _)

theorem ioctl_start_answers : Answers env m output_length ioctl_start :=
  Ends.bind (Ends.ite (fun _ => Answers.status _) fun _ => write_back_answers _ _ _ _ _)

theorem ioctl_stop_answers : Answers env m output_length ioctl_stop :=
  Ends.bind (Ends.ite (fun _ => Answers.status _) fun _ => write_back_answers _ _ _ _ _)

/-- The switch on the BAR of a register request. -/
theorem Answers.by_bar {bar : U32} {dsp reg port other : Pal Answer} (hdsp : Answers env m output_length dsp)
    (hreg : Answers env m output_length reg) (hport : Answers env m output_length port)
    (hother : Answers env m output_length other) :
    Answers env m output_length (if bar = 0 then dsp else if bar = 1 then reg else if bar = 2 then port
      else other) := by
  refine Ends.ite (fun _ => hdsp) fun _ => ?_
  refine Ends.ite (fun _ => hreg) fun _ => ?_
  exact Ends.ite (fun _ => hport) fun _ => hother

/-- A register read, whether or not its value finds room in the output. -/
theorem read_reg_answers {bar : Bar} (base : Iomem bar) (regOp : MOTU424_REG_OP) :
    Answers env m output_length (do
      let value ← pal_read32 base regOp.offset
      pure (read_reg_answer regOp output_length value)) := by
  refine Ends.bind (Ends.pure ?_)
  have hharmless : ∀ e ∈ [Event.read bar base.addr regOp.offset], Harmless e := by simp [Harmless]
  rw [exec_pal_read32, read_reg_answer]
  split
  · exact Answered.status _ hharmless
  · apply Answered.words hharmless
    simp only [List.length_cons, List.length_nil]
    omega

theorem ioctl_read_reg_answers (input : List U8) :
    Answers env m output_length (ioctl_read_reg input output_length) := by
  refine Ends.bind ?_
  rw [exec_get_ctx, eval_get_ctx]
  cases MOTU424_REG_OP.of_input input with
  | none => exact Answers.status _
  | some regOp =>
    exact Answers.by_bar (read_reg_answers _ regOp) (read_reg_answers _ regOp) (read_reg_answers _ regOp)
      (Answers.status _)

theorem write_reg_answers {bar : Bar} (base : Iomem bar) (regOp : MOTU424_REG_OP) :
    Answers env m output_length (do
      pal_write32 base regOp.offset regOp.value
      pure (.of_status STATUS_SUCCESS)) :=
  Answered.of_success rfl rfl rfl (Nat.zero_le _)

theorem ioctl_write_reg_answers (input : List U8) :
    Answers env m output_length (ioctl_write_reg input) := by
  refine Ends.bind ?_
  rw [exec_get_ctx, eval_get_ctx]
  cases MOTU424_REG_OP.of_input input with
  | none => exact Answers.status _
  | some regOp =>
    exact Answers.by_bar (write_reg_answers _ regOp) (write_reg_answers _ regOp) (write_reg_answers _ regOp)
      (Answers.status _)

end answers

/-- The switch answers every request, whatever its code. -/
theorem ioctl_switch_answers (env : Env) (m : Machine) (request : WDFREQUEST) :
    Answers env m request.output_length (ioctl_switch request) := by
  unfold ioctl_switch
  refine Ends.ite (fun _ => ioctl_get_info_answers) fun _ => ?_
  refine Ends.ite (fun _ => ioctl_start_answers) fun _ => ?_
  refine Ends.ite (fun _ => ioctl_stop_answers) fun _ => ?_
  refine Ends.ite (fun _ => word_request_answers (·.iobase_reg) MOTU_REG_DMA_CTRL) fun _ => ?_
  refine Ends.ite (fun _ => ioctl_read_reg_answers request.input) fun _ => ?_
  refine Ends.ite (fun _ => ioctl_write_reg_answers request.input) fun _ => ?_
  exact Ends.ite (fun _ => word_request_answers (·.iobase_port) 0) fun _ => Answers.status _

/-- Every request is completed once, with the status that the callback returns. A
request that fails has done nothing, and one that succeeds stays inside its
output buffer. -/
theorem EvtIoDeviceControl_completes (env : Env) (m : Machine) (request : WDFREQUEST) :
    ∃ answer : Answer,
      completions (((EvtIoDeviceControl request).exec env m).since m) = [answer] ∧
      (EvtIoDeviceControl request).eval env m = answer.1 ∧
      (¬ NT_SUCCESS answer.1 → FailsCleanly m ((EvtIoDeviceControl request).exec env m) answer.2.1) ∧
      (NT_SUCCESS answer.1 → answer.2.1 ≤ request.output_length) := by
  obtain ⟨⟨new, hnew, hpending⟩, hfailure, hsuccess⟩ := ioctl_switch_answers env m request
  generalize hanswer : (ioctl_switch request).eval env m = answer at hfailure hsuccess
  generalize hswitch : (ioctl_switch request).exec env m = m' at hnew hfailure
  have heval : (EvtIoDeviceControl request).eval env m = answer.1 := by
    rw [EvtIoDeviceControl, eval_bind, hanswer, eval_bind, eval_pure]
  have hexec : (EvtIoDeviceControl request).exec env m =
      m'.emit [.complete answer.1 answer.2.1 answer.2.2] := by
    rw [EvtIoDeviceControl, exec_bind, hanswer, hswitch, exec_bind, exec_perform, exec_pure]
  have hsince : ((EvtIoDeviceControl request).exec env m).since m =
      new ++ [.complete answer.1 answer.2.1 answer.2.2] := by
    apply since_of_trace
    rw [hexec, Machine.emit_trace, hnew, List.append_assoc]
  refine ⟨answer, ?_, heval, fun hfailed => ?_, hsuccess⟩
  · rw [hsince, completions, List.filterMap_append]
    change completions new ++ [answer] = [answer]
    rw [hpending, List.nil_append]
  · obtain ⟨hbytes, hctx, hwrites⟩ := hfailure hfailed
    refine ⟨hbytes, ?_, fun bar base offset value hwrite => ?_⟩
    · rw [hexec, Machine.emit_ctx, hctx]
    · rw [hsince] at hwrite
      rcases List.mem_append.mp hwrite with hbefore | hlast
      · exact hwrites bar base offset value (by rwa [since_of_trace hnew])
      · simp at hlast

end motu424.wdf
