import Motu424.Wdf.HardwareCycles

open Program Ledger Run

namespace motu424.wdf

/-- The handler in the device after an event: a request stores it, whether or not it is
granted, and `pal_irq_free` clears it. -/
def handler_after (stored : Bool) : Event → Bool
  | .irq_request _ => true
  | .irq_free => false
  | _ => stored

def irq_handler_stored (trace : List Event) : Bool := trace.foldl handler_after false

def motu424_irq_callback : Pal Unit := do
  let ctx ← get_ctx
  if ctx.iobase_reg = .null then pure ()
  else do
    let status ← pal_read32 ctx.iobase_reg MOTU_REG_INT_STATUS
    if status &&& MOTU_INT_PERIOD_ELAPSED = 0 then pure ()
    else pal_write32 ctx.iobase_reg MOTU_REG_INT_ACK status

/-- The service routine, which claims every interrupt. -/
def pal_win_irq_handler : Pal Bool := do
  let stored ← Program.gets fun m => irq_handler_stored m.trace
  Program.when (stored = true) motu424_irq_callback
  pure true

/-- What the framework calls, on a device that it has added. -/
inductive WdfCall where
  | prepare (resources : List (Option CmResource))
  | release
  | control (request : WDFREQUEST)
  | interrupt
  deriving DecidableEq, Repr

def WdfCall.run (call : WdfCall) : Wdf Unit :=
  match call with
  | .prepare resources => EvtDevicePrepareHardware resources >>= fun _ => pure ()
  | .release => EvtDeviceReleaseHardware >>= fun _ => pure ()
  | .control request => shared (EvtIoDeviceControl request) >>= fun _ => pure ()
  | .interrupt => shared pal_win_irq_handler >>= fun _ => pure ()

/-- A call, with the outside as it is during that call. -/
def wdf_step (d : DEVICE_CONTEXT) (call : WdfEnv × WdfCall) : DEVICE_CONTEXT := call.2.run.exec call.1 d

/-- The address that a register access goes through, unless it is NULL. -/
def Event.pointer : Event → Option Nat
  | .read _ base _ => base
  | .write _ base _ _ => base
  | _ => none

/-- A range at the address is mapped at the end of the trace. -/
def MappedAt (trace : List Event) (addr : Nat) : Prop := ∃ length, 0 < held (mappings trace) (addr, length)

/-- Whatever is unmapped is mapped at that time, and whatever a register access goes
through, too. -/
structure UsesMapped (trace : List Event) : Prop where
  unmaps : Solvent (mappings trace)
  accesses : Throughout (fun pre e => ∀ addr, Event.pointer e = some addr → MappedAt pre addr) trace

/-- An event of code that works through the pointers of a context. -/
def Event.Through (c : motu424_ctx) (e : Event) : Prop :=
  mapping e = none ∧ ∀ addr, Event.pointer e = some addr → ∃ bar, c.base bar = some addr

/-- The ranges that are recorded as BARs. -/
def DEVICE_CONTEXT.ranges (d : DEVICE_CONTEXT) : List (Nat × U32) :=
  (d.slot .dsp).toList ++ (d.slot .reg).toList ++ (d.slot .port).toList

/-- The pointers of the device are those of the ranges that it records, and these are
mapped, perhaps among others. -/
structure Sound (d : DEVICE_CONTEXT) : Prop where
  uses : UsesMapped d.machine.trace
  link : ∀ bar, d.machine.ctx.base bar = (d.slot bar).map Prod.fst
  account : ∃ others, Balance (mappings d.machine.trace) (d.ranges ++ others)

theorem mappings_append (xs ys : List Event) : mappings (xs ++ ys) = mappings xs ++ mappings ys :=
  List.filterMap_append

theorem mem_ranges {d : DEVICE_CONTEXT} {r : Nat × U32} : r ∈ d.ranges ↔ ∃ bar, d.slot bar = some r := by
  rw [DEVICE_CONTEXT.ranges, List.mem_append, List.mem_append, Option.mem_toList, Option.mem_toList,
    Option.mem_toList]
  constructor
  · rintro ((h | h) | h)
    · exact ⟨_, h⟩
    · exact ⟨_, h⟩
    · exact ⟨_, h⟩
  · rintro ⟨bar, h⟩
    cases bar with
    | dsp => exact .inl (.inl h)
    | reg => exact .inl (.inr h)
    | port => exact .inr h

/-- So a pointer of the device goes to a range that is mapped. -/
theorem Sound.mappedAt {d : DEVICE_CONTEXT} (hd : Sound d) {bar : Bar} {addr : Nat}
    (hbase : d.machine.ctx.base bar = some addr) : MappedAt d.machine.trace addr := by
  obtain ⟨others, haccount⟩ := hd.account
  obtain ⟨⟨base, length⟩, hslot, rfl⟩ := Option.map_eq_some_iff.mp ((hd.link bar).symm.trans hbase)
  exact ⟨length, haccount.held_pos (List.mem_append_left others (mem_ranges.mpr ⟨bar, hslot⟩))⟩

theorem UsesMapped.append_singleton {trace : List Event} (htrace : UsesMapped trace) {e : Event}
    (hunmap : Solvent (mappings (trace ++ [e]))) (haccess : ∀ addr, Event.pointer e = some addr → MappedAt trace addr) :
    UsesMapped (trace ++ [e]) where
  unmaps := hunmap
  accesses := throughout_append_singleton.mpr ⟨htrace.accesses, haccess⟩

/-- Work through the pointers of the device. -/
theorem UsesMapped.append {trace : List Event} (htrace : UsesMapped trace) {new : List Event}
    (hnew : ∀ e ∈ new, mapping e = none ∧ ∀ addr, Event.pointer e = some addr → MappedAt trace addr) :
    UsesMapped (trace ++ new) ∧ mappings (trace ++ new) = mappings trace := by
  induction new using List.reverseRecOn with
  | nil => rwa [List.append_nil, and_iff_left rfl]
  | append_singleton new e ih =>
    obtain ⟨huses, hsame⟩ := ih fun e' he' => hnew e' (List.mem_append_left _ he')
    obtain ⟨hnone, haccess⟩ := hnew e (by simp)
    have hlast : mappings [e] = [] := List.filterMap_cons_none hnone
    have hmappings : mappings (trace ++ new ++ [e]) = mappings trace := by
      rw [mappings_append, hlast, List.append_nil, hsame]
    rw [← List.append_assoc]
    refine ⟨huses.append_singleton (hmappings ▸ htrace.unmaps) fun addr haddr => ?_, hmappings⟩
    rw [MappedAt, hsame]
    exact haccess addr haddr

def Event.frees : Event → Bool
  | .dma_free _ _ _ => true
  | _ => false

/-- An event of code that works through the pointers of a context and keeps its buffer. -/
structure Event.Working (c : motu424_ctx) (e : Event) : Prop where
  through : Event.Through c e
  keeps : Event.frees e = false

/-- Shared code that works through the pointers of its context, and keeps them and the
buffer. -/
def ThroughPointers (env : Env) {α : Type} (p : Pal α) : Prop :=
  ∀ c, motu424.Emits env c.SameHw (Event.Working c) p

/-- An event that goes through no pointer. -/
def Event.Plain (e : Event) : Prop := mapping e = none ∧ Event.pointer e = none

section through

variable {env : Env} {c c' : motu424_ctx} {α : Type}

theorem Event.Plain.through {e : Event} (he : Event.Plain e) : Event.Through c e :=
  ⟨he.1, fun _ haddr => nomatch he.2.symm.trans haddr⟩

theorem Event.through_of_pointer {e : Event} {bar : Bar} (hc : c.SameBases c') (hnone : mapping e = none)
    (hpointer : Event.pointer e = c'.base bar) : Event.Through c e :=
  ⟨hnone, fun _ haddr => ⟨bar, (hc bar).symm.trans (hpointer.symm.trans haddr)⟩⟩

theorem Event.Within.working {W : Bar → U32 → U32 → Prop} {e : Event} (he : e.Within c W) :
    Event.Working c e := by
  cases e with
  | read bar base offset => exact ⟨Event.through_of_pointer (fun _ => rfl) rfl he, rfl⟩
  | write bar base offset value => exact ⟨Event.through_of_pointer (fun _ => rfl) rfl he.1, rfl⟩
  | msleep msecs => exact ⟨Event.Plain.through ⟨rfl, rfl⟩, rfl⟩
  | resched => exact ⟨Event.Plain.through ⟨rfl, rfl⟩, rfl⟩
  | log level fmt args => exact ⟨Event.Plain.through ⟨rfl, rfl⟩, rfl⟩
  | _ => exact he.elim

section rules

variable {K : motu424_ctx → Prop}

theorem working_write {bar : Bar} {base : Iomem bar} (hc : c.SameHw c') (hbase : base.addr = c'.base bar)
    (offset value : U32) : motu424.Emits env K (Event.Working c) (pal_write32 base offset value) :=
  motu424.Emits.pal_write32 ⟨Event.through_of_pointer hc.same_bases rfl hbase, rfl⟩

theorem working_read {bar : Bar} {base : Iomem bar} (hc : c.SameHw c') (hbase : base.addr = c'.base bar)
    (offset : U32) : motu424.Emits env K (Event.Working c) (pal_read32 base offset) :=
  motu424.Emits.pal_read32 ⟨Event.through_of_pointer hc.same_bases rfl hbase, rfl⟩

theorem working_log (level : LogLevel) (fmt : String) (args : List LogArg) :
    motu424.Emits env K (Event.Working c) (pal_log level fmt args) :=
  motu424.Emits.perform ⟨Event.Plain.through ⟨rfl, rfl⟩, rfl⟩

end rules

theorem set_conf_working (val : U32) (dma_running : Int) :
    motu424.Emits env c.SameHw (Event.Working c)
      (set_ctx fun ctx => { ctx with port_conf_shadow := val, dma_running := dma_running }) :=
  motu424.Emits.set_ctx fun _ hc => ⟨hc.dsp, hc.reg, hc.port, hc.buf, hc.addr, hc.size⟩

theorem motu424_full_init_through (fpga_fw init_seq : Option (List U8)) :
    ThroughPointers env (motu424_full_init fpga_fw init_seq) := fun _ =>
  motu424.Emits.mono motu424_full_init_writes fun _ he => Event.Within.working he

theorem enable_interrupt_through : ThroughPointers env enable_interrupt := by
  intro c
  have hask : motu424.Emits env c.SameHw (Event.Working c) pal_irq_request :=
    motu424.Emits.of_spec fun m hm =>
      ⟨hm, [_], rfl, List.forall_mem_singleton.mpr ⟨Event.Plain.through ⟨rfl, rfl⟩, rfl⟩⟩
  refine motu424.Emits.bind hask fun err => motu424.Emits.get_ctx fun c' hc => ?_
  cases err with
  | error err => exact working_log _ _ _
  | ok granted => exact motu424.Emits.bind (working_write hc rfl _ _) fun _ => working_log _ _ _

theorem disable_interrupt_through : ThroughPointers env disable_interrupt :=
  fun _ => motu424.Emits.get_ctx fun _ hc => motu424.Emits.when fun _ => working_write hc rfl _ _

theorem pal_irq_free_through : ThroughPointers env pal_irq_free :=
  fun _ => motu424.Emits.perform ⟨Event.Plain.through ⟨rfl, rfl⟩, rfl⟩

theorem motu424_hw_stop_through : ThroughPointers env motu424_hw_stop := by
  refine fun c => motu424.Emits.get_ctx fun c' hc => motu424.Emits.ite (fun _ => motu424.Emits.pure _) fun _ => ?_
  refine motu424.Emits.bind (working_read hc rfl _) fun val => ?_
  exact motu424.Emits.bind (working_write hc rfl _ _) fun _ => set_conf_working _ _

theorem motu424_irq_callback_through : ThroughPointers env motu424_irq_callback := by
  refine fun c => motu424.Emits.get_ctx fun c' hc => motu424.Emits.ite (fun _ => motu424.Emits.pure _) fun _ => ?_
  refine motu424.Emits.bind (working_read hc rfl _) fun status => ?_
  exact motu424.Emits.ite (fun _ => motu424.Emits.pure _) fun _ => working_write hc rfl _ _

theorem pal_win_irq_handler_through : ThroughPointers env pal_win_irq_handler := by
  intro c before
  refine Preserves.bind_gets _ fun m hm => ?_
  refine Preserves.bind (Preserves.when (motu424_irq_callback_through c before)) (fun _ => ?_) m hm
  exact Preserves.pure true

theorem read_or_zero_working {bar : Bar} {base : Iomem bar} (hc : c.SameHw c') (hbase : base.addr = c'.base bar)
    (offset : U32) : motu424.Emits env c.SameHw (Event.Working c) (read_or_zero base offset) :=
  motu424.Emits.ite (fun _ => motu424.Emits.pure _) fun _ => working_read hc hbase offset

theorem ioctl_get_info_through (output_length : Nat) : ThroughPointers env (ioctl_get_info output_length) := by
  refine fun c => motu424.Emits.ite (fun _ => motu424.Emits.pure _) fun _ => motu424.Emits.get_ctx fun c' hc => ?_
  refine motu424.Emits.bind (read_or_zero_working hc rfl _) fun _ => ?_
  exact motu424.Emits.bind (read_or_zero_working hc rfl _) fun _ => motu424.Emits.pure _

/-- A request that reads the configuration and writes it back changed. -/
theorem write_back_through {val : U32 → U32} {dma_running : Int} {fmt : String} {a b : Answer} (c : motu424_ctx) :
    motu424.Emits env c.SameHw (Event.Working c) (do
      let ctx ← get_ctx
      if ctx.iobase_reg = .null then pure a
      else do
        let old ← pal_read32 ctx.iobase_reg MOTU_REG_PORT_CONF
        pal_write32 ctx.iobase_reg MOTU_REG_PORT_CONF (val old)
        set_ctx fun ctx => { ctx with port_conf_shadow := val old, dma_running := dma_running }
        pal_log .info fmt []
        pure b) := by
  refine motu424.Emits.get_ctx fun c' hc => motu424.Emits.ite (fun _ => motu424.Emits.pure _) fun _ => ?_
  refine motu424.Emits.bind (working_read hc rfl _) fun old => ?_
  refine motu424.Emits.bind (working_write hc rfl _ _) fun _ => motu424.Emits.bind (set_conf_working _ _) fun _ => ?_
  exact motu424.Emits.bind (working_log _ _ _) fun _ => motu424.Emits.pure _

/-- A request for one word of a register. -/
theorem word_request_through {bar : Bar} {base : motu424_ctx → Iomem bar}
    (hbase : ∀ c, (base c).addr = c.base bar) (offset : U32) (output_length : Nat) (c : motu424_ctx) :
    motu424.Emits env c.SameHw (Event.Working c) (
      if output_length < 4 then pure (Answer.of_status STATUS_BUFFER_TOO_SMALL)
      else do
        let ctx ← get_ctx
        let word ← read_or_zero (base ctx) offset
        pure (Answer.of_words [word])) := by
  refine motu424.Emits.ite (fun _ => motu424.Emits.pure _) fun _ => motu424.Emits.get_ctx fun c' hc => ?_
  exact motu424.Emits.bind (read_or_zero_working hc (hbase c') _) fun _ => motu424.Emits.pure _

theorem ioctl_read_reg_through (input : List U8) (output_length : Nat) :
    ThroughPointers env (ioctl_read_reg input output_length) := by
  refine fun c => motu424.Emits.get_ctx fun c' hc => ?_
  cases MOTU424_REG_OP.of_input input with
  | none => exact motu424.Emits.pure _
  | some regOp =>
    have hread {bar : Bar} {base : Iomem bar} (hbase : base.addr = c'.base bar) :
        motu424.Emits env c.SameHw (Event.Working c) (do
          let value ← pal_read32 base regOp.offset
          pure (read_reg_answer regOp output_length value)) :=
      motu424.Emits.bind (working_read hc hbase _) fun _ => motu424.Emits.pure _
    refine motu424.Emits.ite (fun _ => hread rfl) fun _ => motu424.Emits.ite (fun _ => hread rfl) fun _ => ?_
    exact motu424.Emits.ite (fun _ => hread rfl) fun _ => motu424.Emits.pure _

theorem ioctl_write_reg_through (input : List U8) : ThroughPointers env (ioctl_write_reg input) := by
  refine fun c => motu424.Emits.get_ctx fun c' hc => ?_
  cases MOTU424_REG_OP.of_input input with
  | none => exact motu424.Emits.pure _
  | some regOp =>
    have hwrite {bar : Bar} {base : Iomem bar} (hbase : base.addr = c'.base bar) :
        motu424.Emits env c.SameHw (Event.Working c) (do
          pal_write32 base regOp.offset regOp.value
          pure (Answer.of_status STATUS_SUCCESS)) :=
      motu424.Emits.bind (working_write hc hbase _ _) fun _ => motu424.Emits.pure _
    refine motu424.Emits.ite (fun _ => hwrite rfl) fun _ => motu424.Emits.ite (fun _ => hwrite rfl) fun _ => ?_
    exact motu424.Emits.ite (fun _ => hwrite rfl) fun _ => motu424.Emits.pure _

/-- No request leaves the pointers of the device. -/
theorem EvtIoDeviceControl_through (request : WDFREQUEST) : ThroughPointers env (EvtIoDeviceControl request) := by
  intro c
  have hcomplete (answer : Answer) : Event.Working c (.complete answer.1 answer.2.1 answer.2.2) :=
    ⟨Event.Plain.through ⟨rfl, rfl⟩, rfl⟩
  refine motu424.Emits.bind ?_ fun answer =>
    motu424.Emits.bind (motu424.Emits.perform (hcomplete answer)) fun _ => motu424.Emits.pure _
  refine motu424.Emits.ite (fun _ => ioctl_get_info_through _ c) fun _ => ?_
  refine motu424.Emits.ite (fun _ => write_back_through c) fun _ => ?_
  refine motu424.Emits.ite (fun _ => write_back_through c) fun _ => ?_
  refine motu424.Emits.ite (fun _ => word_request_through (fun _ => rfl) _ _ c) fun _ => ?_
  refine motu424.Emits.ite (fun _ => ioctl_read_reg_through _ _ c) fun _ => ?_
  refine motu424.Emits.ite (fun _ => ioctl_write_reg_through _ c) fun _ => ?_
  exact motu424.Emits.ite (fun _ => word_request_through (fun _ => rfl) _ _ c) fun _ => motu424.Emits.pure _

theorem set_buffer_through {f : motu424_ctx → motu424_ctx} (hf : ∀ c bar, (f c).base bar = c.base bar) :
    motu424.Emits env c.SameBases (Event.Through c) (set_ctx f) :=
  motu424.Emits.set_ctx fun c' hc bar => (hf c' bar).trans (hc bar)

theorem motu424_dma_free_through : motu424.Emits env c.SameBases (Event.Through c) motu424_dma_free := by
  refine motu424.Emits.get_ctx fun c' hc => ?_
  cases c'.dma_buf with
  | none => exact motu424.Emits.pure _
  | some buf =>
    refine motu424.Emits.bind (motu424.Emits.perform (Event.Plain.through ⟨rfl, rfl⟩)) fun _ => ?_
    exact set_buffer_through fun c bar => by cases bar <;> rfl

theorem dma_alloc_events_through (hc : c.SameBases c') (size : U64) (buf : Nat × U64) :
    ∀ e ∈ dma_alloc_events c' size buf, Event.Through c e := by
  have hdsp (offset value : U32) : Event.Through c (.write .dsp c'.iobase_dsp.addr offset value) :=
    @Event.through_of_pointer c c' _ .dsp hc rfl rfl
  have hreg (offset value : U32) : Event.Through c (.write .reg c'.iobase_reg.addr offset value) :=
    @Event.through_of_pointer c c' _ .reg hc rfl rfl
  refine List.forall_mem_cons.mpr ⟨Event.Plain.through ⟨rfl, rfl⟩, ?_⟩
  refine List.forall_mem_cons.mpr ⟨Event.Plain.through ⟨rfl, rfl⟩, ?_⟩
  refine List.forall_mem_cons.mpr ⟨Event.Plain.through ⟨rfl, rfl⟩, ?_⟩
  refine List.forall_mem_cons.mpr ⟨hdsp _ _, List.forall_mem_cons.mpr ⟨hdsp _ _, ?_⟩⟩
  refine List.forall_mem_cons.mpr ⟨hdsp _ _, List.forall_mem_cons.mpr ⟨hdsp _ _, ?_⟩⟩
  exact List.forall_mem_cons.mpr ⟨hreg _ _, List.forall_mem_singleton.mpr (Event.Plain.through ⟨rfl, rfl⟩)⟩

theorem motu424_dma_alloc_through (size : U64) :
    motu424.Emits env c.SameBases (Event.Through c) (motu424_dma_alloc size) := by
  apply motu424.Emits.of_spec
  intro m hm
  refine ⟨fun bar => (motu424_dma_alloc_base env m size bar).trans (hm bar), ?_⟩
  have hfree : ∀ e ∈ dma_free_events m.ctx, Event.Through c e := by
    unfold dma_free_events
    split
    · exact List.forall_mem_nil _
    · exact List.forall_mem_singleton.mpr (Event.Plain.through ⟨rfl, rfl⟩)
  rcases motu424_dma_alloc_cases env m size with ⟨_, _, _, hexec⟩ | ⟨_, _, hexec⟩ | ⟨buf, _, _, hexec⟩
  · exact ⟨[], by rw [hexec, List.append_nil], List.forall_mem_nil _⟩
  · refine ⟨_, by rw [hexec, Machine.emit_trace, dma_request_machine, List.append_assoc], ?_⟩
    apply List.forall_mem_append.mpr ⟨hfree, ?_⟩
    exact List.forall_mem_cons.mpr ⟨Event.Plain.through ⟨rfl, rfl⟩,
      List.forall_mem_singleton.mpr (Event.Plain.through ⟨rfl, rfl⟩)⟩
  · refine ⟨_, by rw [hexec, dma_request_machine, List.append_assoc], ?_⟩
    exact List.forall_mem_append.mpr ⟨hfree, dma_alloc_events_through hm size buf⟩

end through

/-- The same pointers, the same ranges and the same account. -/
theorem Sound.keep {d d' : DEVICE_CONTEXT} (hd : Sound d) (huses : UsesMapped d'.machine.trace)
    (hslot : ∀ bar, d'.slot bar = d.slot bar) (hbase : ∀ bar, d'.machine.ctx.base bar = d.machine.ctx.base bar)
    (hmappings : mappings d'.machine.trace = mappings d.machine.trace) : Sound d' where
  uses := huses
  link := fun bar => by rw [hbase, hslot, hd.link]
  account := by
    have hranges : d'.ranges = d.ranges := by
      rw [DEVICE_CONTEXT.ranges, hslot, hslot, hslot, DEVICE_CONTEXT.ranges]
    rw [hmappings, hranges]
    exact hd.account

section sound

variable {env : WdfEnv} {α : Type}

/-- Shared code that works through the pointers of a sound device leaves it sound. -/
theorem through_preserves {p : Pal α}
    (hp : ∀ c, motu424.Emits env.toEnv c.SameBases (Event.Through c) p) : Preserves env Sound (shared p) := by
  intro d hd
  obtain ⟨hbase, new, hnew, hthrough⟩ := (hp d.machine.ctx).spec d.machine fun _ => rfl
  obtain ⟨huses, hmappings⟩ := hd.uses.append fun e he => by
    obtain ⟨hnone, hpointer⟩ := hthrough e he
    refine ⟨hnone, fun addr haddr => ?_⟩
    obtain ⟨bar, hbar⟩ := hpointer addr haddr
    exact hd.mappedAt hbar
  rw [← hnew] at huses hmappings
  exact hd.keep huses (fun bar => by cases bar <;> rfl) hbase hmappings

theorem ThroughPointers.preserves {p : Pal α} (hp : ThroughPointers env.toEnv p) :
    Preserves env Sound (shared p) := by
  apply through_preserves
  intro c
  apply motu424.Emits.of_spec
  intro m hm
  obtain ⟨hctx, new, hnew, hworking⟩ := (hp m.ctx).spec m (.refl _)
  refine ⟨fun bar => (hctx.same_bases bar).trans (hm bar), new, hnew, fun e he => ?_⟩
  obtain ⟨hnone, hpointer⟩ := (hworking e he).through
  refine ⟨hnone, fun addr haddr => ?_⟩
  obtain ⟨bar, hbase⟩ := hpointer addr haddr
  exact ⟨bar, (hm bar).symm.trans hbase⟩

theorem log_preserves (level : LogLevel) (fmt : String) (args : List LogArg) :
    Preserves env Sound (log level fmt args) :=
  ThroughPointers.preserves fun _ => working_log level fmt args

theorem update_preserves {f : DEVICE_CONTEXT → DEVICE_CONTEXT} (hslot : ∀ d bar, (f d).slot bar = d.slot bar)
    (hmachine : ∀ d, (f d).machine = d.machine) : Preserves env Sound (Program.update f) := by
  intro d hd
  have huses := hd.uses
  rw [← hmachine d] at huses
  exact hd.keep huses (hslot d) (fun bar => by rw [exec_update, hmachine]) (by rw [exec_update, hmachine])

theorem LoadFirmwareFile_preserves (filename : String) : Preserves env Sound (LoadFirmwareFile filename) := by
  intro d hd
  obtain ⟨_, level, fmt, args, hexec⟩ := @LoadFirmwareFile_spec env d filename
  rw [hexec]
  exact log_preserves level fmt args d hd

theorem load_fpga_file_preserves : Preserves env Sound load_fpga_file := by
  refine (LoadFirmwareFile_preserves _).bind fun _ => (log_preserves _ _ _).when.bind fun _ => ?_
  exact update_preserves (fun d bar => by cases bar <;> rfl) fun _ => rfl

theorem load_init_file_preserves : Preserves env Sound load_init_file := by
  refine (LoadFirmwareFile_preserves _).bind fun _ => (log_preserves _ _ _).when.bind fun _ => ?_
  exact update_preserves (fun d bar => by cases bar <;> rfl) fun _ => rfl

theorem bring_up_preserves : Preserves env Sound bring_up := by
  have halloc : Preserves env Sound alloc_dma_buffer :=
    (through_preserves fun _ => motu424_dma_alloc_through _).bind fun _ => (log_preserves _ _ _).when
  have hinit : Preserves env Sound init_hardware := by
    refine Preserves.bind_gets _ fun d hd => ?_
    exact ((motu424_full_init_through _ _).preserves.bind fun _ => (log_preserves _ _ _).when) d hd
  refine halloc.bind fun _ => load_fpga_file_preserves.bind fun _ => load_init_file_preserves.bind fun _ => ?_
  exact hinit.bind fun _ => enable_interrupt_through.preserves.bind fun _ => Preserves.pure _

theorem check_bars_preserves : Preserves env Sound check_bars := by
  refine Preserves.bind_gets _ fun d hd => ?_
  refine Preserves.ite (fun _ => ?_) (fun _ => bring_up_preserves) d hd
  exact (log_preserves _ _ _).bind fun _ => Preserves.pure _

theorem stop_device_preserves : Preserves env Sound stop_device := by
  refine (log_preserves _ _ _).bind fun _ => motu424_hw_stop_through.preserves.bind fun _ => ?_
  refine disable_interrupt_through.preserves.bind fun _ => pal_irq_free_through.preserves.bind fun _ => ?_
  refine (through_preserves fun _ => motu424_dma_free_through).bind fun _ => ?_
  exact update_preserves (fun d bar => by cases bar <;> rfl) fun _ => rfl

/-- A new range is recorded as the next BAR. What was recorded there stays mapped. -/
theorem Sound.record {d : DEVICE_CONTEXT} (hd : Sound d) (k base : Nat) (start : U64) (length : U32) :
    Sound (d.record k base start length) := by
  obtain ⟨others, haccount⟩ := hd.account
  have hemit (events : List Event) (bar : Bar) : (d.emit events).slot bar = d.slot bar := by cases bar <;> rfl
  have hslot (bar : Bar) : (d.record k base start length).slot bar =
      if bar_place bar = k then some (base, length) else d.slot bar := by
    rw [DEVICE_CONTEXT.record, assign_bar_slot, hemit]
  have htrace : (d.record k base start length).machine.trace =
      d.machine.trace ++ granted_events k base start length := assign_bar_trace _ _ _ _
  have hmappings : mappings (d.record k base start length).machine.trace =
      mappings d.machine.trace ++ [.take (base, length)] := by
    rw [htrace, mappings_append]
    rfl
  constructor
  · have hmap : UsesMapped (d.machine.trace ++ [.map_io start length (some base)]) := by
      apply hd.uses.append_singleton
      · rw [mappings_append]
        exact hd.uses.unmaps.take (base, length)
      · exact fun addr haddr => by cases haddr
    rw [htrace, granted_events, ← List.singleton_append, ← List.append_assoc]
    exact (hmap.append fun e he => by
      rw [List.mem_singleton.mp he]
      exact ⟨rfl, fun addr haddr => by cases haddr⟩).1
  · intro bar
    rw [hslot, DEVICE_CONTEXT.record, assign_bar_base]
    split
    · rfl
    · exact hd.link bar
  · have hnew := haccount.take (base, length)
    rw [← hmappings] at hnew
    have hsplit : ∃ others', ∀ r, ((base, length) :: (d.ranges ++ others)).count r =
        ((d.record k base start length).ranges ++ others').count r := by
      simp only [DEVICE_CONTEXT.ranges, hslot, List.count_append, List.count_cons]
      obtain rfl | rfl | rfl | hk : k = 0 ∨ k = 1 ∨ k = 2 ∨ 3 ≤ k := by omega
      · refine ⟨(d.slot .dsp).toList ++ others, fun r => ?_⟩
        simp [bar_place, List.count_append, List.count_singleton]
        omega
      · refine ⟨(d.slot .reg).toList ++ others, fun r => ?_⟩
        simp [bar_place, List.count_append, List.count_singleton]
        omega
      · refine ⟨(d.slot .port).toList ++ others, fun r => ?_⟩
        simp [bar_place, List.count_append, List.count_singleton]
        omega
      · refine ⟨(base, length) :: others, fun r => ?_⟩
        have hplace (bar : Bar) : bar_place bar ≠ k := by
          cases bar <;> simp only [bar_place] <;> omega
        simp only [if_neg (hplace _), List.count_cons]
        omega
    obtain ⟨others', hcount⟩ := hsplit
    exact ⟨others', hnew.perm (List.perm_iff_count.mpr hcount)⟩

theorem Sound.refuse {d : DEVICE_CONTEXT} (hd : Sound d) (start : U64) (length : U32) :
    Sound (d.emit (refused_events start length)) := by
  obtain ⟨huses, hmappings⟩ := hd.uses.append (@List.forall_mem_cons _ _ _ _ |>.mpr
    ⟨⟨rfl, fun _ haddr => nomatch haddr⟩, List.forall_mem_singleton.mpr ⟨rfl, fun _ haddr => nomatch haddr⟩⟩ :
      ∀ e ∈ refused_events start length, _)
  exact hd.keep huses (fun bar => by cases bar <;> rfl) (fun _ => rfl) hmappings

theorem parse_resources_preserves (k : Nat) (resources : List (Option CmResource)) :
    Preserves env Sound (parse_resources k resources) := by
  induction resources generalizing k with
  | nil => exact Preserves.pure _
  | cons resource resources ih =>
    match resource with
    | none => exact ih k
    | some (.memory start length) =>
      intro d hd
      cases hbase : env.map_io d.machine.trace start length with
      | none =>
        rw [(parse_resources_refused hbase).2]
        exact hd.refuse start length
      | some base =>
        rw [(parse_resources_granted hbase).2]
        exact ih (k + 1) _ (hd.record k base start length)
    | some (.port start length) => exact (log_preserves _ _ _).bind fun _ => ih k
    | some .interrupt => exact (log_preserves _ _ _).bind fun _ => ih k
    | some .other => exact ih k

theorem EvtDevicePrepareHardware_preserves (resources : List (Option CmResource)) :
    Preserves env Sound (EvtDevicePrepareHardware resources) := by
  refine (log_preserves _ _ _).bind fun _ => (parse_resources_preserves 0 resources).bind fun status => ?_
  exact Preserves.ite (fun _ => check_bars_preserves) fun _ => Preserves.pure _

/-- A range is unmapped together with the pointer to it. -/
theorem Unmaps.sound {bar : Bar} {d d' : DEVICE_CONTEXT} (hunmaps : Unmaps bar d d') (hd : Sound d) :
    Sound d' := by
  obtain ⟨others, haccount⟩ := hd.account
  have hsplit : Balance (mappings d.machine.trace) ((d.slot bar).toList ++ (d'.ranges ++ others)) := by
    apply haccount.perm (List.perm_iff_count.mpr fun r => ?_)
    simp only [DEVICE_CONTEXT.ranges, hunmaps.slot, List.count_append]
    cases bar with
    | dsp => simp; omega
    | reg => simp; omega
    | port => simp; omega
  constructor
  · rw [hunmaps.trace]
    cases hslot : d.slot bar with
    | none =>
      rw [Option.toList_none, List.map_nil, List.append_nil]
      exact hd.uses
    | some r =>
      apply hd.uses.append_singleton
      · rw [mappings_append]
        apply hd.uses.unmaps.give
        exact haccount.held_pos (List.mem_append_left others (mem_ranges.mpr ⟨bar, hslot⟩))
      · exact fun addr haddr => nomatch haddr
  · exact hunmaps.link hd.link
  · refine ⟨others, ?_⟩
    rw [hunmaps.trace, mappings_append, mappings_unmap]
    exact hsplit.give_part

theorem EvtDeviceReleaseHardware_preserves : Preserves env Sound EvtDeviceReleaseHardware := by
  intro d hd
  rw [exec_EvtDeviceReleaseHardware]
  have h₁ := @stop_device_preserves env d hd
  have h₂ := (@unmap_bar0_unmaps env _ (h₁.link .dsp)).sound h₁
  have h₃ := (@unmap_bar1_unmaps env _ (h₂.link .reg)).sound h₂
  exact (@unmap_bar2_unmaps env _ (h₃.link .port)).sound h₃

end sound

theorem Sound.step {d : DEVICE_CONTEXT} (hd : Sound d) (call : WdfEnv × WdfCall) : Sound (wdf_step d call) := by
  obtain ⟨env, call⟩ := call
  have hcall : Preserves env Sound call.run := by
    cases call with
    | prepare resources => exact (EvtDevicePrepareHardware_preserves resources).bind fun _ => Preserves.pure _
    | release => exact EvtDeviceReleaseHardware_preserves.bind fun _ => Preserves.pure _
    | control request => exact (EvtIoDeviceControl_through request).preserves.bind fun _ => Preserves.pure _
    | interrupt => exact pal_win_irq_handler_through.preserves.bind fun _ => Preserves.pure _
  exact hcall d hd

theorem sound_fresh : Sound .fresh where
  uses := ⟨solvent_nil, throughout_nil⟩
  link := fun bar => by cases bar <;> rfl
  account := ⟨[], Balance.nil⟩

/-- Whatever the framework calls, and in whatever order, no register is accessed
through a pointer to a range that is not mapped, and no range is unmapped that
is not mapped. -/
theorem mapped_while_used (calls : List (WdfEnv × WdfCall)) :
    UsesMapped (run wdf_step .fresh calls).machine.trace := by
  have hsound : Sound (run wdf_step .fresh calls) := by
    apply run_invariant
    · exact fun d call hd => Sound.step hd call
    · exact sound_fresh
  exact hsound.uses

end motu424.wdf
