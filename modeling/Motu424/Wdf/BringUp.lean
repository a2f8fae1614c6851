import Motu424.Wdf
import Motu424.Init.Mapped

open Program

namespace motu424.wdf

/-- Whatever the program does, it keeps `K` of the shared context and performs
only events with `P`. -/
def Emits (env : WdfEnv) (K : motu424_ctx → Prop) (P : Event → Prop) {α : Type} (p : Wdf α) : Prop :=
  ∀ before, Preserves env (fun d : DEVICE_CONTEXT => d.machine.Extends K P before) p

section rules

variable {env : WdfEnv} {K : motu424_ctx → Prop} {P : Event → Prop} {α β : Type}

theorem Emits.spec {p : Wdf α} (hp : Emits env K P p) (d : DEVICE_CONTEXT) (hd : K d.machine.ctx) :
    K (p.exec env d).machine.ctx ∧
      ∃ new, (p.exec env d).machine.trace = d.machine.trace ++ new ∧ ∀ e ∈ new, P e :=
  hp d.machine.trace d ⟨hd, [], by simp⟩

theorem Emits.pure (a : α) : Emits env K P (pure a : Wdf α) := fun _ => Preserves.pure a

theorem Emits.bind {p : Wdf α} {f : α → Wdf β} (hp : Emits env K P p)
    (hf : ∀ a, Emits env K P (f a)) : Emits env K P (p >>= f) :=
  fun before => (hp before).bind fun a => hf a before

theorem Emits.when {c : Prop} [Decidable c] {p : Wdf Unit} (hp : Emits env K P p) :
    Emits env K P (when c p) :=
  fun before => (hp before).when

/-- Asking the environment is no event. -/
theorem Emits.ask (f : WdfEnv → DEVICE_CONTEXT → α) :
    Emits env K P (asks f) := fun _ _ hd => hd

/-- Recording something about the device is no event. -/
theorem Emits.update {f : DEVICE_CONTEXT → DEVICE_CONTEXT} (hf : ∀ d, (f d).machine = d.machine) :
    Emits env K P (update f) := by
  intro before d hd
  rw [exec_update, hf]
  exact hd

theorem Emits.shared {p : Pal α} (hp : motu424.Emits env.toEnv K P p) : Emits env K P (shared p) :=
  fun before d hd => hp before d.machine hd

theorem Emits.log {level : LogLevel} {fmt : String} {args : List LogArg} :
    Emits env K Event.Mapped (log level fmt args) := Emits.shared motu424.Emits.pal_log

end rules

def is_memory : Option CmResource → Bool
  | some (.memory _ _) => true
  | _ => false

/-- The number of memory ranges among the resources. -/
def memory_count (resources : List (Option CmResource)) : Nat := resources.countP is_memory

section resources

variable {env : WdfEnv} {bar_index : Nat} {resources : List (Option CmResource)}

theorem assign_bar_ctx_port (bar_index base : Nat) (length : U32) (d : DEVICE_CONTEXT) :
    (assign_bar bar_index base length d).machine.ctx.iobase_port =
      if bar_index = 2 then ⟨some base⟩ else d.machine.ctx.iobase_port := by
  match bar_index with
  | 0 => rfl
  | 1 => rfl
  | 2 => rfl
  | _ + 3 => rfl

theorem assign_bar_trace (bar_index base : Nat) (length : U32) (d : DEVICE_CONTEXT) :
    (assign_bar bar_index base length d).machine.trace = d.machine.trace := by
  match bar_index with
  | 0 => rfl
  | 1 => rfl
  | 2 => rfl
  | _ + 3 => rfl

theorem eval_MmMapIoSpaceEx (env : WdfEnv) (d : DEVICE_CONTEXT) (start : U64) (length : U32) :
    (MmMapIoSpaceEx start length).eval env d = env.map_io d.machine.trace start length := (rfl)

@[simp] theorem exec_log (env : WdfEnv) (d : DEVICE_CONTEXT) (level : LogLevel) (fmt : String)
    (args : List LogArg) :
    (log level fmt args).exec env d = { d with machine := d.machine.emit [.log level fmt args] } := (rfl)

/-- The device after further events. -/
def DEVICE_CONTEXT.emit (d : DEVICE_CONTEXT) (events : List Event) : DEVICE_CONTEXT :=
  { d with machine := d.machine.emit events }

theorem DEVICE_CONTEXT.emit_emit (d : DEVICE_CONTEXT) (xs ys : List Event) :
    (d.emit xs).emit ys = d.emit (xs ++ ys) := by
  simp only [DEVICE_CONTEXT.emit, Machine.emit_emit]

theorem exec_MmMapIoSpaceEx (env : WdfEnv) (d : DEVICE_CONTEXT) (start : U64) (length : U32) :
    (MmMapIoSpaceEx start length).exec env d =
      d.emit [.map_io start length (env.map_io d.machine.trace start length)] := (rfl)

/-- The loop over the resources accesses no register. -/
theorem parse_resources_mapped (bar_index : Nat) (resources : List (Option CmResource)) :
    Emits env (fun _ => True) Event.Mapped (parse_resources bar_index resources) := by
  induction resources generalizing bar_index with
  | nil => exact Emits.pure _
  | cons resource resources ih =>
    match resource with
    | none => exact ih bar_index
    | some (.memory start length) =>
      have hmap : Emits env (fun _ => True) Event.Mapped (MmMapIoSpaceEx start length) :=
        Emits.bind (Emits.ask _) fun base =>
          Emits.bind (Emits.shared (motu424.Emits.perform trivial)) fun _ => Emits.pure _
      refine Emits.bind hmap fun base => ?_
      cases base with
      | none => exact Emits.bind Emits.log fun _ => Emits.pure _
      | some base =>
        refine Emits.bind Emits.log fun _ => Emits.bind ?_ fun _ => ih (bar_index + 1)
        intro before d hd
        obtain ⟨hctx, new, hnew, hmapped⟩ := hd
        exact ⟨trivial, new, (assign_bar_trace bar_index base length d).trans hnew, hmapped⟩
    | some (.port start length) => exact Emits.bind Emits.log fun _ => ih bar_index
    | some .interrupt => exact Emits.bind Emits.log fun _ => ih bar_index
    | some .other => exact ih bar_index

/-- What a request does outside that is refused. -/
def refused_events (start : U64) (length : U32) : List Event :=
  [.map_io start length none,
    .log .err "MmMapIoSpace failed for BAR (phys=0x%llx len=%lu)\n" [.u64 start, .u32 length]]

theorem parse_resources_refused {d : DEVICE_CONTEXT} {start : U64} {length : U32}
    (hbase : env.map_io d.machine.trace start length = none) :
    (parse_resources bar_index (some (.memory start length) :: resources)).eval env d =
        STATUS_INSUFFICIENT_RESOURCES ∧
      (parse_resources bar_index (some (.memory start length) :: resources)).exec env d =
        d.emit (refused_events start length) := by
  rw [parse_resources, eval_bind, exec_bind, eval_MmMapIoSpaceEx, exec_MmMapIoSpaceEx, hbase, eval_bind,
    eval_pure, exec_bind, exec_pure]
  exact ⟨rfl, DEVICE_CONTEXT.emit_emit d _ _⟩

/-- What a request does outside that is granted. -/
def granted_events (bar_index base : Nat) (start : U64) (length : U32) : List Event :=
  [.map_io start length (some base),
    .log .info "BAR%d: phys=0x%llx len=%lu virt=%p\n"
      [.int bar_index, .u64 start, .u32 length, .ptr (some base)]]

/-- The device with a range that has been mapped. -/
def DEVICE_CONTEXT.record (d : DEVICE_CONTEXT) (bar_index base : Nat) (start : U64) (length : U32) :
    DEVICE_CONTEXT :=
  assign_bar bar_index base length (d.emit (granted_events bar_index base start length))

theorem record_ctx_port (d : DEVICE_CONTEXT) (bar_index base : Nat) (start : U64) (length : U32) :
    (d.record bar_index base start length).machine.ctx.iobase_port =
      if bar_index = 2 then ⟨some base⟩ else d.machine.ctx.iobase_port := by
  rw [DEVICE_CONTEXT.record, assign_bar_ctx_port, DEVICE_CONTEXT.emit, Machine.emit_ctx]

/-- A memory range that can be mapped is recorded, and the loop goes on. -/
theorem parse_resources_granted {d : DEVICE_CONTEXT} {start : U64} {length : U32} {base : Nat}
    (hbase : env.map_io d.machine.trace start length = some base) :
    (parse_resources bar_index (some (.memory start length) :: resources)).eval env d =
        (parse_resources (bar_index + 1) resources).eval env (d.record bar_index base start length) ∧
      (parse_resources bar_index (some (.memory start length) :: resources)).exec env d =
        (parse_resources (bar_index + 1) resources).exec env (d.record bar_index base start length) := by
  have hevents : d.emit (granted_events bar_index base start length) =
      (d.emit [.map_io start length (some base)]).emit [.log .info "BAR%d: phys=0x%llx len=%lu virt=%p\n"
        [.int bar_index, .u64 start, .u32 length, .ptr (some base)]] := by
    rw [DEVICE_CONTEXT.emit_emit]
    rfl
  rw [DEVICE_CONTEXT.record, hevents, parse_resources, eval_bind, exec_bind, eval_MmMapIoSpaceEx,
    exec_MmMapIoSpaceEx, hbase, eval_bind, exec_bind, eval_bind, exec_bind, exec_update]
  exact ⟨rfl, rfl⟩

/-- After a successful loop the port is mapped if it was before, or if there was
a third memory range for it. -/
theorem parse_resources_port {d : DEVICE_CONTEXT}
    (hok : (parse_resources bar_index resources).eval env d = STATUS_SUCCESS) :
    ((parse_resources bar_index resources).exec env d).machine.ctx.iobase_port ≠ .null ↔
      d.machine.ctx.iobase_port ≠ .null ∨ (bar_index ≤ 2 ∧ 3 ≤ bar_index + memory_count resources) := by
  induction resources generalizing bar_index d with
  | nil =>
    have hcount : ¬ (bar_index ≤ 2 ∧ 3 ≤ bar_index + memory_count []) := by
      rw [memory_count, List.countP_nil]
      omega
    exact (or_iff_left hcount).symm
  | cons resource resources ih =>
    match resource with
    | none => exact ih hok
    | some (.memory start length) =>
      cases hbase : env.map_io d.machine.trace start length with
      | none =>
        rw [(parse_resources_refused hbase).1] at hok
        exact absurd hok (by decide)
      | some base =>
        obtain ⟨heval, hexec⟩ := @parse_resources_granted _ bar_index resources _ _ _ _ hbase
        have hcount : memory_count (some (.memory start length) :: resources) = memory_count resources + 1 :=
          List.countP_cons_of_pos rfl
        rw [heval] at hok
        rw [hexec, ih hok, record_ctx_port, hcount]
        by_cases htwo : bar_index = 2
        · rw [if_pos htwo]
          exact iff_of_true (.inl nofun) (.inr (by omega))
        · rw [if_neg htwo]
          exact or_congr_right (by omega)
    | some (.port start length) =>
      rw [parse_resources, eval_bind] at hok
      rw [parse_resources, exec_bind, ih hok, exec_log]
      rfl
    | some .interrupt =>
      rw [parse_resources, eval_bind] at hok
      rw [parse_resources, exec_bind, ih hok, exec_log]
      rfl
    | some .other => exact ih hok

end resources

/-- What the reader of a firmware file hands out. -/
def FirmwareFile.loaded : FirmwareFile → Option (List U8)
  | .contents bytes => some bytes
  | _ => none

section bring_up

variable {env : WdfEnv} {c : motu424_ctx}

/-- Reading a file logs one line and otherwise leaves the device as it is. -/
theorem LoadFirmwareFile_spec (d : DEVICE_CONTEXT) (filename : String) :
    ((LoadFirmwareFile filename).eval env d).2 = (env.firmware_file filename).loaded ∧
    ∃ level fmt args, (LoadFirmwareFile filename).exec env d = (log level fmt args).exec env d := by
  rw [LoadFirmwareFile, eval_bind, exec_bind, eval_asks, exec_asks]
  cases env.firmware_file filename with
  | missing err => exact ⟨rfl, _, _, _, rfl⟩
  | size_unknown err => exact ⟨rfl, _, _, _, rfl⟩
  | no_memory size => exact ⟨rfl, _, _, _, rfl⟩
  | unreadable err => exact ⟨rfl, _, _, _, rfl⟩
  | contents bytes => exact ⟨rfl, _, _, _, rfl⟩

theorem LoadFirmwareFile_mapped {K : motu424_ctx → Prop} (filename : String) :
    Emits env K Event.Mapped (LoadFirmwareFile filename) := by
  intro before d hd
  obtain ⟨_, level, fmt, args, hexec⟩ := @LoadFirmwareFile_spec env d filename
  rw [hexec]
  exact Emits.log before d hd

theorem exec_log_when {p : Prop} [Decidable p] (d : DEVICE_CONTEXT) (level : LogLevel) (fmt : String)
    (args : List LogArg) : ∃ m, (Program.when p (log level fmt args)).exec env d = { d with machine := m } := by
  rw [exec_when]
  split
  · exact ⟨_, rfl⟩
  · exact ⟨d.machine, rfl⟩

/-- Loading a file logs, and hands the data of the file on. -/
theorem exec_load_file (d : DEVICE_CONTEXT) (filename fmt : String)
    (store : Option (List U8) → DEVICE_CONTEXT → DEVICE_CONTEXT) :
    ∃ m, (do
        let (status, data) ← LoadFirmwareFile filename
        Program.when (¬ NT_SUCCESS status) (log .warn fmt [])
        Program.update (store data) : Wdf Unit).exec env d =
      store (env.firmware_file filename).loaded { d with machine := m } := by
  obtain ⟨hdata, level, fmt', args, hexec⟩ := @LoadFirmwareFile_spec env d filename
  obtain ⟨m, hm⟩ := @exec_log_when env (¬ NT_SUCCESS ((LoadFirmwareFile filename).eval env d).1) _
    ((log level fmt' args).exec env d) .warn fmt []
  refine ⟨m, ?_⟩
  rw [exec_bind, exec_bind, hexec, hm, exec_update, hdata]
  rfl

theorem exec_load_fpga_file (d : DEVICE_CONTEXT) :
    ∃ m, load_fpga_file.exec env d =
      { d with machine := m, fw_fpga_data := (env.firmware_file FPGA_FILE).loaded } :=
  exec_load_file d FPGA_FILE _ fun data d => { d with fw_fpga_data := data }

theorem exec_load_init_file (d : DEVICE_CONTEXT) :
    ∃ m, load_init_file.exec env d =
      { d with machine := m, fw_init_data := (env.firmware_file INIT_FILE).loaded } :=
  exec_load_file d INIT_FILE _ fun data d => { d with fw_init_data := data }

theorem alloc_dma_buffer_mapped (hreq : c.RequiredBars) :
    Emits env c.SameBases Event.Mapped alloc_dma_buffer :=
  Emits.bind (Emits.shared (motu424_dma_alloc_mapped hreq _)) fun _ => Emits.when Emits.log

theorem load_fpga_file_mapped {K : motu424_ctx → Prop} : Emits env K Event.Mapped load_fpga_file :=
  Emits.bind (LoadFirmwareFile_mapped _) fun _ => Emits.bind (Emits.when Emits.log) fun _ =>
    Emits.update fun _ => rfl

theorem load_init_file_mapped {K : motu424_ctx → Prop} : Emits env K Event.Mapped load_init_file :=
  Emits.bind (LoadFirmwareFile_mapped _) fun _ => Emits.bind (Emits.when Emits.log) fun _ =>
    Emits.update fun _ => rfl

theorem enable_interrupt_mapped (hreq : c.RequiredBars) :
    Emits env c.SameBases Event.Mapped (shared enable_interrupt) := by
  have hask : motu424.Emits env.toEnv c.SameBases Event.Mapped pal_irq_request :=
    motu424.Emits.of_spec fun m hm => ⟨hm, [_], rfl, by simp [Event.Mapped]⟩
  refine Emits.shared (motu424.Emits.bind hask fun err => motu424.Emits.get_ctx fun c' hc => ?_)
  cases err with
  | error err => exact motu424.Emits.pal_log
  | ok granted =>
    refine motu424.Emits.bind (motu424.Emits.pal_write32 ?_) fun _ => motu424.Emits.pal_log
    exact Iomem.addr_ne_none (hc.required hreq).reg

/-- The steps up to the initialisation keep the mappings and load the files. -/
theorem bring_up_loads (d : DEVICE_CONTEXT) (hreq : d.machine.ctx.RequiredBars) :
    ∃ d' : DEVICE_CONTEXT, d'.fw_fpga_data = (env.firmware_file FPGA_FILE).loaded ∧
      d'.fw_init_data = (env.firmware_file INIT_FILE).loaded ∧
      d'.machine.Extends d.machine.ctx.SameBases Event.Mapped d.machine.trace ∧
      bring_up.exec env d = (shared enable_interrupt).exec env (init_hardware.exec env d') := by
  have hphases : Emits env d.machine.ctx.SameBases Event.Mapped
      (do alloc_dma_buffer; load_fpga_file; load_init_file) :=
    Emits.bind (alloc_dma_buffer_mapped hreq) fun _ =>
      Emits.bind load_fpga_file_mapped fun _ => load_init_file_mapped
  obtain ⟨m₁, hfpga⟩ := @exec_load_fpga_file env (alloc_dma_buffer.exec env d)
  obtain ⟨m₂, hinit⟩ := @exec_load_init_file env (load_fpga_file.exec env (alloc_dma_buffer.exec env d))
  refine ⟨_, ?_, ?_, hphases d.machine.trace d ⟨fun _ => rfl, [], by simp⟩, rfl⟩
  · rw [exec_bind, exec_bind, hinit, hfpga]
  · rw [exec_bind, exec_bind, hinit]

/-- The bring-up makes no access through NULL exactly when the port is mapped,
or the initialisation does not come to it. -/
theorem bring_up_trace (d : DEVICE_CONTEXT) (hreq : d.machine.ctx.RequiredBars) :
    ∃ new, (bring_up.exec env d).machine.trace = d.machine.trace ++ new ∧
      ((∀ e ∈ new, e.Mapped) ↔ d.machine.ctx.iobase_port ≠ .null ∨
        StopsEarly (env.firmware_file FPGA_FILE).loaded (env.firmware_file INIT_FILE).loaded) := by
  obtain ⟨d', hfpga, hinit, ⟨hbases, new₁, hnew₁, hmapped₁⟩, hexec⟩ := @bring_up_loads env d hreq
  have hfull := @motu424_full_init_mapped_iff env.toEnv d'.fw_fpga_data d'.fw_init_data d'.machine
    (hbases.required hreq)
  have hwrites : WritesOnly env.toEnv d'.machine.ctx (fun _ _ _ => True)
      (motu424_full_init d'.fw_fpga_data d'.fw_init_data) := motu424_full_init_writes
  obtain ⟨hhw, new₂, hnew₂, _⟩ := hwrites.spec d'.machine (.refl _)
  have hfinish (err : Int) : Emits env d'.machine.ctx.SameBases Event.Mapped (do
      Program.when (err ≠ 0) (log .warn "Hardware init incomplete: %d\n" [.int err])
      shared enable_interrupt) :=
    Emits.bind (Emits.when Emits.log) fun _ => enable_interrupt_mapped (hbases.required hreq)
  obtain ⟨_, new₃, hnew₃, hmapped₃⟩ := (hfinish ((motu424_full_init d'.fw_fpga_data
    d'.fw_init_data).eval env.toEnv d'.machine)).spec
    { d' with machine := (motu424_full_init d'.fw_fpga_data d'.fw_init_data).exec env.toEnv d'.machine }
    hhw.same_bases
  rw [since_of_trace hnew₂, hbases.port_eq, hfpga, hinit] at hfull
  refine ⟨new₁ ++ (new₂ ++ new₃), ?_, ?_⟩
  · rw [← List.append_assoc, ← List.append_assoc, ← hnew₁, ← hnew₂, hexec]
    exact hnew₃
  · rw [List.forall_mem_append, List.forall_mem_append, ← hfull]
    exact ⟨fun h => h.2.1, fun h => ⟨hmapped₁, h, hmapped₃⟩⟩

end bring_up

section prepare

variable {env : WdfEnv} {d : DEVICE_CONTEXT} {resources : List (Option CmResource)}

theorem eval_bring_up (d : DEVICE_CONTEXT) : bring_up.eval env d = STATUS_SUCCESS := by
  simp only [bring_up, eval_bind, eval_pure]

theorem check_bars_missing {d : DEVICE_CONTEXT} (hmissing : ¬ d.machine.ctx.RequiredBars) :
    check_bars.eval env d = STATUS_DEVICE_CONFIGURATION_ERROR := by
  have hnull : d.machine.ctx.iobase_dsp = .null ∨ d.machine.ctx.iobase_reg = .null := by
    by_contra hnone
    obtain ⟨hdsp, hreg⟩ := not_or.mp hnone
    exact hmissing ⟨hdsp, hreg⟩
  rw [check_bars, eval_bind, eval_gets, id, if_pos hnull, eval_bind, eval_pure]

theorem check_bars_present {d : DEVICE_CONTEXT} (hreq : d.machine.ctx.RequiredBars) :
    check_bars.eval env d = bring_up.eval env d ∧ check_bars.exec env d = bring_up.exec env d := by
  have hnone : ¬ (d.machine.ctx.iobase_dsp = .null ∨ d.machine.ctx.iobase_reg = .null) :=
    not_or.mpr ⟨hreq.dsp, hreq.reg⟩
  rw [check_bars, eval_bind, exec_bind, eval_gets, exec_gets, id, if_neg hnone]
  exact ⟨rfl, rfl⟩

/-- The loop over the resources either succeeds or fails. -/
theorem eval_parse_resources (bar_index : Nat) (resources : List (Option CmResource))
    (d : DEVICE_CONTEXT) :
    (parse_resources bar_index resources).eval env d = STATUS_SUCCESS ∨
      (parse_resources bar_index resources).eval env d = STATUS_INSUFFICIENT_RESOURCES := by
  induction resources generalizing bar_index d with
  | nil => exact .inl rfl
  | cons resource resources ih =>
    match resource with
    | none => exact ih bar_index d
    | some (.memory start length) =>
      cases hbase : env.map_io d.machine.trace start length with
      | none => exact .inr (parse_resources_refused hbase).1
      | some base =>
        rw [(parse_resources_granted hbase).1]
        exact ih (bar_index + 1) _
    | some (.port start length) => exact ih bar_index _
    | some .interrupt => exact ih bar_index _
    | some .other => exact ih bar_index d

/-- The state on which the check of the BARs runs. -/
def parsed (env : WdfEnv) (d : DEVICE_CONTEXT) (resources : List (Option CmResource)) : DEVICE_CONTEXT :=
  (parse_resources 0 resources).exec env
    ((log .info "PrepareHardware: %lu translated resources\n" [.int resources.length]).exec env d)

/-- A callback that gets past the check has found all its ranges and both
checked BARs, and then brings the hardware up. -/
theorem EvtDevicePrepareHardware_success
    (hok : (EvtDevicePrepareHardware resources).eval env d = STATUS_SUCCESS) :
    (parsed env d resources).machine.ctx.RequiredBars ∧
      ((parsed env d resources).machine.ctx.iobase_port ≠ .null ↔
        d.machine.ctx.iobase_port ≠ .null ∨ 3 ≤ memory_count resources) ∧
      (EvtDevicePrepareHardware resources).exec env d = bring_up.exec env (parsed env d resources) := by
  rw [EvtDevicePrepareHardware, eval_bind, eval_bind] at hok
  rw [EvtDevicePrepareHardware, exec_bind, exec_bind]
  rcases eval_parse_resources 0 resources _ with hparse | hparse
  · rw [hparse, if_pos (by decide)] at hok
    rw [hparse, if_pos (by decide)]
    have hreq : (parsed env d resources).machine.ctx.RequiredBars := by
      by_contra hmissing
      exact absurd ((check_bars_missing hmissing).symm.trans hok) (by decide)
    refine ⟨hreq, ?_, (check_bars_present hreq).2⟩
    rw [parsed, parse_resources_port hparse, exec_log, Machine.emit_ctx]
    exact or_congr_right (by omega)
  · rw [hparse, if_neg (by decide), eval_pure] at hok
    exact absurd hok (by decide)

theorem parsed_trace (env : WdfEnv) (d : DEVICE_CONTEXT) (resources : List (Option CmResource)) :
    ∃ new, (parsed env d resources).machine.trace = d.machine.trace ++ new ∧ ∀ e ∈ new, e.Mapped := by
  have hparse : Emits env (fun _ => True) Event.Mapped (do
      log .info "PrepareHardware: %lu translated resources\n" [.int resources.length]
      parse_resources 0 resources) :=
    Emits.bind Emits.log fun _ => parse_resources_mapped 0 resources
  exact (hparse.spec d trivial).2

/-- The condition under which the callback needs no third memory range. -/
def PortNotNeeded (env : WdfEnv) : Prop :=
  StopsEarly (env.firmware_file FPGA_FILE).loaded (env.firmware_file INIT_FILE).loaded

theorem prepare_trace (hok : (EvtDevicePrepareHardware resources).eval env d = STATUS_SUCCESS) :
    ∃ new, ((EvtDevicePrepareHardware resources).exec env d).machine.trace = d.machine.trace ++ new ∧
      ((∀ e ∈ new, e.Mapped) ↔ d.machine.ctx.iobase_port ≠ .null ∨ 3 ≤ memory_count resources ∨
        PortNotNeeded env) := by
  obtain ⟨hreq, hport, hexec⟩ := EvtDevicePrepareHardware_success hok
  obtain ⟨before, hbefore, hmapped⟩ := parsed_trace env d resources
  obtain ⟨new, hnew, hiff⟩ := @bring_up_trace env (parsed env d resources) hreq
  refine ⟨before ++ new, ?_, ?_⟩
  · rw [hexec, hnew, hbefore, List.append_assoc]
  · rw [List.forall_mem_append, hiff, hport, or_assoc]
    exact and_iff_right hmapped

/-- The bring-up makes no access through NULL exactly when there is a third
memory range for the port (or the port was mapped before), or when a bad init
sequence without an FPGA image stops it early. -/
theorem prepare_mapped_iff (env : WdfEnv) (d : DEVICE_CONTEXT) (resources : List (Option CmResource))
    (hok : (EvtDevicePrepareHardware resources).eval env d = STATUS_SUCCESS) :
    (∀ e ∈ ((EvtDevicePrepareHardware resources).exec env d).machine.since d.machine, e.Mapped) ↔
      d.machine.ctx.iobase_port ≠ .null ∨ 3 ≤ memory_count resources ∨ PortNotNeeded env := by
  obtain ⟨new, hnew, hiff⟩ := prepare_trace hok
  rw [since_of_trace hnew, hiff]

end prepare

/-- An idle outside that maps every range at its bus address and has no firmware
files. -/
def WdfEnv.idle : WdfEnv where
  toEnv := .idle
  map_io := fun _ start _ => some start.toNat
  firmware_file := fun _ => .missing ⟨0xC0000034, by decide⟩

/-- A card with an I/O port as its third BAR. -/
def io_port_card : List (Option CmResource) :=
  [some (.memory 0xF0000000 0x400000), some (.memory 0xF0800000 0x800000), some (.port 0xC000 16),
    some .interrupt]

/-- A card with three memory ranges. -/
def memory_card : List (Option CmResource) :=
  [some (.memory 0xF0000000 0x400000), some (.memory 0xF0800000 0x800000),
    some (.memory 0xF1000000 16), some .interrupt]

/-- Where the loop finds its ranges and the checked BARs, the callback succeeds. -/
theorem prepare_success {env : WdfEnv} {d : DEVICE_CONTEXT} {resources : List (Option CmResource)}
    (hparse : (parse_resources 0 resources).eval env
      ((log .info "PrepareHardware: %lu translated resources\n" [.int resources.length]).exec env d) =
        STATUS_SUCCESS)
    (hreq : (parsed env d resources).machine.ctx.RequiredBars) :
    (EvtDevicePrepareHardware resources).eval env d = STATUS_SUCCESS := by
  rw [EvtDevicePrepareHardware, eval_bind, eval_bind, hparse, if_pos (by decide)]
  exact (check_bars_present hreq).1.trans (eval_bring_up _)

theorem idle_prepare_memory_card :
    (EvtDevicePrepareHardware memory_card).eval .idle .fresh = STATUS_SUCCESS :=
  prepare_success (by decide) ⟨by decide, by decide⟩

/-- With three memory ranges every access is mapped. -/
theorem memory_card_mapped :
    (∀ e ∈ ((EvtDevicePrepareHardware memory_card).exec .idle .fresh).machine.since
      DEVICE_CONTEXT.fresh.machine, e.Mapped) ↔
      DEVICE_CONTEXT.fresh.machine.ctx.iobase_port ≠ .null ∨ 3 ≤ memory_count memory_card ∨
        PortNotNeeded .idle :=
  prepare_mapped_iff .idle .fresh memory_card idle_prepare_memory_card

/-- With an I/O port instead of the third memory range the callback gets past
its check and then goes through NULL. -/
theorem io_port_card_unmapped :
    (EvtDevicePrepareHardware io_port_card).eval .idle .fresh = STATUS_SUCCESS ∧
    ¬ ∀ e ∈ ((EvtDevicePrepareHardware io_port_card).exec .idle .fresh).machine.since
      DEVICE_CONTEXT.fresh.machine, e.Mapped := by
  have hok : (EvtDevicePrepareHardware io_port_card).eval .idle .fresh = STATUS_SUCCESS :=
    prepare_success (by decide) ⟨by decide, by decide⟩
  obtain ⟨new, hnew, hiff⟩ := prepare_trace hok
  refine ⟨hok, fun hmapped => ?_⟩
  rw [since_of_trace hnew] at hmapped
  rcases hiff.mp hmapped with hport | hcount | ⟨_, hbad, _⟩
  · exact hport rfl
  · exact absurd hcount (by decide)
  · exact absurd hbad (by decide)

end motu424.wdf
