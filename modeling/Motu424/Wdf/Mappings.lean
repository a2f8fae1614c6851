import Motu424.Wdf.RegisterBounds
import Motu424.Foundation.Ledger

open Program Ledger

namespace motu424.wdf

/-- The entry of an event in the account of mapped ranges, each with its base and
its length. -/
def mapping : Event → Option (Entry (Nat × U32))
  | .map_io _ length (some base) => some (.take (base, length))
  | .unmap_io base length => some (.give (base, length))
  | _ => none

def mappings (trace : List Event) : List (Entry (Nat × U32)) := trace.filterMap mapping

def is_map_request : Event → Bool
  | .map_io _ _ _ => true
  | _ => false

/-- The number of ranges that a trace asks to map. -/
def map_requests (trace : List Event) : Nat := trace.countP is_map_request

def DEVICE_CONTEXT.bar_base (d : DEVICE_CONTEXT) : Bar → Option Nat
  | .dsp => d.bar0_base
  | .reg => d.bar1_base
  | .port => d.bar2_base

/-- The range that is recorded as a BAR. -/
def DEVICE_CONTEXT.slot (d : DEVICE_CONTEXT) (bar : Bar) : Option (Nat × U32) :=
  (d.bar_base bar).map fun base => (base, d.bar_len bar)

/-- Every base is NULL. -/
def DEVICE_CONTEXT.Unmapped (d : DEVICE_CONTEXT) : Prop :=
  ∀ bar, d.bar_base bar = none ∧ d.machine.ctx.base bar = none

/-- The device with the same mappings, after events that map and unmap nothing. -/
structure SameMappings (d d' : DEVICE_CONTEXT) : Prop where
  slot : ∀ bar, d'.slot bar = d.slot bar
  base : ∀ bar, d'.machine.ctx.base bar = d.machine.ctx.base bar
  trace : ∃ new, d'.machine.trace = d.machine.trace ++ new ∧ mappings new = []

theorem SameMappings.refl (d : DEVICE_CONTEXT) : SameMappings d d :=
  ⟨fun _ => rfl, fun _ => rfl, [], by simp, rfl⟩

theorem SameMappings.trans {d d' d'' : DEVICE_CONTEXT} (h : SameMappings d d')
    (h' : SameMappings d' d'') : SameMappings d d'' := by
  obtain ⟨hslot, hbase, new, hnew, hnone⟩ := h
  obtain ⟨hslot', hbase', new', hnew', hnone'⟩ := h'
  refine ⟨fun bar => (hslot' bar).trans (hslot bar), fun bar => (hbase' bar).trans (hbase bar),
    new ++ new', ?_, ?_⟩
  · rw [hnew', hnew, List.append_assoc]
  · rw [mappings, List.filterMap_append]
    exact congrArg₂ (· ++ ·) hnone hnone'

/-- Whatever the program does, it leaves the mappings alone. -/
def KeepsMappings (env : WdfEnv) {α : Type} (p : Wdf α) : Prop := ∀ d, SameMappings d (p.exec env d)

/-- So does shared code that keeps the bases and performs no mapping. -/
def Unmapping (env : Env) {α : Type} (p : Pal α) : Prop :=
  ∀ c, motu424.Emits env (motu424_ctx.SameBases c) (fun e => mapping e = none) p

section keeps

variable {env : WdfEnv} {α β : Type}

theorem KeepsMappings.pure (a : α) : KeepsMappings env (pure a : Wdf α) := SameMappings.refl

theorem KeepsMappings.gets (f : DEVICE_CONTEXT → α) : KeepsMappings env (Program.gets f) :=
  SameMappings.refl

theorem KeepsMappings.asks (f : WdfEnv → DEVICE_CONTEXT → α) : KeepsMappings env (Program.asks f) :=
  SameMappings.refl

theorem KeepsMappings.bind {p : Wdf α} {f : α → Wdf β} (hp : KeepsMappings env p)
    (hf : ∀ a, KeepsMappings env (f a)) : KeepsMappings env (p >>= f) :=
  fun d => (hp d).trans (hf _ _)

theorem KeepsMappings.when {c : Prop} [Decidable c] {p : Wdf Unit} (hp : KeepsMappings env p) :
    KeepsMappings env (when c p) := by
  unfold Program.when
  split
  · exact hp
  · exact KeepsMappings.pure ()

theorem KeepsMappings.shared {p : Pal α} (hp : Unmapping env.toEnv p) : KeepsMappings env (shared p) := by
  intro d
  obtain ⟨hbase, new, hnew, hnone⟩ := (hp d.machine.ctx).spec d.machine fun _ => rfl
  exact ⟨fun bar => by cases bar <;> rfl, hbase, new, hnew, List.filterMap_eq_nil_iff.mpr hnone⟩

theorem KeepsMappings.log (level : LogLevel) (fmt : String) (args : List LogArg) :
    KeepsMappings env (log level fmt args) :=
  KeepsMappings.shared fun _ => motu424.Emits.perform rfl

/-- Recording something that is no mapping. -/
theorem KeepsMappings.update {f : DEVICE_CONTEXT → DEVICE_CONTEXT} (hslot : ∀ d bar, (f d).slot bar = d.slot bar)
    (hmachine : ∀ d, (f d).machine = d.machine) : KeepsMappings env (Program.update f) := by
  intro d
  rw [exec_update]
  exact ⟨hslot d, fun bar => by rw [hmachine], [], by rw [hmachine, List.append_nil], rfl⟩

end keeps

section callees

variable {env : Env}

theorem Unmapping.write {bar : Bar} {base : Iomem bar} {offset value : U32} {c : motu424_ctx} :
    motu424.Emits env c.SameBases (fun e => mapping e = none) (pal_write32 base offset value) :=
  motu424.Emits.pal_write32 rfl

theorem Unmapping.set_conf (val : U32) (dma_running : Int) {c : motu424_ctx} :
    motu424.Emits env c.SameBases (fun e => mapping e = none)
      (set_ctx fun ctx => { ctx with port_conf_shadow := val, dma_running := dma_running }) := by
  apply motu424.Emits.set_ctx
  intro c' hc bar
  rw [← hc bar]
  cases bar <;> rfl

theorem motu424_full_init_unmapping (fpga_fw init_seq : Option (List U8)) :
    Unmapping env (motu424_full_init fpga_fw init_seq) := by
  intro c
  apply motu424.Emits.of_spec
  intro m hm
  have hwrites : WritesOnly env m.ctx (fun _ _ _ => True) (motu424_full_init fpga_fw init_seq) :=
    motu424_full_init_writes
  obtain ⟨hhw, new, hnew, hwithin⟩ := hwrites.spec m (.refl _)
  refine ⟨fun bar => (hhw.same_bases bar).trans (hm bar), new, hnew, fun e he => ?_⟩
  have hw := hwithin e he
  cases e with
  | map_io start length result => exact hw.elim
  | unmap_io base length => exact hw.elim
  | _ => rfl

theorem motu424_dma_free_unmapping : Unmapping env motu424_dma_free := by
  refine fun c => motu424.Emits.get_ctx fun c' hc => ?_
  cases c'.dma_buf with
  | none => exact motu424.Emits.pure _
  | some buf =>
    refine motu424.Emits.bind (motu424.Emits.perform rfl) fun _ => motu424.Emits.set_ctx ?_
    intro c'' hc' bar
    rw [← hc' bar]
    cases bar <;> rfl

theorem motu424_dma_alloc_unmapping (size : U64) : Unmapping env (motu424_dma_alloc size) := by
  intro c
  apply motu424.Emits.of_spec
  intro m hm
  refine ⟨fun bar => (motu424_dma_alloc_base env m size bar).trans (hm bar), ?_⟩
  have hfree : ∀ e ∈ dma_free_events m.ctx, mapping e = none := by
    unfold dma_free_events
    split <;> simp [mapping]
  rcases motu424_dma_alloc_cases env m size with ⟨_, _, _, hexec⟩ | ⟨_, _, hexec⟩ | ⟨buf, _, _, hexec⟩
  · exact ⟨[], by rw [hexec, List.append_nil], by simp⟩
  · refine ⟨_, by rw [hexec, Machine.emit_trace, dma_request_machine, List.append_assoc], ?_⟩
    exact List.forall_mem_append.mpr ⟨hfree, by simp [mapping]⟩
  · refine ⟨_, by rw [hexec, dma_request_machine, List.append_assoc], ?_⟩
    exact List.forall_mem_append.mpr ⟨hfree, by simp [mapping, dma_alloc_events, sg_events]⟩

theorem enable_interrupt_unmapping : Unmapping env enable_interrupt := by
  intro c
  have hask : motu424.Emits env c.SameBases (fun e => mapping e = none) pal_irq_request :=
    motu424.Emits.of_spec fun m hm => ⟨hm, [_], rfl, by simp [mapping]⟩
  refine motu424.Emits.bind hask fun err => motu424.Emits.get_ctx fun c' hc => ?_
  cases err with
  | error err => exact motu424.Emits.perform rfl
  | ok granted => exact motu424.Emits.bind Unmapping.write fun _ => motu424.Emits.perform rfl

theorem motu424_hw_stop_unmapping : Unmapping env motu424_hw_stop := by
  refine fun c => motu424.Emits.get_ctx fun c' hc => ?_
  refine motu424.Emits.ite (fun _ => motu424.Emits.pure _) fun _ => ?_
  refine motu424.Emits.bind (motu424.Emits.pal_read32 rfl) fun val => ?_
  exact motu424.Emits.bind Unmapping.write fun _ => Unmapping.set_conf _ _

theorem disable_interrupt_unmapping : Unmapping env disable_interrupt :=
  fun _ => motu424.Emits.get_ctx fun _ _ => motu424.Emits.when fun _ => Unmapping.write

end callees

section phases

variable {env : WdfEnv}

theorem alloc_dma_buffer_keeps : KeepsMappings env alloc_dma_buffer :=
  (KeepsMappings.shared (motu424_dma_alloc_unmapping _)).bind fun _ => (KeepsMappings.log _ _ _).when

theorem LoadFirmwareFile_keeps (filename : String) : KeepsMappings env (LoadFirmwareFile filename) := by
  intro d
  obtain ⟨_, level, fmt, args, hexec⟩ := @LoadFirmwareFile_spec env d filename
  rw [hexec]
  exact KeepsMappings.log level fmt args d

theorem load_fpga_file_keeps : KeepsMappings env load_fpga_file := by
  refine (LoadFirmwareFile_keeps _).bind fun _ => (KeepsMappings.log _ _ _).when.bind fun _ => ?_
  exact KeepsMappings.update (fun d bar => by cases bar <;> rfl) fun _ => rfl

theorem load_init_file_keeps : KeepsMappings env load_init_file := by
  refine (LoadFirmwareFile_keeps _).bind fun _ => (KeepsMappings.log _ _ _).when.bind fun _ => ?_
  exact KeepsMappings.update (fun d bar => by cases bar <;> rfl) fun _ => rfl

theorem init_hardware_keeps : KeepsMappings env init_hardware := by
  refine (KeepsMappings.gets _).bind fun d => ?_
  exact (KeepsMappings.shared (motu424_full_init_unmapping _ _)).bind fun _ => (KeepsMappings.log _ _ _).when

theorem bring_up_keeps : KeepsMappings env bring_up := by
  refine alloc_dma_buffer_keeps.bind fun _ => load_fpga_file_keeps.bind fun _ => ?_
  refine load_init_file_keeps.bind fun _ => init_hardware_keeps.bind fun _ => ?_
  exact (KeepsMappings.shared enable_interrupt_unmapping).bind fun _ => KeepsMappings.pure _

theorem check_bars_keeps : KeepsMappings env check_bars := by
  refine (KeepsMappings.gets _).bind fun d => ?_
  split
  · exact (KeepsMappings.log _ _ _).bind fun _ => KeepsMappings.pure _
  · exact bring_up_keeps

/-- All that the release does before it unmaps. -/
def stop_device : Wdf Unit := do
  log .info "ReleaseHardware\n" []
  shared motu424_hw_stop
  shared disable_interrupt
  shared pal_irq_free
  shared motu424_dma_free
  free_firmware

theorem stop_device_keeps : KeepsMappings env stop_device := by
  refine (KeepsMappings.log _ _ _).bind fun _ => ?_
  refine (KeepsMappings.shared motu424_hw_stop_unmapping).bind fun _ => ?_
  refine (KeepsMappings.shared disable_interrupt_unmapping).bind fun _ => ?_
  refine (KeepsMappings.shared fun _ => motu424.Emits.perform rfl).bind fun _ => ?_
  refine (KeepsMappings.shared motu424_dma_free_unmapping).bind fun _ => ?_
  exact KeepsMappings.update (fun d bar => by cases bar <;> rfl) fun _ => rfl

theorem exec_EvtDeviceReleaseHardware (d : DEVICE_CONTEXT) :
    EvtDeviceReleaseHardware.exec env d =
      unmap_bar2.exec env (unmap_bar1.exec env (unmap_bar0.exec env (stop_device.exec env d))) := rfl

end phases

theorem SameMappings.emit (d : DEVICE_CONTEXT) {events : List Event} (hnone : mappings events = []) :
    SameMappings d (d.emit events) :=
  ⟨fun bar => by cases bar <;> rfl, fun _ => rfl, events, rfl, hnone⟩

end motu424.wdf
