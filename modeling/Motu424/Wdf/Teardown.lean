import Motu424.Wdf.Lifecycle
import Motu424.Alsa.PortConf

open Program Run ByteMemory

namespace motu424.wdf

/-- The bits of PORT_CONF with which the card works on the buffer. -/
def stream_bits : U32 := MOTU_PORT_CONF_DMA_EN ||| MOTU_PORT_CONF_RUN ||| MOTU_PORT_CONF_DMA_RD ||| MOTU_PORT_CONF_START

/-- The card is at rest: with BAR1 as a memory, its stream bits are clear and its
interrupt is masked, and no handler is stored. -/
structure AtRest (init : ByteMemory) (trace : List Event) : Prop where
  stopped : port_conf init trace &&& stream_bits = 0
  masked : bar_word init .reg trace MOTU_REG_INT_MASK = 0
  released : irq_handler_stored trace = false

/-- Whenever the buffer is freed, the card is at rest. -/
def FreedAtRest (init : ByteMemory) (trace : List Event) : Prop :=
  Throughout (fun pre e => Event.frees e = true → AtRest init pre) trace

/-- A buffer has the one size there is, and the register BAR is mapped with it. -/
structure Owning (c : motu424_ctx) : Prop where
  reg : c.dma_buf ≠ none → c.iobase_reg ≠ .null
  size : c.dma_buf ≠ none → c.dma_size = MOTU_DMA_BUF_MAX

structure Orderly (init : ByteMemory) (d : DEVICE_CONTEXT) : Prop where
  freed : FreedAtRest init d.machine.trace
  owning : Owning d.machine.ctx

variable {init : ByteMemory}

theorem Owning.same {c c' : motu424_ctx} (hc : Owning c) (hsame : c.SameHw c') : Owning c' where
  reg := by
    rw [hsame.buf, hsame.reg]
    exact hc.reg
  size := by
    rw [hsame.buf, hsame.size]
    exact hc.size

theorem Orderly.keep {d d' : DEVICE_CONTEXT} (hd : Orderly init d) {new : List Event}
    (hnew : d'.machine.trace = d.machine.trace ++ new) (hfrees : ∀ e ∈ new, Event.frees e = false)
    (howning : Owning d'.machine.ctx) : Orderly init d' where
  freed := by
    rw [hnew]
    refine hd.freed.append fun e he pre hfree => ?_
    rw [hfrees e he] at hfree
    cases hfree
  owning := howning

section calls

variable {env : WdfEnv} {α : Type}

theorem ThroughPointers.orderly {p : Pal α} (hp : ThroughPointers env.toEnv p) :
    Preserves env (Orderly init) (shared p) := by
  intro d hd
  obtain ⟨hsame, new, hnew, hworking⟩ := (hp d.machine.ctx).spec d.machine (.refl _)
  exact hd.keep hnew (fun e he => (hworking e he).keeps) (hd.owning.same hsame)

theorem log_orderly (level : LogLevel) (fmt : String) (args : List LogArg) :
    Preserves env (Orderly init) (log level fmt args) :=
  ThroughPointers.orderly fun _ => working_log level fmt args

theorem update_orderly {f : DEVICE_CONTEXT → DEVICE_CONTEXT} (hmachine : ∀ d, (f d).machine = d.machine) :
    Preserves env (Orderly init) (Program.update f) := by
  intro d hd
  have hnew : (f d).machine.trace = d.machine.trace ++ [] := by rw [hmachine, List.append_nil]
  apply hd.keep hnew (List.forall_mem_nil _)
  rw [hmachine]
  exact hd.owning

theorem LoadFirmwareFile_orderly (filename : String) : Preserves env (Orderly init) (LoadFirmwareFile filename) := by
  intro d hd
  obtain ⟨_, level, fmt, args, hexec⟩ := @LoadFirmwareFile_spec env d filename
  rw [hexec]
  exact log_orderly level fmt args d hd

/-- With the register BAR mapped, allocating keeps the buffer that is there, or takes
the first one. -/
theorem alloc_dma_buffer_orderly {d : DEVICE_CONTEXT} (hd : Orderly init d)
    (hreg : d.machine.ctx.iobase_reg ≠ .null) : Orderly init (alloc_dma_buffer.exec env d) := by
  suffices halloc : Orderly init ((shared (motu424_dma_alloc MOTU_DMA_BUF_MAX)).exec env d) from
    Preserves.when (log_orderly .warn "DMA alloc failed (continuing)\n" []) _ halloc
  have hrequest : dma_request MOTU_DMA_BUF_MAX = MOTU_DMA_BUF_MAX := by decide
  by_cases hbuf : d.machine.ctx.dma_buf = none
  · have hmachine : dma_request_machine d.machine = d.machine := by
      rw [dma_request_machine, dma_freed, if_pos hbuf, dma_free_events, hbuf, List.append_nil]
    rcases motu424_dma_alloc_cases env.toEnv d.machine MOTU_DMA_BUF_MAX with
      ⟨hsome, _⟩ | ⟨err, _, hexec⟩ | ⟨buf, _, _, hexec⟩
    · exact absurd hbuf hsome
    · rw [hmachine] at hexec
      rw [shared, exec_zoom, hexec]
      exact hd.keep rfl (by simp [Event.frees]) hd.owning
    · rw [hmachine] at hexec
      rw [shared, exec_zoom, hexec]
      exact hd.keep rfl (by simp [Event.frees, dma_alloc_events, sg_events]) ⟨fun _ => hreg, fun _ => hrequest⟩
  · have hreuse : Reuses d.machine.ctx MOTU_DMA_BUF_MAX := ⟨hbuf, by rw [hd.owning.size hbuf]; exact BitVec.le_refl _⟩
    rw [shared, exec_zoom, (motu424_dma_alloc_reused env.toEnv d.machine MOTU_DMA_BUF_MAX hreuse).2]
    exact hd

theorem load_fpga_file_orderly : Preserves env (Orderly init) load_fpga_file := by
  refine (LoadFirmwareFile_orderly _).bind fun _ => (log_orderly _ _ _).when.bind fun _ => ?_
  exact update_orderly fun _ => rfl

theorem load_init_file_orderly : Preserves env (Orderly init) load_init_file := by
  refine (LoadFirmwareFile_orderly _).bind fun _ => (log_orderly _ _ _).when.bind fun _ => ?_
  exact update_orderly fun _ => rfl

theorem init_hardware_orderly : Preserves env (Orderly init) init_hardware := by
  refine Preserves.bind_gets _ fun d hd => ?_
  exact ((motu424_full_init_through _ _).orderly.bind fun _ => (log_orderly _ _ _).when) d hd

theorem bring_up_orderly {d : DEVICE_CONTEXT} (hd : Orderly init d) (hreg : d.machine.ctx.iobase_reg ≠ .null) :
    Orderly init (bring_up.exec env d) := by
  have halloc := @alloc_dma_buffer_orderly init env d hd hreg
  have hfpga := @load_fpga_file_orderly init env _ halloc
  have hinit := @init_hardware_orderly init env _ (@load_init_file_orderly init env _ hfpga)
  exact enable_interrupt_through.orderly _ hinit

theorem check_bars_orderly : Preserves env (Orderly init) check_bars := by
  refine Preserves.bind_gets _ fun d hd => ?_
  by_cases hmissing : d.machine.ctx.iobase_dsp = .null ∨ d.machine.ctx.iobase_reg = .null
  · rw [id, if_pos hmissing]
    exact ((log_orderly _ _ _).bind fun _ => Preserves.pure _) d hd
  · rw [id, if_neg hmissing]
    exact bring_up_orderly hd (not_or.mp hmissing).2

/-- Recording a range takes no pointer away and leaves the buffer alone. -/
theorem Owning.record {d : DEVICE_CONTEXT} (hd : Owning d.machine.ctx) (k base : Nat) (start : U64) (length : U32) :
    Owning (d.record k base start length).machine.ctx := by
  match k with
  | 0 => exact ⟨hd.reg, hd.size⟩
  | 1 => exact ⟨fun _ => nofun, hd.size⟩
  | 2 => exact ⟨hd.reg, hd.size⟩
  | k + 3 => exact hd

theorem parse_resources_orderly (k : Nat) (resources : List (Option CmResource)) :
    Preserves env (Orderly init) (parse_resources k resources) := by
  induction resources generalizing k with
  | nil => exact Preserves.pure _
  | cons resource resources ih =>
    match resource with
    | none => exact ih k
    | some (.memory start length) =>
      intro d hd
      cases hbase : env.map_io d.machine.trace start length with
      | none =>
        rw [(parse_resources_refused hbase).2]
        exact hd.keep rfl (by simp [Event.frees, refused_events]) hd.owning
      | some base =>
        rw [(parse_resources_granted hbase).2]
        apply ih
        apply hd.keep (assign_bar_trace _ _ _ _) _ (hd.owning.record k base start length)
        simp [Event.frees, granted_events]
    | some (.port start length) => exact (log_orderly _ _ _).bind fun _ => ih k
    | some .interrupt => exact (log_orderly _ _ _).bind fun _ => ih k
    | some .other => exact ih k

theorem EvtDevicePrepareHardware_orderly (resources : List (Option CmResource)) :
    Preserves env (Orderly init) (EvtDevicePrepareHardware resources) := by
  refine (log_orderly _ _ _).bind fun _ => (parse_resources_orderly 0 resources).bind fun status => ?_
  exact Preserves.ite (fun _ => check_bars_orderly) fun _ => Preserves.pure _

end calls

theorem stop_conf_stream_bits (val : U32) : stop_conf val &&& stream_bits = 0 := by
  have hnone : ~~~stream_bits &&& stream_bits = 0 := by decide
  change val &&& ~~~stream_bits &&& stream_bits = 0
  rw [BitVec.and_assoc, hnone]
  exact BitVec.and_zero

/-- What the release does with the card before it frees the buffer. -/
def rest_device : Pal Unit := do
  motu424_hw_stop
  disable_interrupt
  pal_irq_free

theorem rest_device_through {env : Env} : ThroughPointers env rest_device := fun c =>
  motu424.Emits.bind (motu424_hw_stop_through c) fun _ =>
    motu424.Emits.bind (disable_interrupt_through c) fun _ => pal_irq_free_through c

/-- With the register BAR mapped, the card is at rest then. -/
theorem rest_device_at_rest (env : Env) {m : Machine} (hreg : m.ctx.iobase_reg ≠ .null) :
    AtRest init (rest_device.exec env m).trace := by
  obtain ⟨base, hbase⟩ := Iomem.exists_addr hreg
  have htrace : (rest_device.exec env m).trace = (m.trace ++ [.read .reg (some base) MOTU_REG_PORT_CONF]) ++
      .write .reg (some base) MOTU_REG_PORT_CONF (stop_conf (env.read32 m.trace .reg MOTU_REG_PORT_CONF)) ::
        [.write .reg (some base) MOTU_REG_INT_MASK 0, .irq_free] := by
    rw [rest_device, exec_bind, exec_motu424_hw_stop env m hreg, exec_bind, disable_interrupt, exec_bind,
      exec_get_ctx, eval_get_ctx, exec_when, if_pos hreg, exec_pal_write32, pal_irq_free, exec_perform, hbase]
    simp [Machine.emit]
  have hmask : ∀ s ∈ stores .reg [.write .reg (some base) MOTU_REG_INT_MASK 0, .irq_free],
      Apart 0 4 s.1 s.2.length := by
    simp [Event.stores, MOTU_REG_INT_MASK, Apart]
  have hfree : ∀ s ∈ stores .reg [.irq_free], Apart MOTU_REG_INT_MASK.toNat 4 s.1 s.2.length :=
    List.forall_mem_nil _
  rw [htrace]
  constructor
  · rw [port_conf_write init _ hmask]
    exact stop_conf_stream_bits _
  · rw [List.append_cons]
    exact bar_word_last_write init _ base MOTU_REG_INT_MASK 0 hfree
  · simp [irq_handler_stored, handler_after]

theorem exec_stop_device (env : WdfEnv) (d : DEVICE_CONTEXT) : stop_device.exec env d =
    free_firmware.exec env ((shared motu424_dma_free).exec env ((shared rest_device).exec env
      ((log .info "ReleaseHardware\n" []).exec env d))) := (rfl)

/-- The device after its buffer has been freed. -/
structure Bare (init : ByteMemory) (d : DEVICE_CONTEXT) : Prop where
  freed : FreedAtRest init d.machine.trace
  bare : d.machine.ctx.dma_buf = none

theorem Bare.orderly {d : DEVICE_CONTEXT} (hd : Bare init d) : Orderly init d :=
  ⟨hd.freed, fun hbuf => absurd hd.bare hbuf, fun hbuf => absurd hd.bare hbuf⟩

section release

variable {env : WdfEnv}

theorem stop_device_bare {d : DEVICE_CONTEXT} (hd : Orderly init d) : Bare init (stop_device.exec env d) := by
  rw [exec_stop_device]
  have hlogged := @log_orderly init env .info "ReleaseHardware\n" [] d hd
  generalize (log .info "ReleaseHardware\n" []).exec env d = d₁ at hlogged
  have hrested := @ThroughPointers.orderly init env _ _ rest_device_through d₁ hlogged
  have hat_rest : d₁.machine.ctx.iobase_reg ≠ .null → AtRest init ((shared rest_device).exec env d₁).machine.trace :=
    rest_device_at_rest env.toEnv
  have hsame : d₁.machine.ctx.SameHw ((shared rest_device).exec env d₁).machine.ctx :=
    ((rest_device_through d₁.machine.ctx).spec d₁.machine (.refl _)).1
  generalize (shared rest_device).exec env d₁ = d₂ at hrested hat_rest hsame
  have hfree : ((shared motu424_dma_free).exec env d₂).machine =
      ⟨dma_freed d₂.machine.ctx, d₂.machine.trace ++ dma_free_events d₂.machine.ctx⟩ :=
    exec_motu424_dma_free env.toEnv d₂.machine
  constructor
  · change FreedAtRest init ((shared motu424_dma_free).exec env d₂).machine.trace
    rw [hfree, dma_free_events]
    cases hbuf : d₂.machine.ctx.dma_buf with
    | none =>
      rw [List.append_nil]
      exact hrested.freed
    | some buf =>
      refine throughout_append_singleton.mpr ⟨hrested.freed, fun _ => hat_rest ?_⟩
      rw [← hsame.reg]
      exact hrested.owning.reg (by simp [hbuf])
  · change ((shared motu424_dma_free).exec env d₂).machine.ctx.dma_buf = none
    rw [hfree, dma_freed]
    split
    · assumption
    · rfl

theorem unmap_bar_bare {base : DEVICE_CONTEXT → Option Nat} {length : DEVICE_CONTEXT → U32}
    {forget : DEVICE_CONTEXT → DEVICE_CONTEXT} (htrace : ∀ d, (forget d).machine.trace = d.machine.trace)
    (hbuf : ∀ d, (forget d).machine.ctx.dma_buf = d.machine.ctx.dma_buf) :
    Preserves env (Bare init) (unmap_bar base length forget) := by
  intro d hd
  cases hbase : base d with
  | none =>
    rw [exec_unmap_bar_none hbase]
    exact hd
  | some addr =>
    rw [exec_unmap_bar_some hbase]
    constructor
    · rw [htrace]
      exact throughout_append_singleton.mpr ⟨hd.freed, nofun⟩
    · rw [hbuf]
      exact hd.bare

theorem EvtDeviceReleaseHardware_orderly : Preserves env (Orderly init) EvtDeviceReleaseHardware := by
  intro d hd
  rw [exec_EvtDeviceReleaseHardware]
  have h₀ : Preserves env (Bare init) unmap_bar0 := unmap_bar_bare (fun _ => rfl) fun _ => rfl
  have h₁ : Preserves env (Bare init) unmap_bar1 := unmap_bar_bare (fun _ => rfl) fun _ => rfl
  have h₂ : Preserves env (Bare init) unmap_bar2 := unmap_bar_bare (fun _ => rfl) fun _ => rfl
  exact (h₂ _ (h₁ _ (h₀ _ (stop_device_bare hd)))).orderly

end release

theorem Orderly.step {d : DEVICE_CONTEXT} (hd : Orderly init d) (call : WdfEnv × WdfCall) :
    Orderly init (wdf_step d call) := by
  obtain ⟨env, call⟩ := call
  have hcall : Preserves env (Orderly init) call.run := by
    cases call with
    | prepare resources => exact (EvtDevicePrepareHardware_orderly resources).bind fun _ => Preserves.pure _
    | release => exact EvtDeviceReleaseHardware_orderly.bind fun _ => Preserves.pure _
    | control request => exact (EvtIoDeviceControl_through request).orderly.bind fun _ => Preserves.pure _
    | interrupt => exact pal_win_irq_handler_through.orderly.bind fun _ => Preserves.pure _
  exact hcall d hd

end motu424.wdf
