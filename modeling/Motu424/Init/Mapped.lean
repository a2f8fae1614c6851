import Motu424.Init.FullInit

open Program

namespace motu424

/-- The two BARs that the frontend checks for are mapped. -/
structure motu424_ctx.RequiredBars (c : motu424_ctx) : Prop where
  dsp : c.iobase_dsp ≠ .null
  reg : c.iobase_reg ≠ .null

theorem motu424_ctx.RequiredBars.mapped {c : motu424_ctx} (hc : c.RequiredBars)
    (hport : c.iobase_port ≠ .null) : c.Mapped := ⟨hc.dsp, hc.reg, hport⟩

/-- On mapped BARs the code that goes through the pointers of the context makes
no access through NULL. -/
theorem Event.Within.mapped {c : motu424_ctx} {W : Bar → U32 → U32 → Prop} {e : Event}
    (he : e.Within c W) (hc : c.Mapped) : e.Mapped := by
  cases e with
  | read bar base offset =>
    have hbase : base = c.base bar := he
    rw [Event.Mapped, hbase]
    exact motu424_ctx.mapped_iff.mp hc bar
  | write bar base offset value =>
    obtain ⟨hbase, _⟩ := he
    rw [Event.Mapped, hbase]
    exact motu424_ctx.mapped_iff.mp hc bar
  | _ => trivial

section phases

variable {env : Env} {c : motu424_ctx} {fpga_fw init_seq : Option (List U8)}

theorem full_init_boot_writes : WritesOnly env c (fun _ _ _ => True) full_init_boot := by
  refine Emits.bind (motu424_dsp_kickstart_writes.mono fun _ _ _ _ => trivial) fun _ => ?_
  refine Emits.bind (motu424_post_init_port_loop_writes.mono fun _ _ _ _ => trivial) fun _ => ?_
  exact motu424_hw_init_writes.mono fun _ _ _ _ => trivial

theorem full_init_dsp_writes : WritesOnly env c (fun _ _ _ => True) (full_init_dsp init_seq) := by
  refine Emits.bind (motu424_zero_dsp_ram_writes.mono fun _ _ _ _ => trivial) fun _ => ?_
  refine Emits.ite (fun _ => ?_) fun _ => ?_
  · refine Emits.bind ((motu424_replay_sequence_writes _).mono fun _ _ _ _ => trivial) fun err => ?_
    refine Emits.ite (fun _ => ?_) fun _ => full_init_boot_writes
    exact Emits.bind (pal_log_writes _ _ _) fun _ => Emits.pure _
  · exact Emits.bind (pal_log_writes _ _ _) fun _ => full_init_boot_writes

/-- The whole initialisation goes through the pointers of the context. -/
theorem motu424_full_init_writes :
    WritesOnly env c (fun _ _ _ => True) (motu424_full_init fpga_fw init_seq) := by
  refine Emits.ite (fun _ => ?_) fun _ => ?_
  · refine Emits.bind ((motu424_load_fpga_writes _).mono fun _ _ _ _ => trivial) fun err => ?_
    refine Emits.ite (fun _ => ?_) fun _ => full_init_dsp_writes
    exact Emits.bind (pal_log_writes _ _ _) fun _ => Emits.pure _
  · exact Emits.bind (pal_log_writes _ _ _) fun _ => full_init_dsp_writes

/-- Loading the FPGA starts with a write to the port. -/
theorem motu424_load_fpga_reaches (hsize : 0 < fw_size fpga_fw) :
    Reaches env c.SameHw (.write .port (c.base .port) 0x4 0x1) (motu424_load_fpga fpga_fw) := by
  refine Reaches.get_ctx fun c' hc => ?_
  rw [if_neg (by omega)]
  refine Reaches.bind_right Emits.pal_log fun _ => ?_
  refine Reaches.bind_left (Reaches.pal_write32 (by rw [hc.port]; rfl)) fun _ => ?_
  refine Emits.bind (Emits.perform trivial) fun _ => Emits.bind (Emits.perform trivial) fun _ => ?_
  refine Emits.bind (Emits.perform trivial) fun _ => ?_
  refine Emits.bind (load_fpga_bytes_writes hc 0 _ _).appends fun _ => ?_
  refine Emits.bind (Emits.perform trivial) fun _ => Emits.bind (Emits.perform trivial) fun _ => ?_
  refine Emits.bind (Emits.pal_read32 trivial) fun _ => Emits.bind (Emits.perform trivial) fun _ => ?_
  refine Emits.bind (Emits.when fun _ => Emits.perform trivial) fun _ => ?_
  exact Emits.bind (Emits.perform trivial) fun _ => Emits.pure _

/-- The kick-start begins with a write to the port. -/
theorem motu424_dsp_kickstart_reaches :
    Reaches env c.SameHw (.write .port (c.base .port) 0x0 0x0) motu424_dsp_kickstart := by
  refine Reaches.get_ctx fun c' hc => ?_
  refine Reaches.bind_right Emits.pal_log fun _ => ?_
  refine Reaches.bind_left (Reaches.pal_write32 (by rw [hc.port]; rfl)) fun _ => ?_
  refine Emits.bind (Emits.perform trivial) fun _ => Emits.bind (Emits.perform trivial) fun _ => ?_
  refine Emits.bind (Emits.perform trivial) fun _ => ?_
  refine Emits.bind (Emits.pal_read32 trivial) fun _ => Emits.bind (Emits.perform trivial) fun _ => ?_
  refine Emits.bind (Emits.pal_read32 trivial) fun _ => Emits.bind (Emits.perform trivial) fun _ => ?_
  exact Emits.bind (Emits.pal_read32 trivial) fun _ => Emits.perform trivial

/-- Without a new FPGA image a bad blob stops the initialisation before it comes
to the port. -/
def StopsEarly (fpga_fw init_seq : Option (List U8)) : Prop :=
  fw_size fpga_fw = 0 ∧ BadBlob init_seq

instance (fpga_fw init_seq : Option (List U8)) : Decidable (StopsEarly fpga_fw init_seq) :=
  inferInstanceAs (Decidable (_ ∧ _))

/-- Every other initialisation writes to the port. -/
theorem motu424_full_init_writes_port (m : Machine) (hgoes : ¬ StopsEarly fpga_fw init_seq) :
    ∃ new offset value, ((motu424_full_init fpga_fw init_seq).exec env m).trace = m.trace ++ new ∧
      .write .port (m.ctx.base .port) offset value ∈ new := by
  by_cases hsize : 0 < fw_size fpga_fw
  · have hload : Reaches env m.ctx.SameHw (.write .port (m.ctx.base .port) 0x4 0x1)
        (motu424_full_init fpga_fw init_seq) := by
      rw [motu424_full_init, if_pos hsize]
      refine Reaches.bind_left (motu424_load_fpga_reaches hsize) fun err => ?_
      refine Emits.ite (fun _ => ?_) fun _ => full_init_dsp_writes.appends
      exact Emits.bind Emits.pal_log.appends fun _ => Emits.pure _
    obtain ⟨_, new, hnew, he⟩ := hload m (.refl _)
    exact ⟨new, 0x4, 0x1, hnew, he⟩
  · have hgood : ¬ BadBlob init_seq := fun hbad => hgoes ⟨by omega, hbad⟩
    have hm : Bringup m.ctx m.trace m := ⟨.refl _, [], by simp⟩
    obtain ⟨m₁, hm₁, _, hexec⟩ := motu424_full_init_loads env fpga_fw init_seq hm
    obtain ⟨m₂, ⟨hc₂, before, hbefore, _⟩, _, hboot⟩ := full_init_dsp_boots env init_seq hm₁ hgood
    have hkick : Reaches env m.ctx.SameHw (.write .port (m.ctx.base .port) 0x0 0x0) full_init_boot :=
      Reaches.bind_left motu424_dsp_kickstart_reaches fun _ =>
        Emits.bind motu424_post_init_port_loop_writes.appends fun _ => motu424_hw_init_writes.appends
    obtain ⟨_, new, hnew, he⟩ := hkick m₂ hc₂
    refine ⟨before ++ new, 0x0, 0x0, ?_, List.mem_append_right before he⟩
    rw [hexec, hboot, hnew, hbefore, List.append_assoc]

theorem motu424_zero_dsp_ram_mapped :
    Emits env motu424_ctx.RequiredBars Event.Mapped motu424_zero_dsp_ram := by
  refine Emits.get_ctx fun c hc => Emits.bind Emits.pal_log fun _ => ?_
  refine Emits.forEach fun i _ => Emits.bind (Emits.pal_write32 ?_) fun _ => Emits.when fun _ => ?_
  · exact Iomem.addr_ne_none hc.dsp
  · exact Emits.perform trivial

/-- An initialisation that stops early needs only the BARs that are checked. -/
theorem motu424_full_init_stops_early (hstops : StopsEarly fpga_fw init_seq) :
    Emits env motu424_ctx.RequiredBars Event.Mapped (motu424_full_init fpga_fw init_seq) := by
  obtain ⟨hsize, hbad⟩ := hstops
  have hdsp : Emits env motu424_ctx.RequiredBars Event.Mapped (full_init_dsp init_seq) := by
    apply Emits.of_spec
    intro m hm
    have hzero : Emits env motu424_ctx.RequiredBars Event.Mapped motu424_zero_dsp_ram :=
      motu424_zero_dsp_ram_mapped
    obtain ⟨hctx, new, hnew, hmapped⟩ := hzero.spec m hm
    obtain ⟨_, hexec⟩ := full_init_dsp_bad_blob env m hbad
    refine ⟨?_, new ++ bad_blob_events init_seq, ?_, ?_⟩
    · rw [hexec, Machine.emit_ctx]
      exact hctx
    · rw [hexec, Machine.emit_trace, hnew, List.append_assoc]
    · simpa [bad_blob_events, Event.Mapped, or_imp, forall_and] using hmapped
  rw [motu424_full_init, if_neg (by omega)]
  exact Emits.bind Emits.pal_log fun _ => hdsp

/-- The initialisation makes no access through NULL exactly when the port is
mapped too, or it stops early. -/
theorem motu424_full_init_mapped_iff (m : Machine) (hm : m.ctx.RequiredBars) :
    (∀ e ∈ ((motu424_full_init fpga_fw init_seq).exec env m).since m, e.Mapped) ↔
      m.ctx.iobase_port ≠ .null ∨ StopsEarly fpga_fw init_seq := by
  constructor
  · intro hmapped
    by_contra hneither
    obtain ⟨hport, hgoes⟩ := not_or.mp hneither
    obtain ⟨new, offset, value, hnew, he⟩ := motu424_full_init_writes_port m hgoes
    rw [since_of_trace hnew] at hmapped
    exact hmapped _ he (congrArg Iomem.addr (not_not.mp hport))
  · rintro (hport | hstops)
    · obtain ⟨_, new, hnew, hwithin⟩ := motu424_full_init_writes.spec m (.refl m.ctx)
      rw [since_of_trace hnew]
      exact fun e he => (hwithin e he).mapped (hm.mapped hport)
    · obtain ⟨_, new, hnew, hmapped⟩ := (motu424_full_init_stops_early hstops).spec m hm
      rw [since_of_trace hnew]
      exact hmapped

/-- Another context with the same mappings. -/
def motu424_ctx.SameBases (c c' : motu424_ctx) : Prop := ∀ bar, c'.base bar = c.base bar

theorem motu424_ctx.SameHw.same_bases {c c' : motu424_ctx} (h : c.SameHw c') : c.SameBases c' := by
  intro bar
  cases bar with
  | dsp => exact congrArg Iomem.addr h.dsp
  | reg => exact congrArg Iomem.addr h.reg
  | port => exact congrArg Iomem.addr h.port

theorem motu424_ctx.SameBases.required {c c' : motu424_ctx} (h : c.SameBases c')
    (hc : c.RequiredBars) : c'.RequiredBars := by
  constructor
  · intro hdsp
    exact Iomem.addr_ne_none hc.dsp ((h .dsp).symm.trans (congrArg Iomem.addr hdsp))
  · intro hreg
    exact Iomem.addr_ne_none hc.reg ((h .reg).symm.trans (congrArg Iomem.addr hreg))

theorem motu424_ctx.SameBases.port_eq {c c' : motu424_ctx} (h : c.SameBases c') :
    c'.iobase_port = c.iobase_port := congrArg Iomem.mk (h .port)

theorem set_buffer_same_bases (buf : Option Nat) (addr size : U64) :
    Emits env c.SameBases Event.Mapped
      (set_ctx fun ctx => { ctx with dma_buf := buf, dma_addr := addr, dma_size := size }) := by
  apply Emits.set_ctx
  intro c' hc bar
  rw [← hc bar]
  cases bar <;> rfl

theorem motu424_dma_free_mapped : Emits env c.SameBases Event.Mapped motu424_dma_free := by
  refine Emits.get_ctx fun c' hc => ?_
  cases c'.dma_buf with
  | none => exact Emits.pure _
  | some buf => exact Emits.bind (Emits.perform trivial) fun _ => set_buffer_same_bases none 0 0

theorem motu424_dma_setup_sg_mapped (hreq : c.RequiredBars) :
    Emits env c.SameBases Event.Mapped motu424_dma_setup_sg := by
  refine Emits.get_ctx fun c' hc => Emits.ite (fun _ => Emits.pure _) fun _ => ?_
  have hdsp := Iomem.addr_ne_none (hc.required hreq).dsp
  have hreg := Iomem.addr_ne_none (hc.required hreq).reg
  refine Emits.bind (Emits.pal_write32 hdsp) fun _ => Emits.bind (Emits.pal_write32 hdsp) fun _ => ?_
  refine Emits.bind (Emits.pal_write32 hdsp) fun _ => Emits.bind (Emits.pal_write32 hdsp) fun _ => ?_
  refine Emits.bind (Emits.pal_write32 hreg) fun _ => Emits.bind Emits.pal_log fun _ => ?_
  exact Emits.pure _

theorem dma_alloc_new_mapped (hreq : c.RequiredBars) (size : U64) :
    Emits env c.SameBases Event.Mapped (dma_alloc_new size) := by
  have hask : Emits env c.SameBases Event.Mapped (pal_dma_alloc (dma_request size)) :=
    Emits.of_spec fun m hm => ⟨hm, [_], rfl, by simp [Event.Mapped]⟩
  refine Emits.bind hask fun result => ?_
  cases result with
  | error err => exact Emits.bind Emits.pal_log fun _ => Emits.pure _
  | ok buf =>
    refine Emits.bind (set_buffer_same_bases (some buf.1) buf.2 (dma_request size)) fun _ => ?_
    refine Emits.bind (Emits.perform trivial) fun _ => Emits.bind Emits.pal_log fun _ => ?_
    refine Emits.bind (motu424_dma_setup_sg_mapped hreq) fun err => Emits.ite (fun _ => ?_) fun _ => ?_
    · refine Emits.bind (Emits.perform trivial) fun _ => Emits.bind (Emits.set_ctx ?_) fun _ => Emits.pure _
      intro c' hc bar
      rw [← hc bar]
      cases bar <;> rfl
    · exact Emits.pure _

/-- The allocator needs no other BARs than those that are checked, and keeps all
mappings. -/
theorem motu424_dma_alloc_mapped (hreq : c.RequiredBars) (size : U64) :
    Emits env c.SameBases Event.Mapped (motu424_dma_alloc size) := by
  refine Emits.get_ctx fun c' hc => Emits.ite (fun _ => Emits.pure _) fun _ => ?_
  refine Emits.bind (Emits.when fun _ => motu424_dma_free_mapped) fun _ => ?_
  exact dma_alloc_new_mapped hreq size

end phases

end motu424
