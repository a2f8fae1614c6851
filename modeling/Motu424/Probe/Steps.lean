import Motu424.Probe.Account

open Program Ledger

namespace motu424.linux

namespace Probing

variable {env : LinuxEnv} {d : pci_dev} {pci : List Resource}

/-- A call that takes nothing. -/
theorem call (hd : Probing d pci) {event : KernelEvent} (hquiet : event.entry = none) :
    Probing (d.record [event]) pci where
  kernel := by
    rw [record_history, kernel_book_quiet d.history hquiet]
    exact hd.kernel
  dma := hd.dma

/-- A call that takes what the flags of the next state account for. -/
theorem taken (hd : Probing d pci) {d' : pci_dev} {pci' taken : List Resource} {events : List KernelEvent}
    (hhistory : d'.history = d.history ++ events) (hevents : kernel_book events = taken.map .take)
    (hdma : OwnsExactly d'.machine) (hflags : (taken ++ (d.flagged ++ pci)).Perm (d'.flagged ++ pci')) :
    Probing d' pci' where
  kernel := by
    rw [hhistory, kernel_book_append, hevents]
    exact (hd.kernel.take_all taken).perm hflags
  dma := hdma

/-- Code that accesses registers. -/
theorem shared (hd : Probing d pci) {α : Type} {p : Pal α}
    (hp : WritesOnly env.toEnv d.machine.ctx (fun _ _ _ => True) p) :
    Probing ((shared p).exec env d) pci := by
  obtain ⟨hctx, howns⟩ := register_code hp hd.dma
  constructor
  · rw [exec_shared, flagged_same_bases hctx.same_bases]
    exact hd.kernel
  · exact howns

theorem log (env : LinuxEnv) (hd : Probing d pci) (level : LogLevel) (fmt : String) (args : List LogArg) :
    Probing ((log level fmt args).exec env d) pci := hd.shared (pal_log_writes level fmt args)

/-- The allocation of the buffer. -/
theorem dma_alloc (env : LinuxEnv) (hd : Probing d pci) (size : U64) :
    Probing ((linux.shared (motu424_dma_alloc size)).exec env d) pci := by
  have hbases : d.machine.ctx.SameBases ((motu424_dma_alloc size).exec env.toEnv d.machine).ctx :=
    motu424_dma_alloc_base env.toEnv d.machine size
  constructor
  · rw [exec_shared, flagged_same_bases hbases]
    exact hd.kernel
  · exact hd.dma.step env.toEnv (.alloc size)

end Probing

theorem set_base_base (c : motu424_ctx) (bar bar' : Bar) (base : Iomem bar) :
    (set_base c bar base).base bar' = if bar' = bar then base.addr else c.base bar' := by
  cases bar <;> cases bar' <;> rfl

theorem mappings_set_base {c : motu424_ctx} {bar : Bar} (hnull : c.base bar = none) (base : Iomem bar) :
    (mapping_of bar base.addr ++ mappings c).Perm (mappings (set_base c bar base)) := by
  apply List.perm_iff_count.mpr
  intro r
  rw [mappings, mappings, set_base_base, set_base_base, set_base_base]
  cases bar
  · simp [hnull, mapping_of]
    omega
  · simp [hnull, mapping_of]
    omega
  · simp [hnull, mapping_of]

theorem owns_set_base {m : Machine} (howns : OwnsExactly m) {bar : Bar} (base : Iomem bar) :
    OwnsExactly { m with ctx := set_base m.ctx bar base } := by
  cases bar <;> exact howns.same_buffer rfl rfl rfl rfl

/-- The steps from the firmware on have recorded nothing. -/
structure Early (d : pci_dev) : Prop where
  irq : d.pal_dev.irq = NO_IRQ
  fpga : d.fw_fpga = none
  init : d.fw_init = none

theorem Early.record {d : pci_dev} (hearly : Early d) (events : List KernelEvent) :
    Early (d.record events) := ⟨hearly.irq, hearly.fpga, hearly.init⟩

/-- Nothing is recorded at all. -/
structure Blank (d : pci_dev) : Prop where
  early : Early d
  unmapped : ∀ bar, d.machine.ctx.base bar = none

theorem Blank.record {d : pci_dev} (hblank : Blank d) (events : List KernelEvent) :
    Blank (d.record events) := ⟨hblank.early.record events, hblank.unmapped⟩

section flags

variable {env : LinuxEnv} {d : pci_dev} {pci : List Resource}

theorem map_bar_probing (env : LinuxEnv) (bar : Bar) (hd : Probing d pci)
    (hnull : d.machine.ctx.base bar = none) : Probing ((map_bar bar).exec env d) pci := by
  have hentries : kernel_book [.pci_iomap bar (env.pci_iomap d.history bar)] =
      (mapping_of bar (env.pci_iomap d.history bar)).map .take := by
    cases env.pci_iomap d.history bar <;> rfl
  have hdma : OwnsExactly ((map_bar bar).exec env d).machine := owns_set_base hd.dma _
  have hmappings := (mappings_set_base hnull ⟨env.pci_iomap d.history bar⟩).count_eq
  have hexec : ((map_bar bar).exec env d).flagged = irq_of d.pal_dev.irq ++
      (firmware_of MOTU_FW_FPGA d.fw_fpga ++ (firmware_of MOTU_FW_INIT_SEQ d.fw_init ++
        mappings (set_base d.machine.ctx bar ⟨env.pci_iomap d.history bar⟩))) := rfl
  apply hd.taken rfl hentries hdma
  apply List.perm_iff_count.mpr
  intro r
  have hcount := hmappings r
  rw [hexec]
  simp only [pci_dev.flagged, List.count_append] at hcount ⊢
  omega

/-- A file that is not found is recorded as NULL, after a warning. -/
theorem exec_load_firmware (name warning : String) (put : Option (List U8) → pci_dev → pci_dev) :
    ∃ m fw, (load_firmware name warning put).exec env d =
        put fw { d.record [.request_firmware name fw.isSome] with machine := m } ∧
      m.ctx = d.machine.ctx ∧ (OwnsExactly d.machine → OwnsExactly m) := by
  cases hfw : env.request_firmware d.history name with
  | error err =>
    refine ⟨d.machine.emit [.log .warn warning []], none, ?_, rfl, fun howns => howns.emit rfl⟩
    rw [load_firmware, exec_bind, request_firmware, eval_ask, exec_ask, hfw]
    rfl
  | ok bytes =>
    refine ⟨d.machine, some bytes, ?_, rfl, id⟩
    rw [load_firmware, exec_bind, request_firmware, eval_ask, exec_ask, hfw]
    rfl

theorem request_firmware_entries (name : String) (fw : Option (List U8)) :
    kernel_book [.request_firmware name fw.isSome] = (firmware_of name fw).map .take := by
  cases fw <;> rfl

theorem load_firmware_probing {name warning : String} {put : Option (List U8) → pci_dev → pci_dev}
    (hd : Probing d pci)
    (hkept : ∀ fw d', (put fw d').history = d'.history ∧ (put fw d').machine = d'.machine)
    (hflags : ∀ fw m calls, m.ctx = d.machine.ctx → (firmware_of name fw ++ d.flagged).Perm
      (put fw { d.record calls with machine := m }).flagged) :
    Probing ((load_firmware name warning put).exec env d) pci := by
  obtain ⟨m, fw, hexec, hctx, howns⟩ := @exec_load_firmware env d name warning put
  obtain ⟨hhistory, hmachine⟩ :=
    hkept fw { d.record [.request_firmware name fw.isSome] with machine := m }
  have hdma : OwnsExactly (put fw { d.record [.request_firmware name fw.isSome] with machine := m }).machine := by
    rw [hmachine]
    exact howns hd.dma
  rw [hexec]
  apply hd.taken hhistory (request_firmware_entries name fw) hdma
  rw [← List.append_assoc]
  exact (hflags fw m _ hctx).append_right pci

@[simp] theorem firmware_of_none (name : String) : firmware_of name none = [] := (rfl)

@[simp] theorem irq_of_no_irq : irq_of NO_IRQ = [] := by decide

theorem load_fpga_probing (hd : Probing d pci) (hearly : Early d) :
    Probing (load_fpga.exec env d) pci := by
  unfold load_fpga
  apply load_firmware_probing hd
  · intro fw d'
    exact ⟨rfl, rfl⟩
  · intro fw m calls hctx
    apply List.Perm.of_eq
    simp [pci_dev.flagged, pci_dev.record, hearly.irq, hearly.fpga, hearly.init, hctx]

theorem load_init_sequence_probing (hd : Probing d pci) (hirq : d.pal_dev.irq = NO_IRQ)
    (hinit : d.fw_init = none) : Probing (load_init_sequence.exec env d) pci := by
  unfold load_init_sequence
  apply load_firmware_probing hd
  · intro fw d'
    exact ⟨rfl, rfl⟩
  · intro fw m calls hctx
    simp only [pci_dev.flagged, pci_dev.record, hirq, hinit, hctx, irq_of_no_irq, firmware_of_none,
      List.nil_append]
    exact List.perm_append_comm_assoc _ _ _

theorem init_hardware_probing (env : LinuxEnv) (hd : Probing d pci) :
    Probing (init_hardware.exec env d) pci := by
  have hinit : Probing ((shared (motu424_full_init d.fw_fpga d.fw_init)).exec env d) pci :=
    hd.shared motu424_full_init_writes
  rw [init_hardware, exec_bind, exec_bind, exec_when]
  split
  · exact hinit.log env _ _ _
  · exact hinit

end flags

section frames

variable (env : LinuxEnv) (d : pci_dev)

theorem load_fpga_frame :
    (load_fpga.exec env d).pal_dev = d.pal_dev ∧ (load_fpga.exec env d).fw_init = d.fw_init := by
  unfold load_fpga
  obtain ⟨m, fw, hexec, _⟩ := @exec_load_firmware env d MOTU_FW_FPGA
    "FPGA firmware not found; assuming warm boot\n" fun fw d => { d with fw_fpga := fw }
  rw [hexec]
  exact ⟨rfl, rfl⟩

theorem load_init_sequence_frame : (load_init_sequence.exec env d).pal_dev = d.pal_dev := by
  unfold load_init_sequence
  obtain ⟨m, fw, hexec, _⟩ := @exec_load_firmware env d MOTU_FW_INIT_SEQ
    "Init sequence not found; skipping (warm boot)\n" fun fw d => { d with fw_init := fw }
  rw [hexec]
  rfl

theorem init_hardware_frame : (init_hardware.exec env d).pal_dev = d.pal_dev := by
  rw [init_hardware, exec_bind, exec_bind, exec_when]
  split
  · rfl
  · rfl

end frames

section steps

variable {env : LinuxEnv} {d : pci_dev}

theorem register_card_settles (henv : env.Lawful) (hd : Probing d unflagged) :
    Ends env d Settled register_card := by
  unfold register_card
  apply Ends.bind
  have hasked : Probing (snd_card_register.exec env d) unflagged := hd.call rfl
  apply Ends.ite
  · intro herr
    exact err_card_settles henv hasked herr
  · intro _
    have hset : Probing { (snd_card_register.exec env d).record [.pci_set_drvdata] with drvdata := true }
        unflagged := ⟨(hasked.call rfl).kernel, hasked.dma⟩
    apply Ends.bind
    apply Ends.bind
    apply Ends.bind
    apply Ends.bind
    apply Ends.pure
    constructor
    · intro _
      exact ⟨hset.log env _ _ _, rfl⟩
    · intro herr
      exact absurd rfl herr

theorem create_pcm_settles (henv : env.Lawful) (hd : Probing d unflagged) :
    Ends env d Settled create_pcm := by
  unfold create_pcm
  apply Ends.bind
  have hasked : Probing (motu424_pcm_new.exec env d) unflagged := by
    unfold motu424_pcm_new
    rw [exec_bind]
    split
    · exact hd.call rfl
    · exact hd.call rfl
  apply Ends.ite
  · intro herr
    exact err_card_settles henv (hasked.log env _ _ _) herr
  · intro _
    exact register_card_settles henv hasked

theorem pal_irq_request_probing {pci : List Resource} (henv : env.Lawful) (hd : Probing d pci)
    (hirq : d.pal_dev.irq = NO_IRQ) : Probing (pal_irq_request.exec env d) pci := by
  by_cases herr : env.request_irq d.history env.pci_irq = 0
  · have hexec : pal_irq_request.exec env d =
        { d.record [.request_irq env.pci_irq 0] with pal_dev := ⟨env.pci_irq⟩ } := by
      rw [pal_irq_request, exec_bind, eval_asks, exec_asks, exec_bind, eval_ask, exec_ask, herr]
      rfl
    have hhistory : (pal_irq_request.exec env d).history = d.history ++ [.request_irq env.pci_irq 0] := by
      rw [hexec]
      rfl
    have hentries : kernel_book [.request_irq env.pci_irq 0] = [Resource.irq env.pci_irq].map .take := rfl
    have hdma : OwnsExactly (pal_irq_request.exec env d).machine := by
      rw [hexec]
      exact hd.dma
    have hflag : irq_of env.pci_irq = [.irq env.pci_irq] := if_pos (henv.irq_number d.history herr)
    apply hd.taken hhistory hentries hdma
    apply List.Perm.of_eq
    simp [hexec, pci_dev.flagged, pci_dev.record, hirq, hflag]
  · have hexec : pal_irq_request.exec env d =
        d.record [.request_irq env.pci_irq (env.request_irq d.history env.pci_irq)] := by
      rw [pal_irq_request, exec_bind, eval_asks, exec_asks, exec_bind, eval_ask, exec_ask, if_pos herr,
        exec_pure]
    rw [hexec]
    exact hd.call (if_neg herr)

theorem request_interrupt_settles (henv : env.Lawful) (hd : Probing d unflagged)
    (hirq : d.pal_dev.irq = NO_IRQ) : Ends env d Settled request_interrupt := by
  unfold request_interrupt
  apply Ends.bind
  have hasked := pal_irq_request_probing henv hd hirq
  apply Ends.ite
  · intro herr
    exact err_card_settles henv (hasked.log env _ _ _) herr
  · intro _
    apply Ends.bind
    exact create_pcm_settles henv (hasked.shared unmask_interrupt_writes)

theorem bring_up_settles (henv : env.Lawful) (hd : Probing d unflagged) (hearly : Early d) :
    Ends env d Settled bring_up := by
  have hfpga : Probing (load_fpga.exec env d) unflagged := load_fpga_probing hd hearly
  obtain ⟨hirq, hinit⟩ := load_fpga_frame env d
  have hsequence := @load_init_sequence_probing env _ _ hfpga (by rw [hirq, hearly.irq])
    (by rw [hinit, hearly.init])
  have hirq' : (load_init_sequence.exec env (load_fpga.exec env d)).pal_dev.irq = NO_IRQ := by
    rw [load_init_sequence_frame, hirq, hearly.irq]
  have hhardware := init_hardware_probing env hsequence
  unfold bring_up
  apply Ends.bind
  apply Ends.bind
  apply Ends.bind
  apply request_interrupt_settles henv hhardware
  rw [init_hardware_frame, hirq']

theorem allocate_dma_settles (henv : env.Lawful) (hd : Probing d unflagged) (hearly : Early d) :
    Ends env d Settled allocate_dma := by
  unfold allocate_dma
  apply Ends.bind
  have hasked := hd.dma_alloc env MOTU_DMA_BUF_MAX
  apply Ends.ite
  · intro herr
    exact err_card_settles henv (hasked.log env _ _ _) herr
  · intro _
    exact bring_up_settles henv hasked ⟨hearly.irq, hearly.fpga, hearly.init⟩

theorem check_bars_settles (henv : env.Lawful) (hd : Probing d unflagged) (hearly : Early d) :
    Ends env d Settled check_bars := by
  unfold check_bars
  apply Ends.bind
  apply Ends.ite
  · intro _
    exact err_card_settles henv (hd.log env _ _ _) (by decide)
  · intro _
    exact allocate_dma_settles henv hd hearly

theorem map_bars_settles (henv : env.Lawful) (hd : Probing d unflagged) (hblank : Blank d) :
    Ends env d Settled map_bars := by
  obtain ⟨hearly, hnull⟩ := hblank
  have hdsp := map_bar_probing env .dsp hd (hnull .dsp)
  have hreg := map_bar_probing env .reg hdsp (hnull .reg)
  have hport := map_bar_probing env .port hreg (hnull .port)
  unfold map_bars
  apply Ends.bind
  apply Ends.bind
  apply Ends.bind
  exact check_bars_settles henv hport ⟨hearly.irq, hearly.fpga, hearly.init⟩

/-- A part of the probe settles exactly when a condition holds, and overdraws the
account otherwise. -/
structure Outcome (env : LinuxEnv) (granted : Prop) (p : Linux Int) (d : pci_dev) : Prop where
  settles : granted → Ends env d Settled p
  overdraws : ¬ granted → Ends env d Overdrawn p

theorem Outcome.tell {event : KernelEvent} {next : Linux Int} {granted : Prop}
    (hnext : Outcome env granted next (d.record [event])) :
    Outcome env granted (tell event >>= fun _ => next) d := ⟨hnext.settles, hnext.overdraws⟩

/-- A step that frees the card when it fails. -/
theorem Outcome.step {answer : LinuxEnv → List KernelEvent → Int} {event : Int → KernelEvent}
    {fail : Int → Linux Int} {next : Linux Int} {granted : Prop}
    (hfail : answer env d.history ≠ 0 → Ends env (d.record [event (answer env d.history)]) Overdrawn
      (fail (answer env d.history)))
    (hnext : answer env d.history = 0 →
      Outcome env granted next (d.record [event (answer env d.history)])) :
    Outcome env (answer env d.history = 0 ∧ granted)
      (do
        let err ← ask answer event
        if err ≠ 0 then fail err else next) d := by
  by_cases herr : answer env d.history = 0
  · have hgo : (if answer env d.history ≠ 0 then fail (answer env d.history) else next) = next :=
      if_neg (not_not.mpr herr)
    constructor
    · rintro ⟨_, hgranted⟩
      apply Ends.bind
      rw [eval_ask, exec_ask, hgo]
      exact (hnext herr).settles hgranted
    · intro hrefused
      apply Ends.bind
      rw [eval_ask, exec_ask, hgo]
      exact (hnext herr).overdraws fun hgranted => hrefused ⟨herr, hgranted⟩
  · constructor
    · rintro ⟨hzero, _⟩
      exact absurd hzero herr
    · intro _
      apply Ends.bind
      rw [eval_ask, exec_ask, if_pos herr]
      exact hfail herr

theorem request_regions_outcome (henv : env.Lawful) (hd : Probing d [.enable]) (hblank : Blank d) :
    Outcome env (env.pci_request_regions d.history = 0 ∧ True) request_regions d := by
  unfold request_regions pci_request_regions
  apply Outcome.step
  · intro hrefused
    have hasked : Probing (d.record [.pci_request_regions (env.pci_request_regions d.history)]) [.enable] :=
      hd.call (if_neg hrefused)
    exact err_card_overdraws henv hasked (by decide) hrefused
  · intro hgranted
    have hentries : kernel_book [.pci_request_regions (env.pci_request_regions d.history)] =
        [Resource.regions].map .take := by
      rw [hgranted]
      rfl
    have hflags : (Resource.regions :: (d.flagged ++ [Resource.enable])).Perm (d.flagged ++ unflagged) :=
      List.perm_middle.symm
    have hregions : Probing (d.record [.pci_request_regions (env.pci_request_regions d.history)])
        unflagged := hd.taken rfl hentries hd.dma hflags
    constructor
    · intro _
      exact map_bars_settles henv hregions (hblank.record _)
    · intro hfalse
      exact absurd trivial hfalse

/-- What has been called when the core is asked for the DMA mask. -/
def master_history (history : List KernelEvent) : List KernelEvent := history ++ [.pci_set_master]

/-- What has been called when it is asked for the regions. -/
def mask_history (env : LinuxEnv) (history : List KernelEvent) : List KernelEvent :=
  master_history history ++ [.dma_set_mask_and_coherent (DMA_BIT_MASK 32)
    (env.dma_set_mask_and_coherent (master_history history))]

theorem set_dma_mask_outcome (henv : env.Lawful) (hd : Probing d [.enable]) (hblank : Blank d) :
    Outcome env (env.dma_set_mask_and_coherent (master_history d.history) = 0 ∧
      env.pci_request_regions (mask_history env d.history) = 0 ∧ True) set_dma_mask d := by
  have hmaster : Probing (d.record [.pci_set_master]) [.enable] := hd.call rfl
  have hmask : Probing ((d.record [.pci_set_master]).record
      [.dma_set_mask_and_coherent (DMA_BIT_MASK 32)
        (env.dma_set_mask_and_coherent (master_history d.history))]) [.enable] := hmaster.call rfl
  unfold set_dma_mask pal_pci_set_dma_mask
  apply Outcome.tell
  change Outcome env (env.dma_set_mask_and_coherent (d.record [.pci_set_master]).history = 0 ∧ _) _ _
  apply Outcome.step
  · intro hrefused
    apply Ends.bind
    exact err_card_overdraws henv (hmask.log env _ _ _) (by decide) hrefused
  · intro _
    exact request_regions_outcome henv hmask ((hblank.record _).record _)

/-- What has been called when the first step after the card has been made. -/
def enable_history (env : LinuxEnv) (history : List KernelEvent) : List KernelEvent :=
  history ++ [.pci_enable_device (env.pci_enable_device history)]

/-- The core enables the device, accepts the DMA mask and hands out the regions. -/
def PciGranted (env : LinuxEnv) (history : List KernelEvent) : Prop :=
  env.pci_enable_device history = 0 ∧
  env.dma_set_mask_and_coherent (master_history (enable_history env history)) = 0 ∧
  env.pci_request_regions (mask_history env (enable_history env history)) = 0

theorem enable_pci_outcome (henv : env.Lawful) (hd : Probing d []) (hblank : Blank d) :
    Outcome env (PciGranted env d.history) enable_pci d := by
  unfold PciGranted enable_pci pal_pci_enable
  rw [← and_true (env.pci_request_regions _ = 0)]
  apply Outcome.step
  · intro hrefused
    have hasked : Probing (d.record [.pci_enable_device (env.pci_enable_device d.history)]) [] :=
      hd.call (if_neg hrefused)
    exact err_card_overdraws henv hasked (by decide) hrefused
  · intro hgranted
    have hentries : kernel_book [.pci_enable_device (env.pci_enable_device d.history)] =
        [Resource.enable].map .take := by
      rw [hgranted]
      rfl
    have hflags : ([Resource.enable] ++ (d.flagged ++ [])).Perm (d.flagged ++ [Resource.enable]) := by
      rw [List.append_nil]
      exact List.perm_append_comm
    have henabled : Probing (d.record [.pci_enable_device (env.pci_enable_device d.history)]) [.enable] :=
      hd.taken rfl hentries hd.dma hflags
    exact set_dma_mask_outcome henv henabled (hblank.record _)

theorem Closed.call (hd : Closed d) {event : KernelEvent} (hquiet : event.entry = none) :
    Closed (d.record [event]) where
  kernel := by
    rw [record_history, kernel_book_quiet d.history hquiet]
    exact hd.kernel
  dma := hd.dma
  no_buffer := hd.no_buffer

/-- New private data forget nothing when the last card is gone. -/
theorem Closed.set_up (hd : Closed d) (lock : Bool) : Probing (d.set_up lock) [] where
  kernel := by
    have hflags : (d.set_up lock).flagged = [] := by
      simp [pci_dev.flagged, pci_dev.set_up, mappings, motu424_ctx.fresh, motu424_ctx.base, mapping_of]
    rw [hflags]
    exact hd.kernel
  dma := by
    obtain ⟨_, _, hheld⟩ := hd.dma.none_live hd.no_buffer
    constructor
    · intro _
      exact ⟨rfl, rfl, hheld⟩
    · intro buf hbuf
      cases hbuf
    · exact hd.dma.solvent

/-- What has been called when the core is asked to enable the device. -/
def card_history (env : LinuxEnv) (history : List KernelEvent) : List KernelEvent :=
  history ++ [.snd_card_new (env.snd_card_new history)] ++
    [.kzalloc (env.kzalloc (history ++ [.snd_card_new (env.snd_card_new history)]))]

/-- There is no card, or the PCI core grants what `motu424_free` has no flag for. -/
def ProbeGranted (env : LinuxEnv) (history : List KernelEvent) : Prop :=
  env.snd_card_new history < 0 ∨ PciGranted env (card_history env history)

/-- Without a card the probe ends where it began. -/
theorem motu424_probe_no_card (hd : Closed d) (hcard : env.snd_card_new d.history < 0) :
    Ends env d Settled motu424_probe := by
  have hasked : Closed (snd_card_new.exec env d) := hd.call rfl
  have hexec : motu424_probe.exec env d = snd_card_new.exec env d := by
    rw [motu424_probe, exec_bind, snd_card_new, eval_ask, if_pos hcard, exec_pure]
  have heval : motu424_probe.eval env d = env.snd_card_new d.history := by
    rw [motu424_probe, eval_bind, snd_card_new, eval_ask, if_pos hcard, eval_pure]
  rw [Ends, hexec, heval]
  constructor
  · intro hzero
    omega
  · intro _
    exact hasked

/-- With a card it goes on from blank private data. -/
theorem motu424_probe_card (hd : Closed d) (hcard : ¬ env.snd_card_new d.history < 0) :
    ∃ next, motu424_probe.exec env d = enable_pci.exec env next ∧
      motu424_probe.eval env d = enable_pci.eval env next ∧
      Probing next [] ∧ Blank next ∧ next.history = card_history env d.history := by
  have hasked : Closed (snd_card_new.exec env d) := hd.call rfl
  have hlock : Closed (pal_spinlock_create.exec env (snd_card_new.exec env d)) := hasked.call rfl
  refine ⟨(pal_spinlock_create.exec env (snd_card_new.exec env d)).set_up
    (pal_spinlock_create.eval env (snd_card_new.exec env d)), ?_, ?_, hlock.set_up _, ?_, rfl⟩
  · rw [motu424_probe, exec_bind, snd_card_new, eval_ask, if_neg hcard]
    rfl
  · rw [motu424_probe, eval_bind, snd_card_new, eval_ask, if_neg hcard]
    rfl
  · refine ⟨⟨rfl, rfl, rfl⟩, ?_⟩
    intro bar
    cases bar <;> rfl

theorem motu424_probe_outcome (henv : env.Lawful) (hd : Closed d) :
    Outcome env (ProbeGranted env d.history) motu424_probe d := by
  by_cases hcard : env.snd_card_new d.history < 0
  · constructor
    · intro _
      exact motu424_probe_no_card hd hcard
    · intro hrefused
      exact absurd (Or.inl hcard) hrefused
  · obtain ⟨next, hexec, heval, hprobing, hblank, hhistory⟩ := motu424_probe_card hd hcard
    have houtcome := enable_pci_outcome henv hprobing hblank
    rw [hhistory] at houtcome
    constructor
    · rintro (hnone | hgranted)
      · exact absurd hnone hcard
      · rw [Ends, hexec, heval]
        exact houtcome.settles hgranted
    · intro hrefused
      rw [Ends, hexec, heval]
      exact houtcome.overdraws fun hgranted => hrefused (.inr hgranted)

end steps

end motu424.linux
