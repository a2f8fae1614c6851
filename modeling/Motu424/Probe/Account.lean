import Motu424.Probe
import Motu424.Dma.Ownership
import Motu424.Init.Mapped

open Program Ledger

namespace motu424.linux

/-- What the kernel counts for the device, apart from its DMA buffer. -/
inductive Resource where
  | enable
  | regions
  | mapping (bar : Bar) (addr : Nat)
  | firmware (name : String)
  | irq (irq : U32)
  deriving DecidableEq, Repr

/-- The entry that a call makes in the account. -/
def KernelEvent.entry : KernelEvent → Option (Entry Resource)
  | .pci_enable_device err => if err = 0 then some (.take .enable) else none
  | .pci_disable_device => some (.give .enable)
  | .pci_request_regions err => if err = 0 then some (.take .regions) else none
  | .pci_release_regions => some (.give .regions)
  | .pci_iomap bar (some addr) => some (.take (.mapping bar addr))
  | .pci_iounmap bar addr => some (.give (.mapping bar addr))
  | .request_firmware name true => some (.take (.firmware name))
  | .release_firmware name => some (.give (.firmware name))
  | .request_irq irq err => if err = 0 then some (.take (.irq irq)) else none
  | .free_irq irq => some (.give (.irq irq))
  | _ => none

def kernel_book (history : List KernelEvent) : List (Entry Resource) :=
  history.filterMap KernelEvent.entry

@[simp] theorem kernel_book_append (xs ys : List KernelEvent) :
    kernel_book (xs ++ ys) = kernel_book xs ++ kernel_book ys := List.filterMap_append

/-- A call that neither takes nor gives. -/
theorem kernel_book_quiet (history : List KernelEvent) {event : KernelEvent} (hquiet : event.entry = none) :
    kernel_book (history ++ [event]) = kernel_book history := by
  have hbook : kernel_book [event] = [] := by simp [kernel_book, hquiet]
  rw [kernel_book_append, hbook, List.append_nil]

/-- No count was ever negative, and while no driver is bound they are all zero. -/
structure Balanced (d : pci_dev) : Prop where
  never_negative : Solvent (kernel_book d.history) ∧ Solvent (dma_book d.machine.trace)
  all_back : d.bound = false →
    (∀ r, held (kernel_book d.history) r = 0) ∧ ∀ a, held (dma_book d.machine.trace) a = 0

def irq_of (irq : U32) : List Resource := if 0 ≤ irq.toInt then [.irq irq] else []

def firmware_of (name : String) (fw : Option (List U8)) : List Resource :=
  if fw ≠ none then [.firmware name] else []

def mapping_of (bar : Bar) : Option Nat → List Resource
  | none => []
  | some addr => [.mapping bar addr]

def mappings (c : motu424_ctx) : List Resource :=
  mapping_of .port (c.base .port) ++ (mapping_of .reg (c.base .reg) ++ mapping_of .dsp (c.base .dsp))

/-- What `motu424_free` gives back because of a flag in the private data. -/
def pci_dev.flagged (d : pci_dev) : List Resource :=
  irq_of d.pal_dev.irq ++ (firmware_of MOTU_FW_FPGA d.fw_fpga ++
    (firmware_of MOTU_FW_INIT_SEQ d.fw_init ++ mappings d.machine.ctx))

/-- What it gives back without a flag. -/
def unflagged : List Resource := [.regions, .enable]

/-- The account of a device with a card: the flags say what is held, apart from
what the PCI core has given out. -/
structure Probing (d : pci_dev) (pci : List Resource) : Prop where
  kernel : Balance (kernel_book d.history) (d.flagged ++ pci)
  dma : OwnsExactly d.machine

/-- A device without a card: nothing is held. -/
structure Closed (d : pci_dev) : Prop where
  kernel : Balance (kernel_book d.history) []
  dma : OwnsExactly d.machine
  no_buffer : d.machine.ctx.dma_buf = none

/-- A device with a registered card. -/
structure InUse (d : pci_dev) : Prop where
  probing : Probing d unflagged
  drvdata : d.drvdata = true

/-- The end of a probe with a result: with success the card is in use, and else
nothing is left. -/
def Settled (err : Int) (d : pci_dev) : Prop := (err = 0 → InUse d) ∧ (err ≠ 0 → Closed d)

/-- The end of a failed probe that gave back regions it did not have. -/
def Overdrawn (err : Int) (d : pci_dev) : Prop := err ≠ 0 ∧ held (kernel_book d.history) .regions < 0

section calls

variable (env : LinuxEnv) (d : pci_dev)

@[simp] theorem record_record (xs ys : List KernelEvent) :
    (d.record xs).record ys = d.record (xs ++ ys) := by simp [pci_dev.record]

@[simp] theorem record_nil : d.record [] = d := by simp [pci_dev.record]

@[simp] theorem record_history (events : List KernelEvent) :
    (d.record events).history = d.history ++ events := (rfl)

@[simp] theorem exec_tell (event : KernelEvent) : (tell event).exec env d = d.record [event] := (rfl)

theorem eval_ask {α : Type} (answer : LinuxEnv → List KernelEvent → α) (event : α → KernelEvent) :
    (ask answer event).eval env d = answer env d.history := (rfl)

theorem exec_ask {α : Type} (answer : LinuxEnv → List KernelEvent → α) (event : α → KernelEvent) :
    (ask answer event).exec env d = d.record [event (answer env d.history)] := (rfl)

@[simp] theorem eval_shared {α : Type} (p : Pal α) :
    (shared p).eval env d = p.eval env.toEnv d.machine := (rfl)

@[simp] theorem exec_shared {α : Type} (p : Pal α) :
    (shared p).exec env d = { d with machine := p.exec env.toEnv d.machine } := (rfl)

/-- The program makes calls and nothing else. -/
def Calls (env : LinuxEnv) (p : Linux Unit) (calls : List KernelEvent) : Prop :=
  ∀ d, p.exec env d = d.record calls

variable {env}

/-- What follows the calls. -/
theorem Calls.exec_bind {α : Type} {p : Linux Unit} {calls : List KernelEvent} (hp : Calls env p calls)
    (q : Linux α) (d : pci_dev) : (p >>= fun _ => q).exec env d = q.exec env (d.record calls) := by
  rw [Program.exec_bind, hp]

theorem Calls.bind {p q : Linux Unit} {calls calls' : List KernelEvent} (hp : Calls env p calls)
    (hq : Calls env q calls') : Calls env (p >>= fun _ => q) (calls ++ calls') := by
  intro d
  rw [hp.exec_bind, hq, record_record]

theorem Calls.tell (event : KernelEvent) : Calls env (tell event) [event] := fun _ => rfl

theorem Calls.when {c : Prop} [Decidable c] {p : Linux Unit} {calls : List KernelEvent} (hp : Calls env p calls) :
    Calls env (Program.when c p) (if c then calls else []) := by
  intro d
  rw [exec_when, hp]
  by_cases hc : c
  · rw [if_pos hc, if_pos hc]
  · rw [if_neg hc, if_neg hc, record_nil]

end calls

/-- Code that only accesses registers makes no entry for the buffer. -/
theorem dma_book_of_within {c : motu424_ctx} {W : Bar → U32 → U32 → Prop} {events : List Event}
    (hevents : ∀ e ∈ events, e.Within c W) : dma_book events = [] := by
  apply List.filterMap_eq_nil_iff.mpr
  intro e he
  have hwithin := hevents e he
  cases e with
  | dma_alloc size result => exact absurd hwithin id
  | dma_free vaddr paddr size => exact absurd hwithin id
  | _ => rfl

theorem mappings_same_bases {c c' : motu424_ctx} (hsame : c.SameBases c') : mappings c' = mappings c := by
  rw [mappings, hsame, hsame, hsame, mappings]

theorem flagged_same_bases {d : pci_dev} {m : Machine} (hsame : d.machine.ctx.SameBases m.ctx) :
    { d with machine := m }.flagged = d.flagged := by
  rw [pci_dev.flagged, pci_dev.flagged, mappings_same_bases hsame]

/-- What register code leaves of the account: the buffer and the mappings. -/
theorem register_code {env : Env} {m : Machine} {α : Type} {p : Pal α}
    (hp : WritesOnly env m.ctx (fun _ _ _ => True) p) (howns : OwnsExactly m) :
    m.ctx.SameHw (p.exec env m).ctx ∧ OwnsExactly (p.exec env m) := by
  obtain ⟨hctx, new, hnew, hwithin⟩ := Emits.spec hp m (.refl _)
  refine ⟨hctx, howns.same_buffer hctx.buf hctx.addr hctx.size ?_⟩
  rw [hnew, dma_book_append, dma_book_of_within hwithin, List.append_nil]

theorem stop_hardware_writes {env : Env} {c : motu424_ctx} :
    WritesOnly env c (fun _ _ _ => True) stop_hardware := by
  refine Emits.get_ctx fun c' hc => Emits.when fun _ => ?_
  refine Emits.bind (reg_write_writes hc trivial) fun _ => ?_
  refine Emits.get_ctx fun c' hc => Emits.ite (fun _ => Emits.pure _) fun _ => ?_
  refine Emits.bind (reg_read_writes hc) fun _ => Emits.bind (reg_write_writes hc trivial) fun _ => ?_
  exact Emits.set_ctx fun _ h => ⟨h.dsp, h.reg, h.port, h.buf, h.addr, h.size⟩

theorem unmask_interrupt_writes {env : Env} {c : motu424_ctx} :
    WritesOnly env c (fun _ _ _ => True) unmask_interrupt :=
  Emits.get_ctx fun _ hc => reg_write_writes hc trivial

/-- What the driver relies on: the core has added the device that it has the driver
probe, and the number of an interrupt that can be requested is not negative as an
`int`. -/
structure LinuxEnv.Lawful (env : LinuxEnv) : Prop where
  added : ∀ history, env.pci_dev_is_added .probe history
  irq_number : ∀ history, env.request_irq history env.pci_irq = 0 → 0 ≤ env.pci_irq.toInt

def free_irq_calls (irq : U32) : List KernelEvent := if 0 ≤ irq.toInt then [.free_irq irq] else []

def release_calls (name : String) (fw : Option (List U8)) : List KernelEvent :=
  if fw ≠ none then [.release_firmware name] else []

def unmap_calls (bar : Bar) : Option Nat → List KernelEvent
  | none => []
  | some addr => [.pci_iounmap bar addr]

/-- The calls of `motu424_free` that are not about the PCI core. -/
def free_calls (d : pci_dev) : List KernelEvent :=
  free_irq_calls d.pal_dev.irq ++ (release_calls MOTU_FW_FPGA d.fw_fpga ++
    (release_calls MOTU_FW_INIT_SEQ d.fw_init ++ (unmap_calls .port (d.machine.ctx.base .port) ++
      (unmap_calls .reg (d.machine.ctx.base .reg) ++ (unmap_calls .dsp (d.machine.ctx.base .dsp) ++
        if d.lock then [.kfree] else [])))))

/-- What has been called when the freeing of a card asks whether the core has added the
device. -/
def free_history (d : pci_dev) : List KernelEvent := d.history ++ [.snd_card_free] ++ free_calls d

/-- The calls by which it gives back what it got from the PCI core. -/
def pci_calls (added : Bool) : List KernelEvent :=
  if added then [.pci_release_regions, .pci_disable_device] else []

theorem kernel_book_free_calls (d : pci_dev) : kernel_book (free_calls d) = d.flagged.map .give := by
  have hirq : kernel_book (free_irq_calls d.pal_dev.irq) = (irq_of d.pal_dev.irq).map .give := by
    rw [free_irq_calls, irq_of]
    split <;> rfl
  have hfirmware (name : String) (fw : Option (List U8)) :
      kernel_book (release_calls name fw) = (firmware_of name fw).map .give := by
    rw [release_calls, firmware_of]
    split <;> rfl
  have hunmap (bar : Bar) (base : Option Nat) :
      kernel_book (unmap_calls bar base) = (mapping_of bar base).map .give := by
    cases base with
    | none => rfl
    | some addr => rfl
  have hlock : kernel_book (if d.lock then [KernelEvent.kfree] else []) = [] := by
    split <;> rfl
  rw [free_calls, pci_dev.flagged, mappings]
  simp only [kernel_book_append, List.map_append, hirq, hfirmware, hunmap, hlock, List.append_nil]

theorem kernel_book_pci_calls (added : Bool) :
    kernel_book (pci_calls added) = (if added then unflagged else []).map .give := by
  cases added with
  | _ => rfl

section destructor

variable {env : LinuxEnv}

theorem release_firmware_calls (name : String) (fw : Option (List U8)) :
    Calls env (release_firmware name fw) (release_calls name fw) := Calls.when (Calls.tell _)

theorem pci_iounmap_calls {bar : Bar} (base : Iomem bar) :
    Calls env (pci_iounmap base) (unmap_calls bar base.addr) := by
  intro d
  cases hbase : base.addr with
  | none => simp [pci_iounmap, hbase, unmap_calls]
  | some addr => simp [pci_iounmap, hbase, unmap_calls]

theorem exec_release_pci (op : PciOp) (d : pci_dev) :
    (release_pci op).exec env d = d.record (pci_calls (env.pci_dev_is_added op d.history)) := by
  have hcalls : Calls env (do
      tell .pci_release_regions
      tell .pci_disable_device) [.pci_release_regions, .pci_disable_device] :=
    Calls.bind (Calls.tell _) (Calls.tell _)
  rw [release_pci, exec_bind, eval_asks, exec_asks, Calls.when hcalls, pci_calls]

theorem exec_pal_irq_free (d : pci_dev) : ∃ irq, pal_irq_free.exec env d =
    { d.record (free_irq_calls d.pal_dev.irq) with pal_dev := ⟨irq⟩ } := by
  by_cases hirq : 0 ≤ d.pal_dev.irq.toInt
  · exact ⟨NO_IRQ, by simp [pal_irq_free, hirq, free_irq_calls, pci_dev.record]⟩
  · exact ⟨d.pal_dev.irq, by simp [pal_irq_free, hirq, free_irq_calls]⟩

/-- The machine after `motu424_free`, which freed the buffer once the hardware was stopped. -/
def freed_machine (env : LinuxEnv) (d : pci_dev) : Machine :=
  dma_request_machine (stop_hardware.exec env.toEnv d.machine)

theorem freed_machine_spec {d : pci_dev} (howns : OwnsExactly d.machine) :
    d.machine.ctx.SameBases (freed_machine env d).ctx ∧ OwnsExactly (freed_machine env d) ∧
      (freed_machine env d).ctx.dma_buf = none := by
  have hstop : WritesOnly env.toEnv d.machine.ctx (fun _ _ _ => True) stop_hardware := stop_hardware_writes
  obtain ⟨hctx, howns'⟩ := register_code hstop howns
  refine ⟨fun bar => ?_, howns'.freed, dma_freed_buf _⟩
  exact (dma_freed_base _ bar).trans (hctx.same_bases bar)

/-- What `motu424_free` calls: it gives back what is flagged, and then the regions and the
enable of a device that the core has added, whether they were taken or not. -/
theorem exec_motu424_free (op : PciOp) {d : pci_dev} (howns : OwnsExactly d.machine) : ∃ irq,
    (motu424_free op).exec env d =
      { d.record (free_calls d ++ pci_calls (env.pci_dev_is_added op (d.history ++ free_calls d))) with
        machine := freed_machine env d
        pal_dev := ⟨irq⟩ } := by
  obtain ⟨hbases, _⟩ := @freed_machine_spec env d howns
  obtain ⟨irq, hirq⟩ := @exec_pal_irq_free env { d with machine := stop_hardware.exec env.toEnv d.machine }
  have hfree : motu424_dma_free.exec env.toEnv (stop_hardware.exec env.toEnv d.machine) = freed_machine env d :=
    exec_motu424_dma_free env.toEnv _
  refine ⟨irq, ?_⟩
  rw [motu424_free, exec_bind, exec_shared, exec_bind, hirq, exec_bind, exec_shared, exec_bind,
    (release_firmware_calls _ _).exec_bind, (release_firmware_calls _ _).exec_bind,
    (pci_iounmap_calls _).exec_bind, (pci_iounmap_calls _).exec_bind, (pci_iounmap_calls _).exec_bind,
    (Calls.when (Calls.tell _)).exec_bind, exec_release_pci]
  have hcalls : free_calls d = free_irq_calls d.pal_dev.irq ++ (release_calls MOTU_FW_FPGA d.fw_fpga ++
      (release_calls MOTU_FW_INIT_SEQ d.fw_init ++ (unmap_calls .port (freed_machine env d).ctx.iobase_port.addr ++
        (unmap_calls .reg (freed_machine env d).ctx.iobase_reg.addr ++
          (unmap_calls .dsp (freed_machine env d).ctx.iobase_dsp.addr ++ if d.lock then [.kfree] else []))))) := by
    rw [free_calls, ← hbases .port, ← hbases .reg, ← hbases .dsp]
    rfl
  rw [hcalls]
  simp only [eval_gets, exec_gets, id_eq, List.append_assoc, hfree, pci_dev.record]

end destructor

section failures

variable {env : LinuxEnv} {d : pci_dev} {pci : List Resource} {err : Int}

/-- Freeing a card gives back what is flagged, and what a device that the core has added
would have from the PCI core. -/
theorem exec_snd_card_free (op : PciOp) (howns : OwnsExactly d.machine) :
    kernel_book ((snd_card_free op).exec env d).history = kernel_book d.history ++
        (d.flagged ++ if env.pci_dev_is_added op (free_history d) then unflagged else []).map .give ∧
      OwnsExactly ((snd_card_free op).exec env d).machine ∧
      ((snd_card_free op).exec env d).machine.ctx.dma_buf = none := by
  have howns' : OwnsExactly (d.record [.snd_card_free]).machine := howns
  obtain ⟨irq, hexec⟩ := @exec_motu424_free env op _ howns'
  obtain ⟨_, hfreed, hbuf⟩ := @freed_machine_spec env _ howns'
  have hfree : (snd_card_free op).exec env d = (motu424_free op).exec env (d.record [.snd_card_free]) := rfl
  have hcalls : free_calls (d.record [.snd_card_free]) = free_calls d := rfl
  rw [hfree, hexec, hcalls]
  refine ⟨?_, hfreed, hbuf⟩
  change kernel_book (d.history ++ [.snd_card_free] ++ (free_calls d ++ pci_calls (env.pci_dev_is_added op
    (d.history ++ [.snd_card_free] ++ free_calls d)))) = _
  rw [kernel_book_append, kernel_book_quiet d.history rfl, kernel_book_append, kernel_book_free_calls,
    kernel_book_pci_calls, List.map_append]
  rfl

/-- Freeing the card of a device that holds what `motu424_free` assumes leaves
nothing. -/
theorem free_closes {op : PciOp} (hadded : env.pci_dev_is_added op (free_history d) = true)
    (hd : Probing d unflagged) : Closed ((snd_card_free op).exec env d) := by
  obtain ⟨hbook, howns, hbuf⟩ := @exec_snd_card_free env d op hd.dma
  rw [if_pos hadded] at hbook
  constructor
  · rw [hbook]
    exact hd.kernel.give_all
  · exact howns
  · exact hbuf

/-- A device that the core has not added keeps its regions. -/
theorem free_keeps_regions {op : PciOp} (hadded : ¬ env.pci_dev_is_added op (free_history d) = true)
    (hd : Probing d unflagged) : held (kernel_book ((snd_card_free op).exec env d).history) .regions = 1 := by
  obtain ⟨hbook, _⟩ := @exec_snd_card_free env d op hd.dma
  have hone : unflagged.count Resource.regions = 1 := by decide
  rw [hbook, if_neg hadded, held_append, hd.kernel.held_eq, held_map_give, List.append_nil, List.count_append, hone]
  omega

theorem err_card_settles (henv : env.Lawful) (hd : Probing d unflagged) (herr : err ≠ 0) :
    Ends env d Settled (err_card err) := by
  constructor
  · intro hzero
    exact absurd hzero herr
  · intro _
    exact free_closes (henv.added _) hd

/-- Without the regions `motu424_free` still gives them back. -/
theorem err_card_overdraws (henv : env.Lawful) (hd : Probing d pci) (hpci : .regions ∉ pci)
    (herr : err ≠ 0) : Ends env d Overdrawn (err_card err) := by
  obtain ⟨hbook, _⟩ := @exec_snd_card_free env d .probe hd.dma
  have hone : unflagged.count Resource.regions = 1 := by decide
  have hheld : held (kernel_book ((snd_card_free .probe).exec env d).history) .regions = -1 := by
    rw [hbook, if_pos (henv.added _), held_append, hd.kernel.held_eq, held_map_give, List.count_append,
      List.count_append, List.count_eq_zero.mpr hpci, hone]
    omega
  refine ⟨herr, ?_⟩
  rw [err_card, exec_bind, exec_pure, hheld]
  decide

end failures

end motu424.linux
