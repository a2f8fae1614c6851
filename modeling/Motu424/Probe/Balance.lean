import Motu424.Probe.Steps
import Motu424.Foundation.Run

open Program Ledger Run

namespace motu424.linux

/-- The account between two operations of the core. -/
structure Accounted (d : pci_dev) : Prop where
  in_use : d.bound = true → InUse d
  closed : d.bound = false → Closed d

theorem Accounted.balanced {d : pci_dev} (hd : Accounted d) : Balanced d := by
  cases hbound : d.bound with
  | true =>
    have huse := hd.in_use hbound
    constructor
    · exact ⟨huse.probing.kernel.solvent, huse.probing.dma.solvent⟩
    · intro hfree
      rw [hbound] at hfree
      cases hfree
  | false =>
    have hclosed := hd.closed hbound
    obtain ⟨_, _, hnone⟩ := hclosed.dma.none_live hclosed.no_buffer
    constructor
    · exact ⟨hclosed.kernel.solvent, hclosed.dma.solvent⟩
    · intro _
      exact ⟨hclosed.kernel.held_eq, hnone⟩

theorem unbound_accounted : Accounted .unbound where
  in_use := fun hbound => by cases hbound
  closed := fun _ => ⟨.nil, .fresh none none none, rfl⟩

/-- In every probe of a free device there is no card, or the core grants what
`motu424_free` has no flag for. When a driver is removed the core still counts the
device as added. -/
def Grants (env : LinuxEnv) (d : pci_dev) : PciOp → Prop
  | .probe => d.bound = false → ProbeGranted env d.history
  | .remove => d.bound = true → env.pci_dev_is_added .remove (free_history d)

section runs

variable {env : LinuxEnv} {d : pci_dev}

theorem exec_probe_device : probe_device.exec env d =
    { motu424_probe.exec env d with bound := motu424_probe.eval env d = 0 } := (rfl)

theorem probe_device_accounted (hends : Ends env d Settled motu424_probe) :
    Accounted (probe_device.exec env d) := by
  obtain ⟨hok, hfailed⟩ := hends
  rw [exec_probe_device]
  constructor
  · intro hbound
    have huse := hok (of_decide_eq_true hbound)
    exact ⟨⟨huse.probing.kernel, huse.probing.dma⟩, huse.drvdata⟩
  · intro hbound
    have hclosed := hfailed (of_decide_eq_false hbound)
    exact ⟨hclosed.kernel, hclosed.dma, hclosed.no_buffer⟩

theorem probe_device_unbalanced (hends : Ends env d Overdrawn motu424_probe) :
    ¬ Balanced (probe_device.exec env d) := by
  obtain ⟨herr, hnegative⟩ := hends
  intro hbalanced
  rw [exec_probe_device] at hbalanced
  obtain ⟨hzero, _⟩ := hbalanced.all_back (decide_eq_false herr)
  have hregions : held (kernel_book (motu424_probe.exec env d).history) .regions = 0 := hzero .regions
  omega

theorem exec_remove_device (hd : InUse d) : remove_device.exec env d =
    { (snd_card_free .remove).exec env d with drvdata := false, bound := false } := by
  rw [remove_device, exec_bind, motu424_remove, exec_bind, eval_gets, exec_gets, exec_when, id_eq, if_pos hd.drvdata]
  rfl

theorem remove_device_accounted (hadded : env.pci_dev_is_added .remove (free_history d)) (hd : InUse d) :
    Accounted (remove_device.exec env d) := by
  have hclosed := free_closes hadded hd.probing
  rw [exec_remove_device hd]
  constructor
  · intro hbound
    cases hbound
  · intro _
    exact ⟨hclosed.kernel, hclosed.dma, hclosed.no_buffer⟩

/-- A remove of a device that the core no longer counts as added leaves it enabled, with
its regions. -/
theorem remove_device_unbalanced (hadded : ¬ env.pci_dev_is_added .remove (free_history d)) (hd : InUse d) :
    ¬ Balanced (remove_device.exec env d) := by
  have hkept := free_keeps_regions hadded hd.probing
  intro hbalanced
  rw [exec_remove_device hd] at hbalanced
  obtain ⟨hzero, _⟩ := hbalanced.all_back rfl
  have hregions : held (kernel_book ((snd_card_free .remove).exec env d).history) .regions = 0 := hzero .regions
  omega

theorem step_accounted (henv : env.Lawful) (hd : Accounted d) {op : PciOp} (hgrants : Grants env d op) :
    Accounted (pci_step env d op) := by
  cases op with
  | probe =>
    cases hbound : d.bound with
    | true =>
      rw [pci_step, if_pos hbound]
      exact hd
    | false =>
      rw [pci_step, if_neg (by simp [hbound])]
      exact probe_device_accounted ((motu424_probe_outcome henv (hd.closed hbound)).settles (hgrants hbound))
  | remove =>
    cases hbound : d.bound with
    | true =>
      rw [pci_step, if_pos hbound]
      exact remove_device_accounted (hgrants hbound) (hd.in_use hbound)
    | false =>
      rw [pci_step, if_neg (by simp [hbound])]
      exact hd

/-- A step keeps the balance exactly when its condition holds. -/
theorem step_balanced_iff (henv : env.Lawful) (hd : Accounted d) (op : PciOp) :
    Balanced (pci_step env d op) ↔ Grants env d op := by
  constructor
  · intro hbalanced
    cases op with
    | remove =>
      intro hbound
      by_contra hgone
      rw [pci_step, if_pos hbound] at hbalanced
      exact remove_device_unbalanced hgone (hd.in_use hbound) hbalanced
    | probe =>
      intro hbound
      by_contra hrefused
      rw [pci_step, if_neg (by simp [hbound])] at hbalanced
      have houtcome := motu424_probe_outcome henv (hd.closed hbound)
      exact probe_device_unbalanced (houtcome.overdraws hrefused) hbalanced
  · intro hgrants
    exact (step_accounted henv hd hgrants).balanced

end runs

/-- Through any sequence of probes and removes of one device the account stays
balanced exactly when each probe that gets a card also gets its device enabled,
its DMA mask and its regions, and each driver is removed from a device that the core
counts as added. -/
theorem probe_balanced_iff (env : LinuxEnv) (henv : env.Lawful) (ops : List PciOp) :
    Along (pci_step env) .unbound ops (fun _ d op => Balanced (pci_step env d op)) ↔
      Along (pci_step env) .unbound ops (fun _ d op => Grants env d op) := by
  have hiff : ∀ (pre : List PciOp) (d : pci_dev) (op : PciOp), Accounted d →
      (Balanced (pci_step env d op) ↔ Grants env d op) := fun _ _ op hd => step_balanced_iff henv hd op
  exact along_iff hiff (fun _ _ _ hd hgrants => step_accounted henv hd hgrants) unbound_accounted

/-- A kernel that grants every request. -/
def LinuxEnv.idle : LinuxEnv where
  toEnv := .idle
  pci_irq := 17
  snd_card_new := fun _ => 0
  snd_pcm_new := fun _ => 0
  snd_card_register := fun _ => 0
  kzalloc := fun _ => true
  pci_enable_device := fun _ => 0
  dma_set_mask_and_coherent := fun _ => 0
  pci_request_regions := fun _ => 0
  pci_iomap := fun history _ => some (0x1000 * history.length)
  request_firmware := fun _ _ => .error ⟨-2, by decide⟩
  request_irq := fun _ _ => 0
  pci_dev_is_added := fun _ _ => true

/-- A kernel on which the last step of the first probe fails. -/
def LinuxEnv.unregistered : LinuxEnv := { LinuxEnv.idle with
  snd_card_register := fun history => if .snd_card_register (-ENOMEM) ∈ history then 0 else -ENOMEM }

theorem unregistered_lawful : LinuxEnv.unregistered.Lawful where
  added := fun _ => rfl
  irq_number := fun _ _ => by decide

/-- A failure after the regions leaves the account in balance, and so do the probe that
succeeds after it and the remove. -/
theorem late_failure_balanced :
    Along (pci_step .unregistered) .unbound [.probe, .probe, .remove]
      (fun _ d op => Balanced (pci_step .unregistered d op)) := by
  apply (probe_balanced_iff .unregistered unregistered_lawful _).mpr
  intro pre op post _
  cases op with
  | probe => exact fun _ => .inr ⟨rfl, rfl, rfl⟩
  | remove => exact fun _ => rfl

/-- A kernel that does not enable the device. -/
def LinuxEnv.disabled : LinuxEnv := { LinuxEnv.idle with pci_enable_device := fun _ => -5 }

theorem disabled_lawful : LinuxEnv.disabled.Lawful where
  added := fun _ => rfl
  irq_number := fun _ _ => by decide

/-- A device that cannot be enabled is disabled once more than it was enabled, and
its regions are released without a request. -/
theorem failed_enable_overdraws :
    LinuxEnv.disabled.Lawful ∧
    held (kernel_book (pci_step .disabled .unbound .probe).history) .enable = -1 ∧
    held (kernel_book (pci_step .disabled .unbound .probe).history) .regions = -1 ∧
    ¬ Along (pci_step .disabled) .unbound [.probe]
      (fun _ d op => Balanced (pci_step .disabled d op)) := by
  have henable : held (kernel_book (pci_step .disabled .unbound .probe).history) .enable = -1 := by decide
  have hregions : held (kernel_book (pci_step .disabled .unbound .probe).history) .regions = -1 := by
    decide
  refine ⟨disabled_lawful, henable, hregions, ?_⟩
  intro halong
  have hbalanced : Balanced (pci_step .disabled .unbound .probe) := halong [] .probe [] rfl
  obtain ⟨hzero, _⟩ := hbalanced.all_back (by decide)
  rw [hzero] at hregions
  cases hregions

end motu424.linux
