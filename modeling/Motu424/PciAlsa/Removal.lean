import Motu424.PciAlsa.Lifetime

open Program Ledger Run
open motu424.linux (KernelEvent PciOp)

namespace motu424.pci_alsa.card

/-- The memory of a card that was freed still holds what it held. -/
def CardEnv.KeepsFreed (env : CardEnv) : Prop := ∀ history motu, env.freed history motu = motu

/-- On a device with these private data the program gives back the resources of a list,
and leaves the private data. -/
def Gives (env : CardEnv) (motu : motu_card) (p : CardCode Unit) (given : List CardResource) : Prop :=
  ∀ d : CardDevice, d.motu = motu →
    (p.exec env d).motu = motu ∧ book (p.exec env d).history = book d.history ++ given.map .give

section gives

variable {env : CardEnv} {motu : motu_card} {given given' : List CardResource}

theorem Gives.bind {p q : CardCode Unit} (hp : Gives env motu p given) (hq : Gives env motu q given') :
    Gives env motu (p >>= fun _ => q) (given ++ given') := by
  intro d hmotu
  obtain ⟨hmotu', hbook⟩ := hp d hmotu
  obtain ⟨hmotu'', hbook'⟩ := hq _ hmotu'
  refine ⟨hmotu'', ?_⟩
  rw [exec_bind, hbook', hbook, List.append_assoc, List.map_append]

theorem Gives.perform (given : List CardResource) {event : CardEvent} (hentry : event.entry.toList = given.map .give) :
    Gives env motu (perform event) given := by
  intro d hmotu
  refine ⟨hmotu, ?_⟩
  rw [← hentry]
  exact book_append_singleton d.history event

/-- What follows a look at the private data may use them. -/
theorem Gives.bind_get_motu {f : motu_card → CardCode Unit} (hf : Gives env motu (f motu) given) :
    Gives env motu (get_motu >>= f) given := by
  intro d hmotu
  have hread : get_motu.eval env d = motu := hmotu
  have htouched : (get_motu.exec env d).motu = motu := hmotu
  have hbook : book (get_motu.exec env d).history = book d.history := by
    refine (book_append_singleton d.history _).trans ?_
    exact List.append_nil _
  rw [exec_bind, hread, ← hbook]
  exact hf _ htouched

theorem pci_iounmap_gives (bar : Bar) (base : Option Nat) :
    Gives env motu (pci_iounmap bar base) (mapping_of bar base) := by
  cases base with
  | none => exact fun d hmotu => ⟨hmotu, (List.append_nil _).symm⟩
  | some addr => exact Gives.perform [.of (.mapping bar addr)] rfl

theorem snd_card_free_gives (hfreed : env.KeepsFreed) : Gives env motu snd_card_free [.snd_card] := by
  intro d hmotu
  refine ⟨(hfreed d.history d.motu).trans hmotu, ?_⟩
  exact book_append_singleton d.history _

/-- In this order, in which the card is first. -/
theorem snd_motu_remove_gives (hfreed : env.KeepsFreed) : Gives env motu snd_motu_remove
    (.snd_card :: .of (.irq motu.irq) :: (mapping_of .port motu.iobase_port ++ (mapping_of .reg motu.iobase_reg ++
      (mapping_of .dsp motu.iobase_dsp ++ [.of .regions, .of .enable])))) := by
  refine Gives.bind_get_motu (Gives.bind (Gives.perform [] rfl) ?_)
  refine Gives.bind (snd_card_free_gives hfreed) (Gives.bind_get_motu ?_)
  refine Gives.bind (Gives.perform [.of (.irq motu.irq)] rfl) (Gives.bind_get_motu ?_)
  refine Gives.bind (pci_iounmap_gives _ _) (Gives.bind_get_motu ?_)
  refine Gives.bind (pci_iounmap_gives _ _) (Gives.bind_get_motu ?_)
  refine Gives.bind (pci_iounmap_gives _ _) ?_
  exact Gives.bind (Gives.perform [.of .regions] rfl) (Gives.perform [.of .enable] rfl)

theorem held_by_perm (motu : motu_card) : (held_by motu).Perm
    (.snd_card :: .of (.irq motu.irq) :: (mapping_of .port motu.iobase_port ++ (mapping_of .reg motu.iobase_reg ++
      (mapping_of .dsp motu.iobase_dsp ++ [.of .regions, .of .enable])))) := by
  apply List.perm_iff_count.mpr
  intro r
  simp only [held_by, mapped_by, List.count_append, List.count_cons, List.count_nil]
  omega

end gives

section account

variable {env : CardEnv} {d : CardDevice} {rest : List CardResource}

theorem drop_mapped {old new : List CardEvent} {ports : List CardResource}
    (hports : ports_mapped new = ports_mapped old ++ ports) :
    (ports_mapped new).drop (ports_mapped old).length = ports := by
  rw [hports, List.drop_left]

theorem probe_account (hunbound : d.bound = false) (hd : Balance (book d.history) rest) :
    Balance (book (card_step env d .probe).history)
      (in_use (card_step env d .probe) ++ (left_by env d .probe ++ rest)) := by
  have hends := snd_motu_probe_settles env d
  have hstep : card_step env d .probe =
      { snd_motu_probe.exec env d with bound := snd_motu_probe.eval env d = 0 } := by
    rw [card_step, if_neg (by simp [hunbound])]
    rfl
  rw [left_by, hstep, in_use]
  by_cases herr : snd_motu_probe.eval env d = 0
  · simp only [herr, decide_true, if_true, List.nil_append]
    exact (hends.bound herr).account rest hd
  · obtain ⟨ports, haccount, hports⟩ := hends.failed herr
    simp only [herr, decide_false, Bool.false_eq_true, if_false, List.nil_append, drop_mapped hports]
    exact haccount rest hd

theorem remove_account (hfreed : env.KeepsFreed) (hbound : d.bound = true)
    (hd : Balance (book d.history) (held_by d.motu ++ rest)) :
    Balance (book (card_step env d .remove).history)
      (in_use (card_step env d .remove) ++ (left_by env d .remove ++ rest)) := by
  obtain ⟨_, hbook⟩ := snd_motu_remove_gives hfreed d rfl
  have hstep : card_step env d .remove = { snd_motu_remove.exec env d with bound := false } := by
    rw [card_step, if_pos hbound]
    rfl
  -- giving back makes no mapping
  have hports : ports_mapped (snd_motu_remove.exec env d).history = ports_mapped d.history ++ [] := by
    have hnone : ∀ given : List CardResource, (given.map Entry.give).filterMap port_of = [] := by
      intro given
      induction given with
      | nil => rfl
      | cons r given ih => exact ih
    rw [ports_mapped, hbook, List.filterMap_append, hnone, ports_mapped]
  rw [left_by, hstep, in_use, if_neg (by simp), if_neg (by simp), drop_mapped hports, hbook]
  exact (hd.perm ((held_by_perm d.motu).append_right rest)).give_part

/-- What a step adds to the account of a device. -/
theorem step_account (hfreed : env.KeepsFreed) (hd : Balance (book d.history) (in_use d ++ rest)) (op : PciOp) :
    Balance (book (card_step env d op).history)
      (in_use (card_step env d op) ++ (left_by env d op ++ rest)) := by
  have hidle : card_step env d op = d → left_by env d op = [] := by
    intro hsame
    rw [left_by, hsame, List.drop_length, ite_self]
  cases op with
  | probe =>
    cases hbound : d.bound with
    | true =>
      have hsame : card_step env d .probe = d := if_pos hbound
      rw [hidle hsame, hsame]
      exact hd
    | false =>
      rw [in_use, hbound] at hd
      exact probe_account hbound hd
  | remove =>
    cases hbound : d.bound with
    | true =>
      rw [in_use, hbound] at hd
      exact remove_account hfreed hbound hd
    | false =>
      have hsame : card_step env d .remove = d := if_neg (by simp [hbound])
      rw [hidle hsame, hsame]
      exact hd

theorem run_account (hfreed : env.KeepsFreed) (ops : List PciOp)
    (hd : Balance (book d.history) (in_use d ++ rest)) :
    Balance (book (run (card_step env) d ops).history)
      (in_use (run (card_step env) d ops) ++ (left_behind env d ops ++ rest)) := by
  induction ops generalizing d rest with
  | nil => exact hd
  | cons op ops ih =>
    have hrest := ih (step_account hfreed hd op)
    apply hrest.perm
    rw [run_cons, left_behind]
    apply List.Perm.append_left
    rw [← List.append_assoc]
    exact List.perm_append_comm.append_right rest

end account

/-- Through any sequence of probes and removes nothing is given back that is not held, the
card included. What is held in the end is what a bound driver needs, and the mapping of BAR2
of each probe that failed with BAR2 mapped, if the freed private data can still be read. -/
theorem failed_probes_leak (env : CardEnv) (hfreed : env.KeepsFreed) (ops : List PciOp) :
    Balance (book (run (card_step env) .unbound ops).history)
      (in_use (run (card_step env) .unbound ops) ++ left_behind env .unbound ops) := by
  have hempty : Balance (book CardDevice.unbound.history) (in_use .unbound ++ []) := Balance.nil
  have haccount := run_account hfreed ops hempty
  rwa [List.append_nil] at haccount

/-- A kernel that grants every request. -/
def CardEnv.idle : CardEnv where
  pci_irq := 17
  snd_card_new := fun _ => .ok ()
  snd_pcm_new := fun _ => .ok ()
  snd_card_register := fun _ => .ok ()
  pci_enable_device := fun _ => .ok ()
  dma_set_mask_and_coherent := fun _ => .ok ()
  pci_request_regions := fun _ => .ok ()
  request_irq := fun _ => .ok ()
  request_firmware := fun _ => .ok []
  pci_iomap := fun _ _ => some 0x1000
  ioread32 := fun _ _ _ _ => 0
  freed := fun _ motu => motu

/-- A kernel that refuses the interrupt. -/
def CardEnv.no_irq : CardEnv := { CardEnv.idle with request_irq := fun _ => .error ⟨-16, by decide⟩ }

theorem two_failures_leak : left_behind .no_irq .unbound [.probe, .probe] =
      [.of (.mapping .port 0x1000), .of (.mapping .port 0x1000)] ∧
    Balance (book (run (card_step .no_irq) .unbound [.probe, .probe]).history)
      (in_use (run (card_step .no_irq) .unbound [.probe, .probe]) ++ left_behind .no_irq .unbound [.probe, .probe]) :=
  ⟨by decide +kernel, failed_probes_leak .no_irq (fun _ _ => rfl) _⟩

section safety

variable {env : CardEnv} {d : CardDevice}

/-- What was done once stays done. -/
theorem outlived_kept : Kept (fun d => ¬ Safe d.history) (fun _ => True) := by
  intro event d _ hd hsafe
  exact hd (throughout_append_singleton.mp hsafe).1

theorem get_motu_keeps_outlived : Preserves env (fun d => ¬ Safe d.history) get_motu :=
  Preserves.bind (outlived_kept.perform trivial) fun _ _ hd => hd

theorem pci_iounmap_keeps_outlived (bar : Bar) (base : Option Nat) :
    Preserves env (fun d => ¬ Safe d.history) (pci_iounmap bar base) := by
  cases base with
  | none => exact Preserves.pure ()
  | some addr => exact outlived_kept.perform trivial

/-- The remove looks for the number of the interrupt in the private data that it has freed. -/
theorem snd_motu_remove_outlives : ¬ Safe (snd_motu_remove.exec env d).history := by
  have hlook : ∀ d : CardDevice, card_lives d.history = false → ¬ Safe (get_motu.exec env d).history := by
    intro d hfreed hsafe
    have hlives := (throughout_append_singleton.mp hsafe).2 rfl
    rw [hfreed] at hlives
    cases hlives
  have hfreed : ∀ d, card_lives (snd_card_free.exec env d).history = false := fun d =>
    card_lives_append_singleton d.history (.kernel .snd_card_free)
  have hrest : ∀ irq, Preserves env (fun d => ¬ Safe d.history) (do
      tell (.free_irq irq)
      let motu ← get_motu
      pci_iounmap .port motu.iobase_port
      let motu ← get_motu
      pci_iounmap .reg motu.iobase_reg
      let motu ← get_motu
      pci_iounmap .dsp motu.iobase_dsp
      tell .pci_release_regions
      tell .pci_disable_device) := by
    intro irq
    refine Preserves.bind (outlived_kept.perform trivial) fun _ => ?_
    refine get_motu_keeps_outlived.bind fun _ => (pci_iounmap_keeps_outlived _ _).bind fun _ => ?_
    refine get_motu_keeps_outlived.bind fun _ => (pci_iounmap_keeps_outlived _ _).bind fun _ => ?_
    refine get_motu_keeps_outlived.bind fun _ => (pci_iounmap_keeps_outlived _ _).bind fun _ => ?_
    exact Preserves.bind (outlived_kept.perform trivial) fun _ => outlived_kept.perform trivial
  rw [snd_motu_remove, exec_bind, exec_bind, exec_bind, exec_bind]
  exact hrest _ _ (hlook _ (hfreed _))

theorem step_safe (op : PciOp) :
    Safe (card_step env d op).history ↔ Safe d.history ∧ (op = .remove → d.bound = false) := by
  cases op with
  | probe =>
    rw [and_iff_left (fun hremove => by cases hremove)]
    cases hbound : d.bound with
    | true => rw [card_step, if_pos hbound]
    | false =>
      rw [card_step, if_neg (by simp [hbound])]
      exact (snd_motu_probe_settles env d).safe
  | remove =>
    cases hbound : d.bound with
    | true =>
      rw [card_step, if_pos hbound]
      refine iff_of_false snd_motu_remove_outlives fun hsafe => ?_
      cases hsafe.2 rfl
    | false =>
      rw [card_step, if_neg (by simp [hbound]), and_iff_left fun _ => rfl]

end safety

/-- The private data of a card were only touched while it lived exactly in the runs that
remove no bound driver. -/
theorem private_data_outlived (env : CardEnv) (ops : List PciOp) :
    Safe (run (card_step env) .unbound ops).history ↔
      Along (card_step env) .unbound ops (fun _ d op => op = .remove → d.bound = false) := by
  induction ops using List.reverseRecOn with
  | nil => exact iff_of_true throughout_nil (along_nil _)
  | append_singleton ops op ih => rw [run_append_singleton, along_append_singleton, step_safe, ih]

end motu424.pci_alsa.card
