import Motu424.Wdf.Slots
import Motu424.Foundation.Run

open Program Ledger Run

namespace motu424.wdf

/-- The framework prepares the hardware, and releases it whatever came of that. -/
def hardware_cycle (d : DEVICE_CONTEXT) (cycle : HardwareCycle) : DEVICE_CONTEXT :=
  (do
    let _status ← EvtDevicePrepareHardware cycle.resources
    EvtDeviceReleaseHardware).exec (cycle.env d) d

/-- A round undoes its mappings: every range mapped in it is unmapped exactly
once in it, with its own length, and no base is left behind. -/
structure Undone (d : DEVICE_CONTEXT) (cycle : HardwareCycle) : Prop where
  balanced : Balance (mappings ((hardware_cycle d cycle).machine.since d.machine)) []
  unmapped : (hardware_cycle d cycle).Unmapped

/-- The three slots suffice: the list has at most three memory ranges, or one of
the first four is not mapped, which ends the loop. -/
def HardwareCycle.Fits (cycle : HardwareCycle) : Prop :=
  memory_count cycle.resources ≤ 3 ∨ ∃ i ≤ 3, cycle.answers i = none

/-- The range that is recorded as a BAR is unmapped and forgotten, the others
stay. -/
structure Unmaps (bar : Bar) (d d' : DEVICE_CONTEXT) : Prop where
  trace : d'.machine.trace = d.machine.trace ++ (d.slot bar).toList.map fun r => .unmap_io r.1 r.2
  slot : ∀ b, d'.slot b = if b = bar then none else d.slot b
  base : ∀ b, d'.machine.ctx.base b = if b = bar then none else d.machine.ctx.base b

section release

variable {env : WdfEnv} {d : DEVICE_CONTEXT}

section unmap_bar

variable {base : DEVICE_CONTEXT → Option Nat} {length : DEVICE_CONTEXT → U32}
  {forget : DEVICE_CONTEXT → DEVICE_CONTEXT}

theorem exec_unmap_bar_none (hbase : base d = none) : (unmap_bar base length forget).exec env d = d := by
  rw [unmap_bar, exec_bind, eval_gets, exec_gets, id, hbase, exec_pure]

theorem exec_unmap_bar_some {addr : Nat} (hbase : base d = some addr) :
    (unmap_bar base length forget).exec env d = forget (d.emit [.unmap_io addr (length d)]) := by
  rw [unmap_bar, exec_bind, eval_gets, exec_gets, id, hbase, exec_bind, exec_update]
  rfl

/-- The callbacks of a BAR read its slot and forget it. -/
structure ForBar (bar : Bar) (base : DEVICE_CONTEXT → Option Nat) (length : DEVICE_CONTEXT → U32)
    (forget : DEVICE_CONTEXT → DEVICE_CONTEXT) : Prop where
  base : ∀ d, base d = d.bar_base bar
  length : ∀ d, length d = d.bar_len bar
  trace : ∀ d, (forget d).machine.trace = d.machine.trace
  slot : ∀ d b, (forget d).slot b = if b = bar then none else d.slot b
  ctx : ∀ d b, (forget d).machine.ctx.base b = if b = bar then none else d.machine.ctx.base b

theorem unmap_bar_unmaps {bar : Bar} (hbar : ForBar bar base length forget)
    (hlink : d.machine.ctx.base bar = (d.slot bar).map Prod.fst) :
    Unmaps bar d ((unmap_bar base length forget).exec env d) := by
  cases haddr : d.bar_base bar with
  | none =>
    have hnone : d.slot bar = none := slot_eq_none_iff.mpr haddr
    rw [hnone, Option.map_none] at hlink
    rw [exec_unmap_bar_none ((hbar.base d).trans haddr)]
    refine ⟨by simp [hnone], fun b => ?_, fun b => ?_⟩
    · by_cases hb : b = bar
      · rw [if_pos hb, hb, hnone]
      · rw [if_neg hb]
    · by_cases hb : b = bar
      · rw [if_pos hb, hb, hlink]
      · rw [if_neg hb]
  | some addr =>
    have hsome : d.slot bar = some (addr, d.bar_len bar) := by
      rw [DEVICE_CONTEXT.slot, haddr, Option.map_some]
    have hsame (events : List Event) (b : Bar) : (d.emit events).slot b = d.slot b := by cases b <;> rfl
    rw [exec_unmap_bar_some ((hbar.base d).trans haddr)]
    refine ⟨?_, fun b => ?_, fun b => hbar.ctx _ b⟩
    · rw [hbar.trace, hsome, hbar.length]
      rfl
    · rw [hbar.slot, hsame]

end unmap_bar

theorem unmap_bar0_unmaps (hlink : d.machine.ctx.base .dsp = (d.slot .dsp).map Prod.fst) :
    Unmaps .dsp d (unmap_bar0.exec env d) :=
  unmap_bar_unmaps ⟨fun _ => rfl, fun _ => rfl, fun _ => rfl, fun _ b => by cases b <;> rfl,
    fun _ b => by cases b <;> rfl⟩ hlink

theorem unmap_bar1_unmaps (hlink : d.machine.ctx.base .reg = (d.slot .reg).map Prod.fst) :
    Unmaps .reg d (unmap_bar1.exec env d) :=
  unmap_bar_unmaps ⟨fun _ => rfl, fun _ => rfl, fun _ => rfl, fun _ b => by cases b <;> rfl,
    fun _ b => by cases b <;> rfl⟩ hlink

theorem unmap_bar2_unmaps (hlink : d.machine.ctx.base .port = (d.slot .port).map Prod.fst) :
    Unmaps .port d (unmap_bar2.exec env d) :=
  unmap_bar_unmaps ⟨fun _ => rfl, fun _ => rfl, fun _ => rfl, fun _ b => by cases b <;> rfl,
    fun _ b => by cases b <;> rfl⟩ hlink

/-- The bases of the others stay in step with their slots. -/
theorem Unmaps.link {bar : Bar} {d d' : DEVICE_CONTEXT} (hunmaps : Unmaps bar d d')
    (hlink : ∀ b, d.machine.ctx.base b = (d.slot b).map Prod.fst) (b : Bar) :
    d'.machine.ctx.base b = (d'.slot b).map Prod.fst := by
  rw [hunmaps.base, hunmaps.slot]
  split
  · rfl
  · exact hlink b

theorem mappings_unmap (slot : Option (Nat × U32)) :
    mappings (slot.toList.map fun r => .unmap_io r.1 r.2) = slot.toList.map .give := by
  cases slot with
  | none => rfl
  | some r => rfl

theorem toList_places (mapped : List (Nat × U32)) :
    (mapped[0]?).toList ++ (mapped[1]?).toList ++ (mapped[2]?).toList = mapped.take 3 := by
  match mapped with
  | [] => rfl
  | [_] => rfl
  | [_, _] => rfl
  | _ :: _ :: _ :: _ => rfl

/-- The release unmaps what the slots record, which is all the ranges up to the
third, and leaves no base behind. -/
theorem EvtDeviceReleaseHardware_unmaps {start : List Event} {mapped : List (Nat × U32)}
    (hd : Maps start mapped d) :
    (EvtDeviceReleaseHardware.exec env d).Unmapped ∧
      ∃ new, (EvtDeviceReleaseHardware.exec env d).machine.trace = start ++ new ∧
        mappings new = mapped.map .take ++ (mapped.take 3).map .give := by
  obtain ⟨⟨new, hnew, hmapped⟩, hslot, hlink⟩ := hd.keep (@stop_device_keeps env d)
  rw [exec_EvtDeviceReleaseHardware]
  generalize stop_device.exec env d = d₁ at hnew hslot hlink
  have h₁ := @unmap_bar0_unmaps env d₁ (hlink .dsp)
  generalize unmap_bar0.exec env d₁ = d₂ at h₁
  have h₂ := @unmap_bar1_unmaps env d₂ (h₁.link hlink .reg)
  generalize unmap_bar1.exec env d₂ = d₃ at h₂
  have hlink₃ := h₂.link (h₁.link hlink)
  have h₃ := @unmap_bar2_unmaps env d₃ (hlink₃ .port)
  generalize unmap_bar2.exec env d₃ = d₄ at h₃
  have hnone (bar : Bar) : d₄.slot bar = none := by
    rw [h₃.slot, h₂.slot, h₁.slot]
    cases bar <;> rfl
  have hreg : d₂.slot .reg = mapped[1]? := (h₁.slot .reg).trans (hslot .reg)
  have hport : d₃.slot .port = mapped[2]? := (h₂.slot .port).trans ((h₁.slot .port).trans (hslot .port))
  refine ⟨fun bar => ⟨slot_eq_none_iff.mp (hnone bar), ?_⟩, ?_⟩
  · rw [h₃.link hlink₃, hnone, Option.map_none]
  · refine ⟨_, by rw [h₃.trace, h₂.trace, h₁.trace, hnew, List.append_assoc, List.append_assoc,
      List.append_assoc], ?_⟩
    rw [← toList_places, List.map_append, List.map_append, List.append_assoc, ← mappings_unmap,
      ← mappings_unmap, ← mappings_unmap, hslot, hreg, hport, ← hmapped]
    simp only [mappings, List.filterMap_append]
    rfl

end release

/-- What the callback maps in a round, whatever it returns. -/
theorem EvtDevicePrepareHardware_maps {d : DEVICE_CONTEXT} (hd : d.Unmapped) (cycle : HardwareCycle) :
    Maps d.machine.trace (granted cycle.answers 0 cycle.resources)
      ((EvtDevicePrepareHardware cycle.resources).exec (cycle.env d) d) := by
  have hstart : Maps d.machine.trace [] d := ⟨⟨[], by simp, rfl⟩, recorded_nil_iff.mpr hd⟩
  have hnone : d.asked d.machine.trace = 0 := by
    rw [DEVICE_CONTEXT.asked, List.drop_length]
    rfl
  have hlog := hstart.keep (@KeepsMappings.log (cycle.env d) .info
    "PrepareHardware: %lu translated resources\n" [.int cycle.resources.length] d)
  have hparse := @parse_resources_maps d cycle [] cycle.resources _ hlog ((asked_log hstart _ _ _).trans hnone)
  have hrest (status : NTSTATUS) : KeepsMappings (cycle.env d)
      (if NT_SUCCESS status then check_bars else pure status) := by
    split
    · exact check_bars_keeps
    · exact KeepsMappings.pure _
  exact hparse.keep (hrest _ _)

/-- After a round the ranges beyond the third are held, and nothing else. -/
theorem hardware_cycle_account {d : DEVICE_CONTEXT} (hd : d.Unmapped) (cycle : HardwareCycle) :
    Balance (mappings ((hardware_cycle d cycle).machine.since d.machine))
        ((granted cycle.answers 0 cycle.resources).drop 3) ∧
      (hardware_cycle d cycle).Unmapped := by
  obtain ⟨hunmapped, new, hnew, hbook⟩ :=
    @EvtDeviceReleaseHardware_unmaps (cycle.env d) _ _ _ (EvtDevicePrepareHardware_maps hd cycle)
  generalize granted cycle.answers 0 cycle.resources = mapped at hbook
  have htaken : Balance (mapped.map Entry.take) (mapped.take 3 ++ mapped.drop 3) := by
    rw [List.take_append_drop]
    have hall := Balance.nil.take_all mapped
    rwa [List.nil_append, List.append_nil] at hall
  have hsince : (hardware_cycle d cycle).machine.since d.machine = new := since_of_trace hnew
  refine ⟨?_, hunmapped⟩
  rw [hsince, hbook]
  exact htaken.give_part

/-- A round undoes its mappings exactly when the three slots suffice for it. -/
theorem undone_iff {d : DEVICE_CONTEXT} (hd : d.Unmapped) (cycle : HardwareCycle) :
    Undone d cycle ↔ cycle.Fits := by
  obtain ⟨hbalance, hunmapped⟩ := hardware_cycle_account hd cycle
  have hfits := granted_length_le_iff cycle.answers 0 3 cycle.resources
  simp only [Nat.zero_add] at hfits
  rw [HardwareCycle.Fits, ← hfits, ← List.drop_eq_nil_iff, ← hbalance.nil_iff]
  constructor
  · intro hundone
    exact hundone.balanced
  · intro hbalanced
    exact ⟨hbalanced, hunmapped⟩

theorem fresh_unmapped : DEVICE_CONTEXT.fresh.Unmapped := fun bar => by cases bar <;> exact ⟨rfl, rfl⟩

/-- Over any number of rounds, each undoes its mappings exactly when the three
slots suffice for each. -/
theorem hardware_cycles_iff (cycles : List HardwareCycle) :
    Along hardware_cycle .fresh cycles (fun _ d cycle => Undone d cycle) ↔
      ∀ cycle ∈ cycles, cycle.Fits := by
  rw [← along_ops_iff]
  apply along_iff (fun _ d cycle hd => undone_iff hd cycle)
  · exact fun _ d cycle hd _ => (hardware_cycle_account hd cycle).2
  · exact fresh_unmapped

/-- A card whose resources have four memory ranges, all of which can be mapped. -/
def four_ranges : HardwareCycle where
  resources := [some (.memory 0xF0000000 0x400000), some (.memory 0xF0800000 0x800000),
    some (.memory 0xF1000000 16), some (.memory 0xF2000000 0x1000), some .interrupt]
  answers := fun i => some (0x10000 * (i + 1))
  outside := .idle

/-- The fourth range stays mapped. -/
theorem four_ranges_leak : ¬ Undone .fresh four_ranges := by
  intro hundone
  rcases (undone_iff fresh_unmapped four_ranges).mp hundone with hcount | ⟨i, _, hnone⟩
  · exact absurd hcount (by decide)
  · cases hnone

end motu424.wdf
