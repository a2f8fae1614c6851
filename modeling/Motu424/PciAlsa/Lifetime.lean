import Motu424.PciAlsa.Card
import Motu424.Probe.Account
import Motu424.Foundation.Run

open Program Ledger Run
open motu424.linux (KernelEvent PciOp Resource)

namespace motu424.pci_alsa.card

/-- What the kernel counts: the card, and the resources of the device. -/
inductive CardResource where
  | snd_card
  | of (r : Resource)
  deriving DecidableEq, Repr

/-- The entry that an event makes in the account of the kernel. -/
def CardEvent.entry : CardEvent → Option (Entry CardResource)
  | .kernel (.snd_card_new err) => if err = 0 then some (.take .snd_card) else none
  | .kernel .snd_card_free => some (.give .snd_card)
  | .kernel event => event.entry.map (.map .of)
  | _ => none

def book (history : List CardEvent) : List (Entry CardResource) := history.filterMap CardEvent.entry

/-- A mapping of BAR2 that an entry takes. -/
def port_of : Entry CardResource → Option CardResource
  | .take (.of (.mapping .port addr)) => some (.of (.mapping .port addr))
  | _ => none

/-- The mappings of BAR2 that were ever made, oldest first. -/
def ports_mapped (history : List CardEvent) : List CardResource := (book history).filterMap port_of

/-- Whether there is a card after an event. -/
def lives_after (lives : Bool) : CardEvent → Bool
  | .kernel (.snd_card_new err) => if err = 0 then true else lives
  | .kernel .snd_card_free => false
  | _ => lives

/-- There is a card after the events, and its private data with it. -/
def card_lives (history : List CardEvent) : Bool := history.foldl lives_after false

/-- The private data are only accessed while there is a card. -/
def Safe (history : List CardEvent) : Prop :=
  Throughout (fun pre event => event = .private_data → card_lives pre) history

def mapping_of (bar : Bar) : Option Nat → List CardResource
  | none => []
  | some addr => [.of (.mapping bar addr)]

/-- What the driver holds before it has the interrupt. -/
def mapped_by (motu : motu_card) : List CardResource :=
  mapping_of .port motu.iobase_port ++ (mapping_of .reg motu.iobase_reg ++
    (mapping_of .dsp motu.iobase_dsp ++ [.of .regions, .of .enable, .snd_card]))

/-- What the remove gives back. -/
def held_by (motu : motu_card) : List CardResource := .of (.irq motu.irq) :: mapped_by motu

/-- What a device has taken for the driver that is bound to it. -/
def in_use (d : CardDevice) : List CardResource := if d.bound then held_by d.motu else []

/-- The mappings of BAR2 that a step makes without a driver bound in the end. -/
def left_by (env : CardEnv) (d : CardDevice) (op : PciOp) : List CardResource :=
  if (card_step env d op).bound then []
  else (ports_mapped (card_step env d op).history).drop (ports_mapped d.history).length

/-- The mappings of BAR2 that the steps of a run leave. -/
def left_behind (env : CardEnv) : CardDevice → List PciOp → List CardResource
  | _, [] => []
  | d, op :: ops => left_by env d op ++ left_behind env (card_step env d op) ops

theorem book_append_singleton (history : List CardEvent) (event : CardEvent) :
    book (history ++ [event]) = book history ++ event.entry.toList := by
  cases hentry : event.entry <;> simp [book, hentry]

/-- The entry of a call that is granted. -/
theorem entry_granted {err : Int} (herr : err = 0) (r : Resource) :
    (if err = 0 then some (Entry.take r) else none).map (Entry.map CardResource.of) =
      some (.take (.of r)) := by
  rw [if_pos herr]
  rfl

/-- One that is refused makes no entry. -/
theorem entry_refused {err : Int} (herr : err ≠ 0) (r : Resource) :
    (if err = 0 then some (Entry.take r) else none).map (Entry.map CardResource.of) = none := by
  rw [if_neg herr]
  rfl

theorem ports_mapped_append_singleton (history : List CardEvent) (event : CardEvent) :
    ports_mapped (history ++ [event]) = ports_mapped history ++ event.entry.toList.filterMap port_of := by
  rw [ports_mapped, book_append_singleton, List.filterMap_append, ports_mapped]

theorem card_lives_append_singleton (history : List CardEvent) (event : CardEvent) :
    card_lives (history ++ [event]) = lives_after (card_lives history) event := by
  simp [card_lives]

/-- An event that does not touch the private data, or touches those of a card. -/
theorem safe_append_singleton {history : List CardEvent} {event : CardEvent}
    (hevent : event = .private_data → card_lives history) : Safe (history ++ [event]) ↔ Safe history := by
  rw [Safe, throughout_append_singleton]
  exact and_iff_left hevent

/-- Since a history the driver has come to hold the resources of a list more than
before. -/
def Adds (old : List CardEvent) (owned : List CardResource) (d : CardDevice) : Prop :=
  ∀ rest, Balance (book old) rest → Balance (book d.history) (owned ++ rest)

/-- A stage of the probe, since a history: the driver holds the resources of a list, it has
made the mappings of another list, and its card lives. -/
structure Stage (old : List CardEvent) (owned ports : List CardResource) (d : CardDevice) : Prop where
  account : Adds old owned d
  mapped : ports_mapped d.history = ports_mapped old ++ ports
  lives : card_lives d.history
  safe : Safe d.history ↔ Safe old

/-- The end of a probe with a result: the driver holds what the remove gives back, or
only the mapping of BAR2. -/
structure Settled (old : List CardEvent) (err : Int) (d : CardDevice) : Prop where
  bound : err = 0 → Stage old (held_by d.motu) (mapping_of .port d.motu.iobase_port) d
  failed : err ≠ 0 → ∃ ports, Adds old ports d ∧ ports_mapped d.history = ports_mapped old ++ ports
  safe : Safe d.history ↔ Safe old

section stages

variable {d : CardDevice} {old : List CardEvent} {owned ports : List CardResource}

def CardDevice.record (d : CardDevice) (event : CardEvent) : CardDevice :=
  { d with history := d.history ++ [event] }

/-- An event without an entry. -/
theorem Stage.quiet (hd : Stage old owned ports d) (event : CardEvent) (hquiet : event.entry = none)
    (hlives : lives_after true event = true) : Stage old owned ports (d.record event) where
  account := by
    intro rest hrest
    rw [CardDevice.record, book_append_singleton, hquiet, Option.toList_none, List.append_nil]
    exact hd.account rest hrest
  mapped := by
    rw [CardDevice.record, ports_mapped_append_singleton, hquiet]
    exact (List.append_nil _).trans hd.mapped
  lives := by
    rw [CardDevice.record, card_lives_append_singleton, hd.lives]
    exact hlives
  safe := (safe_append_singleton fun _ => hd.lives).trans hd.safe

/-- A call that takes a resource. -/
theorem Stage.take (hd : Stage old owned ports d) (event : KernelEvent) {r : CardResource}
    (htake : (CardEvent.kernel event).entry = some (.take r)) (hlives : lives_after true (.kernel event) = true) :
    Stage old (r :: owned) (ports ++ (port_of (.take r)).toList) (d.record (.kernel event)) where
  account := by
    intro rest hrest
    rw [CardDevice.record, book_append_singleton, htake]
    exact (hd.account rest hrest).take r
  mapped := by
    rw [CardDevice.record, ports_mapped_append_singleton, htake, hd.mapped, List.append_assoc]
    cases hport : port_of (.take r) <;> simp [hport]
  lives := by
    rw [CardDevice.record, card_lives_append_singleton, hd.lives]
    exact hlives
  safe := (safe_append_singleton fun _ => hd.lives).trans hd.safe

/-- It is no mapping of BAR2. -/
theorem Stage.take_other (hd : Stage old owned ports d) (event : KernelEvent) {r : CardResource}
    (htake : (CardEvent.kernel event).entry = some (.take r)) (hlives : lives_after true (.kernel event) = true)
    (hother : port_of (.take r) = none) : Stage old (r :: owned) ports (d.record (.kernel event)) := by
  have htaken := hd.take event htake hlives
  rwa [hother, Option.toList_none, List.append_nil] at htaken

/-- A call that gives a resource back. -/
theorem Stage.give {r : CardResource} (hd : Stage old (r :: owned) ports d) (event : KernelEvent)
    (hgive : (CardEvent.kernel event).entry = some (.give r)) (hlives : lives_after true (.kernel event) = true) :
    Stage old owned ports (d.record (.kernel event)) where
  account := by
    intro rest hrest
    rw [CardDevice.record, book_append_singleton, hgive]
    exact Balance.give (hd.account rest hrest)
  mapped := by
    rw [CardDevice.record, ports_mapped_append_singleton, hgive]
    exact (List.append_nil _).trans hd.mapped
  lives := by
    rw [CardDevice.record, card_lives_append_singleton, hd.lives]
    exact hlives
  safe := (safe_append_singleton fun _ => hd.lives).trans hd.safe

theorem Stage.perm {owned' : List CardResource} (hd : Stage old owned ports d) (hperm : owned.Perm owned') :
    Stage old owned' ports d where
  account := fun rest hrest => (hd.account rest hrest).perm (hperm.append_right rest)
  mapped := hd.mapped
  lives := hd.lives
  safe := hd.safe

theorem Stage.set_motu (env : CardEnv) (hd : Stage old owned ports d) (f : motu_card → motu_card) :
    Stage old owned ports ((set_motu f).exec env d) := by
  have htouched := hd.quiet .private_data rfl rfl
  exact ⟨htouched.account, htouched.mapped, htouched.lives, htouched.safe⟩

/-- What frees the card ends the stage. -/
theorem Stage.freed (env : CardEnv) (hd : Stage old (.snd_card :: owned) ports d) :
    Adds old owned (snd_card_free.exec env d) ∧
      ports_mapped (snd_card_free.exec env d).history = ports_mapped old ++ ports ∧
      (Safe (snd_card_free.exec env d).history ↔ Safe old) := by
  have hhistory : (snd_card_free.exec env d).history = d.history ++ [.kernel .snd_card_free] := rfl
  rw [Adds, hhistory, book_append_singleton, ports_mapped_append_singleton]
  refine ⟨fun rest hrest => ?_, ?_, ?_⟩
  · exact Balance.give (hd.account rest hrest)
  · exact (List.append_nil _).trans hd.mapped
  · exact (safe_append_singleton fun h => by cases h).trans hd.safe

theorem Stage.unmap (env : CardEnv) {bar : Bar} {base : Option Nat}
    (hd : Stage old (mapping_of bar base ++ owned) ports d) :
    Stage old owned ports ((pci_iounmap bar base).exec env d) := by
  cases base with
  | none => exact hd
  | some addr => exact Stage.give hd (.pci_iounmap bar addr) rfl rfl

/-- A mapping of BAR2 is also noted apart. -/
theorem Stage.map (env : CardEnv) (hd : Stage old owned ports d) (bar : Bar)
    (store : Option Nat → motu_card → motu_card) :
    ∃ base, ((map_bar bar store).exec env d).motu = store base d.motu ∧
      Stage old (mapping_of bar base ++ owned) (ports ++ if bar = .port then mapping_of .port base else [])
        ((map_bar bar store).exec env d) := by
  refine ⟨env.pci_iomap d.history bar, rfl, ?_⟩
  have hmapped : Stage old (mapping_of bar (env.pci_iomap d.history bar) ++ owned)
      (ports ++ if bar = .port then mapping_of .port (env.pci_iomap d.history bar) else [])
      (d.record (.kernel (.pci_iomap bar (env.pci_iomap d.history bar)))) := by
    cases env.pci_iomap d.history bar with
    | none =>
      have hports : (ports ++ if bar = .port then mapping_of .port none else []) = ports := by
        cases bar <;> exact List.append_nil ports
      rw [hports]
      exact hd.quiet _ rfl rfl
    | some addr =>
      have hports : (if bar = .port then mapping_of .port (some addr) else []) =
          (port_of (.take (.of (.mapping bar addr)))).toList := by
        cases bar <;> rfl
      rw [hports]
      exact hd.take _ rfl rfl
  exact hmapped.set_motu env _

end stages

/-- Not a call of the kernel. -/
def CardEvent.Plain : CardEvent → Prop
  | .kernel _ => False
  | _ => True

section plain

variable {env : CardEnv} {I : CardDevice → Prop}

/-- The statement stays true of a device, whatever of a kind is done. -/
def Kept (I : CardDevice → Prop) (kind : CardEvent → Prop) : Prop :=
  ∀ event d, kind event → I d → I (d.record event)

theorem Kept.perform {kind : CardEvent → Prop} (hI : Kept I kind) {event : CardEvent} (hevent : kind event) :
    Preserves env I (perform event) := fun d hd => hI event d hevent hd

theorem Kept.get_motu (hI : Kept I CardEvent.Plain) : Preserves env I get_motu :=
  Preserves.bind (hI.perform trivial) fun _ _ hd => hd

theorem Kept.ioread32 (hI : Kept I CardEvent.Plain) (bar : Bar) (base : Option Nat) (offset : U32) :
    Preserves env I (ioread32 bar base offset) := fun _ hd => hI _ _ trivial hd

theorem Kept.motu_load_fpga (hI : Kept I CardEvent.Plain) (fw : List U8) : Preserves env I (motu_load_fpga fw) := by
  refine Preserves.bind hI.get_motu fun motu => Preserves.bind (hI.perform trivial) fun _ => Preserves.ite ?_ ?_
  · intro _
    exact Preserves.bind (hI.perform trivial) fun _ => Preserves.pure _
  · intro _
    refine Preserves.bind (hI.ioread32 _ _ _) fun _ => Preserves.bind (hI.perform trivial) fun _ => ?_
    refine Preserves.bind (hI.perform trivial) fun _ => Preserves.bind (hI.perform trivial) fun _ => ?_
    refine Preserves.bind (hI.perform trivial) fun _ => Preserves.bind (hI.perform trivial) fun _ => ?_
    refine Preserves.bind (hI.perform trivial) fun _ => Preserves.bind (hI.perform trivial) fun _ => ?_
    exact Preserves.bind (hI.perform trivial) fun _ => Preserves.pure _

theorem Kept.motu_dump_registers (hI : Kept I CardEvent.Plain) : Preserves env I motu_dump_registers := by
  refine Preserves.bind (hI.perform trivial) fun _ => Preserves.forEach fun i _ => ?_
  refine Preserves.bind hI.get_motu fun motu => Preserves.bind (hI.ioread32 _ _ _) fun _ => ?_
  exact Preserves.when (hI.perform trivial)

theorem Kept.test_registers (hI : Kept I CardEvent.Plain) : Preserves env I test_registers := by
  refine Preserves.bind hI.get_motu fun motu => Preserves.bind (hI.perform trivial) fun _ => ?_
  refine Preserves.bind (hI.perform trivial) fun _ => Preserves.bind (hI.perform trivial) fun _ => ?_
  refine Preserves.bind (hI.perform trivial) fun _ => Preserves.bind (hI.perform trivial) fun _ => ?_
  refine Preserves.bind (hI.ioread32 _ _ _) fun _ => Preserves.bind (hI.ioread32 _ _ _) fun _ => ?_
  refine Preserves.bind (hI.ioread32 _ _ _) fun _ => Preserves.bind (hI.ioread32 _ _ _) fun _ => ?_
  exact hI.perform trivial

theorem Kept.dump_ports (hI : Kept I CardEvent.Plain) : Preserves env I dump_ports := by
  have hport : ∀ (base : Option Nat) (fmt : String) (offset : U32), Preserves env I (dump_port base fmt offset) :=
    fun base fmt offset => Preserves.bind (hI.ioread32 _ _ _) fun _ => hI.perform trivial
  refine Preserves.bind hI.get_motu fun motu => Preserves.when ?_
  refine Preserves.bind (hI.perform trivial) fun _ => Preserves.bind (hport _ _ _) fun _ => ?_
  exact Preserves.bind (hport _ _ _) fun _ => Preserves.bind (hport _ _ _) fun _ => hport _ _ _

end plain

/-- A stage after the mappings, with resources that the private data name. -/
def Holding (old : List CardEvent) (owned : motu_card → List CardResource)
    (d : CardDevice) : Prop :=
  Stage old (owned d.motu) (mapping_of .port d.motu.iobase_port) d

section probe

variable {env : CardEnv} {d : CardDevice} {old : List CardEvent} {ports : List CardResource}
  {owned : motu_card → List CardResource} {err : Int}

theorem holding_kept : Kept (Holding old owned) CardEvent.Plain := by
  intro event d hplain hd
  cases event with
  | kernel event => exact absurd hplain id
  | _ => exact Stage.quiet hd _ rfl rfl

/-- A call that takes nothing, whatever it returns. -/
theorem Holding.ask (answer : CardEnv → List CardEvent → Except KernelError Unit) {event : Int → KernelEvent}
    (hquiet : ∀ err, (CardEvent.kernel (event err)).entry = none)
    (hlives : ∀ err, lives_after true (.kernel (event err))) :
    Preserves env (Holding old owned) (ask answer event) :=
  fun _ hd => Stage.quiet hd _ (hquiet _) (hlives _)

theorem code_of_eq_zero {result : Except KernelError Unit} (hcode : ¬ code_of result < 0) : code_of result = 0 := by
  cases result with
  | ok _ => rfl
  | error err => exact absurd err.negative hcode

/-- A failure that has given back what it can. -/
theorem Stage.fails (env : CardEnv) (hd : Stage old (.snd_card :: ports) ports d) (herr : err ≠ 0) :
    Ends env d (Settled old) (do snd_card_free; pure err) := by
  obtain ⟨haccount, hmapped, hsafe⟩ := hd.freed env
  exact ⟨fun hzero => absurd hzero herr, fun _ => ⟨ports, haccount, hmapped⟩, hsafe⟩

theorem err_mapped_settles (hd : Holding old mapped_by d) (herr : err ≠ 0) :
    Ends env d (Settled old) (err_mapped err) := by
  have hread : Holding old mapped_by (d.record .private_data) := holding_kept _ d trivial hd
  have horder : (mapped_by d.motu).Perm (mapping_of .reg d.motu.iobase_reg ++
      (mapping_of .dsp d.motu.iobase_dsp ++
        (.of .regions :: .of .enable :: .snd_card :: mapping_of .port d.motu.iobase_port))) := by
    apply List.perm_iff_count.mpr
    intro r
    simp only [mapped_by, List.count_append, List.count_cons, List.count_nil]
    omega
  have hreg := (Stage.perm hread horder).unmap env
  have hdsp := hreg.unmap env
  have hregions := hdsp.give .pci_release_regions rfl rfl
  have henable := hregions.give .pci_disable_device rfl rfl
  have hends := henable.fails env herr
  exact hends

theorem err_irq_settles (hd : Holding old held_by d) (herr : err ≠ 0) :
    Ends env d (Settled old) (err_irq err) := by
  have hread : Holding old held_by (d.record .private_data) := holding_kept _ d trivial hd
  have hfreed : Holding old mapped_by ((d.record .private_data).record (.kernel (.free_irq d.motu.irq))) :=
    Stage.give hread _ rfl rfl
  exact err_mapped_settles hfreed herr

theorem Holding.settles (hd : Holding old held_by d) : Settled old 0 d :=
  ⟨fun _ => hd, fun herr => absurd rfl herr, hd.safe⟩

theorem register_card_settles (hd : Holding old held_by d) : Ends env d (Settled old) register_card := by
  refine (Holding.ask _ (fun _ => rfl) fun _ => rfl).ends hd fun err d hd => Ends.ite (fun herr => ?_) fun _ => ?_
  · exact err_irq_settles hd (Int.ne_of_lt herr)
  · have hset : Preserves env (Holding old held_by) (tell .pci_set_drvdata) :=
      fun _ hd => Stage.quiet hd _ rfl rfl
    refine hset.ends hd fun _ d hd => Preserves.ends (holding_kept.perform trivial) hd fun _ d hd => ?_
    exact holding_kept.motu_dump_registers.ends hd fun _ d hd => Ends.pure hd.settles

theorem snd_motu_pcm_new_keeps : Preserves env (Holding old owned) snd_motu_pcm_new := by
  refine Preserves.bind (holding_kept.perform trivial) fun _ => ?_
  refine Preserves.bind (Holding.ask _ (fun _ => rfl) fun _ => rfl) fun err => ?_
  refine Preserves.ite (fun _ => Preserves.pure _) fun _ => ?_
  exact Preserves.bind (holding_kept.perform trivial) fun _ => Preserves.pure _

theorem create_pcm_settles (hd : Holding old held_by d) : Ends env d (Settled old) create_pcm := by
  refine holding_kept.get_motu.ends hd fun motu d hd => ?_
  refine Preserves.ends (holding_kept.perform trivial) hd fun _ d hd => ?_
  refine snd_motu_pcm_new_keeps.ends hd fun err d hd => Ends.ite (fun _ => ?_) fun _ => ?_
  · exact err_irq_settles hd (by decide)
  · exact register_card_settles hd

theorem request_interrupt_settles (hd : Holding old mapped_by d) :
    Ends env d (Settled old) request_interrupt := by
  refine Ends.bind (Ends.bind (Ends.ite (fun herr => ?_) fun herr => ?_))
  · have hrefused : Holding old mapped_by
        (d.record (.kernel (.request_irq env.pci_irq (code_of (env.request_irq d.history))))) :=
      Stage.quiet hd _ (entry_refused herr (.irq env.pci_irq)) rfl
    exact Preserves.ends (holding_kept.perform trivial) hrefused fun _ d hd => err_mapped_settles hd herr
  · have hgranted : Stage old (.of (.irq env.pci_irq) :: mapped_by d.motu) (mapping_of .port d.motu.iobase_port)
        (d.record (.kernel (.request_irq env.pci_irq (code_of (env.request_irq d.history))))) :=
      hd.take_other _ (entry_granted (not_not.mp herr) (.irq env.pci_irq)) rfl rfl
    have hset : Holding old held_by ((set_motu fun motu => { motu with irq := env.pci_irq }).exec env
        (d.record (.kernel (.request_irq env.pci_irq (code_of (env.request_irq d.history)))))) :=
      hgranted.set_motu env _
    exact create_pcm_settles hset

theorem map_bars_maps (hd : Stage old [.of .regions, .of .enable, .snd_card] [] d) :
    Holding old mapped_by (map_bars.exec env d) := by
  rw [map_bars, exec_bind, exec_bind]
  obtain ⟨dsp, hmotu, hdsp⟩ := hd.map env .dsp fun base motu => { motu with iobase_dsp := base }
  generalize exec (map_bar .dsp _) env d = d₁ at hmotu hdsp ⊢
  obtain ⟨reg, hmotu₁, hreg⟩ := hdsp.map env .reg fun base motu => { motu with iobase_reg := base }
  generalize exec (map_bar .reg _) env d₁ = d₂ at hmotu₁ hreg ⊢
  obtain ⟨port, hmotu₂, hport⟩ := hreg.map env .port fun base motu => { motu with iobase_port := base }
  rw [Holding, hmotu₂, hmotu₁, hmotu]
  exact hport

/-- The firmware is given back whether the upload succeeds or not. -/
theorem load_firmware_keeps : Preserves env (Holding old mapped_by) load_firmware := by
  intro d hd
  have hanswer : request_firmware.eval env d = env.request_firmware d.history := rfl
  have hasked : request_firmware.exec env d =
      d.record (.kernel (.request_firmware FIRMWARE (env.request_firmware d.history).toBool)) := rfl
  rw [load_firmware, exec_bind, hanswer, hasked]
  cases env.request_firmware d.history with
  | error err =>
    have hrefused : Holding old mapped_by (d.record (.kernel (.request_firmware FIRMWARE false))) :=
      Stage.quiet hd _ rfl rfl
    exact holding_kept _ _ trivial hrefused
  | ok bytes =>
    have hgranted : Holding old (fun motu => .of (.firmware FIRMWARE) :: mapped_by motu)
        (d.record (.kernel (.request_firmware FIRMWARE true))) := Stage.take_other hd _ rfl rfl rfl
    have hloaded := @Kept.motu_load_fpga env _ holding_kept bytes _ hgranted
    exact Stage.give hloaded (.release_firmware FIRMWARE) rfl rfl

theorem bring_up_settles (hd : Stage old [.of .regions, .of .enable, .snd_card] [] d) :
    Ends env d (Settled old) bring_up := by
  refine Ends.bind (holding_kept.dump_ports.ends (map_bars_maps hd) fun _ d hd => ?_)
  refine load_firmware_keeps.ends hd fun _ d hd => holding_kept.test_registers.ends hd fun _ d hd => ?_
  exact request_interrupt_settles hd

theorem request_regions_settles (hd : Stage old [.of .enable, .snd_card] [] d) :
    Ends env d (Settled old) request_regions := by
  refine Ends.bind (Ends.ite (fun herr => ?_) fun herr => ?_)
  · have hrefused : Stage old [.of .enable, .snd_card] []
        (d.record (.kernel (.pci_request_regions (code_of (env.pci_request_regions d.history))))) :=
      hd.quiet _ (entry_refused (Int.ne_of_lt herr) .regions) rfl
    have hdisabled := hrefused.give .pci_disable_device rfl rfl
    exact hdisabled.fails env (by decide)
  · have hgranted : Stage old [.of .regions, .of .enable, .snd_card] []
        (d.record (.kernel (.pci_request_regions (code_of (env.pci_request_regions d.history))))) :=
      hd.take_other _ (entry_granted (code_of_eq_zero herr) .regions) rfl rfl
    exact bring_up_settles hgranted

theorem set_dma_mask_settles (hd : Stage old [.of .enable, .snd_card] [] d) :
    Ends env d (Settled old) set_dma_mask := by
  have hmaster := hd.quiet (.kernel .pci_set_master) rfl rfl
  have hasked : Stage old [.of .enable, .snd_card] []
      ((ask CardEnv.dma_set_mask_and_coherent (.dma_set_mask_and_coherent (DMA_BIT_MASK 32))).exec env
        (d.record (.kernel .pci_set_master))) := hmaster.quiet _ rfl rfl
  refine Ends.bind (Ends.bind (Ends.ite (fun _ => ?_) fun _ => request_regions_settles hasked))
  have hreported := hasked.quiet (.dev_err "Architecture does not support 32-bit PCI busmaster DMA\n" [])
    rfl rfl
  have hdisabled := hreported.give .pci_disable_device rfl rfl
  exact hdisabled.fails env (by decide)

theorem enable_pci_settles (hd : Stage old [.snd_card] [] d) : Ends env d (Settled old) enable_pci := by
  refine Ends.bind (Ends.ite (fun herr => ?_) fun herr => ?_)
  · have hrefused : Stage old [.snd_card] []
        (d.record (.kernel (.pci_enable_device (code_of (env.pci_enable_device d.history))))) :=
      hd.quiet _ (entry_refused (Int.ne_of_lt herr) .enable) rfl
    exact hrefused.fails env (by decide)
  · have hgranted : Stage old [.of .enable, .snd_card] []
        (d.record (.kernel (.pci_enable_device (code_of (env.pci_enable_device d.history))))) :=
      hd.take_other _ (entry_granted (code_of_eq_zero herr) .enable) rfl rfl
    exact set_dma_mask_settles hgranted

/-- A probe gives back what it took, apart from the mapping of BAR2 when it fails late. -/
theorem snd_motu_probe_settles (env : CardEnv) (d : CardDevice) : Ends env d (Settled d.history) snd_motu_probe := by
  have hsafe : ∀ err, Safe (d.history ++ [.kernel (.snd_card_new err)]) ↔ Safe d.history := fun err =>
    safe_append_singleton fun h => by cases h
  refine Ends.bind (Ends.ite (fun herr => ?_) fun herr => ?_)
  · have hentry : (CardEvent.kernel (.snd_card_new (code_of (env.snd_card_new d.history)))).entry = none :=
      if_neg (Int.ne_of_lt herr)
    have hbook : book (d.history ++ [.kernel (.snd_card_new (code_of (env.snd_card_new d.history)))]) =
        book d.history := by
      rw [book_append_singleton, hentry, Option.toList_none, List.append_nil]
    refine ⟨fun hzero => absurd hzero (Int.ne_of_lt herr), fun _ => ⟨[], fun rest hrest => hbook.symm ▸ hrest, ?_⟩,
      hsafe _⟩
    rw [List.append_nil]
    exact congrArg (List.filterMap port_of) hbook
  · have hentry : (CardEvent.kernel (.snd_card_new (code_of (env.snd_card_new d.history)))).entry =
        some (.take .snd_card) := if_pos (code_of_eq_zero herr)
    have hbook : book (d.history ++ [.kernel (.snd_card_new (code_of (env.snd_card_new d.history)))]) =
        book d.history ++ [.take .snd_card] := by
      rw [book_append_singleton, hentry, Option.toList_some]
    have hlives : card_lives (d.history ++ [.kernel (.snd_card_new (code_of (env.snd_card_new d.history)))]) := by
      rw [card_lives_append_singleton]
      exact if_pos (code_of_eq_zero herr)
    have hnew : Stage d.history [.snd_card] []
        { d.record (.kernel (.snd_card_new (code_of (env.snd_card_new d.history)))) with motu := .zeroed } := by
      refine ⟨fun rest hrest => hbook.symm ▸ hrest.take .snd_card, ?_, hlives, hsafe _⟩
      rw [CardDevice.record, ports_mapped, hbook, List.filterMap_append, ports_mapped]
      rfl
    exact enable_pci_settles (hnew.quiet .private_data rfl rfl)

end probe

end motu424.pci_alsa.card
