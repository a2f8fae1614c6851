import Motu424.Wdf.BringUp

open Program

namespace motu424.wdf

/-- The register that an event reads or writes. -/
def register : Event → Option (Bar × U32)
  | .read bar _ offset => some (bar, offset)
  | .write bar _ offset _ => some (bar, offset)
  | _ => none

/-- The registers that a trace reads and writes, in order. -/
def registers (trace : List Event) : List (Bar × U32) := trace.filterMap register

/-- The length on record for a BAR. -/
def DEVICE_CONTEXT.bar_len (d : DEVICE_CONTEXT) : Bar → U32
  | .dsp => d.bar0_len
  | .reg => d.bar1_len
  | .port => d.bar2_len

/-- The BAR is mapped, and the word at an offset lies inside it. A release leaves the length
of a BAR that it unmaps on record. -/
def DEVICE_CONTEXT.Holds (d : DEVICE_CONTEXT) (bar : Bar) (offset : U32) : Prop :=
  d.machine.ctx.base bar ≠ none ∧ offset.toNat + 4 ≤ (d.bar_len bar).toNat

instance (d : DEVICE_CONTEXT) (bar : Bar) (offset : U32) : Decidable (d.Holds bar offset) :=
  inferInstanceAs (Decidable (_ ∧ _))

def MOTU424_REG_OP.NamesBar (regOp : MOTU424_REG_OP) : Prop := regOp.bar = 0 ∨ regOp.bar = 1 ∨ regOp.bar = 2

/-- A request for a register, but of a BAR that there is not, or too short to say which. -/
def WDFREQUEST.NamesNone (request : WDFREQUEST) : Prop :=
  (request.code = IOCTL_MOTU424_READ_REG ∨ request.code = IOCTL_MOTU424_WRITE_REG) ∧
  ∀ regOp, MOTU424_REG_OP.of_input request.input = some regOp → ¬ regOp.NamesBar

/-- What the request touches lies inside the mapped BARs, and where it names no register it
fails and touches nothing. -/
structure StaysInside (d : DEVICE_CONTEXT) (request : WDFREQUEST) (status : NTSTATUS) (events : List Event) :
    Prop where
  inside : ∀ r ∈ registers events, d.Holds r.1 r.2
  refused : request.NamesNone → ¬ NT_SUCCESS status ∧ registers events = []

/-- The program touches these registers, in order. -/
def Touches (env : Env) (m : Machine) {α : Type} (p : Pal α) (rs : List (Bar × U32)) : Prop :=
  ∃ new, (p.exec env m).trace = m.trace ++ new ∧ registers new = rs

/-- The register at an offset, if its BAR is mapped. -/
def if_mapped {bar : Bar} (base : Iomem bar) (offset : U32) : List (Bar × U32) :=
  if base = .null then [] else [(bar, offset)]

section touches

variable {env : Env} {m : Machine} {α β : Type}

theorem Touches.pure (a : α) : Touches env m (pure a : Pal α) [] := ⟨[], by simp, rfl⟩

theorem Touches.bind {p : Pal α} {f : α → Pal β} {rs rs' : List (Bar × U32)}
    (hp : Touches env m p rs) (hf : Touches env (p.exec env m) (f (p.eval env m)) rs') :
    Touches env m (p >>= f) (rs ++ rs') := by
  obtain ⟨new, hnew, hrs⟩ := hp
  obtain ⟨new', hnew', hrs'⟩ := hf
  refine ⟨new ++ new', ?_, ?_⟩
  · rw [exec_bind, hnew', hnew, List.append_assoc]
  · rw [registers, List.filterMap_append]
    exact congrArg₂ (· ++ ·) hrs hrs'

theorem Touches.get_ctx {f : motu424_ctx → Pal α} {rs : List (Bar × U32)}
    (hf : Touches env m (f m.ctx) rs) : Touches env m (get_ctx >>= f) rs := hf

theorem Touches.pal_read32 {bar : Bar} (base : Iomem bar) (offset : U32) :
    Touches env m (pal_read32 base offset) [(bar, offset)] := ⟨_, rfl, rfl⟩

theorem Touches.pal_write32 {bar : Bar} (base : Iomem bar) (offset value : U32) :
    Touches env m (pal_write32 base offset value) [(bar, offset)] := ⟨_, rfl, rfl⟩

theorem Touches.read_or_zero {bar : Bar} (base : Iomem bar) (offset : U32) :
    Touches env m (read_or_zero base offset) (if_mapped base offset) := by
  rw [wdf.read_or_zero, if_mapped]
  split
  · exact Touches.pure _
  · exact Touches.pal_read32 base offset

/-- Recording the new state, logging and answering touch no register. -/
theorem Touches.rest (f : motu424_ctx → motu424_ctx) (level : LogLevel) (fmt : String)
    (args : List LogArg) (a : α) :
    Touches env m (do set_ctx f; pal_log level fmt args; Pure.pure a : Pal α) [] := ⟨_, rfl, rfl⟩

theorem ioctl_get_info_touches (output_length : Nat) :
    Touches env m (ioctl_get_info output_length) (if output_length < 16 then [] else
      if_mapped m.ctx.iobase_port 0 ++ if_mapped m.ctx.iobase_reg MOTU_REG_PORT_CONF) := by
  rw [ioctl_get_info]
  split
  · exact Touches.pure _
  · refine Touches.get_ctx (Touches.bind (Touches.read_or_zero _ _) ?_)
    rw [← List.append_nil (if_mapped m.ctx.iobase_reg _)]
    exact Touches.bind (Touches.read_or_zero _ _) (Touches.pure _)

/-- A register that is read and written back, if it is mapped. -/
theorem Touches.write_back {bar : Bar} {base : Iomem bar} {offset : U32} {val : U32 → U32} {a : α}
    {rest : U32 → Pal α} (hrest : ∀ old m, Touches env m (rest old) []) :
    Touches env m
      (if base = .null then Pure.pure a
      else do
        let old ← motu424.pal_read32 base offset
        motu424.pal_write32 base offset (val old)
        rest old)
      (if_mapped base offset ++ if_mapped base offset) := by
  rw [if_mapped]
  split
  · exact Touches.pure a
  · exact Touches.bind (Touches.pal_read32 _ _) <|
      Touches.bind (Touches.pal_write32 _ _ _) (hrest _ _)

theorem ioctl_start_touches : Touches env m ioctl_start
    (if_mapped m.ctx.iobase_reg MOTU_REG_PORT_CONF ++ if_mapped m.ctx.iobase_reg MOTU_REG_PORT_CONF) := by
  apply Touches.get_ctx
  exact Touches.write_back fun _ _ => Touches.rest _ _ _ _ _

theorem ioctl_stop_touches : Touches env m ioctl_stop
    (if_mapped m.ctx.iobase_reg MOTU_REG_PORT_CONF ++ if_mapped m.ctx.iobase_reg MOTU_REG_PORT_CONF) := by
  apply Touches.get_ctx
  exact Touches.write_back fun _ _ => Touches.rest _ _ _ _ _

/-- A request for one word of a register. -/
theorem Touches.word_request {bar : Bar} (base : motu424_ctx → Iomem bar) (offset : U32)
    (output_length : Nat) :
    Touches env m
      (if output_length < 4 then Pure.pure (Answer.of_status STATUS_BUFFER_TOO_SMALL)
      else do
        let ctx ← motu424.get_ctx
        let word ← wdf.read_or_zero (base ctx) offset
        Pure.pure (Answer.of_words [word]))
      (if output_length < 4 then [] else if_mapped (base m.ctx) offset) := by
  split
  · exact Touches.pure _
  · rw [← List.append_nil (if_mapped (base m.ctx) offset)]
    exact Touches.get_ctx (Touches.bind (Touches.read_or_zero _ _) (Touches.pure _))

theorem ioctl_get_position_touches (output_length : Nat) :
    Touches env m (ioctl_get_position output_length)
      (if output_length < 4 then [] else if_mapped m.ctx.iobase_reg MOTU_REG_DMA_CTRL) :=
  Touches.word_request (·.iobase_reg) MOTU_REG_DMA_CTRL output_length

theorem ioctl_get_status_touches (output_length : Nat) :
    Touches env m (ioctl_get_status output_length)
      (if output_length < 4 then [] else if_mapped m.ctx.iobase_port 0) :=
  Touches.word_request (·.iobase_port) 0 output_length

/-- The register that a register operation names. -/
def MOTU424_REG_OP.register (regOp : MOTU424_REG_OP) : List (Bar × U32) :=
  if regOp.bar = 0 then [(.dsp, regOp.offset)]
  else if regOp.bar = 1 then [(.reg, regOp.offset)]
  else if regOp.bar = 2 then [(.port, regOp.offset)]
  else []

/-- An operation that names no BAR takes the last case of a switch over the BAR. -/
theorem MOTU424_REG_OP.by_bar_none {regOp : MOTU424_REG_OP} (hnone : ¬ regOp.NamesBar) (dsp reg port other : α) :
    (if regOp.bar = 0 then dsp else if regOp.bar = 1 then reg else if regOp.bar = 2 then port else other) =
      other := by
  obtain ⟨hdsp, hrest⟩ := not_or.mp hnone
  obtain ⟨hreg, hport⟩ := not_or.mp hrest
  rw [if_neg hdsp, if_neg hreg, if_neg hport]

/-- Where each case of the switch over the BAR touches its register, the switch
touches the register that the operation names. -/
theorem Touches.by_bar {regOp : MOTU424_REG_OP} {dsp reg port other : Pal α}
    (hdsp : Touches env m dsp [(.dsp, regOp.offset)]) (hreg : Touches env m reg [(.reg, regOp.offset)])
    (hport : Touches env m port [(.port, regOp.offset)]) (hother : Touches env m other []) :
    Touches env m (if regOp.bar = 0 then dsp else if regOp.bar = 1 then reg
      else if regOp.bar = 2 then port else other) regOp.register := by
  rw [MOTU424_REG_OP.register]
  split
  · exact hdsp
  · split
    · exact hreg
    · split
      · exact hport
      · exact hother

/-- A register read goes to the named register, wherever it lies. -/
theorem ioctl_read_reg_touches (input : List U8) (output_length : Nat) :
    Touches env m (ioctl_read_reg input output_length)
      ((MOTU424_REG_OP.of_input input).elim [] MOTU424_REG_OP.register) := by
  apply Touches.get_ctx
  cases MOTU424_REG_OP.of_input input with
  | none => exact Touches.pure _
  | some regOp => exact Touches.by_bar ⟨_, rfl, rfl⟩ ⟨_, rfl, rfl⟩ ⟨_, rfl, rfl⟩ (Touches.pure _)

/-- So does a register write. -/
theorem ioctl_write_reg_touches (input : List U8) :
    Touches env m (ioctl_write_reg input)
      ((MOTU424_REG_OP.of_input input).elim [] MOTU424_REG_OP.register) := by
  apply Touches.get_ctx
  cases MOTU424_REG_OP.of_input input with
  | none => exact Touches.pure _
  | some regOp => exact Touches.by_bar ⟨_, rfl, rfl⟩ ⟨_, rfl, rfl⟩ ⟨_, rfl, rfl⟩ (Touches.pure _)

/-- A register operation that names no register touches none. -/
theorem names_none_touches {request : WDFREQUEST} (hnone : request.NamesNone) :
    Touches env m (ioctl_switch request) [] := by
  obtain ⟨code, input, output_length⟩ := request
  obtain ⟨hcode, hnone⟩ := hnone
  have hnothing : (MOTU424_REG_OP.of_input input).elim [] MOTU424_REG_OP.register = [] := by
    cases hop : MOTU424_REG_OP.of_input input with
    | none => rfl
    | some regOp =>
      rw [Option.elim_some, MOTU424_REG_OP.register, MOTU424_REG_OP.by_bar_none (hnone regOp hop)]
  rw [← hnothing]
  rcases hcode with rfl | rfl
  · exact ioctl_read_reg_touches input output_length
  · exact ioctl_write_reg_touches input

end touches

/-- The register lies inside its BAR, where that is mapped at all. -/
def DEVICE_CONTEXT.HoldsIfMapped (d : DEVICE_CONTEXT) {bar : Bar} (base : Iomem bar) (offset : U32) :
    Prop := base ≠ .null → d.Holds bar offset

/-- The register that the operation names lies inside its mapped BAR. -/
structure MOTU424_REG_OP.Fits (d : DEVICE_CONTEXT) (regOp : MOTU424_REG_OP) : Prop where
  dsp : regOp.bar = 0 → d.Holds .dsp regOp.offset
  reg : regOp.bar = 1 → d.Holds .reg regOp.offset
  port : regOp.bar = 2 → d.Holds .port regOp.offset

/-- What a request asks of the mapped lengths, by its control code. -/
def RequestFits (d : DEVICE_CONTEXT) (request : WDFREQUEST) : Prop :=
  if request.code = IOCTL_MOTU424_GET_INFO then
    16 ≤ request.output_length → d.HoldsIfMapped d.machine.ctx.iobase_port 0 ∧
      d.HoldsIfMapped d.machine.ctx.iobase_reg MOTU_REG_PORT_CONF
  else if request.code = IOCTL_MOTU424_START ∨ request.code = IOCTL_MOTU424_STOP then
    d.HoldsIfMapped d.machine.ctx.iobase_reg MOTU_REG_PORT_CONF
  else if request.code = IOCTL_MOTU424_GET_POSITION then
    4 ≤ request.output_length → d.HoldsIfMapped d.machine.ctx.iobase_reg MOTU_REG_DMA_CTRL
  else if request.code = IOCTL_MOTU424_READ_REG ∨ request.code = IOCTL_MOTU424_WRITE_REG then
    ∀ regOp, MOTU424_REG_OP.of_input request.input = some regOp → regOp.Fits d
  else if request.code = IOCTL_MOTU424_GET_STATUS then
    4 ≤ request.output_length → d.HoldsIfMapped d.machine.ctx.iobase_port 0
  else True

section fits

variable {env : Env} {d : DEVICE_CONTEXT}

theorem holds_if_mapped_iff {bar : Bar} (base : Iomem bar) (offset : U32) :
    (∀ r ∈ if_mapped base offset, d.Holds r.1 r.2) ↔ d.HoldsIfMapped base offset := by
  rw [if_mapped, DEVICE_CONTEXT.HoldsIfMapped]
  by_cases hbase : base = .null
  · simp [hbase]
  · simp [hbase]

theorem MOTU424_REG_OP.fits_iff (regOp : MOTU424_REG_OP) :
    (∀ r ∈ regOp.register, d.Holds r.1 r.2) ↔ regOp.Fits d := by
  rw [MOTU424_REG_OP.register]
  constructor
  · intro hholds
    constructor
    · intro hbar
      simpa [hbar] using hholds
    · intro hbar
      simpa [hbar] using hholds
    · intro hbar
      simpa [hbar] using hholds
  · rintro ⟨hdsp, hreg, hport⟩
    split
    · simpa using hdsp ‹_›
    · split
      · simpa using hreg ‹_›
      · split
        · simpa using hport ‹_›
        · simp

/-- A request with too little room for its answer touches nothing. -/
theorem holds_if_room_iff (room needed : Nat) (rs : List (Bar × U32)) :
    (∀ r ∈ (if room < needed then [] else rs), d.Holds r.1 r.2) ↔
      (needed ≤ room → ∀ r ∈ rs, d.Holds r.1 r.2) := by
  by_cases hroom : room < needed
  · rw [if_pos hroom]
    exact iff_of_true nofun fun h => absurd h (by omega)
  · rw [if_neg hroom]
    exact (imp_iff_right (by omega)).symm

theorem reg_op_holds_iff (input : List U8) :
    (∀ r ∈ (MOTU424_REG_OP.of_input input).elim [] MOTU424_REG_OP.register, d.Holds r.1 r.2) ↔
      ∀ regOp, MOTU424_REG_OP.of_input input = some regOp → regOp.Fits d := by
  cases MOTU424_REG_OP.of_input input with
  | none => exact iff_of_true nofun nofun
  | some regOp =>
    rw [Option.elim_some, regOp.fits_iff]
    constructor
    · intro hfits other hother
      cases hother
      exact hfits
    · exact fun hfits => hfits regOp rfl

/-- The switch touches registers that all lie inside the BARs exactly when the
request fits. -/
theorem ioctl_switch_touches (request : WDFREQUEST) :
    ∃ rs, Touches env d.machine (ioctl_switch request) rs ∧
      ((∀ r ∈ rs, d.Holds r.1 r.2) ↔ RequestFits d request) := by
  rw [ioctl_switch, RequestFits]
  split
  · refine ⟨_, ioctl_get_info_touches _, ?_⟩
    rw [holds_if_room_iff, List.forall_mem_append, holds_if_mapped_iff, holds_if_mapped_iff]
  split
  · refine ⟨_, ioctl_start_touches, ?_⟩
    rw [if_pos (.inl ‹_›), List.forall_mem_append, holds_if_mapped_iff, and_self_iff]
  split
  · refine ⟨_, ioctl_stop_touches, ?_⟩
    rw [if_pos (.inr ‹_›), List.forall_mem_append, holds_if_mapped_iff, and_self_iff]
  rw [if_neg (not_or.mpr ⟨‹_›, ‹_›⟩)]
  split
  · refine ⟨_, ioctl_get_position_touches _, ?_⟩
    rw [holds_if_room_iff, holds_if_mapped_iff]
  split
  · refine ⟨_, ioctl_read_reg_touches _ _, ?_⟩
    rw [if_pos (.inl ‹_›), reg_op_holds_iff]
  split
  · refine ⟨_, ioctl_write_reg_touches _, ?_⟩
    rw [if_pos (.inr ‹_›), reg_op_holds_iff]
  rw [if_neg (not_or.mpr ⟨‹_›, ‹_›⟩)]
  split
  · refine ⟨_, ioctl_get_status_touches _, ?_⟩
    rw [holds_if_room_iff, holds_if_mapped_iff]
  · exact ⟨[], Touches.pure _, iff_of_true nofun trivial⟩

/-- A register operation that names no register fails. -/
theorem ioctl_switch_refuses {m : Machine} {request : WDFREQUEST} (hnone : request.NamesNone) :
    ¬ NT_SUCCESS ((ioctl_switch request).eval env m).1 := by
  obtain ⟨code, input, output_length⟩ := request
  obtain ⟨hcode, hnone⟩ := hnone
  have hswitch : ioctl_switch ⟨code, input, output_length⟩ = ioctl_read_reg input output_length ∨
      ioctl_switch ⟨code, input, output_length⟩ = ioctl_write_reg input := by
    rcases hcode with rfl | rfl
    · exact .inl rfl
    · exact .inr rfl
  rcases hswitch with hswitch | hswitch
  · rw [hswitch, ioctl_read_reg, eval_bind]
    cases hop : MOTU424_REG_OP.of_input input with
    | none => exact (by decide : ¬ NT_SUCCESS STATUS_BUFFER_TOO_SMALL)
    | some regOp =>
      dsimp only
      rw [MOTU424_REG_OP.by_bar_none (hnone regOp hop)]
      exact (by decide : ¬ NT_SUCCESS STATUS_INVALID_PARAMETER)
  · rw [hswitch, ioctl_write_reg, eval_bind]
    cases hop : MOTU424_REG_OP.of_input input with
    | none => exact (by decide : ¬ NT_SUCCESS STATUS_BUFFER_TOO_SMALL)
    | some regOp =>
      dsimp only
      rw [MOTU424_REG_OP.by_bar_none (hnone regOp hop)]
      exact (by decide : ¬ NT_SUCCESS STATUS_INVALID_PARAMETER)

/-- Completing the request touches no register. -/
theorem EvtIoDeviceControl_touches {request : WDFREQUEST} {rs : List (Bar × U32)} {m : Machine}
    (hswitch : Touches env m (ioctl_switch request) rs) :
    registers (((EvtIoDeviceControl request).exec env m).since m) = rs := by
  have hcomplete : Touches env m (EvtIoDeviceControl request) (rs ++ []) :=
    Touches.bind hswitch ⟨_, rfl, rfl⟩
  obtain ⟨new, hnew, hrs⟩ := hcomplete
  rw [since_of_trace hnew, hrs, List.append_nil]

/-- No request is checked against the mapped lengths: it stays inside the BARs
exactly when it fits. -/
theorem request_stays_inside_iff (env : Env) (d : DEVICE_CONTEXT) (request : WDFREQUEST) :
    StaysInside d request ((EvtIoDeviceControl request).eval env d.machine)
      (((EvtIoDeviceControl request).exec env d.machine).since d.machine) ↔ RequestFits d request := by
  obtain ⟨rs, htouches, hiff⟩ := @ioctl_switch_touches env d request
  constructor
  · rintro ⟨hinside, _⟩
    rw [EvtIoDeviceControl_touches htouches] at hinside
    exact hiff.mp hinside
  · intro hfits
    refine ⟨?_, fun hnone => ⟨ioctl_switch_refuses hnone, ?_⟩⟩
    · rw [EvtIoDeviceControl_touches htouches]
      exact hiff.mpr hfits
    · exact EvtIoDeviceControl_touches (names_none_touches hnone)

end fits

section lengths

variable {env : WdfEnv} {len : Bar → U32}

theorem shared_keeps_bar_len {α : Type} (p : Pal α) :
    Preserves env (fun d : DEVICE_CONTEXT => d.bar_len = len) (shared p) := fun _ hd => hd

theorem init_hardware_keeps_bar_len :
    Preserves env (fun d : DEVICE_CONTEXT => d.bar_len = len) init_hardware :=
  Preserves.bind_gets _ fun d hd =>
    (Preserves.bind (shared_keeps_bar_len _) fun _ => (shared_keeps_bar_len _).when) d hd

/-- The bring-up does not change the mapped lengths. -/
theorem bring_up_keeps_bar_len :
    Preserves env (fun d : DEVICE_CONTEXT => d.bar_len = len) bring_up := by
  refine Preserves.bind ?_ fun _ => Preserves.bind ?_ fun _ => Preserves.bind ?_ fun _ => ?_
  · exact Preserves.bind (shared_keeps_bar_len _) fun _ => (shared_keeps_bar_len _).when
  · intro d hd
    obtain ⟨m, hm⟩ := @exec_load_fpga_file env d
    rw [hm]
    exact hd
  · intro d hd
    obtain ⟨m, hm⟩ := @exec_load_init_file env d
    rw [hm]
    exact hd
  · exact Preserves.bind init_hardware_keeps_bar_len fun _ =>
      Preserves.bind (shared_keeps_bar_len _) fun _ => Preserves.pure _

/-- A prepared device has the lengths that the resource loop recorded. -/
theorem prepare_bar_len {d : DEVICE_CONTEXT} {resources : List (Option CmResource)}
    (hok : (EvtDevicePrepareHardware resources).eval env d = STATUS_SUCCESS) :
    ((EvtDevicePrepareHardware resources).exec env d).bar_len = (parsed env d resources).bar_len := by
  obtain ⟨_, _, hexec⟩ := EvtDevicePrepareHardware_success hok
  rw [hexec]
  exact bring_up_keeps_bar_len _ rfl

end lengths

/-- The device after a successful start of the card with three memory ranges. -/
def prepared : DEVICE_CONTEXT := (EvtDevicePrepareHardware memory_card).exec .idle .fresh

/-- Write 1 to offset 0x10 of the 16 bytes of BAR 2. -/
def write_past_port : WDFREQUEST where
  code := IOCTL_MOTU424_WRITE_REG
  input := [2, 0, 0, 0, 0x10, 0, 0, 0, 1, 0, 0, 0]
  output_length := 0

theorem write_past_port_touches (env : Env) (m : Machine) :
    Touches env m (ioctl_switch write_past_port) [(.port, 0x10)] :=
  ioctl_write_reg_touches write_past_port.input

theorem parsed_memory_card : (parsed .idle .fresh memory_card).bar_len .port = 16 := by decide

theorem prepared_bar2_len : prepared.bar_len .port = 16 := by
  rw [prepared, prepare_bar_len idle_prepare_memory_card, parsed_memory_card]

/-- On a prepared device a user can write past the end of a BAR. -/
theorem write_past_port_outside :
    (EvtDevicePrepareHardware memory_card).eval .idle .fresh = STATUS_SUCCESS ∧
    ¬ StaysInside prepared write_past_port ((EvtIoDeviceControl write_past_port).eval .idle prepared.machine)
      (((EvtIoDeviceControl write_past_port).exec .idle prepared.machine).since prepared.machine) := by
  refine ⟨idle_prepare_memory_card, ?_⟩
  rintro ⟨hinside, _⟩
  rw [EvtIoDeviceControl_touches (write_past_port_touches _ _)] at hinside
  obtain ⟨_, hholds⟩ := hinside (.port, 0x10) (by simp)
  rw [prepared_bar2_len] at hholds
  exact absurd hholds (by decide)

end motu424.wdf
