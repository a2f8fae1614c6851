import Motu424.Wdf.Mappings

open Program Ledger

namespace motu424.wdf

/-- A round of the framework: the translated resources, what `MmMapIoSpaceEx`
answers to the requests of this round, in order, and the rest of the outside. -/
structure HardwareCycle where
  resources : List (Option CmResource)
  answers : Nat → Option Nat
  outside : WdfEnv

/-- The outside during a round that starts on a device. -/
def HardwareCycle.env (cycle : HardwareCycle) (d : DEVICE_CONTEXT) : WdfEnv :=
  { cycle.outside with
    map_io := fun trace _ _ => cycle.answers (map_requests (trace.drop d.machine.trace.length)) }

/-- The ranges that the loop maps, from the request with this number on. -/
def granted (answers : Nat → Option Nat) : Nat → List (Option CmResource) → List (Nat × U32)
  | _, [] => []
  | k, some (.memory _ length) :: resources =>
    match answers k with
    | none => []
    | some base => (base, length) :: granted answers (k + 1) resources
  | k, none :: resources => granted answers k resources
  | k, some (.port _ _) :: resources => granted answers k resources
  | k, some .interrupt :: resources => granted answers k resources
  | k, some .other :: resources => granted answers k resources

theorem memory_count_cons_of_neg {resource : Option CmResource} (resources : List (Option CmResource))
    (hother : is_memory resource = false) : memory_count (resource :: resources) = memory_count resources :=
  List.countP_cons_of_neg (by simp [hother])

/-- A bound on the mapped ranges, in terms of the list and the answers. -/
theorem granted_length_le_iff (answers : Nat → Option Nat) (k n : Nat)
    (resources : List (Option CmResource)) :
    (granted answers k resources).length ≤ n ↔
      memory_count resources ≤ n ∨ ∃ i ≤ n, answers (k + i) = none := by
  induction resources generalizing k n with
  | nil => exact iff_of_true (Nat.zero_le n) (.inl (Nat.zero_le n))
  | cons resource resources ih =>
    match resource with
    | some (.memory start length) =>
      have hcount : memory_count (some (.memory start length) :: resources) = memory_count resources + 1 :=
        List.countP_cons_of_pos rfl
      cases hanswer : answers k with
      | none =>
        have hnil : granted answers k (some (.memory start length) :: resources) = [] := by
          simp only [granted, hanswer]
        rw [hnil]
        exact iff_of_true (Nat.zero_le n) (.inr ⟨0, Nat.zero_le n, hanswer⟩)
      | some base =>
        have hcons : granted answers k (some (.memory start length) :: resources) =
            (base, length) :: granted answers (k + 1) resources := by
          simp only [granted, hanswer]
        rw [hcons, hcount, List.length_cons]
        cases n with
        | zero =>
          apply iff_of_false (by omega)
          rintro (hle | ⟨i, hi, hnone⟩)
          · omega
          · rw [Nat.le_zero.mp hi, Nat.add_zero, hanswer] at hnone
            cases hnone
        | succ n =>
          rw [Nat.add_le_add_iff_right, Nat.add_le_add_iff_right, ih]
          apply or_congr_right
          constructor
          · rintro ⟨i, hi, hnone⟩
            exact ⟨i + 1, by omega, by rwa [show k + (i + 1) = k + 1 + i by omega]⟩
          · rintro ⟨i, hi, hnone⟩
            cases i with
            | zero =>
              rw [Nat.add_zero, hanswer] at hnone
              cases hnone
            | succ i => exact ⟨i, by omega, by rwa [show k + 1 + i = k + (i + 1) by omega]⟩
    | none =>
      rw [memory_count_cons_of_neg resources rfl]
      exact ih k n
    | some (.port start length) =>
      rw [memory_count_cons_of_neg resources rfl]
      exact ih k n
    | some .interrupt =>
      rw [memory_count_cons_of_neg resources rfl]
      exact ih k n
    | some .other =>
      rw [memory_count_cons_of_neg resources rfl]
      exact ih k n

/-- The place of a BAR among the memory ranges. -/
def bar_place : Bar → Nat
  | .dsp => 0
  | .reg => 1
  | .port => 2

/-- The ranges mapped so far are recorded as BARs as far as the slots go. -/
structure Recorded (mapped : List (Nat × U32)) (d : DEVICE_CONTEXT) : Prop where
  slot : ∀ bar, d.slot bar = mapped[bar_place bar]?
  base : ∀ bar, d.machine.ctx.base bar = (d.slot bar).map Prod.fst

theorem Recorded.keep {mapped : List (Nat × U32)} {d d' : DEVICE_CONTEXT} (hd : Recorded mapped d)
    (hslot : ∀ bar, d'.slot bar = d.slot bar)
    (hbase : ∀ bar, d'.machine.ctx.base bar = d.machine.ctx.base bar) : Recorded mapped d' where
  slot := fun bar => (hslot bar).trans (hd.slot bar)
  base := fun bar => by rw [hbase, hslot, hd.base]

theorem slot_eq_none_iff {d : DEVICE_CONTEXT} {bar : Bar} : d.slot bar = none ↔ d.bar_base bar = none :=
  Option.map_eq_none_iff

/-- With every base NULL nothing is recorded, and the other way round. -/
theorem recorded_nil_iff {d : DEVICE_CONTEXT} : Recorded [] d ↔ d.Unmapped := by
  constructor
  · intro hd bar
    have hslot : d.slot bar = none := hd.slot bar
    refine ⟨slot_eq_none_iff.mp hslot, ?_⟩
    rw [hd.base, hslot, Option.map_none]
  · intro hd
    constructor
    · intro bar
      exact slot_eq_none_iff.mpr (hd bar).1
    · intro bar
      rw [(hd bar).2, slot_eq_none_iff.mpr (hd bar).1, Option.map_none]

theorem assign_bar_slot (k base : Nat) (length : U32) (d : DEVICE_CONTEXT) (bar : Bar) :
    (assign_bar k base length d).slot bar = if bar_place bar = k then some (base, length) else d.slot bar := by
  match k with
  | 0 => cases bar <;> rfl
  | 1 => cases bar <;> rfl
  | 2 => cases bar <;> rfl
  | k + 3 => cases bar <;> exact (if_neg (by rw [bar_place]; omega)).symm

theorem assign_bar_base (k base : Nat) (length : U32) (d : DEVICE_CONTEXT) (bar : Bar) :
    (assign_bar k base length d).machine.ctx.base bar =
      if bar_place bar = k then some base else d.machine.ctx.base bar := by
  match k with
  | 0 => cases bar <;> rfl
  | 1 => cases bar <;> rfl
  | 2 => cases bar <;> rfl
  | k + 3 => cases bar <;> exact (if_neg (by rw [bar_place]; omega)).symm

/-- A further range goes into the next slot, while there is one. -/
theorem Recorded.assign {mapped : List (Nat × U32)} {d : DEVICE_CONTEXT} (hd : Recorded mapped d)
    (base : Nat) (length : U32) :
    Recorded (mapped ++ [(base, length)]) (assign_bar mapped.length base length d) where
  slot := fun bar => by
    rw [assign_bar_slot, hd.slot, List.getElem?_append]
    rcases Nat.lt_trichotomy (bar_place bar) mapped.length with hlt | heq | hgt
    · rw [if_neg (by omega), if_pos hlt]
    · rw [if_pos heq, if_neg (by omega), heq, Nat.sub_self]
      rfl
    · rw [if_neg (by omega), if_neg (by omega), List.getElem?_eq_none (by omega),
        List.getElem?_eq_none (by simp only [List.length_singleton]; omega)]
  base := fun bar => by
    rw [assign_bar_base, assign_bar_slot, hd.base]
    split <;> rfl

/-- The account of a round up to now, with the slots in step. -/
structure Maps (start : List Event) (mapped : List (Nat × U32)) (d : DEVICE_CONTEXT) : Prop where
  trace : ∃ new, d.machine.trace = start ++ new ∧ mappings new = mapped.map .take
  recorded : Recorded mapped d

theorem Maps.keep {start : List Event} {mapped : List (Nat × U32)} {d d' : DEVICE_CONTEXT}
    (hd : Maps start mapped d) (hsame : SameMappings d d') : Maps start mapped d' := by
  obtain ⟨⟨new, hnew, hmapped⟩, hrecorded⟩ := hd
  obtain ⟨more, hmore, hnone⟩ := hsame.trace
  refine ⟨⟨new ++ more, ?_, ?_⟩, hrecorded.keep hsame.slot hsame.base⟩
  · rw [hmore, hnew, List.append_assoc]
  · rw [mappings, List.filterMap_append]
    exact (congrArg₂ (· ++ ·) hmapped hnone).trans (List.append_nil _)

/-- The number of ranges that a round has asked for up to now. -/
def DEVICE_CONTEXT.asked (d : DEVICE_CONTEXT) (start : List Event) : Nat :=
  map_requests (d.machine.trace.drop start.length)

section parse

variable {d₀ : DEVICE_CONTEXT} {cycle : HardwareCycle} {mapped : List (Nat × U32)}

/-- What a request gets in a round. -/
theorem cycle_env_map_io (d : DEVICE_CONTEXT) (start : U64) (length : U32) :
    (cycle.env d₀).map_io d.machine.trace start length =
      cycle.answers (d.asked d₀.machine.trace) := rfl

theorem asked_emit {d : DEVICE_CONTEXT} {start new : List Event} (hnew : d.machine.trace = start ++ new)
    (events : List Event) :
    (d.emit events).asked start = d.asked start + map_requests events := by
  unfold DEVICE_CONTEXT.asked DEVICE_CONTEXT.emit
  rw [Machine.emit_trace, hnew, List.append_assoc, List.drop_left, List.drop_left, map_requests,
    List.countP_append]
  rfl

theorem asked_log {d : DEVICE_CONTEXT} (hd : Maps d₀.machine.trace mapped d) (level : LogLevel)
    (fmt : String) (args : List LogArg) :
    ((log level fmt args).exec (cycle.env d₀) d).asked d₀.machine.trace = d.asked d₀.machine.trace := by
  obtain ⟨new, hnew, _⟩ := hd.trace
  exact asked_emit hnew _

theorem Maps.record {d : DEVICE_CONTEXT} {first : List Event} (hd : Maps first mapped d)
    (base : Nat) (start : U64) (length : U32) :
    Maps first (mapped ++ [(base, length)]) (d.record mapped.length base start length) := by
  obtain ⟨⟨new, hnew, hmapped⟩, hrecorded⟩ := hd
  constructor
  · refine ⟨new ++ granted_events mapped.length base start length, ?_, ?_⟩
    · rw [DEVICE_CONTEXT.record, assign_bar_trace, DEVICE_CONTEXT.emit, Machine.emit_trace, hnew,
        List.append_assoc]
    · rw [mappings, List.filterMap_append, List.map_append]
      exact congrArg (· ++ [Entry.take (base, length)]) hmapped
  · apply Recorded.assign
    exact hrecorded.keep (fun bar => by cases bar <;> rfl) fun _ => rfl

theorem record_asked {d : DEVICE_CONTEXT} {first : List Event} (hd : Maps first mapped d)
    (base : Nat) (start : U64) (length : U32) :
    (d.record mapped.length base start length).asked first = d.asked first + 1 := by
  obtain ⟨new, hnew, _⟩ := hd.trace
  rw [DEVICE_CONTEXT.asked, DEVICE_CONTEXT.record, assign_bar_trace]
  exact asked_emit hnew _

/-- The loop maps what the answers grant, and records as much of it as there are
slots. -/
theorem parse_resources_maps (resources : List (Option CmResource)) {d : DEVICE_CONTEXT}
    (hd : Maps d₀.machine.trace mapped d) (hasked : d.asked d₀.machine.trace = mapped.length) :
    Maps d₀.machine.trace (mapped ++ granted cycle.answers mapped.length resources)
      ((parse_resources mapped.length resources).exec (cycle.env d₀) d) := by
  induction resources generalizing mapped d with
  | nil =>
    rw [granted, List.append_nil]
    exact hd
  | cons resource resources ih =>
    have hlog (level : LogLevel) (fmt : String) (args : List LogArg) :
        Maps d₀.machine.trace (mapped ++ granted cycle.answers mapped.length resources)
          ((parse_resources mapped.length resources).exec (cycle.env d₀)
            ((log level fmt args).exec (cycle.env d₀) d)) :=
      ih (hd.keep (KeepsMappings.log level fmt args d)) ((asked_log hd level fmt args).trans hasked)
    match resource with
    | some (.memory start length) =>
      have hanswer := @cycle_env_map_io d₀ cycle d start length
      rw [hasked] at hanswer
      cases hbase : cycle.answers mapped.length with
      | none =>
        rw [(parse_resources_refused (hanswer.trans hbase)).2, granted, hbase, List.append_nil]
        exact hd.keep (SameMappings.emit d rfl)
      | some base =>
        have hrest := ih (hd.record base start length)
          (by rw [record_asked hd, hasked, List.length_append, List.length_singleton])
        rw [List.length_append, List.length_singleton, List.append_assoc, List.singleton_append] at hrest
        rw [(parse_resources_granted (hanswer.trans hbase)).2, granted, hbase]
        exact hrest
    | none => exact ih hd hasked
    | some (.port start length) => exact hlog _ _ _
    | some .interrupt => exact hlog _ _ _
    | some .other => exact ih hd hasked

end parse

end motu424.wdf
