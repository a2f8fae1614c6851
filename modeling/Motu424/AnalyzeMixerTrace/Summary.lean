import Motu424.AnalyzeMixerTrace

namespace motu424.analyze_mixer_trace

/-- The offsets that the tool attributes to the mixer. -/
def IsMixer (offset : Nat) : Prop := 0x6000 ≤ offset ∧ offset ≤ 0x10000

instance (offset : Nat) : Decidable (IsMixer offset) := inferInstanceAs (Decidable (_ ∧ _))

theorem mem_ranges_iff (range : MixerRange) :
    range ∈ MIXER_RANGES ↔ range = ⟨0x6000, 0x6FFF, "DSP mailbox/control"⟩ ∨
      range = ⟨0x7000, 0x7FFF, "DSP DMA engine"⟩ ∨ range = ⟨0x8000, 0x8400, "Mixer routing matrix"⟩ ∨
      range = ⟨0x8400, 0x10000, "Mixer parameters (volume/mute)"⟩ := by
  simp only [MIXER_RANGES, List.mem_cons, List.not_mem_nil, or_false]

/-- An offset of the mixer lies in one range, and 0x8400 in one more. -/
theorem countP_ranges (offset : Nat) : MIXER_RANGES.countP (·.Has offset) =
    (if IsMixer offset then 1 else 0) + if offset = 0x8400 then 1 else 0 := by
  simp only [MIXER_RANGES, List.countP_cons, List.countP_nil, decide_eq_true_iff]
  unfold MixerRange.Has IsMixer
  grind

theorem range_unique {offset : Nat} (hoffset : offset ≠ 0x8400) {range range' : MixerRange}
    (hrange : range ∈ MIXER_RANGES) (hrange' : range' ∈ MIXER_RANGES) (hhas : range.Has offset)
    (hhas' : range'.Has offset) : range = range' := by
  obtain ⟨hlow, hhigh⟩ := hhas
  obtain ⟨hlow', hhigh'⟩ := hhas'
  rw [mem_ranges_iff] at hrange hrange'
  rcases hrange with rfl | rfl | rfl | rfl <;> rcases hrange' with rfl | rfl | rfl | rfl <;>
    first | rfl | (exfalso; simp only at hlow hhigh hlow' hhigh'; omega)

theorem name_injective {range range' : MixerRange} (hrange : range ∈ MIXER_RANGES)
    (hrange' : range' ∈ MIXER_RANGES) (hname : range.name = range'.name) : range = range' := by
  have hnodup : (MIXER_RANGES.map MixerRange.name).Nodup := by decide
  exact List.inj_on_of_nodup_map hnodup hrange hrange' hname

theorem isMixer_of_has {offset : Nat} {range : MixerRange} (hrange : range ∈ MIXER_RANGES)
    (hhas : range.Has offset) : IsMixer offset := by
  have hbounds : ∀ range ∈ MIXER_RANGES, 0x6000 ≤ range.start ∧ range.end_ ≤ 0x10000 := by decide
  obtain ⟨hstart, hend⟩ := hbounds range hrange
  exact ⟨hstart.trans hhas.1, hhas.2.trans hend⟩

/-- The first range of an offset gives its name. -/
theorem exists_range_name {offset : Nat} (hmixer : IsMixer offset) :
    ∃ range ∈ MIXER_RANGES, range.Has offset ∧ get_range_name 0 offset = range.name := by
  cases hfind : MIXER_RANGES.find? (·.Has offset) with
  | none =>
    have hcount := countP_ranges offset
    rw [if_pos hmixer, List.countP_eq_zero.mpr (List.find?_eq_none.mp hfind)] at hcount
    omega
  | some range =>
    refine ⟨range, List.mem_of_find?_eq_some hfind, by simpa using List.find?_some hfind, ?_⟩
    rw [get_range_name, if_pos rfl, hfind]

theorem range_name_iff {offset : Nat} (hmixer : IsMixer offset) (hoffset : offset ≠ 0x8400)
    {range : MixerRange} (hrange : range ∈ MIXER_RANGES) :
    range.Has offset ↔ get_range_name 0 offset = range.name := by
  obtain ⟨first, hfirst, hhas, hname⟩ := exists_range_name hmixer
  rw [hname]
  constructor
  · exact fun hrange_has => congrArg _ (range_unique hoffset hfirst hrange hhas hrange_has)
  · intro heq
    rwa [← name_injective hfirst hrange heq]

def Print.range_count : Print → Option (MixerRange × Nat)
  | .range_writes range count => some (range, count)
  | _ => none

/-- The ranges that the summary shows, each with its count. -/
def range_counts (ops : List Op) : List (MixerRange × Nat) := (print_summary ops).filterMap Print.range_count

/-- The BAR0 writes to the mixer. -/
def mixer_writes (ops : List Op) : List Op :=
  (filter_by_bar (writes ops) 0).filter fun op => IsMixer op.offset

def sum : List Nat → Nat
  | [] => 0
  | n :: counts => n + sum counts

/-- The writes that the summary counts for a range. -/
def counted (ops : List Op) (range : MixerRange) : List Op :=
  filter_by_range (filter_by_bar (writes ops) 0) range.start range.end_

/-- The summary classifies each write to the mixer once, as `get_range_name` does. -/
structure Classified (ops : List Op) : Prop where
  total : sum ((range_counts ops).map Prod.snd) = (mixer_writes ops).length
  shown : ∀ range ∈ MIXER_RANGES, ∀ count, (range, count) ∈ range_counts ops ↔
    count ≠ 0 ∧ count = (mixer_writes ops).countP fun op => get_range_name op.bar op.offset = range.name
  named : ∀ op ∈ mixer_writes ops, ∀ range ∈ MIXER_RANGES,
    op ∈ counted ops range ↔ get_range_name op.bar op.offset = range.name

theorem mem_bar0_writes_iff (ops : List Op) (op : Op) :
    op ∈ filter_by_bar (writes ops) 0 ↔ op ∈ ops ∧ op.type = .write ∧ op.bar = 0 := by
  simp only [filter_by_bar, writes, List.mem_filter, decide_eq_true_eq, and_assoc]

theorem mem_mixer_writes_iff (ops : List Op) (op : Op) :
    op ∈ mixer_writes ops ↔ op ∈ filter_by_bar (writes ops) 0 ∧ IsMixer op.offset := by
  rw [mixer_writes, List.mem_filter, decide_eq_true_eq]

theorem mem_counted_iff (ops : List Op) (range : MixerRange) (op : Op) :
    op ∈ counted ops range ↔ op ∈ filter_by_bar (writes ops) 0 ∧ range.Has op.offset := by
  rw [counted, filter_by_range, List.mem_filter, decide_eq_true_eq, MixerRange.Has]

theorem length_counted (ops : List Op) (range : MixerRange) :
    (counted ops range).length = (filter_by_bar (writes ops) 0).countP fun op => range.Has op.offset :=
  List.countP_eq_length_filter.symm

/-- Something with its count, unless that is zero. -/
def nonzero {α : Type} (count : α → Nat) (a : α) : Option (α × Nat) :=
  if count a ≠ 0 then some (a, count a) else none

theorem sum_nonzero {α : Type} (count : α → Nat) (items : List α) :
    sum ((items.filterMap (nonzero count)).map Prod.snd) = sum (items.map count) := by
  induction items with
  | nil => rfl
  | cons a items ih =>
    rw [List.map_cons, sum, ← ih]
    by_cases hcount : count a ≠ 0
    · have hsome : nonzero count a = some (a, count a) := if_pos hcount
      rw [List.filterMap_cons_some hsome, List.map_cons, sum]
    · have hnone : nonzero count a = none := if_neg hcount
      rw [List.filterMap_cons_none hnone]
      omega

theorem mem_nonzero_iff {α : Type} (count : α → Nat) (items : List α) (a : α) (n : Nat) :
    (a, n) ∈ items.filterMap (nonzero count) ↔ a ∈ items ∧ n ≠ 0 ∧ n = count a := by
  rw [List.mem_filterMap]
  constructor
  · rintro ⟨b, hb, hsome⟩
    unfold nonzero at hsome
    split at hsome
    · cases hsome
      exact ⟨hb, ‹_›, rfl⟩
    · cases hsome
  · rintro ⟨ha, hn, rfl⟩
    exact ⟨a, ha, if_pos hn⟩

theorem range_lines_counts (ops : List Op) :
    (range_lines (filter_by_bar (writes ops) 0)).filterMap Print.range_count =
      MIXER_RANGES.filterMap (nonzero fun range => (counted ops range).length) := by
  rw [range_lines, List.filterMap_filterMap]
  apply List.filterMap_congr
  intro range _
  have hline : (if (counted ops range).length ≠ 0 then
      some (Print.range_writes range (counted ops range).length) else none).bind Print.range_count =
        nonzero (fun range => (counted ops range).length) range := by
    rw [nonzero]
    split <;> rfl
  exact hline

/-- Lines of which none shows a range. -/
theorem no_range_counts {α : Type} (items : List α) {line : α → Print}
    (hline : ∀ a, (line a).range_count = none) : (items.map line).filterMap Print.range_count = [] := by
  rw [List.filterMap_map, List.filterMap_eq_nil_iff]
  exact fun a _ => hline a

theorem bar_lines_counts (writes : List Op) : (bar_lines writes).filterMap Print.range_count = [] := by
  rw [bar_lines, List.filterMap_append, List.filterMap_cons_none rfl, no_range_counts _ fun _ => rfl]
  rfl

theorem bar1_lines_counts (bar1_writes : List Op) :
    (bar1_lines bar1_writes).filterMap Print.range_count = [] := by
  rw [bar1_lines]
  split
  · rw [List.filterMap_append, List.filterMap_cons_none rfl, no_range_counts _ fun _ => rfl]
    rfl
  · rfl

theorem bar0_lines_counts (bar0_writes : List Op) : (bar0_lines bar0_writes).filterMap Print.range_count =
    (range_lines bar0_writes).filterMap Print.range_count := by
  rw [bar0_lines]
  by_cases hnil : bar0_writes = []
  · rw [if_neg (not_not.mpr hnil), hnil]
    rfl
  · rw [if_pos hnil, List.filterMap_append, List.filterMap_cons_none rfl]
    exact List.append_nil _

/-- The summary shows the ranges with a count other than zero. -/
theorem range_counts_eq (ops : List Op) :
    range_counts ops = MIXER_RANGES.filterMap (nonzero fun range => (counted ops range).length) := by
  have hhead : (heading "  TRACE SUMMARY" ++ operation_lines ops).filterMap Print.range_count = [] := rfl
  rw [range_counts, print_summary, List.filterMap_append, List.filterMap_append, List.filterMap_append,
    hhead, bar_lines_counts, bar0_lines_counts, bar1_lines_counts, range_lines_counts, List.append_nil]
  rfl

/-- Over any list, the ranges count the writes to the mixer, and those at 0x8400
once more. -/
theorem sum_countP_ranges (ops : List Op) :
    sum (MIXER_RANGES.map fun range => ops.countP fun op => range.Has op.offset) =
      ops.countP (fun op => IsMixer op.offset) + ops.countP fun op => op.offset = 0x8400 := by
  induction ops with
  | nil => rfl
  | cons op ops ih =>
    have hop := countP_ranges op.offset
    simp only [MIXER_RANGES, List.map_cons, List.map_nil, sum, List.countP_cons, List.countP_nil,
      decide_eq_true_iff] at ih hop ⊢
    omega

theorem total_eq (ops : List Op) : sum ((range_counts ops).map Prod.snd) =
    (mixer_writes ops).length + (filter_by_bar (writes ops) 0).countP fun op => op.offset = 0x8400 := by
  rw [range_counts_eq, sum_nonzero]
  simp only [length_counted]
  rw [sum_countP_ranges, mixer_writes, List.countP_eq_length_filter]

/-- No BAR0 write hits the offset that two ranges share. -/
def OffBoundary (ops : List Op) : Prop :=
  ∀ op ∈ ops, op.type = .write → op.bar = 0 → op.offset ≠ 0x8400

theorem offBoundary_iff (ops : List Op) : OffBoundary ops ↔
    ((filter_by_bar (writes ops) 0).countP fun op => op.offset = 0x8400) = 0 := by
  rw [List.countP_eq_zero]
  constructor
  · intro hoff op hop
    obtain ⟨hmem, hwrite, hbar⟩ := (mem_bar0_writes_iff ops op).mp hop
    simpa using hoff op hmem hwrite hbar
  · intro hzero op hmem hwrite hbar
    simpa using hzero op ((mem_bar0_writes_iff ops op).mpr ⟨hmem, hwrite, hbar⟩)

section off_boundary

variable {ops : List Op} (hoff : OffBoundary ops) {range : MixerRange} (hrange : range ∈ MIXER_RANGES)
include hoff hrange

/-- Off the boundary, the range of a write is the one that it is counted under. -/
theorem has_iff_of_offBoundary {op : Op} (hop : op ∈ filter_by_bar (writes ops) 0) :
    range.Has op.offset ↔ IsMixer op.offset ∧ get_range_name op.bar op.offset = range.name := by
  obtain ⟨hmem, hwrite, hbar⟩ := (mem_bar0_writes_iff ops op).mp hop
  have hoffset := hoff op hmem hwrite hbar
  rw [hbar]
  constructor
  · intro hhas
    have hmixer := isMixer_of_has hrange hhas
    exact ⟨hmixer, (range_name_iff hmixer hoffset hrange).mp hhas⟩
  · rintro ⟨hmixer, hname⟩
    exact (range_name_iff hmixer hoffset hrange).mpr hname

theorem length_counted_of_offBoundary : (counted ops range).length =
    (mixer_writes ops).countP fun op => get_range_name op.bar op.offset = range.name := by
  rw [length_counted, mixer_writes, List.countP_filter]
  apply List.countP_congr
  intro op hop
  rw [decide_eq_true_iff, Bool.and_eq_true, decide_eq_true_iff, decide_eq_true_iff, and_comm]
  exact has_iff_of_offBoundary hoff hrange hop

end off_boundary

/-- The summary classifies the writes to the mixer once exactly when none of them
hits the boundary. -/
theorem print_summary_classifies_iff (ops : List Op) : Classified ops ↔ OffBoundary ops := by
  constructor
  · intro hclassified
    have htotal := hclassified.total
    rw [total_eq] at htotal
    rw [offBoundary_iff]
    omega
  · intro hoff
    refine ⟨?_, fun range hrange count => ?_, fun op hop range hrange => ?_⟩
    · rw [total_eq, (offBoundary_iff ops).mp hoff, Nat.add_zero]
    · rw [range_counts_eq, mem_nonzero_iff, length_counted_of_offBoundary hoff hrange]
      exact and_iff_right hrange
    · obtain ⟨hbar0, hmixer⟩ := (mem_mixer_writes_iff ops op).mp hop
      rw [mem_counted_iff, has_iff_of_offBoundary hoff hrange hbar0, and_iff_right hbar0, and_iff_right hmixer]

/-- A single write to the boundary is counted twice. -/
theorem boundary_write_counted_twice :
    ¬ Classified [⟨.write, "0000:06:01.0".toList, 0, 0x8400, 0x10, 4⟩] := by
  intro hclassified
  exact absurd hclassified.total (by decide)

end motu424.analyze_mixer_trace
