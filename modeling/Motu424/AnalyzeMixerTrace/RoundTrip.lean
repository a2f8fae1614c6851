import Motu424.AnalyzeMixerTrace.Diff
import Motu424.AnalyzeMixerTrace.Patterns

open PyText Regex
open motu424.vfio_trace

namespace motu424.analyze_mixer_trace

/-- The access that an operation stands for. -/
def Op.access (op : Op) : Access :=
  match op.type with
  | .write => .write op.bar op.offset op.value op.size
  | .read => .read op.bar op.offset op.value op.size

/-- The tool finds the accesses of a trace in its lines: the same ones in the same
order. -/
def ReadsBack (address : PciAddress) (accesses : List Access) : Prop :=
  ∃ ops, parse_trace (trace address accesses) = some ops ∧ ops.map Op.access = accesses

/-- Python converts the decimal numbers of the line. -/
def Convertible (access : Access) : Prop :=
  (dec_text access.bar).length ≤ max_str_digits ∧ (dec_text access.size).length ≤ max_str_digits

instance (access : Access) : Decidable (Convertible access) := inferInstanceAs (Decidable (_ ∧ _))

section line

variable {address : PciAddress} {access : Access}

theorem int_decimal_dec_text {n : Nat} (hn : (dec_text n).length ≤ max_str_digits) :
    int_decimal (dec_text n) = some n :=
  int_decimal_toDigits.trans (if_neg (Nat.not_lt.mpr hn))

theorem int_decimal_dec_text_long {n : Nat} (hn : ¬ (dec_text n).length ≤ max_str_digits) :
    int_decimal (dec_text n) = none :=
  int_decimal_toDigits.trans (if_pos (Nat.lt_of_not_le hn))

theorem int_base16_hex_text {n : Nat} : int_base16 (hex_text n) = n := int_base16_toDigits

/-- A line with a letter in its address is passed over. -/
theorem parse_line_letter (hletter : address.HasLetter) :
    parse_line (access.line address ++ ['\n']) = some none := by
  unfold parse_line
  rw [Access.strip_line]
  cases access with
  | write bar offset value size => simp only [write_line_first, write_line_not_read, if_pos hletter]; rfl
  | read bar offset value size => simp only [read_line_not_write, read_line_first, if_pos hletter]; rfl

/-- The two decimal numbers of a line. -/
theorem int_decimals {bar size : Nat} (op : Nat → Nat → Op) :
    (do
      let bar ← int_decimal (dec_text bar)
      let size ← int_decimal (dec_text size)
      pure (some (op bar size))) =
    if (dec_text bar).length ≤ max_str_digits ∧ (dec_text size).length ≤ max_str_digits
      then some (some (op bar size)) else none := by
  by_cases hbar : (dec_text bar).length ≤ max_str_digits
  · by_cases hsize : (dec_text size).length ≤ max_str_digits
    · rw [int_decimal_dec_text hbar, int_decimal_dec_text hsize, if_pos ⟨hbar, hsize⟩]
      rfl
    · rw [int_decimal_dec_text hbar, int_decimal_dec_text_long hsize, if_neg fun h => hsize h.2]
      rfl
  · rw [int_decimal_dec_text_long hbar, if_neg fun h => hbar h.1]
    rfl

/-- Any other line gives its access, unless Python does not convert a number. -/
theorem parse_line_no_letter (hletter : ¬ address.HasLetter) : ∃ op, op.access = access ∧
    parse_line (access.line address ++ ['\n']) = if Convertible access then some (some op) else none := by
  unfold parse_line
  rw [Access.strip_line]
  cases access with
  | write bar offset value size =>
    refine ⟨⟨.write, address.text, bar, offset, value, size⟩, rfl, ?_⟩
    simp only [write_line_first, if_neg hletter, int_base16_hex_text]
    exact int_decimals fun bar size => ⟨.write, address.text, bar, offset, value, size⟩
  | read bar offset value size =>
    refine ⟨⟨.read, address.text, bar, offset, value, size⟩, rfl, ?_⟩
    simp only [read_line_not_write, read_line_first, if_neg hletter, int_base16_hex_text]
    exact int_decimals fun bar size => ⟨.read, address.text, bar, offset, value, size⟩

end line

section run

variable {address : PciAddress} {access : Access} {accesses : List Access}

/-- A trace of one line. -/
theorem parse_trace_line :
    parse_trace (access.line address ++ ['\n']) = (parse_line (access.line address ++ ['\n'])).map Option.toList := by
  rw [parse_trace, file_lines_line (access.one_line address), parse_lines]
  cases parse_line (access.line address ++ ['\n']) with
  | none => rfl
  | some op => rfl

/-- The operation of the first line stands before those of the rest. -/
theorem parse_trace_cons : parse_trace (trace address (access :: accesses)) =
    (parse_line (access.line address ++ ['\n'])).bind fun op =>
      (parse_trace (trace address accesses)).map (op.toList ++ ·) := by
  have hcons : trace address (access :: accesses) = access.line address ++ '\n' :: trace address accesses := by
    simp [trace]
  rw [hcons, parse_trace_continued, parse_trace_line]
  cases parse_line (access.line address ++ ['\n']) with
  | none => rfl
  | some op => rfl

/-- Of a device with a letter in its address nothing is found. -/
theorem parse_trace_letter (hletter : address.HasLetter) (accesses : List Access) :
    parse_trace (trace address accesses) = some [] := by
  induction accesses with
  | nil => rfl
  | cons access accesses ih => rw [parse_trace_cons, parse_line_letter hletter, ih]; rfl

theorem parse_trace_reads_back (hletter : ¬ address.HasLetter) (hall : ∀ access ∈ accesses, Convertible access) :
    ReadsBack address accesses := by
  induction accesses with
  | nil => exact ⟨[], rfl, rfl⟩
  | cons access accesses ih =>
    obtain ⟨op, haccess, hline⟩ := @parse_line_no_letter address access hletter
    obtain ⟨ops, hops, hrest⟩ := ih fun access haccess => hall access (List.mem_cons_of_mem _ haccess)
    rw [if_pos (hall access List.mem_cons_self)] at hline
    refine ⟨op :: ops, ?_, ?_⟩
    · rw [parse_trace_cons, hline, hops]
      rfl
    · rw [List.map_cons, haccess, hrest]

/-- The first number that Python does not convert ends the run. -/
theorem parse_trace_inconvertible (hletter : ¬ address.HasLetter)
    (hlong : ∃ access ∈ accesses, ¬ Convertible access) : parse_trace (trace address accesses) = none := by
  induction accesses with
  | nil =>
    obtain ⟨access, hmem, _⟩ := hlong
    cases hmem
  | cons access accesses ih =>
    obtain ⟨op, _, hline⟩ := @parse_line_no_letter address access hletter
    rw [parse_trace_cons, hline]
    by_cases hfirst : Convertible access
    · obtain ⟨other, hmem, hother⟩ := hlong
      have hrest : other ∈ accesses := (List.mem_cons.mp hmem).resolve_left fun h => hother (h ▸ hfirst)
      rw [if_pos hfirst, ih ⟨other, hrest, hother⟩]
      rfl
    · rw [if_neg hfirst]
      rfl

/-- A trace with an access in it is lost when a letter stands in the address. -/
theorem trace_lost (hletter : address.HasLetter) (hne : accesses ≠ []) : ¬ ReadsBack address accesses := by
  rintro ⟨ops, hops, haccesses⟩
  rw [parse_trace_letter hletter] at hops
  cases hops
  exact hne haccesses.symm

end run

/-- The trace is read back exactly when there is no letter in the address, and no
decimal number that Python refuses. -/
theorem trace_read_back_iff (address : PciAddress) (accesses : List Access) :
    ReadsBack address accesses ↔
      accesses = [] ∨ (¬ address.HasLetter ∧ ∀ access ∈ accesses, Convertible access) := by
  constructor
  · intro hback
    by_cases hne : accesses = []
    · exact .inl hne
    · have hletter : ¬ address.HasLetter := fun hletter => trace_lost hletter hne hback
      refine .inr ⟨hletter, fun access hmem => ?_⟩
      by_contra hlong
      obtain ⟨ops, hops, _⟩ := hback
      rw [parse_trace_inconvertible hletter ⟨access, hmem, hlong⟩] at hops
      cases hops
  · rintro (rfl | ⟨hletter, hall⟩)
    · exact ⟨[], rfl, rfl⟩
    · exact parse_trace_reads_back hletter hall

/-- A card behind bus `0a`, and one write to it. -/
theorem bus_0a_lost : ¬ ReadsBack ⟨0, 0x0a, 0, 0⟩ [.write 0 0x8348 0x10203 4] :=
  trace_lost (by decide) (List.cons_ne_nil _ _)

end motu424.analyze_mixer_trace
