import Motu424.GenerateGolden
import Motu424.SmartReplay
import Motu424.Foundation.Regex.Field

open PyText Regex Stdio
open motu424.vfio_trace motu424.smart_replay

namespace motu424.generate_golden3

/-- A line of the trace, which fits into the buffer of the replayer. -/
structure TraceLine where
  access : Access
  fits : (access.line device).length + 1 < 256
  deriving DecidableEq

def TraceLine.text (line : TraceLine) : List Char := line.access.line device ++ ['\n']

def content (trace : List TraceLine) : List Char := trace.flatMap TraceLine.text

/-- What stands strictly between the line with the last word of the DSP and the first
line after it with the kickstart. -/
def between {α : Type} (text : α → List Char) (xs : List α) : List α :=
  ((xs.dropWhile fun x => ¬ StartsParsing (text x)).tail).takeWhile fun x => ¬ HitsKickstart (text x)

/-- The values that a call in `golden_sequence.c` passes, if it comes from a line of
the trace. -/
def OutputLine.triple : OutputLine → Option (U32 × U32 × U32)
  | write_reg bar offset val =>
    some (.ofNat 32 (number 10 PyText.decimal bar), .ofNat 32 (int_hexadecimal offset), .ofNat 32 (int_hexadecimal val))
  | _ => none

/-- The generator emits the writes that the replayer scans. -/
def ReadAlike (trace : List TraceLine) : Prop :=
  (generate (content trace)).filterMap OutputLine.triple =
    (between id (trace_lines (content trace))).filterMap scan_write

/-- The numbers have the widths that the trace event has for them. -/
structure MachineWords (bar offset value size : Nat) : Prop where
  bar_lt : bar < 0x80000000
  offset_lt : offset < 0x10000000000000000
  value_lt : value < 0x10000000000000000
  size_lt : size < 0x100000000

/-- What is printed for them fits into the buffer, so every access is a line of some
trace. -/
theorem MachineWords.fits {bar offset value size : Nat} (hwords : MachineWords bar offset value size) :
    ((Access.write bar offset value size).line device).length + 1 < 256 ∧
    ((Access.read bar offset value size).line device).length + 1 < 256 := by
  obtain ⟨hbar, hoffset, hvalue, hsize⟩ := hwords
  have hbar : (dec_text bar).length ≤ 10 := (Nat.length_toDigits_le_iff (by decide) (by decide)).mpr (by omega)
  have hsize : (dec_text size).length ≤ 10 := (Nat.length_toDigits_le_iff (by decide) (by decide)).mpr (by omega)
  have hoffset : (hex_text offset).length ≤ 16 := (Nat.length_toDigits_le_iff (by decide) (by decide)).mpr (by omega)
  have hvalue : (hex_text value).length ≤ 16 := (Nat.length_toDigits_le_iff (by decide) (by decide)).mpr (by omega)
  rw [write_line, read_line, region_text, region_text, device_text]
  simp
  omega

section search

variable {bar offset : Nat} {tail : List Char} {name rest : List Char} {regexes : List Regex}

/-- The class that the patterns have for the address stops at its first colon. -/
theorem region_first :
    (concat (lit name :: region regexes)).first (name ++ region_text device bar offset tail) = none := by
  have hparen : Delimits is_space "(".toList := ⟨_, _, rfl, by decide⟩
  have hcolon : Delimits (· ≠ ':') (":".toList) := ⟨_, _, rfl, by decide⟩
  have hreject : Rejects (· ≠ ':') (lit ":region".toList) := Rejects.lit (by decide)
  have hspaces : "  (".toList = "  ".toList ++ "(".toList := by decide
  have hdomain : ∀ c ∈ "0000".toList, decide (c ≠ ':') = true := List.all_eq_true.mp (by decide)
  have hdevice : device.text = "0000".toList ++ (":".toList ++ '0' :: "6:01.0".toList) := by decide
  have hregion : ":region".toList = ":".toList ++ 'r' :: "egion".toList := by decide
  rw [first, concat, results_lit_seq, region, concat, concat, concat, concat, region_text, hspaces, List.append_assoc,
    results_plus_lit_seq hparen (by decide) is_space_blanks, hdevice, List.append_assoc, List.append_assoc,
    results_plus_seq hreject.seq (by decide) hdomain hcolon.stops, hregion, List.cons_append,
    results_lit_seq_of_differ (by decide), List.head?_nil]

theorem region_text_append :
    region_text device bar offset tail ++ rest = region_text device bar offset (tail ++ rest) := by
  simp [region_text]

/-- Neither pattern matches at the start of a line. -/
theorem first_line (access : Access)
    (hname : name = "vfio_region_write".toList ∨ name = "vfio_region_read".toList) :
    (concat (lit name :: region regexes)).first (access.line device ++ ['\n']) = none := by
  cases access with
  | write bar offset value size =>
    rw [write_line, List.append_assoc, region_text_append]
    rcases hname with rfl | rfl
    · exact region_first
    · rw [write_name, read_name, List.append_assoc, List.cons_append]
      exact first_lit_of_differ (by decide)
  | read bar offset value size =>
    rw [read_line, List.append_assoc, region_text_append]
    rcases hname with rfl | rfl
    · rw [write_name, read_name, List.append_assoc, List.cons_append]
      exact first_lit_of_differ (by decide)
    · exact region_first

/-- Nor anywhere else: the name of the event stands nowhere else. -/
theorem search_line (access : Access)
    (hname : name = "vfio_region_write".toList ∨ name = "vfio_region_read".toList) :
    (concat (lit name :: region regexes)).search (access.line device ++ ['\n']) = none := by
  have hfirst := @first_line name regexes access hname
  have hfields : 'v' ∉ access.fields device := access.not_mem_fields device (by decide) (by decide)
  obtain ⟨tail, htail, hmem⟩ : ∃ tail, access.name = 'v' :: tail ∧ 'v' ∉ tail := by
    cases access with
    | write => exact ⟨"fio_region_write".toList, rfl, by decide⟩
    | read => exact ⟨"fio_region_read".toList, rfl, by decide⟩
  obtain ⟨word, hword⟩ : ∃ word, name = 'v' :: word := by
    rcases hname with rfl | rfl
    · exact ⟨_, rfl⟩
    · exact ⟨_, rfl⟩
  have hrest : 'v' ∉ tail ++ access.fields device ++ ['\n'] := by
    simp only [List.mem_append, not_or]
    exact ⟨⟨hmem, hfields⟩, by decide⟩
  rw [Access.line, htail, List.cons_append, List.cons_append] at hfirst ⊢
  rw [search, hfirst, hword, concat, search_lit_seq_of_not_mem hrest, Option.or_none]

theorem write_output_line (line : TraceLine) : write_output line.text = [] := by
  rw [write_output, write_pattern, TraceLine.text, search_line line.access (.inl rfl)]

theorem read_output_line (line : TraceLine) : read_output line.text = [] := by
  rw [read_output, read_pattern, TraceLine.text, search_line line.access (.inr rfl)]

end search

/-- So the loop adds nothing but the kickstart. -/
theorem generate_lines_triples (start_parsing : Bool) (trace : List TraceLine) (output : List OutputLine) :
    (generate_lines start_parsing (trace.map TraceLine.text) output).filterMap OutputLine.triple =
      output.filterMap OutputLine.triple := by
  induction trace generalizing start_parsing output with
  | nil => rfl
  | cons line trace ih =>
    rw [List.map_cons, generate_lines, write_output_line, read_output_line, List.append_nil, List.append_nil]
    by_cases hstart : StartsParsing line.text
    · rw [if_pos hstart, ih]
    · rw [if_neg hstart]
      by_cases hparsing : start_parsing = true
      · rw [if_pos hparsing]
        by_cases hkick : HitsKickstart line.text
        · rw [if_pos hkick, List.filterMap_append]
          exact List.append_nil _
        · rw [if_neg hkick, ih]
      · rw [if_neg hparsing, ih]

theorem content_cons (line : TraceLine) (trace : List TraceLine) :
    content (line :: trace) = line.access.line device ++ '\n' :: content trace := by
  simp [content, TraceLine.text]

theorem file_lines_content (trace : List TraceLine) :
    lines (universal_newlines (content trace)) = trace.map TraceLine.text := by
  induction trace with
  | nil => rfl
  | cons line trace ih =>
    rw [content_cons, file_lines_append, file_lines_line (line.access.one_line device), ih]
    rfl

/-- No line is cut, as all of them fit into the buffer. -/
theorem trace_lines_content (trace : List TraceLine) :
    trace_lines (content trace) = trace.map TraceLine.text := by
  induction trace with
  | nil => rfl
  | cons line trace ih =>
    have hline : '\n' ∉ line.access.line device := fun hmem => (line.access.one_line device _ hmem).1 rfl
    have hfits : ([] : List Char).length + (line.access.line device).length + 1 < 256 := by
      have hfits := line.fits
      simpa using hfits
    rw [trace_lines] at ih ⊢
    rw [content_cons, fgets_lines_line hline hfits, ih]
    rfl

theorem between_map (trace : List TraceLine) :
    between id (trace.map TraceLine.text) = (between TraceLine.text trace).map TraceLine.text := by
  rw [between, between, List.dropWhile_map, ← List.map_tail, List.takeWhile_map]
  rfl

/-- The replayer scans a triple from a line exactly when it is a write. -/
theorem scan_write_eq_none_iff (line : TraceLine) : scan_write line.text = none ↔ ¬ line.access.IsWrite := by
  obtain ⟨access, _⟩ := line
  cases access with
  | write bar offset value size => simp [TraceLine.text, scan_write_write, Access.IsWrite]
  | read bar offset value size => simp [TraceLine.text, scan_write_read, Access.IsWrite]

/-- All that the replayer scans is missing from the output. -/
theorem read_alike_iff_scans_nothing (trace : List TraceLine) :
    ReadAlike trace ↔ ∀ line ∈ between TraceLine.text trace, scan_write line.text = none := by
  rw [ReadAlike, generate, file_lines_content, generate_lines_triples, trace_lines_content, between_map,
    List.filterMap_nil, eq_comm, List.filterMap_eq_nil_iff, List.forall_mem_map]

/-- The generator and the replayer agree exactly when there is nothing to agree on. -/
theorem read_alike_iff (trace : List TraceLine) :
    ReadAlike trace ↔ ∀ line ∈ between TraceLine.text trace, ¬ line.access.IsWrite := by
  rw [read_alike_iff_scans_nothing]
  simp only [scan_write_eq_none_iff]

/-- A write to the control register. -/
def control_write : TraceLine := ⟨.write 1 0x8 0x1 4, by decide⟩

/-- The last word of the DSP, the write to the control register, and the kickstart. -/
def control_trace : List TraceLine :=
  [⟨.write 0 0xb44 0x30000890 4, by decide⟩, control_write, ⟨.write 1 0x8 0x10914221 4, by decide⟩]

/-- The write to the control register is lost. -/
theorem control_write_lost : ¬ ReadAlike control_trace := by
  have hbetween : between TraceLine.text control_trace = [control_write] := by decide +kernel
  rw [read_alike_iff_scans_nothing, hbetween]
  intro hnone
  have hscan := hnone control_write List.mem_cons_self
  rw [TraceLine.text, control_write, scan_write_write] at hscan
  cases hscan

end motu424.generate_golden3
