import Motu424.GenerateDsp.Capture
import Motu424.ConvertGolden.Lost
import Motu424.Init.Replay
import Mathlib.Data.List.Forall2

open Program PyText
open motu424.vfio_trace motu424.convert_golden

namespace motu424.generate_dsp

/-- The entry that the converter makes of a captured write. -/
def entry (write : Nat × Nat) : Entry := (0, write.1, write.2)

section call

variable (write : Nat × Nat)

theorem call_eq : call write = "    write_reg(fd, 0, 0x".toList ++ hex_text write.1 ++ ", ".toList ++
    ("0x".toList ++ hex_text write.2) ++ ");".toList := (rfl)

theorem one_line_call : OneLine (call write) ∧ call write ≠ [] := by
  have hdigits (c : Char) (hdigit : ∀ d < 16, d.digitChar ≠ c) : c ∉ hex_text write.1 ∧ c ∉ hex_text write.2 :=
    ⟨not_mem_hex_text hdigit, not_mem_hex_text hdigit⟩
  obtain ⟨hnewline, hnewline'⟩ := hdigits '\n' (by decide)
  obtain ⟨hreturn, hreturn'⟩ := hdigits '\r' (by decide)
  have hmem : '\n' ∉ call write ∧ '\r' ∉ call write := by
    rw [call_eq]
    constructor
    · simp [hnewline, hnewline']
    · simp [hreturn, hreturn']
  refine ⟨fun c hc => ⟨?_, ?_⟩, List.cons_ne_nil _ _⟩
  · rintro rfl
    exact hmem.1 hc
  · rintro rfl
    exact hmem.2 hc

theorem spaced_cons {blank : Char → Bool} {blanks word mid rest : List Char} {words : List (List Char)}
    (hblanks : ∀ c ∈ blanks, blank c = true) (hwords : Spaced blank words mid rest) :
    Spaced blank (word :: words) (blanks ++ (word ++ mid)) rest := ⟨blanks, mid, hblanks, rfl, hwords⟩

/-- The call is one of literals, whatever follows it. -/
theorem literal_call (rest : List Char) : LiteralCall (call write ++ rest) "0".toList
    ("0x".toList ++ hex_text write.1) ("0x".toList ++ hex_text write.2) where
  is_bar := ⟨by decide, List.all_eq_true.mp (by decide)⟩
  is_offset := ⟨hex_text write.1, hex_text_ne_nil, is_hexadecimal_hex_text, rfl⟩
  is_value := ⟨hex_text write.2, hex_text_ne_nil, is_hexadecimal_hex_text, rfl⟩
  call := by
    have hname : "    write_reg(fd, 0, 0x".toList = "    ".toList ++ ("write_reg".toList ++ ("(".toList ++
        ("fd".toList ++ (",".toList ++ (" ".toList ++
          ("0".toList ++ (",".toList ++ (" ".toList ++ "0x".toList)))))))) := by
      decide
    have hcomma : ", ".toList = ",".toList ++ " ".toList := by decide
    have hend : ");".toList = ")".toList ++ ";".toList := by decide
    have hline : call write ++ rest = "    ".toList ++ ("write_reg".toList ++ ([] ++ ("(".toList ++ ([] ++
        ("fd".toList ++ ([] ++ (",".toList ++ (" ".toList ++ ("0".toList ++ ([] ++ (",".toList ++ (" ".toList ++
        (("0x".toList ++ hex_text write.1) ++ ([] ++ (",".toList ++ (" ".toList ++
        (("0x".toList ++ hex_text write.2) ++ ([] ++ (")".toList ++ (";".toList ++ rest)))))))))))))))))))) := by
      rw [call_eq, hname, hcomma, hend]
      simp only [List.append_assoc, List.nil_append]
    have hblank : ∀ c ∈ " ".toList, is_space c = true := is_space_blank
    have hnone : ∀ c ∈ ([] : List Char), is_space c = true := List.forall_mem_nil _
    refine ⟨";".toList ++ rest, ?_⟩
    rw [hline, call_words]
    apply spaced_cons (List.all_eq_true.mp (by decide))
    apply spaced_cons hnone
    apply spaced_cons hnone
    apply spaced_cons hnone
    apply spaced_cons hblank
    apply spaced_cons hnone
    apply spaced_cons hblank
    apply spaced_cons hnone
    apply spaced_cons hblank
    exact spaced_cons hnone rfl

/-- The converter makes one entry of it. -/
theorem parse_call (rest : List Char) :
    parse_write_reg_line (call write ++ rest) = .ok (some (entry write)) := by
  have hentry : literal_entry "0".toList ("0x".toList ++ hex_text write.1) ("0x".toList ++ hex_text write.2) =
      entry write := by
    have hbar : number 10 decimal "0".toList = 0 := by decide
    have hdrop (digits : List Char) : ("0x".toList ++ digits).drop 2 = digits := rfl
    rw [literal_entry, hbar, int_hexadecimal, int_hexadecimal, hdrop, hdrop, number_hex_text, number_hex_text, entry]
  rw [parse_literal_call (literal_call write rest), if_neg (by decide), hentry]

end call

/-- Lines that give one entry each. -/
theorem found_calls {texts : List (List Char)} {writes : List (Nat × Nat)}
    (htexts : List.Forall₂ (fun line write => parse_write_reg_line line = .ok (some (entry write))) texts writes) :
    (∀ line ∈ texts, Parses line) ∧ texts.flatMap found = writes.map entry := by
  induction htexts with
  | nil => exact ⟨List.forall_mem_nil _, rfl⟩
  | cons hline _ ih =>
    refine ⟨List.forall_mem_cons.mpr ⟨⟨_, hline⟩, ih.1⟩, ?_⟩
    rw [List.flatMap_cons, found_of_parse hline, ih.2]
    rfl

/-- A generated file of calls. -/
def golden_text (writes : List (Nat × Nat)) : List Char := List.intercalate ['\n'] (writes.map call)

/-- Its lines give the entries of its calls. -/
theorem found_golden_text (writes : List (Nat × Nat)) :
    (∀ line ∈ (InputFile.text (golden_text writes)).lines, Parses line) ∧
      (InputFile.text (golden_text writes)).lines.flatMap found = writes.map entry := by
  have htexts : ∀ text ∈ writes.map call, OneLine text ∧ text ≠ [] := by
    intro text htext
    obtain ⟨write, -, rfl⟩ := List.mem_map.mp htext
    exact one_line_call write
  have hlines := List.forall₂_map_right_iff.mp (file_lines_intercalate htexts)
  exact found_calls (hlines.imp fun line write hline => by
    rcases hline with rfl | rfl
    · rw [← List.append_nil (call write)]
      exact parse_call write []
    · exact parse_call write ['\n'])

/-- Generated files convert to the writes of their calls. -/
theorem convert_calls (files : List (List (Nat × Nat))) :
    convert_files (files.map fun writes => .text (golden_text writes)) [] = .ok (files.flatten.map entry) := by
  have hreadable : ∀ file ∈ files.map fun writes => InputFile.text (golden_text writes), file.Readable := by
    intro file hfile
    obtain ⟨writes, -, rfl⟩ := List.mem_map.mp hfile
    trivial
  have hparses : ∀ line ∈ all_lines (files.map fun writes => .text (golden_text writes)), Parses line := by
    intro line hline
    obtain ⟨file, hfile, hmem⟩ := List.mem_flatMap.mp hline
    obtain ⟨writes, -, rfl⟩ := List.mem_map.mp hfile
    exact (found_golden_text writes).1 line hmem
  have hfound : (all_lines (files.map fun writes => .text (golden_text writes))).flatMap found =
      files.flatten.map entry := by
    rw [all_lines, List.flatMap_assoc, List.flatMap_map, List.map_flatten, List.flatten_eq_flatMap, List.flatMap_map]
    exact List.flatMap_congr fun writes _ => (found_golden_text writes).2
  rw [convert_files_eq_ok_iff, hfound, List.nil_append]
  exact ⟨hreadable, hparses, rfl⟩

/-- The captured writes have words of 32 bits. -/
theorem captured_words {log : List LogLine} {write : Nat × Nat} (hwrite : write ∈ captured log) :
    write.1 < 2 ^ 32 ∧ write.2 < 2 ^ 32 := by
  obtain ⟨line, -, hline⟩ := List.mem_filterMap.mp hwrite
  cases line with
  | other line one_line foreign => cases hline
  | traced access legible =>
    cases access with
    | read bar offset value size => cases hline
    | write bar offset value size =>
      cases bar with
      | succ bar => cases hline
      | zero =>
        cases hline
        exact legible.words _ _ _ rfl

/-- Something is captured as soon as the first word of the DSP is written. -/
theorem captured_ne_nil {log : List LogLine} (hopens : ∃ line ∈ log, line.Opens) : captured log ≠ [] := by
  induction log with
  | nil =>
    obtain ⟨line, hmem, -⟩ := hopens
    cases hmem
  | cons line log ih =>
    rw [captured, List.dropWhile_cons]
    by_cases hline : line.Opens
    · have hcloses : ¬ line.Closes := by
        intro hcloses
        cases hline.symm.trans hcloses
      rw [if_neg (by simpa using hline), through, if_neg hcloses, List.filterMap_cons_some hline]
      exact List.cons_ne_nil _ _
    · rw [if_pos (by simpa using hline)]
      apply ih
      obtain ⟨line', hmem, hopens⟩ := hopens
      rcases List.mem_cons.mp hmem with rfl | hmem
      · exact absurd hopens hline
      · exact ⟨line', hmem, hopens⟩

/-- The register write that the driver makes of a captured one: at the same place in
BAR0, with the value relocated to its own buffer. -/
def replayed (c : motu424_ctx) (write : Nat × Nat) : Event :=
  .write .dsp (c.base .dsp) (BitVec.ofNat 32 write.1) (motu424_translate_dma c (BitVec.ofNat 32 write.2))

/-- What was captured of a card is what the driver replays: from the log of the
accesses through the two generators of the init sequence, every write to BAR0 of the
DSP upload is made again, in order, and nothing else. -/
theorem driver_replays_capture (env : Env) (m : Machine) (address : PciAddress) (log : List LogLine)
    (hopens : ∃ line ∈ log, line.Opens) :
    ∃ blob, convert [.text (golden_dsp (log_text address log))] = .ok blob ∧
      (motu424_replay_sequence (some blob)).eval env m = 0 ∧
      ∃ new, (motu424_replay_sequence (some blob)).exec env m = m.emit new ∧
        accesses new = (captured log).map (replayed m.ctx) := by
  have hne : (captured log).map entry ≠ [] := by simpa using captured_ne_nil hopens
  have hgolden : ∀ e ∈ (captured log).map entry, IsGolden e := by
    intro e he
    obtain ⟨write, hwrite, rfl⟩ := List.mem_map.mp he
    exact ⟨Nat.zero_le 2, captured_words hwrite⟩
  obtain ⟨blob, hblob, hok, new, hexec, hnew⟩ := replay_golden_entries env m hne hgolden
  refine ⟨blob, ?_, hok, new, hexec, ?_⟩
  · have hfiles := convert_calls [captured log]
    rw [List.flatten_singleton] at hfiles
    rw [convert, golden_dsp_eq, bind_eq_ok_iff]
    refine ⟨_, hfiles, ?_⟩
    rw [write_entries, hblob]
    rfl
  · apply (List.map_injective_iff.mpr (Option.some_injective _))
    rw [hnew, List.map_map, List.map_map]
    rfl

/-- A log of an upload of three words, with a read and a write to another BAR in it. -/
def short_upload : List LogLine := [
  .other "vfio_pci_write_config".toList (by decide) (by decide),
  .traced (.write 0 0x0 0x0 4) ⟨fun _ _ _ h => by cases h; decide, fun _ _ h => by cases h; decide⟩,
  .traced (.write 0 0x0 0x7ec582a 4) ⟨fun _ _ _ h => by cases h; decide, fun _ _ h => by cases h; decide⟩,
  .traced (.read 0 0x4 0x0 4) ⟨nofun, nofun⟩,
  .traced (.write 0 0x4 0x780006a 4) ⟨fun _ _ _ h => by cases h; decide, nofun⟩,
  .traced (.write 2 0x4 0x2 4) ⟨nofun, nofun⟩,
  .traced (.write 0 0xb44 0x30000890 4) ⟨fun _ _ _ h => by cases h; decide, nofun⟩,
  .traced (.write 0 0xb48 0x1 4) ⟨fun _ _ _ h => by cases h; decide, nofun⟩]

/-- The three words are replayed. -/
theorem short_upload_replayed :
    ∃ blob, convert [.text (golden_dsp (log_text ⟨0, 6, 1, 0⟩ short_upload))] = .ok blob ∧
      (motu424_replay_sequence (some blob)).eval .idle ⟨mapped_ctx, []⟩ = 0 ∧
      ∃ new, (motu424_replay_sequence (some blob)).exec .idle ⟨mapped_ctx, []⟩ =
          (⟨mapped_ctx, []⟩ : Machine).emit new ∧
        accesses new = [.write .dsp (some 0x1000) 0x0 0x7ec582a, .write .dsp (some 0x1000) 0x4 0x780006a,
          .write .dsp (some 0x1000) 0xb44 0x30000890] :=
  driver_replays_capture .idle ⟨mapped_ctx, []⟩ ⟨0, 6, 1, 0⟩ short_upload (by decide)

end motu424.generate_dsp
