import Motu424.GenerateDsp
import Motu424.VfioTrace
import Motu424.Foundation.Occurrence
import Motu424.Foundation.Regex.Field

open PyText Regex Occurrence
open motu424.vfio_trace
open motu424.convert_golden (hexadecimal_literal)

namespace motu424.generate_dsp

/-- The words of a BAR0 write have 32 bits, and no first word is one that goes on
after the digits of the first word of the DSP. -/
structure Legible (access : Access) : Prop where
  words : ∀ offset value size, access = .write 0 offset value size → offset < 2 ^ 32 ∧ value < 2 ^ 32
  first_word : ∀ value size, access = .write 0 0 value size → value / 16 ≠ 0x7ec582a

/-- A line of the log: a traced access, or something that names no BAR0. -/
inductive LogLine where
  | traced (access : Access) (legible : Legible access)
  | other (line : List Char) (one_line : OneLine line) (foreign : ¬ "region0".toList <:+: line)

def LogLine.text (address : PciAddress) : LogLine → List Char
  | traced access _ => access.line address ++ ['\n']
  | other line _ _ => line ++ ['\n']

def log_text (address : PciAddress) (log : List LogLine) : List Char := log.flatMap (LogLine.text address)

/-- The offset and the value of a write to BAR0. -/
def LogLine.bar0_write : LogLine → Option (Nat × Nat)
  | traced (.write 0 offset value _) _ => some (offset, value)
  | _ => none

/-- The write of the first word of the DSP. -/
def LogLine.Opens (line : LogLine) : Prop := line.bar0_write = some (0x0, 0x7ec582a)

instance (line : LogLine) : Decidable line.Opens := inferInstanceAs (Decidable (_ = _))

/-- The write of its last word. -/
def LogLine.Closes (line : LogLine) : Prop := line.bar0_write = some (0xb44, 0x30000890)

instance (line : LogLine) : Decidable line.Closes := inferInstanceAs (Decidable (_ = _))

/-- A list up to its first element with the property, and that element. -/
def through {α : Type} (p : α → Prop) [DecidablePred p] : List α → List α
  | [] => []
  | x :: xs => if p x then [x] else x :: through p xs

/-- The writes to BAR0 from the first word of the DSP on, up to its last word. -/
def captured (log : List LogLine) : List (Nat × Nat) :=
  (through LogLine.Closes (log.dropWhile fun line => ¬ line.Opens)).filterMap LogLine.bar0_write

/-- The marker of a word of the DSP. -/
def marker (offset value : List Char) : List Char :=
  "region0".toList ++ '+' :: ("0x".toList ++ (offset ++ ',' :: (" 0x".toList ++ value)))

theorem first_marker : "region0+0x0, 0x7ec582a".toList = marker "0".toList "7ec582a".toList := by decide

theorem last_marker : "region0+0xb44, 0x30000890".toList = marker "b44".toList "30000890".toList := by decide

section markers

variable {address : PciAddress} {c : Char}

theorem not_mem_address (hdigit : ∀ d < 16, d.digitChar ≠ c) (hcolon : c ≠ ':') (hdot : c ≠ '.') :
    c ∉ address.text := by
  simp only [PciAddress.text, List.flatten_cons, List.flatten_nil, List.mem_append, not_or]
  exact ⟨not_mem_padded_hex_text hdigit, by simpa using hcolon, not_mem_padded_hex_text hdigit, by simpa using hcolon,
    not_mem_padded_hex_text hdigit, by simpa using hdot, not_mem_hex_text hdigit, List.not_mem_nil⟩

/-- What a line shows of its access, split at the marks. -/
theorem region_text_eq (bar offset : Nat) (rest : List Char) : region_text address bar offset rest =
    ("  (".toList ++ (address.text ++ ":regio".toList)) ++ 'n' ::
      (dec_text bar ++ '+' :: ("0x".toList ++ (hex_text offset ++ ',' :: rest))) := by
  have hregion : ":region".toList = ":regio".toList ++ ['n'] := by decide
  have hplus : "+0x".toList = '+' :: "0x".toList := by decide
  have hcomma : ",".toList = [','] := by decide
  rw [region_text, hregion, hplus, hcomma]
  simp

theorem dec_text_eq_zero {bar : Nat} : "0".toList = dec_text bar ↔ bar = 0 := by
  constructor
  · intro heq
    have hbar := @number_toDigits 10 bar decimal (by decide) decimal_digitChar
    rw [← dec_text, ← heq] at hbar
    exact hbar.symm
  · rintro rfl
    decide

theorem hex_text_inj {a b : Nat} : hex_text a = hex_text b ↔ a = b := by
  constructor
  · intro heq
    have hb := @int_base16_toDigits b
    rw [← hex_text, ← heq, hex_text, int_base16_toDigits] at hb
    exact hb
  · rintro rfl
    rfl

/-- A marker stands in a line with the name and these fields only at its one plus. -/
theorem marker_infix_iff {name o v rest : List Char} {bar offset : Nat} (hname : '+' ∉ name) (ho : ',' ∉ o)
    (hrest : '+' ∉ rest) :
    marker o v <:+: name ++ region_text address bar offset rest ↔
      bar = 0 ∧ o = hex_text offset ∧ " 0x".toList ++ v <+: rest := by
  have haddress : '+' ∉ address.text := not_mem_address (by decide) (by simp) (by simp)
  have hfront : '+' ∉ name ++ (("  (".toList ++ (address.text ++ ":regio".toList)) ++ 'n' :: dec_text bar) := by
    have hbar : '+' ∉ dec_text bar := not_mem_dec_text (by decide)
    simp [hname, haddress, hbar]
  have hback : '+' ∉ "0x".toList ++ (hex_text offset ++ ',' :: rest) := by
    have hoffset : '+' ∉ hex_text offset := not_mem_hex_text (by decide)
    simp [hoffset, hrest]
  have hsplit : name ++ region_text address bar offset rest =
      (name ++ (("  (".toList ++ (address.text ++ ":regio".toList)) ++ 'n' :: dec_text bar)) ++
        '+' :: ("0x".toList ++ (hex_text offset ++ ',' :: rest)) := by
    rw [region_text_eq]
    simp
  have hregion : "region0".toList = "regio".toList ++ 'n' :: "0".toList := by decide
  have hsuffix : "region0".toList <:+
      name ++ (("  (".toList ++ (address.text ++ ":regio".toList)) ++ 'n' :: dec_text bar) ↔
      bar = 0 := by
    have hbar : 'n' ∉ dec_text bar := not_mem_dec_text (by decide)
    rw [hregion, ← List.append_assoc, suffix_mark_iff hbar (by decide), dec_text_eq_zero]
    refine and_iff_right ⟨name ++ ("  (".toList ++ (address.text ++ ":".toList)), ?_⟩
    simp
  have hoffset : ',' ∉ hex_text offset := not_mem_hex_text (by decide)
  have hplus : '+' ∉ "region0".toList := by decide
  have hfields : "0x".toList ++ (o ++ ',' :: (" 0x".toList ++ v)) <+: "0x".toList ++ (hex_text offset ++ ',' :: rest) ↔
      o = hex_text offset ∧ " 0x".toList ++ v <+: rest :=
    (List.prefix_append_right_inj _).trans (prefix_mark_iff hoffset ho)
  rw [hsplit]
  refine (infix_mark_iff hfront hplus).trans ((or_iff_left ?_).trans (and_congr hsuffix hfields))
  exact not_infix_of_not_mem (by simp) hback

theorem marker_write_iff {o v : List Char} (ho : ',' ∉ o) (hv : ',' ∉ v) (bar offset value size : Nat) :
    marker o v <:+: (Access.write bar offset value size).line address ↔
      bar = 0 ∧ o = hex_text offset ∧ v <+: hex_text value := by
  have hcomma : ", ".toList = ',' :: " ".toList := by decide
  have hvalue : '+' ∉ hex_text value := not_mem_hex_text (by decide)
  have hsize : '+' ∉ dec_text size := not_mem_dec_text (by decide)
  have hrest : " 0x".toList ++ v <+:
      " 0x".toList ++ (hex_text value ++ (", ".toList ++ (dec_text size ++ ")".toList))) ↔
      v <+: hex_text value := by
    rw [hcomma, List.cons_append]
    exact (List.prefix_append_right_inj _).trans (prefix_before_mark_iff hv)
  rw [write_line]
  refine (marker_infix_iff (by decide) ho ?_).trans (and_congr_right fun _ => and_congr_right fun _ => hrest)
  simp [hvalue, hsize]

theorem not_marker_read {o v : List Char} (ho : ',' ∉ o) (bar offset value size : Nat) :
    ¬ marker o v <:+: (Access.read bar offset value size).line address := by
  have hvalue : '+' ∉ hex_text value := not_mem_hex_text (by decide)
  have hsize : '+' ∉ dec_text size := not_mem_dec_text (by decide)
  rw [read_line]
  intro hoccurs
  obtain ⟨-, -, hrest⟩ := (marker_infix_iff (by decide) ho (by simp [hvalue, hsize])).mp hoccurs
  -- The size that a read shows has no `x` after its first digit.
  have hx : 'x' ∉ " ".toList ++ (dec_text size ++ ") = 0".toList) := by
    have hsize : 'x' ∉ dec_text size := not_mem_dec_text (by decide)
    simp [hsize]
  have hshown : " ".toList ++ (dec_text size ++ (") = 0x".toList ++ hex_text value)) =
      (" ".toList ++ (dec_text size ++ ") = 0".toList)) ++ 'x' :: hex_text value := by simp
  have hword : " 0x".toList ++ v = " 0".toList ++ 'x' :: v := by simp
  rw [hshown, hword] at hrest
  have hlength := congrArg List.length ((prefix_mark_iff hx (by decide)).mp hrest).1
  simp at hlength

/-- The text of a marker stands in a line of the log when it stands before the newline. -/
theorem marker_infix_line {o v line : List Char} (ho : '\n' ∉ o) (hv : '\n' ∉ v) :
    marker o v <:+: line ++ ['\n'] ↔ marker o v <:+: line := by
  have hmarker : '\n' ∉ "region0".toList ++ '+' :: ("0x".toList ++ (o ++ ',' :: (" 0x".toList ++ v))) := by
    simp [ho, hv]
  exact infix_concat_iff_of_not_mem hmarker

end markers

section lines

variable {address : PciAddress}

theorem startsParsing_write_iff (bar offset value size : Nat) :
    StartsParsing ((Access.write bar offset value size).line address ++ ['\n']) ↔
      bar = 0 ∧ offset = 0 ∧ "7ec582a".toList <+: hex_text value := by
  have hzero : "0".toList = hex_text 0 := by decide
  rw [StartsParsing, first_marker]
  refine (marker_infix_line (by decide) (by decide)).trans ((marker_write_iff (by decide) (by decide) _ _ _ _).trans ?_)
  rw [hzero, hex_text_inj, @eq_comm _ 0 offset]

theorem stopsParsing_write_iff (bar offset value size : Nat) :
    StopsParsing ((Access.write bar offset value size).line address ++ ['\n']) ↔
      bar = 0 ∧ offset = 0xb44 ∧ "30000890".toList <+: hex_text value := by
  have hlast : "b44".toList = hex_text 0xb44 := by decide
  rw [StopsParsing, last_marker]
  refine (marker_infix_line (by decide) (by decide)).trans ((marker_write_iff (by decide) (by decide) _ _ _ _).trans ?_)
  rw [hlast, hex_text_inj, @eq_comm _ 0xb44 offset]

/-- The digits of a word of 32 bits. -/
theorem hex_text_length_le {value : Nat} (hvalue : value < 2 ^ 32) : (hex_text value).length ≤ 8 :=
  (Nat.length_toDigits_le_iff (by decide) (by decide)).mpr hvalue

theorem number_hex_text (value : Nat) : number 16 hexadecimal (hex_text value) = value :=
  number_toDigits (by decide) hexadecimal_digitChar

/-- Eight digits are the whole word. -/
theorem prefix_last_word {value : Nat} (hvalue : value < 2 ^ 32) :
    "30000890".toList <+: hex_text value ↔ value = 0x30000890 := by
  constructor
  · rintro ⟨rest, heq⟩
    have hlength := congrArg List.length heq
    have hle := hex_text_length_le hvalue
    rw [List.length_append] at hlength
    have hrest : rest = [] := List.eq_nil_of_length_eq_zero (by simp at hlength; omega)
    have hnumber := number_hex_text value
    rw [← heq, hrest] at hnumber
    rw [← hnumber]
    decide
  · rintro rfl
    exact ⟨[], by decide⟩

/-- Seven digits are the whole word, or an eighth follows. -/
theorem prefix_first_word {value : Nat} (hvalue : value < 2 ^ 32) (hshort : value / 16 ≠ 0x7ec582a) :
    "7ec582a".toList <+: hex_text value ↔ value = 0x7ec582a := by
  constructor
  · rintro ⟨rest, heq⟩
    have hlength := congrArg List.length heq
    have hle := hex_text_length_le hvalue
    have hnumber := number_hex_text value
    rw [List.length_append] at hlength
    match rest with
    | [] =>
      rw [← heq, List.append_nil] at hnumber
      rw [← hnumber]
      decide
    | [c] =>
      have hlarge : 0 < value / 16 := by
        by_contra hsmall
        have hdigits : (hex_text value).length = 1 := by
          rw [hex_text, Nat.toDigits_of_lt_base (by omega), List.length_singleton]
        rw [hdigits] at hlength
        simp at hlength
      have hlast := toDigits_append_digit (by decide : 1 < 16) hlarge (Nat.mod_lt value (by decide : 0 < 16))
      rw [Nat.div_add_mod] at hlast
      have hfront : hex_text 0x7ec582a = hex_text (value / 16) :=
        (List.append_inj' (heq.trans hlast) rfl).1
      exact absurd (hex_text_inj.mp hfront).symm hshort
    | _ :: _ :: _ =>
      simp at hlength
      omega
  · rintro rfl
    exact ⟨[], by decide⟩

theorem zero_prefix_dec_text {bar : Nat} : "0".toList <+: dec_text bar ↔ bar = 0 := by
  constructor
  · intro hprefix
    induction bar using digit_induction (by decide : 1 < 10) with
    | digit d hd =>
      rw [dec_text, Nat.toDigits_of_lt_base hd] at hprefix
      exact (by decide : ∀ d < 10, "0".toList <+: [d.digitChar] → d = 0) d hd hprefix
    | append n d hn hd ih =>
      rw [dec_text, toDigits_append_digit (by decide) hn hd] at hprefix
      have hshort : "0".toList.length ≤ (Nat.toDigits 10 n).length := Nat.length_toDigits_pos
      have hzero := ih (List.prefix_of_prefix_length_le hprefix (List.prefix_append _ _) hshort)
      omega
  · rintro rfl
    exact ⟨[], by decide⟩

/-- BAR0 is named in the line of a write to it only. -/
theorem region0_infix_write_iff (bar offset value size : Nat) :
    "region0".toList <:+: (Access.write bar offset value size).line address ++ ['\n'] ↔ bar = 0 := by
  have haddress : 'n' ∉ address.text := not_mem_address (by decide) (by simp) (by simp)
  have hmid : 'n' ∉ "_write  (".toList ++ (address.text ++ ":regio".toList) := by simp [haddress]
  have hregion : "region0".toList = "regio".toList ++ 'n' :: "0".toList := by decide
  have hline : (Access.write bar offset value size).line address =
      "vfio_regio".toList ++ 'n' :: (("_write  (".toList ++ (address.text ++ ":regio".toList)) ++ 'n' ::
        (dec_text bar ++ '+' :: ("0x".toList ++ (hex_text offset ++ ',' ::
          (" 0x".toList ++ (hex_text value ++ (", ".toList ++ (dec_text size ++ ")".toList)))))))) := by
    rw [write_line, region_text_eq]
    simp
  have hback : 'n' ∉ dec_text bar ++ '+' :: ("0x".toList ++ (hex_text offset ++ ',' ::
      (" 0x".toList ++ (hex_text value ++ (", ".toList ++ (dec_text size ++ ")".toList)))))) := by
    have hbar : 'n' ∉ dec_text bar := not_mem_dec_text (by decide)
    have hoffset : 'n' ∉ hex_text offset := not_mem_hex_text (by decide)
    have hvalue : 'n' ∉ hex_text value := not_mem_hex_text (by decide)
    have hsize : 'n' ∉ dec_text size := not_mem_dec_text (by decide)
    simp [hbar, hoffset, hvalue, hsize]
  rw [infix_concat_iff_of_not_mem (by decide), hline, hregion]
  refine (infix_mark_iff (by decide) (by decide)).trans
    ((or_iff_right ?_).trans ((infix_mark_iff hmid (by decide)).trans ?_))
  · rintro ⟨-, t, heq⟩
    simp at heq
  · rw [or_iff_left (not_infix_of_not_mem (by simp) hback), prefix_before_mark_iff (by decide), zero_prefix_dec_text]
    refine and_iff_right ⟨"_write  (".toList ++ (address.text ++ ":".toList), ?_⟩
    simp

/-- A read is no write. -/
theorem not_write_infix_read (bar offset value size : Nat) :
    ¬ "vfio_region_write".toList <:+: (Access.read bar offset value size).line address ++ ['\n'] := by
  have hfields : 'w' ∉ (Access.read bar offset value size).fields address :=
    Access.not_mem_fields address _ (by decide) (by decide)
  have hname : 'w' ∉ (Access.read bar offset value size).name := by
    change 'w' ∉ "vfio_region_read".toList
    decide
  apply @not_infix_of_not_mem _ 'w' _ _ (by decide)
  simp [Access.line, hfields, hname]

/-- The pattern finds the offset and the value of a write. -/
theorem search_write (bar offset value size : Nat) :
    ∃ rest, write_pattern.search ((Access.write bar offset value size).line address ++ ['\n']) =
      some ([hex_text offset, "0x".toList ++ hex_text value], rest) := by
  let front := "  (".toList ++ (address.text ++ (":region".toList ++ dec_text bar))
  let rest := ", ".toList ++ (dec_text size ++ (")".toList ++ ['\n']))
  have hline : (Access.write bar offset value size).line address ++ ['\n'] = "vfio_region_write".toList ++
      (front ++ ('+' :: "0x".toList ++
        (hex_text offset ++ (", ".toList ++ (("0x".toList ++ hex_text value) ++ rest))))) := by
    simp [write_line, region_text, front, rest]
  have hplus : '+' ∉ front := by
    have haddress : '+' ∉ address.text := not_mem_address (by decide) (by simp) (by simp)
    have hbar : '+' ∉ dec_text bar := not_mem_dec_text (by decide)
    simp [front, haddress, hbar]
  have hback : '+' ∉ "0x".toList ++
      (hex_text offset ++ (", ".toList ++ (("0x".toList ++ hex_text value) ++ rest))) := by
    have hoffset : '+' ∉ hex_text offset := not_mem_hex_text (by decide)
    have hvalue : '+' ∉ hex_text value := not_mem_hex_text (by decide)
    have hsize : '+' ∉ dec_text size := not_mem_dec_text (by decide)
    simp [rest, hoffset, hvalue, hsize]
  have hfront : ∀ c ∈ front, decide (c ≠ '\n') = true := by
    have haddress : '\n' ∉ address.text := not_mem_address (by decide) (by simp) (by simp)
    have hbar : '\n' ∉ dec_text bar := not_mem_dec_text (by decide)
    have hnewline : '\n' ∉ front := by simp [front, haddress, hbar]
    exact fun c hc => decide_eq_true fun heq => hnewline (heq ▸ hc)
  have hcomma : Delimits is_hexadecimal ", ".toList := ⟨_, _, rfl, by decide⟩
  have hliteral : (hexadecimal_literal.results (("0x".toList ++ hex_text value) ++ rest)).head? = some ([], rest) := by
    rw [hexadecimal_literal, List.append_assoc, results_lit_seq]
    exact plus_results_head hex_text_ne_nil is_hexadecimal_hex_text hcomma.stops
  have hfirst : write_pattern.first ((Access.write bar offset value size).line address ++ ['\n']) =
      some ([hex_text offset, "0x".toList ++ hex_text value], rest) := by
    have hmarker : "+0x".toList = '+' :: "0x".toList := by decide
    have hlast := first_group_empty hliteral
    rw [first] at hlast
    rw [first, write_pattern, hline, hmarker]
    simp only [concat]
    rw [results_lit_seq, results_star_lit_seq_once hfront hplus hback,
      results_group_plus_lit_seq hcomma hex_text_ne_nil is_hexadecimal_hex_text, List.head?_map, hlast]
    rfl
  obtain ⟨tail, htail⟩ : ∃ tail, (Access.write bar offset value size).line address ++ ['\n'] = 'v' :: tail := ⟨_, rfl⟩
  refine ⟨rest, ?_⟩
  rw [htail] at hfirst ⊢
  rw [search, hfirst, Option.some_or]

theorem write_output_write (bar offset value size : Nat) :
    write_output ((Access.write bar offset value size).line address ++ ['\n']) =
      if bar = 0 then [call_text (hex_text offset) ("0x".toList ++ hex_text value)] else [] := by
  have hwrite : "vfio_region_write".toList <:+: (Access.write bar offset value size).line address ++ ['\n'] :=
    ⟨[], _, by rw [List.nil_append, write_line, List.append_assoc]⟩
  obtain ⟨rest, hsearch⟩ := @search_write address bar offset value size
  by_cases hbar : bar = 0
  · have hboth := And.intro hwrite ((@region0_infix_write_iff address bar offset value size).mpr hbar)
    rw [if_pos hbar]
    refine (if_pos hboth).trans ?_
    rw [hsearch]
  · rw [if_neg hbar]
    exact if_neg fun h => hbar ((region0_infix_write_iff bar offset value size).mp h.2)

theorem write_output_read (bar offset value size : Nat) :
    write_output ((Access.read bar offset value size).line address ++ ['\n']) = [] :=
  if_neg fun h => not_write_infix_read bar offset value size h.1

theorem write_output_of_foreign {line : List Char} (hforeign : ¬ "region0".toList <:+: line) :
    write_output line = [] := if_neg fun h => hforeign h.2

end lines

/-- The line of `golden_dsp.c` for a write. -/
def call (write : Nat × Nat) : List Char := call_text (hex_text write.1) ("0x".toList ++ hex_text write.2)

theorem first_call_eq : first_call = call (0x0, 0x7ec582a) := by decide

theorem last_call_eq : last_call = call (0xb44, 0x30000890) := by decide

section loop

variable (address : PciAddress) (line : LogLine) (log : List LogLine)

/-- A line without the name of BAR0 has no marker. -/
theorem not_marker_of_foreign {o v line : List Char} (hforeign : ¬ "region0".toList <:+: line) :
    ¬ marker o v <:+: line ++ ['\n'] := by
  intro hoccurs
  have hname : "region0".toList <:+: line ++ ['\n'] := List.IsInfix.trans ⟨[], _, rfl⟩ hoccurs
  exact hforeign ((infix_concat_iff_of_not_mem (by decide)).mp hname)

theorem startsParsing_iff : StartsParsing (line.text address) ↔ line.Opens := by
  cases line with
  | other line one_line foreign =>
    apply iff_of_false _ nofun
    rw [StartsParsing, first_marker]
    exact not_marker_of_foreign foreign
  | traced access legible =>
    cases access with
    | read bar offset value size =>
      apply iff_of_false _ nofun
      rw [LogLine.text, StartsParsing, first_marker]
      exact fun h =>
        not_marker_read (by decide) bar offset value size ((marker_infix_line (by decide) (by decide)).mp h)
    | write bar offset value size =>
      refine (startsParsing_write_iff bar offset value size).trans ?_
      cases bar with
      | succ bar => exact iff_of_false (by simp) nofun
      | zero =>
        rw [LogLine.Opens, LogLine.bar0_write, Option.some.injEq, Prod.mk.injEq, and_iff_right rfl]
        refine and_congr_right fun hoffset => ?_
        subst hoffset
        exact prefix_first_word (legible.words _ _ _ rfl).2 (legible.first_word _ _ rfl)

theorem stopsParsing_iff : StopsParsing (line.text address) ↔ line.Closes := by
  cases line with
  | other line one_line foreign =>
    apply iff_of_false _ nofun
    rw [StopsParsing, last_marker]
    exact not_marker_of_foreign foreign
  | traced access legible =>
    cases access with
    | read bar offset value size =>
      apply iff_of_false _ nofun
      rw [LogLine.text, StopsParsing, last_marker]
      exact fun h =>
        not_marker_read (by decide) bar offset value size ((marker_infix_line (by decide) (by decide)).mp h)
    | write bar offset value size =>
      refine (stopsParsing_write_iff bar offset value size).trans ?_
      cases bar with
      | succ bar => exact iff_of_false (by simp) nofun
      | zero =>
        rw [LogLine.Closes, LogLine.bar0_write, Option.some.injEq, Prod.mk.injEq, and_iff_right rfl]
        exact and_congr_right fun _ => prefix_last_word (legible.words _ _ _ rfl).2

/-- A line gives the call for the write to BAR0 that it shows. -/
theorem write_output_line : write_output (line.text address) = line.bar0_write.toList.map call := by
  cases line with
  | other line one_line foreign =>
    apply write_output_of_foreign
    rwa [LogLine.text, infix_concat_iff_of_not_mem (by decide)]
  | traced access legible =>
    cases access with
    | read bar offset value size => exact write_output_read bar offset value size
    | write bar offset value size =>
      rw [LogLine.text, write_output_write]
      cases bar with
      | zero => rfl
      | succ bar => rfl

/-- Once the first word has been seen, every write to BAR0 is put out, up to the
last word. -/
theorem generate_lines_started (output : List (List Char)) :
    generate_lines true (log.map (LogLine.text address)) output =
      output ++ ((through LogLine.Closes log).filterMap LogLine.bar0_write).map call := by
  induction log generalizing output with
  | nil => exact (List.append_nil output).symm
  | cons line log ih =>
    rw [List.map_cons, generate_lines, through]
    by_cases hopens : line.Opens
    · have hcloses : ¬ line.Closes := by
        intro hcloses
        cases hopens.symm.trans hcloses
      rw [if_pos ((startsParsing_iff address line).mpr hopens), ih, if_neg hcloses, List.filterMap_cons_some hopens,
        List.map_cons, ← first_call_eq, List.append_assoc, List.singleton_append]
    · rw [if_neg (mt (startsParsing_iff address line).mp hopens), if_pos rfl]
      by_cases hcloses : line.Closes
      · rw [if_pos ((stopsParsing_iff address line).mpr hcloses), if_pos hcloses, List.filterMap_cons_some hcloses,
          last_call_eq]
        rfl
      · rw [if_neg (mt (stopsParsing_iff address line).mp hcloses), if_neg hcloses, ih, write_output_line,
          List.append_assoc, ← List.map_append]
        cases hwrite : line.bar0_write with
        | none => rw [List.filterMap_cons_none hwrite, Option.toList_none, List.nil_append]
        | some write => rw [List.filterMap_cons_some hwrite, Option.toList_some, List.singleton_append]

/-- Before that, nothing is. -/
theorem generate_lines_log : generate_lines false (log.map (LogLine.text address)) [] = (captured log).map call := by
  induction log with
  | nil => rfl
  | cons line log ih =>
    rw [List.map_cons, generate_lines, captured, List.dropWhile_cons]
    by_cases hopens : line.Opens
    · have hcloses : ¬ line.Closes := by
        intro hcloses
        cases hopens.symm.trans hcloses
      rw [if_pos ((startsParsing_iff address line).mpr hopens), generate_lines_started, if_neg (by simpa using hopens),
        through, if_neg hcloses, List.filterMap_cons_some hopens, List.map_cons, ← first_call_eq]
      rfl
    · rw [if_neg (mt (startsParsing_iff address line).mp hopens), if_neg Bool.false_ne_true, ih,
        if_pos (by simpa using hopens)]
      rfl

theorem file_lines_log : lines (universal_newlines (log_text address log)) = log.map (LogLine.text address) := by
  induction log with
  | nil => rfl
  | cons line log ih =>
    obtain ⟨text, hone, htext⟩ : ∃ text, OneLine text ∧ line.text address = text ++ ['\n'] := by
      cases line with
      | traced access legible => exact ⟨_, access.one_line address, rfl⟩
      | other line one_line foreign => exact ⟨line, one_line, rfl⟩
    rw [log_text, List.flatMap_cons, List.map_cons, htext, List.append_assoc, List.singleton_append,
      file_lines_append, file_lines_line hone, List.singleton_append]
    exact congrArg _ ih

/-- The generated file has one call for each captured write. -/
theorem golden_dsp_eq : golden_dsp (log_text address log) = List.intercalate ['\n'] ((captured log).map call) := by
  rw [golden_dsp, file_lines_log, generate_lines_log]

end loop

end motu424.generate_dsp
