import Motu424.AnalyzeMixerTrace
import Motu424.Foundation.Regex.Field
import Motu424.VfioTrace

open PyText Regex
open motu424.vfio_trace

namespace motu424.analyze_mixer_trace

section patterns

variable (address : PciAddress) {k : Regex} {s : List Char}

theorem all_is_decimal_iff {n width : Nat} :
    (padded_hex_text width n).all is_decimal = true ↔ ∀ c ∈ padded_hex_text width n, c ∉ letters := by
  rw [List.all_eq_true]
  have hdigit := @of_mem_padded_hex_text n width (fun c => is_decimal c = true ↔ c ∉ letters) is_decimal_digitChar
  exact ⟨fun h c hc => (hdigit c hc).mp (h c hc), fun h c hc => (hdigit c hc).mpr (h c hc)⟩

/-- The function is one digit. -/
theorem function_text : hex_text address.function.toNat = [address.function.toNat.digitChar] :=
  Nat.toDigits_of_lt_base (Nat.lt_of_lt_of_le address.function.isLt (by decide))

theorem not_hasLetter_iff : ¬ address.HasLetter ↔
    (padded_hex_text 4 address.domain).all is_decimal = true ∧
    (padded_hex_text 2 address.bus.toNat).all is_decimal = true ∧
    (padded_hex_text 2 address.device.toNat).all is_decimal = true ∧
    is_decimal address.function.toNat.digitChar = true := by
  have hfunction : address.function.toNat < 16 := Nat.lt_of_lt_of_le address.function.isLt (by decide)
  rw [all_is_decimal_iff, all_is_decimal_iff, all_is_decimal_iff, is_decimal_digitChar _ hfunction]
  have hcolon : ∀ c ∈ ":".toList, c ∉ letters := List.forall_mem_singleton.mpr (by decide)
  have hdot : ∀ c ∈ ".".toList, c ∉ letters := List.forall_mem_singleton.mpr (by decide)
  simp only [PciAddress.HasLetter, PciAddress.text, function_text, List.flatten_cons, List.flatten_nil,
    List.append_nil, List.mem_append, List.mem_singleton, not_exists, not_and, or_imp, forall_and, forall_eq]
  constructor
  · rintro ⟨hdomain, _, hbus, _, hdevice, _, hfunction⟩
    exact ⟨hdomain, hbus, hdevice, hfunction⟩
  · rintro ⟨hdomain, hbus, hdevice, hfunction⟩
    exact ⟨hdomain, hcolon, hbus, hcolon, hdevice, hdot, hfunction⟩

theorem plus_digit_results {p : Char → Bool} {c : Char} (hs : Stops p s) :
    (seq (plus p) empty).results ([c] ++ s) = if p c then [([], s)] else [] := by
  have hstop : star_results p s = [([], s)] := by
    cases s with
    | nil => rw [star_results]
    | cons d s => rw [star_results, if_neg (Bool.eq_false_iff.mp (hs d s rfl))]
  by_cases hc : p c = true
  · simp [results_plus, hc, hstop]
  · simp [results_plus, hc]

/-- The pattern of the address takes an address without letters, and no other. -/
theorem device_address_results (hs : Stops is_decimal s) :
    device_address.results (address.text ++ s) = if address.HasLetter then [] else [([], s)] := by
  have hdomain : ':' ∉ padded_hex_text 4 address.domain := not_mem_padded_hex_text (by decide)
  have hbus : ':' ∉ padded_hex_text 2 address.bus.toNat := not_mem_padded_hex_text (by decide)
  have hdevice : '.' ∉ padded_hex_text 2 address.device.toNat := not_mem_padded_hex_text (by decide)
  have htext : address.text ++ s =
      padded_hex_text 4 address.domain ++ (":".toList ++ (padded_hex_text 2 address.bus.toNat ++ (":".toList ++
        (padded_hex_text 2 address.device.toNat ++ (".".toList ++ ([address.function.toNat.digitChar] ++ s)))))) := by
    simp [PciAddress.text, function_text]
  have hresults : device_address.results (address.text ++ s) =
      if (padded_hex_text 4 address.domain).all is_decimal = true ∧
        (padded_hex_text 2 address.bus.toNat).all is_decimal = true ∧
        (padded_hex_text 2 address.device.toNat).all is_decimal = true ∧
        is_decimal address.function.toNat.digitChar = true then [([], s)] else [] := by
    rw [htext, ite_and, ite_and, ite_and]
    refine (results_plus_seq_until (by decide) padded_hex_text_ne_nil hdomain).trans ?_
    refine ite_congr rfl (fun _ => ?_) fun _ => rfl
    refine (results_plus_seq_until (by decide) padded_hex_text_ne_nil hbus).trans ?_
    refine ite_congr rfl (fun _ => ?_) fun _ => rfl
    refine (results_plus_seq_until (by decide) padded_hex_text_ne_nil hdevice).trans ?_
    refine ite_congr rfl (fun _ => ?_) fun _ => rfl
    exact plus_digit_results hs
  rw [hresults, ← ite_not address.HasLetter]
  exact if_congr (not_hasLetter_iff address).symm rfl rfl

/-- The part that both patterns share. -/
theorem region_results (bar offset : Nat) :
    (seq region k).results (region_text address bar offset s) = if address.HasLetter then []
      else (k.results s).map (capture address.text ∘ capture (dec_text bar) ∘ capture (hex_text offset)) := by
  have hparen : Delimits is_space "(".toList := ⟨_, _, rfl, by decide⟩
  have hregion : Delimits is_decimal ":region".toList := ⟨_, _, rfl, by decide⟩
  have hplus : Delimits is_decimal "+0x".toList := ⟨_, _, rfl, by decide⟩
  have hcomma : Delimits is_hexadecimal ",".toList := ⟨_, _, rfl, by decide⟩
  have hassoc (s : List Char) : (seq region k).results s = (seq (plus is_space) (seq (lit "(".toList)
      (seq (group device_address) (seq (lit ":region".toList) (seq (group (plus is_decimal))
        (seq (lit "+0x".toList) (seq (group (plus is_hexadecimal)) (seq (lit ",".toList) k)))))))).results s :=
    results_concat_seq _
  have hspaces : "  (".toList = "  ".toList ++ "(".toList := by decide
  rw [hassoc, region_text, hspaces, List.append_assoc,
    results_plus_lit_seq hparen (by decide) is_space_blanks]
  have haddress := @device_address_results address _ (@hregion.stops _ (dec_text bar ++ ("+0x".toList ++
    (hex_text offset ++ (",".toList ++ s)))))
  by_cases hletter : address.HasLetter
  · rw [if_pos hletter] at haddress ⊢
    exact results_group_seq_of_none haddress
  · rw [if_neg hletter] at haddress ⊢
    rw [results_group_seq haddress, results_lit_seq,
      results_group_plus_lit_seq hplus dec_text_ne_nil is_decimal_dec_text,
      results_group_plus_lit_seq hcomma hex_text_ne_nil is_hexadecimal_hex_text, List.map_map, List.map_map]
    rfl

/-- A number after a blank. -/
theorem spaced_number_results {n : Nat} :
    (seq (plus is_space) (seq (group (plus is_decimal)) (seq (lit ")".toList) k))).results
      (" ".toList ++ (dec_text n ++ (")".toList ++ s))) = (k.results s).map (capture (dec_text n)) := by
  have hparen : Delimits is_decimal ")".toList := ⟨_, _, rfl, by decide⟩
  have hdigit : Rejects is_space (plus is_decimal) := Rejects.plus fun _ => not_is_decimal_of_is_space
  have hstop : Stops is_space (dec_text n ++ (")".toList ++ s)) := by
    cases hdigits : dec_text n with
    | nil => exact absurd hdigits dec_text_ne_nil
    | cons d rest =>
      have hd : d ∈ dec_text n := by simp [hdigits]
      exact Stops.cons (not_is_space_of_is_decimal (is_decimal_dec_text d hd))
  rw [results_plus_seq hdigit.group.seq (by decide) is_space_blank hstop,
    results_group_plus_lit_seq hparen dec_text_ne_nil is_decimal_dec_text]

/-- The line of a write under the pattern for writes. -/
theorem write_line_first (bar offset value size : Nat) :
    WRITE_RE.first ((Access.write bar offset value size).line address) = if address.HasLetter then none
      else some ([address.text, dec_text bar, hex_text offset, hex_text value, dec_text size], []) := by
  have hzero : Delimits is_space "0x".toList := ⟨_, _, rfl, by decide⟩
  have hcomma : Delimits is_hexadecimal ",".toList := ⟨_, _, rfl, by decide⟩
  have hblank : " 0x".toList = " ".toList ++ "0x".toList := by decide
  have hsep : ", ".toList = ",".toList ++ " ".toList := by decide
  have hend : ")".toList = ")".toList ++ [] := by decide
  rw [write_line, hblank, hsep, hend, List.append_assoc, List.append_assoc, first, WRITE_RE, concat, concat,
    results_lit_seq, region_results, concat, concat, concat, concat, concat, concat, concat, concat,
    results_plus_lit_seq hzero (by decide) is_space_blank,
    results_group_plus_lit_seq hcomma hex_text_ne_nil is_hexadecimal_hex_text, spaced_number_results]
  by_cases hletter : address.HasLetter
  · rw [if_pos hletter, if_pos hletter, List.head?_nil]
  · rw [if_neg hletter, if_neg hletter]
    rfl

/-- The line of a read under the pattern for reads. -/
theorem read_line_first (bar offset value size : Nat) :
    READ_RE.first ((Access.read bar offset value size).line address) = if address.HasLetter then none
      else some ([address.text, dec_text bar, hex_text offset, dec_text size, hex_text value], []) := by
  have hequal : Delimits is_space "=".toList := ⟨_, _, rfl, by decide⟩
  have hzero : Delimits is_space "0x".toList := ⟨_, _, rfl, by decide⟩
  have hend : ") = 0x".toList = ")".toList ++ (" ".toList ++ ("=".toList ++ (" ".toList ++ "0x".toList))) := by decide
  have hvalue := first_group_plus_end (@hex_text_ne_nil value) is_hexadecimal_hex_text
  rw [read_line, hend, List.append_assoc, List.append_assoc, List.append_assoc, List.append_assoc, first, READ_RE,
    concat, concat, results_lit_seq, region_results, concat, concat, concat, spaced_number_results, concat, concat,
    results_star_lit_seq hequal is_space_blank, concat, concat, results_star_lit_seq hzero is_space_blank,
    concat, concat]
  by_cases hletter : address.HasLetter
  · rw [if_pos hletter, if_pos hletter, List.head?_nil]
  · rw [if_neg hletter, if_neg hletter, List.head?_map, List.head?_map]
    rw [first] at hvalue
    rw [hvalue]
    rfl

/-- A read is no write. -/
theorem read_line_not_write (bar offset value size : Nat) :
    WRITE_RE.first ((Access.read bar offset value size).line address) = none := by
  rw [read_line, WRITE_RE, write_name, read_name, List.append_assoc, List.cons_append]
  exact first_lit_of_differ (by decide)

/-- A write is no read. -/
theorem write_line_not_read (bar offset value size : Nat) :
    READ_RE.first ((Access.write bar offset value size).line address) = none := by
  rw [write_line, READ_RE, write_name, read_name, List.append_assoc, List.cons_append]
  exact first_lit_of_differ (by decide)

end patterns

end motu424.analyze_mixer_trace
