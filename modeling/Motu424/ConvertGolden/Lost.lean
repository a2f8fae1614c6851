import Motu424.ConvertGolden.Lines

open PyText

namespace motu424.convert_golden

/-- The entries that a line gives. -/
def found (line : List Char) : List Entry :=
  match parse_write_reg_line line with
  | .ok (some entry) => [entry]
  | _ => []

/-- The line raises no exception. -/
def Parses (line : List Char) : Prop := ∃ result, parse_write_reg_line line = .ok result

/-- The lines that the converter sees of a file. -/
def InputFile.lines : InputFile → List (List Char)
  | .text content => PyText.lines (universal_newlines content)
  | _ => []

def InputFile.Readable : InputFile → Prop
  | .text _ => True
  | _ => False

/-- The lines of all input files, in file order. -/
def all_lines (input_files : List InputFile) : List (List Char) := input_files.flatMap InputFile.lines

theorem found_of_parse {line : List Char} {result : Option Entry}
    (hparse : parse_write_reg_line line = .ok result) : found line = result.toList := by
  cases result with
  | none => simp only [found, hparse, Option.toList_none]
  | some entry => simp only [found, hparse, Option.toList_some]

theorem bind_eq_ok_iff {ε α β : Type} {x : Except ε α} {f : α → Except ε β} {b : β} :
    (x >>= f) = .ok b ↔ ∃ a, x = .ok a ∧ f a = .ok b := by
  cases x with
  | error err => exact iff_of_false nofun nofun
  | ok a =>
    constructor
    · exact fun hf => ⟨a, rfl, hf⟩
    · rintro ⟨_, ha, hf⟩
      cases ha
      exact hf

theorem convert_lines_eq_ok_iff (rest : List (List Char)) (entries out : List Entry) :
    convert_lines rest entries = .ok out ↔
      (∀ line ∈ rest, Parses line) ∧ out = entries ++ rest.flatMap found := by
  induction rest generalizing entries with
  | nil =>
    rw [convert_lines, Except.ok.injEq, List.flatMap_nil, List.append_nil, eq_comm]
    exact (and_iff_right nofun).symm
  | cons line rest ih =>
    rw [convert_lines, bind_eq_ok_iff, List.forall_mem_cons, List.flatMap_cons, ← List.append_assoc]
    constructor
    · rintro ⟨result, hparse, hrest⟩
      obtain ⟨hparses, hout⟩ := (ih _).mp hrest
      rw [← found_of_parse hparse] at hout
      exact ⟨⟨⟨result, hparse⟩, hparses⟩, hout⟩
    · rintro ⟨⟨⟨result, hparse⟩, hparses⟩, hout⟩
      rw [found_of_parse hparse] at hout
      exact ⟨result, hparse, (ih _).mpr ⟨hparses, hout⟩⟩

theorem convert_files_eq_ok_iff (files : List InputFile) (entries out : List Entry) :
    convert_files files entries = .ok out ↔ (∀ file ∈ files, file.Readable) ∧
      (∀ line ∈ all_lines files, Parses line) ∧ out = entries ++ (all_lines files).flatMap found := by
  induction files generalizing entries with
  | nil =>
    rw [convert_files, Except.ok.injEq, all_lines, List.flatMap_nil, List.flatMap_nil, List.append_nil, eq_comm]
    exact (and_iff_right nofun).trans (and_iff_right nofun) |>.symm
  | cons file files ih =>
    rw [convert_files, bind_eq_ok_iff, List.forall_mem_cons]
    cases file with
    | missing => exact iff_of_false nofun fun h => h.1.1
    | undecodable => exact iff_of_false nofun fun h => h.1.1
    | text content =>
      have hlines : all_lines (.text content :: files) =
          PyText.lines (universal_newlines content) ++ all_lines files := List.flatMap_cons ..
      rw [hlines, List.forall_mem_append, List.flatMap_append, ← List.append_assoc]
      constructor
      · rintro ⟨_, hread, hconvert⟩
        cases hread
        obtain ⟨entries', hfile, hrest⟩ := bind_eq_ok_iff.mp hconvert
        obtain ⟨hparses, rfl⟩ := (convert_lines_eq_ok_iff _ _ _).mp hfile
        obtain ⟨hreadable, hmore, hout⟩ := (ih _).mp hrest
        exact ⟨⟨trivial, hreadable⟩, ⟨hparses, hmore⟩, hout⟩
      · rintro ⟨⟨_, hreadable⟩, ⟨hparses, hmore⟩, hout⟩
        have hfile := (convert_lines_eq_ok_iff _ entries _).mpr ⟨hparses, rfl⟩
        have hrest := (ih _).mpr ⟨hreadable, hmore, hout⟩
        exact ⟨_, rfl, bind_eq_ok_iff.mpr ⟨_, hfile, hrest⟩⟩

theorem write_entries_eq_ok_iff (entries : List Entry) (blob : List U8) :
    write_entries entries = .ok blob ↔
      (∀ entry ∈ entries, entry.Fits) ∧ blob = entries.flatMap Entry.bytes := by
  constructor
  · intro hok
    cases hwrite : write_blob entries with
    | error err =>
      rw [write_entries, hwrite] at hok
      cases hok
    | ok bytes =>
      have hfits := (write_blob_ok_iff entries).mp ⟨bytes, hwrite⟩
      rw [write_entries, write_blob_of_fits hfits] at hok
      cases hok
      exact ⟨hfits, rfl⟩
  · rintro ⟨hfits, rfl⟩
    rw [write_entries, write_blob_of_fits hfits]
    rfl

/-- The entries of a line are in range. -/
def Packs (line : List Char) : Prop := Parses line ∧ ∀ entry ∈ found line, entry.Fits

theorem packs_all_iff (rest : List (List Char)) : (∀ line ∈ rest, Packs line) ↔
    (∀ line ∈ rest, Parses line) ∧ ∀ entry ∈ rest.flatMap found, entry.Fits := by
  constructor
  · intro hpacks
    refine ⟨fun line hline => (hpacks line hline).1, fun entry hentry => ?_⟩
    obtain ⟨line, hline, hfound⟩ := List.mem_flatMap.mp hentry
    exact (hpacks line hline).2 entry hfound
  · rintro ⟨hparses, hfits⟩ line hline
    exact ⟨hparses line hline, fun entry hfound => hfits entry (List.mem_flatMap.mpr ⟨line, hline, hfound⟩)⟩

/-- What the converter writes for some lines alone. -/
def convert_only (rest : List (List Char)) : Except Failure (List U8) := do
  let entries ← convert_lines rest []
  write_entries entries

/-- The bytes that a line gives. -/
def line_bytes (line : List Char) : List U8 := (found line).flatMap Entry.bytes

theorem convert_only_eq_ok_iff (rest : List (List Char)) (blob : List U8) :
    convert_only rest = .ok blob ↔ (∀ line ∈ rest, Packs line) ∧ blob = rest.flatMap line_bytes := by
  have hbytes : rest.flatMap line_bytes = (rest.flatMap found).flatMap Entry.bytes :=
    (List.flatMap_assoc ..).symm
  rw [convert_only, bind_eq_ok_iff, packs_all_iff, hbytes, and_assoc]
  constructor
  · rintro ⟨entries, hlines, hwrite⟩
    obtain ⟨hparses, rfl⟩ := (convert_lines_eq_ok_iff _ _ _).mp hlines
    exact ⟨hparses, (write_entries_eq_ok_iff _ _).mp hwrite⟩
  · rintro ⟨hparses, hwrite⟩
    exact ⟨_, (convert_lines_eq_ok_iff _ _ _).mpr ⟨hparses, rfl⟩, (write_entries_eq_ok_iff _ _).mpr hwrite⟩

/-- The conversion succeeds when every file can be read and every line packed,
and then writes the bytes of the lines in order. -/
theorem convert_eq_ok_iff (files : List InputFile) (blob : List U8) :
    convert files = .ok blob ↔ (∀ file ∈ files, file.Readable) ∧
      (∀ line ∈ all_lines files, Packs line) ∧ blob = (all_lines files).flatMap line_bytes := by
  rw [← convert_only_eq_ok_iff, convert, convert_only, bind_eq_ok_iff, bind_eq_ok_iff]
  constructor
  · rintro ⟨entries, hfiles, hwrite⟩
    obtain ⟨hreadable, hlines⟩ := (convert_files_eq_ok_iff _ _ _).mp hfiles
    exact ⟨hreadable, entries, (convert_lines_eq_ok_iff _ _ _).mpr hlines, hwrite⟩
  · rintro ⟨hreadable, entries, hlines, hwrite⟩
    have hall := (convert_lines_eq_ok_iff _ _ _).mp hlines
    exact ⟨entries, (convert_files_eq_ok_iff _ _ _).mpr ⟨hreadable, hall⟩, hwrite⟩

/-- White space of C. -/
def c_space (c : Char) : Bool := c.toNat ∈ [0x20, 0x09, 0x0A, 0x0B, 0x0C, 0x0D]

/-- The line begins with a call whose arguments are expressions, whatever an
expression is. -/
def CallLine (IsExpression : List Char → Prop) (line : List Char) : Prop :=
  ∃ bar offset value, IsExpression bar ∧ IsExpression offset ∧ IsExpression value ∧
    Calls c_space line bar offset value

/-- Where the conversion succeeds, every line that begins with a call has put
nine bytes between the output for the lines before it and the output for the
lines after it. -/
def NoCallLost (IsExpression : List Char → Prop) (files : List InputFile) : Prop :=
  ∀ blob, convert files = .ok blob → ∀ before line after,
    all_lines files = before ++ line :: after → CallLine IsExpression line →
      ∃ written entry rest, convert_only before = .ok written ∧ convert_only after = .ok rest ∧
        entry.length = 9 ∧ blob = written ++ (entry ++ rest)

/-- The arguments of a literal call fit the fields of an entry, and Python reads
its bar. -/
structure InRange (bar offset value : List Char) : Prop where
  digits : bar.length ≤ max_str_digits
  fits : (literal_entry bar offset value).Fits

/-- Some file cannot be read, or some literal call is out of range. -/
def FailsVisibly (files : List InputFile) : Prop :=
  (∃ file ∈ files, ¬ file.Readable) ∨ ∃ line ∈ all_lines files, ∃ bar offset value,
    LiteralCall line bar offset value ∧ ¬ InRange bar offset value

/-- The line begins with a call of literals only. -/
def IsLiteralCall (line : List Char) : Prop := ∃ bar offset value, LiteralCall line bar offset value

theorem found_literal_call {line bar offset value : List Char} (hcall : LiteralCall line bar offset value)
    (hdigits : bar.length ≤ max_str_digits) : found line = [literal_entry bar offset value] := by
  have hparse := parse_literal_call hcall
  rw [if_neg (by omega)] at hparse
  exact found_of_parse hparse

theorem found_other_line {line : List Char} (hother : ¬ IsLiteralCall line) : found line = [] :=
  found_of_parse (parse_other_line hother)

theorem packs_iff (line : List Char) :
    Packs line ↔ ∀ bar offset value, LiteralCall line bar offset value → InRange bar offset value := by
  constructor
  · rintro ⟨⟨result, hparse⟩, hfits⟩ bar offset value hcall
    have hdigits : bar.length ≤ max_str_digits := by
      by_contra hlong
      rw [parse_literal_call hcall, if_pos (by omega)] at hparse
      cases hparse
    rw [found_literal_call hcall hdigits] at hfits
    exact ⟨hdigits, hfits _ (by simp)⟩
  · intro hrange
    by_cases hliteral : IsLiteralCall line
    · obtain ⟨bar, offset, value, hcall⟩ := hliteral
      obtain ⟨hdigits, hfits⟩ := hrange bar offset value hcall
      have hparse := parse_literal_call hcall
      rw [if_neg (by omega)] at hparse
      refine ⟨⟨_, hparse⟩, ?_⟩
      rw [found_literal_call hcall hdigits]
      simpa using hfits
    · refine ⟨⟨_, parse_other_line hliteral⟩, ?_⟩
      rw [found_other_line hliteral]
      exact nofun

/-- The conversion fails exactly when it should be seen to fail. -/
theorem convert_fails_iff (files : List InputFile) :
    (∃ blob, convert files = .ok blob) ↔ ¬ FailsVisibly files := by
  have hgood : ¬ FailsVisibly files ↔
      (∀ file ∈ files, file.Readable) ∧ ∀ line ∈ all_lines files, Packs line := by
    simp only [FailsVisibly, packs_iff, not_or, not_exists, not_and, not_not]
  rw [hgood]
  constructor
  · rintro ⟨blob, hconvert⟩
    obtain ⟨hreadable, hpacks, _⟩ := (convert_eq_ok_iff files blob).mp hconvert
    exact ⟨hreadable, hpacks⟩
  · rintro ⟨hreadable, hpacks⟩
    exact ⟨_, (convert_eq_ok_iff files _).mpr ⟨hreadable, hpacks, rfl⟩⟩

theorem length_line_bytes (line : List Char) : (line_bytes line).length = 9 * (found line).length :=
  length_flatMap_bytes _

/-- The output of a successful conversion, split at one of its lines. -/
theorem convert_split {files : List InputFile} {blob : List U8} (hconvert : convert files = .ok blob)
    {before after : List (List Char)} {line : List Char}
    (hlines : all_lines files = before ++ line :: after) :
    Packs line ∧ convert_only before = .ok (before.flatMap line_bytes) ∧
      convert_only after = .ok (after.flatMap line_bytes) ∧
      blob = before.flatMap line_bytes ++ (line_bytes line ++ after.flatMap line_bytes) := by
  obtain ⟨_, hpacks, hblob⟩ := (convert_eq_ok_iff files blob).mp hconvert
  rw [hlines, List.forall_mem_append, List.forall_mem_cons] at hpacks
  obtain ⟨hbefore, hline, hafter⟩ := hpacks
  rw [hlines, List.flatMap_append, List.flatMap_cons] at hblob
  exact ⟨hline, (convert_only_eq_ok_iff _ _).mpr ⟨hbefore, rfl⟩,
    (convert_only_eq_ok_iff _ _).mpr ⟨hafter, rfl⟩, hblob⟩

/-- No call is lost exactly when the conversion fails or all calls are written
with literals. -/
theorem no_call_lost_iff (IsExpression : List Char → Prop) (files : List InputFile) :
    NoCallLost IsExpression files ↔
      FailsVisibly files ∨ ∀ line ∈ all_lines files, CallLine IsExpression line → IsLiteralCall line := by
  constructor
  · intro hkept
    by_cases hfails : FailsVisibly files
    · exact .inl hfails
    · right
      intro line hline hcall
      by_contra hother
      obtain ⟨blob, hconvert⟩ := (convert_fails_iff files).mpr hfails
      obtain ⟨before, after, hlines⟩ := List.append_of_mem hline
      obtain ⟨_, hwritten, hrest, hall⟩ := convert_split hconvert hlines
      obtain ⟨written, entry, rest, hbefore, hafter, hnine, hblob⟩ :=
        hkept blob hconvert before line after hlines hcall
      cases hwritten.symm.trans hbefore
      cases hrest.symm.trans hafter
      -- the line itself gives nothing, so the nine bytes have no place
      have hnothing := length_line_bytes line
      rw [found_other_line hother, List.length_nil] at hnothing
      have hlength := congrArg List.length (hall.symm.trans hblob)
      simp only [List.length_append] at hlength
      omega
  · rintro hliteral blob hconvert before line after hlines hcall
    obtain ⟨hpacks, hbefore, hafter, hblob⟩ := convert_split hconvert hlines
    have hmem : line ∈ all_lines files := by
      rw [hlines]
      simp
    obtain ⟨bar, offset, value, hcall⟩ : IsLiteralCall line := by
      rcases hliteral with hfails | hliteral
      · exact absurd hfails ((convert_fails_iff files).mp ⟨_, hconvert⟩)
      · exact hliteral line hmem hcall
    have hrange := (packs_iff line).mp hpacks bar offset value hcall
    have hfound := found_literal_call hcall hrange.digits
    refine ⟨before.flatMap line_bytes, line_bytes line, after.flatMap line_bytes, hbefore, hafter, ?_, hblob⟩
    rw [length_line_bytes, hfound, List.length_singleton]

/-- The characters of a name in C. -/
def is_name (c : Char) : Bool := c.isAlphanum || c == '_'

/-- The expressions of the golden files: names, constants, and sums and unions
of such, also in parentheses. -/
inductive Expression : List Char → Prop
  | name (c : Char) (text : List Char) (hfirst : c.isDigit = false)
      (htext : ∀ d ∈ c :: text, is_name d = true) : Expression (c :: text)
  | decimal (text : List Char) (hne : text ≠ []) (htext : ∀ d ∈ text, d.isDigit = true) : Expression text
  | hexadecimal (text : List Char) (htext : IsHexadecimal text) : Expression text
  | paren (text : List Char) (htext : Expression text) : Expression ('(' :: text ++ [')'])
  | binary (left right blanks blanks' op : List Char) (hop : op ∈ ["+".toList, "|".toList])
      (hleft : Expression left) (hright : Expression right) (hblanks : ∀ d ∈ blanks, c_space d = true)
      (hblanks' : ∀ d ∈ blanks', c_space d = true) :
      Expression (left ++ blanks ++ op ++ blanks' ++ right)

/-- A line of the golden sequence. -/
def golden_line : List Char := "    write_reg(fd, 0, 0x259c, dma_addr | 0x9b0);".toList

theorem golden_line_calls : CallLine Expression golden_line := by
  have hblank : ∀ c ∈ " ".toList, c_space c = true := List.all_eq_true.mp (by decide)
  have hindent : ∀ c ∈ "    ".toList, c_space c = true := List.all_eq_true.mp (by decide)
  have hzero : Expression "0".toList := .decimal _ (by decide) (List.all_eq_true.mp (by decide))
  have hoffset : Expression "0x259c".toList :=
    .hexadecimal _ ⟨"259c".toList, by decide, List.all_eq_true.mp (by decide), rfl⟩
  have hvalue : Expression "dma_addr | 0x9b0".toList :=
    .binary "dma_addr".toList "0x9b0".toList " ".toList " ".toList "|".toList (by decide)
      (.name 'd' "ma_addr".toList (by decide) (List.all_eq_true.mp (by decide)))
      (.hexadecimal _ ⟨"9b0".toList, by decide, List.all_eq_true.mp (by decide), rfl⟩) hblank hblank
  refine ⟨"0".toList, "0x259c".toList, "dma_addr | 0x9b0".toList, hzero, hoffset, hvalue, ";".toList, ?_⟩
  exact ⟨"    ".toList, _, hindent, rfl, [], _, nofun, rfl, [], _, nofun, rfl, [], _, nofun, rfl, " ".toList, _,
    hblank, rfl, [], _, nofun, rfl, " ".toList, _, hblank, rfl, [], _, nofun, rfl, " ".toList, _, hblank, rfl, [], _,
    nofun, rfl, rfl⟩

/-- A file of this one line is converted to nothing, without an error. -/
theorem golden_line_lost :
    convert [.text golden_line] = .ok [] ∧ ¬ NoCallLost Expression [.text golden_line] := by
  have hconvert : convert [.text golden_line] = .ok [] := by decide
  refine ⟨hconvert, fun hkept => ?_⟩
  obtain ⟨written, entry, rest, _, _, hnine, hblob⟩ :=
    hkept [] hconvert [] golden_line [] (by decide) golden_line_calls
  have hlength := congrArg List.length hblob
  rw [List.length_append, List.length_append, List.length_nil] at hlength
  omega

end motu424.convert_golden
