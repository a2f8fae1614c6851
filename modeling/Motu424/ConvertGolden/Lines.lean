import Motu424.ConvertGolden

open PyText

namespace motu424.convert_golden

/-- A line is these words, each after optional blanks, and a rest. -/
def Spaced (blank : Char → Bool) : List (List Char) → List Char → List Char → Prop
  | [], line, rest => line = rest
  | word :: words, line, rest =>
    ∃ blanks mid, (∀ c ∈ blanks, blank c = true) ∧ line = blanks ++ (word ++ mid) ∧
      Spaced blank words mid rest

/-- The words of a call. -/
def call_words (bar offset value : List Char) : List (List Char) :=
  ["write_reg".toList, "(".toList, "fd".toList, ",".toList, bar, ",".toList, offset, ",".toList, value,
    ")".toList]

/-- The line begins with a call, after white space and with white space around
its words. -/
def Calls (blank : Char → Bool) (line bar offset value : List Char) : Prop :=
  ∃ rest, Spaced blank (call_words bar offset value) line rest

def IsDecimal (text : List Char) : Prop := text ≠ [] ∧ ∀ c ∈ text, is_decimal c = true

def IsHexadecimal (text : List Char) : Prop :=
  ∃ digits, digits ≠ [] ∧ (∀ c ∈ digits, is_hexadecimal c = true) ∧ text = "0x".toList ++ digits

/-- A call whose bar is a decimal literal and whose offset and value are
hexadecimal ones. -/
structure LiteralCall (line bar offset value : List Char) : Prop where
  is_bar : IsDecimal bar
  is_offset : IsHexadecimal offset
  is_value : IsHexadecimal value
  call : Calls is_space line bar offset value

theorem matches_plus_decimal {word mid : List Char} {inner : List (List Char)} :
    (Regex.plus is_decimal).Matches (word ++ mid) inner mid ↔ inner = [] ∧ IsDecimal word := by
  rw [Regex.matches_plus]
  refine and_congr_right fun _ => ⟨?_, fun ⟨hne, hdigits⟩ => ⟨word, hne, hdigits, rfl⟩⟩
  rintro ⟨run, hne, hrun, heq⟩
  rw [List.append_cancel_right heq]
  exact ⟨hne, hrun⟩

theorem matches_hexadecimal_literal {word mid : List Char} {inner : List (List Char)} :
    hexadecimal_literal.Matches (word ++ mid) inner mid ↔ inner = [] ∧ IsHexadecimal word := by
  rw [hexadecimal_literal, Regex.matches_seq]
  constructor
  · rintro ⟨_, rest, _, hzero, hdigits, rfl⟩
    obtain ⟨rfl, hrest⟩ := Regex.matches_lit.mp hzero
    obtain ⟨rfl, digits, hne, hall, rfl⟩ := Regex.matches_plus.mp hdigits
    rw [← List.append_assoc] at hrest
    exact ⟨rfl, digits, hne, hall, List.append_cancel_right hrest⟩
  · rintro ⟨rfl, digits, hne, hall, rfl⟩
    refine ⟨[], digits ++ mid, [], Regex.matches_lit.mpr ⟨rfl, List.append_assoc ..⟩, ?_, rfl⟩
    exact Regex.matches_plus.mpr ⟨rfl, digits, hne, hall, rfl⟩

/-- The pattern matches the literal calls and captures their arguments. -/
theorem write_reg_call_matches {line rest : List Char} {groups : List (List Char)} :
    write_reg_call.Matches line groups rest ↔
      ∃ bar offset value, groups = [bar, offset, value] ∧ IsDecimal bar ∧ IsHexadecimal offset ∧
        IsHexadecimal value ∧ Spaced is_space (call_words bar offset value) line rest := by
  constructor
  · intro m₀
    obtain ⟨b₁, _, h₁, rfl, m₁⟩ := Regex.matches_star_lit.mp m₀
    obtain ⟨b₂, _, h₂, rfl, m₂⟩ := Regex.matches_star_lit.mp m₁
    obtain ⟨b₃, _, h₃, rfl, m₃⟩ := Regex.matches_star_lit.mp m₂
    obtain ⟨b₄, _, h₄, rfl, m₄⟩ := Regex.matches_star_lit.mp m₃
    obtain ⟨b₅, bar, _, _, _, h₅, rfl, hbar, m₅, rfl⟩ := Regex.matches_star_group.mp m₄
    obtain ⟨b₆, _, h₆, rfl, m₆⟩ := Regex.matches_star_lit.mp m₅
    obtain ⟨b₇, offset, _, _, _, h₇, rfl, hoffset, m₇, rfl⟩ := Regex.matches_star_group.mp m₆
    obtain ⟨b₈, _, h₈, rfl, m₈⟩ := Regex.matches_star_lit.mp m₇
    obtain ⟨b₉, value, _, _, _, h₉, rfl, hvalue, m₉, rfl⟩ := Regex.matches_star_group.mp m₈
    obtain ⟨b₀, _, h₀, rfl, m⟩ := Regex.matches_star_lit.mp m₉
    obtain ⟨rfl, rfl⟩ := Regex.matches_empty.mp m
    obtain ⟨rfl, hdecimal⟩ := matches_plus_decimal.mp hbar
    obtain ⟨rfl, hhex⟩ := matches_hexadecimal_literal.mp hoffset
    obtain ⟨rfl, hhex'⟩ := matches_hexadecimal_literal.mp hvalue
    refine ⟨bar, offset, value, rfl, hdecimal, hhex, hhex', b₁, _, h₁, rfl, b₂, _, h₂, rfl, ?_⟩
    refine ⟨b₃, _, h₃, rfl, b₄, _, h₄, rfl, b₅, _, h₅, rfl, b₆, _, h₆, rfl, b₇, _, h₇, rfl, ?_⟩
    exact ⟨b₈, _, h₈, rfl, b₉, _, h₉, rfl, b₀, _, h₀, rfl, rfl⟩
  · rintro ⟨bar, offset, value, rfl, hbar, hoffset, hvalue, b₁, _, h₁, rfl, b₂, _, h₂, rfl, hspaced⟩
    obtain ⟨b₃, _, h₃, rfl, b₄, _, h₄, rfl, b₅, _, h₅, rfl, b₆, _, h₆, rfl, hspaced⟩ := hspaced
    obtain ⟨b₇, _, h₇, rfl, b₈, _, h₈, rfl, b₉, _, h₉, rfl, b₀, _, h₀, rfl, rfl⟩ := hspaced
    have hbar := fun mid => (@matches_plus_decimal bar mid _).mpr ⟨rfl, hbar⟩
    have hoffset := fun mid => (@matches_hexadecimal_literal offset mid _).mpr ⟨rfl, hoffset⟩
    have hvalue := fun mid => (@matches_hexadecimal_literal value mid _).mpr ⟨rfl, hvalue⟩
    refine Regex.matches_star_lit.mpr ⟨b₁, _, h₁, rfl, Regex.matches_star_lit.mpr ⟨b₂, _, h₂, rfl, ?_⟩⟩
    refine Regex.matches_star_lit.mpr ⟨b₃, _, h₃, rfl, Regex.matches_star_lit.mpr ⟨b₄, _, h₄, rfl, ?_⟩⟩
    refine Regex.matches_star_group.mpr ⟨b₅, bar, _, [], _, h₅, rfl, hbar _, ?_, rfl⟩
    refine Regex.matches_star_lit.mpr ⟨b₆, _, h₆, rfl, ?_⟩
    refine Regex.matches_star_group.mpr ⟨b₇, offset, _, [], _, h₇, rfl, hoffset _, ?_, rfl⟩
    refine Regex.matches_star_lit.mpr ⟨b₈, _, h₈, rfl, ?_⟩
    refine Regex.matches_star_group.mpr ⟨b₉, value, _, [], _, h₉, rfl, hvalue _, ?_, rfl⟩
    exact Regex.matches_star_lit.mpr ⟨b₀, _, h₀, rfl, Regex.matches_empty.mpr ⟨rfl, rfl⟩⟩

section unambiguous

variable {k : Regex}

/-- White space ends where a word begins. -/
theorem unambiguous_word {c : Char} {word : List Char} (hc : is_space c = false) (hk : k.Unambiguous) :
    (Regex.seq (.star is_space) (.seq (.lit (c :: word)) k)).Unambiguous := by
  have hlit : Regex.Rejects is_space (.lit (c :: word)) := Regex.Rejects.lit hc
  exact .seq (.star hlit.seq) (.seq .lit hk)

/-- A decimal literal ends where white space or the next word begins. -/
theorem unambiguous_decimal (hk : k.Unambiguous) (hend : Regex.Rejects is_decimal k) :
    (Regex.seq (.star is_space) (.seq (.group (.plus is_decimal)) k)).Unambiguous := by
  have hdigit : Regex.Rejects is_space (.plus is_decimal) := Regex.Rejects.plus fun _ => not_is_decimal_of_is_space
  exact .seq (.star hdigit.group.seq) (.seq (.group (.plus hend)) hk)

/-- So does a hexadecimal one. -/
theorem unambiguous_hexadecimal (hk : k.Unambiguous) (hend : Regex.Rejects is_hexadecimal k) :
    (Regex.seq (.star is_space) (.seq (.group hexadecimal_literal) k)).Unambiguous := by
  have hzero : Regex.Rejects is_space hexadecimal_literal := (Regex.Rejects.lit (by decide)).seq
  exact .seq (.star hzero.group.seq) (.seq (.group (.seq .lit (.plus hend))) hk)

/-- What follows a number: white space, then a word that is no digit. -/
theorem rejects_digit {p : Char → Bool} {c : Char} {word : List Char}
    (hspace : ∀ c, p c = true → is_space c = false) (hc : p c = false) :
    Regex.Rejects p (.seq (.star is_space) (.seq (.lit (c :: word)) k)) := by
  have hlit : Regex.Rejects p (.lit (c :: word)) := Regex.Rejects.lit hc
  exact .star_seq hspace hlit.seq

end unambiguous

theorem write_reg_call_unambiguous : write_reg_call.Unambiguous := by
  have hdecimal : ∀ c, is_decimal c = true → is_space c = false := fun _ => not_is_space_of_is_decimal
  have hhex : ∀ c, is_hexadecimal c = true → is_space c = false := fun _ => not_is_space_of_is_hexadecimal
  refine unambiguous_word (by decide) (unambiguous_word (by decide) ?_)
  refine unambiguous_word (by decide) (unambiguous_word (by decide) ?_)
  refine unambiguous_decimal (unambiguous_word (by decide) ?_) (rejects_digit hdecimal (by decide))
  refine unambiguous_hexadecimal (unambiguous_word (by decide) ?_) (rejects_digit hhex (by decide))
  refine unambiguous_hexadecimal (unambiguous_word (by decide) ?_) (rejects_digit hhex (by decide))
  exact Regex.Unambiguous.empty

/-- The numbers of a literal call. -/
def literal_entry (bar offset value : List Char) : Entry :=
  (number 10 decimal bar, int_hexadecimal offset, int_hexadecimal value)

/-- A literal call is parsed as the call it is. -/
theorem parse_literal_call {line bar offset value : List Char}
    (hcall : LiteralCall line bar offset value) :
    parse_write_reg_line line = if max_str_digits < bar.length then .error .value_error
      else .ok (some (literal_entry bar offset value)) := by
  obtain ⟨rest, hspaced⟩ := hcall.call
  have hmatch : write_reg_call.Matches line [bar, offset, value] rest :=
    write_reg_call_matches.mpr ⟨bar, offset, value, rfl, hcall.is_bar, hcall.is_offset, hcall.is_value, hspaced⟩
  have hfirst := (@Regex.Unambiguous.first_eq_some_iff _ line write_reg_call_unambiguous
    ([bar, offset, value], rest)).mpr hmatch
  by_cases hlong : max_str_digits < bar.length
  · simp only [parse_write_reg_line, hfirst, int_decimal, if_pos hlong]
  · simp only [parse_write_reg_line, hfirst, int_decimal, if_neg hlong, literal_entry]

/-- Every other line is passed over. -/
theorem parse_other_line {line : List Char}
    (hother : ¬ ∃ bar offset value, LiteralCall line bar offset value) :
    parse_write_reg_line line = .ok none := by
  cases hfirst : write_reg_call.first line with
  | none => rw [parse_write_reg_line, hfirst]
  | some m =>
    have hmatch := (Regex.Unambiguous.first_eq_some_iff write_reg_call_unambiguous).mp hfirst
    obtain ⟨bar, offset, value, _, hbar, hoffset, hvalue, hspaced⟩ := write_reg_call_matches.mp hmatch
    exact absurd ⟨bar, offset, value, hbar, hoffset, hvalue, m.2, hspaced⟩ hother

end motu424.convert_golden
