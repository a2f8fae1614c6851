import Mathlib.Tactic.Common

namespace PyText

def is_space (c : Char) : Bool :=
  (0x09 ≤ c.toNat ∧ c.toNat ≤ 0x0D) ∨ (0x1C ≤ c.toNat ∧ c.toNat ≤ 0x20) ∨
    (0x2000 ≤ c.toNat ∧ c.toNat ≤ 0x200A) ∨
    c.toNat ∈ [0x85, 0xA0, 0x1680, 0x2028, 0x2029, 0x202F, 0x205F, 0x3000]

/-- The zeros of the ranges of decimal digits, as of Unicode 15. -/
def decimal_zeros : List Nat :=
  [0x30, 0x660, 0x6F0, 0x7C0, 0x966, 0x9E6, 0xA66, 0xAE6, 0xB66, 0xBE6, 0xC66, 0xCE6, 0xD66, 0xDE6,
    0xE50, 0xED0, 0xF20, 0x1040, 0x1090, 0x17E0, 0x1810, 0x1946, 0x19D0, 0x1A80, 0x1A90, 0x1B50,
    0x1BB0, 0x1C40, 0x1C50, 0xA620, 0xA8D0, 0xA900, 0xA9D0, 0xA9F0, 0xAA50, 0xABF0, 0xFF10, 0x104A0,
    0x10D30, 0x11066, 0x110F0, 0x11136, 0x111D0, 0x112F0, 0x11450, 0x114D0, 0x11650, 0x116C0,
    0x11730, 0x118E0, 0x11950, 0x11C50, 0x11D50, 0x11DA0, 0x11F50, 0x16A60, 0x16AC0, 0x16B50,
    0x1D7CE, 0x1D7D8, 0x1D7E2, 0x1D7EC, 0x1D7F6, 0x1E140, 0x1E2F0, 0x1E4F0, 0x1E950, 0x1FBF0]

/-- The value of a decimal digit. -/
def decimal (c : Char) : Option Nat :=
  (decimal_zeros.find? fun start => start ≤ c.toNat ∧ c.toNat < start + 10).map fun start => c.toNat - start

def is_decimal (c : Char) : Bool := (decimal c).isSome

/-- The value of a hexadecimal digit. -/
def hexadecimal (c : Char) : Option Nat :=
  if 0x30 ≤ c.toNat ∧ c.toNat ≤ 0x39 then some (c.toNat - 0x30)
  else if 0x41 ≤ c.toNat ∧ c.toNat ≤ 0x46 then some (c.toNat - 0x41 + 10)
  else if 0x61 ≤ c.toNat ∧ c.toNat ≤ 0x66 then some (c.toNat - 0x61 + 10)
  else none

def is_hexadecimal (c : Char) : Bool := (hexadecimal c).isSome

/-- No range of decimal digits meets the white space. -/
theorem not_is_space_of_is_decimal {c : Char} (hc : is_decimal c = true) : is_space c = false := by
  obtain ⟨start, hstart⟩ : ∃ start,
      decimal_zeros.find? (fun start => start ≤ c.toNat ∧ c.toNat < start + 10) = some start := by
    rw [is_decimal, decimal, Option.isSome_map, Option.isSome_iff_exists] at hc
    exact hc
  have hmem := List.mem_of_find?_eq_some hstart
  have hrange := List.find?_some hstart
  rw [decide_eq_true_iff] at hrange
  have happart : ∀ start ∈ decimal_zeros, start = 0x30 ∨ (0xA0 < start ∧ start + 10 ≤ 0x1680) ∨
      (0x1680 < start ∧ start + 10 ≤ 0x2000) ∨ 0x3000 < start := by decide
  have hplace := happart start hmem
  apply decide_eq_false
  simp only [List.mem_cons, List.not_mem_nil, or_false]
  omega

theorem not_is_decimal_of_is_space {c : Char} (hc : is_space c = true) : is_decimal c = false := by
  cases hdigit : is_decimal c with
  | false => rfl
  | true =>
    rw [not_is_space_of_is_decimal hdigit] at hc
    cases hc

theorem not_is_space_of_printable {c : Char} (hlow : 0x21 ≤ c.toNat) (hhigh : c.toNat ≤ 0x7E) :
    is_space c = false := by
  apply decide_eq_false
  simp only [List.mem_cons, List.not_mem_nil, or_false]
  omega

theorem not_is_space_of_is_hexadecimal {c : Char} (hc : is_hexadecimal c = true) :
    is_space c = false := by
  have hrange : 0x21 ≤ c.toNat ∧ c.toNat ≤ 0x7E := by
    rw [is_hexadecimal, hexadecimal] at hc
    split at hc
    · omega
    · split at hc
      · omega
      · split at hc
        · omega
        · cases hc
  exact not_is_space_of_printable hrange.1 hrange.2

/-- The number that digits spell in a base. -/
def number (base : Nat) (value : Char → Option Nat) (digits : List Char) : Nat :=
  digits.foldl (fun n c => base * n + (value c).getD 0) 0

/-- The default of `sys.int_info.default_max_str_digits`. -/
def max_str_digits : Nat := 4300

/-- `int(text)` for a text of decimal digits. There is no value, but a
`ValueError`, when the text is too long. -/
def int_decimal (text : List Char) : Option Nat :=
  if max_str_digits < text.length then none else some (number 10 decimal text)

/-- `int(text, 16)` for a text of hexadecimal digits after `0x`. -/
def int_hexadecimal (text : List Char) : Nat := number 16 hexadecimal (text.drop 2)

/-- `int(text, 16)` for a text of hexadecimal digits alone. -/
def int_base16 (text : List Char) : Nat := number 16 hexadecimal text

/-- `text.strip()` -/
def strip (text : List Char) : List Char :=
  ((text.dropWhile is_space).reverse.dropWhile is_space).reverse

/-- What reading in text mode makes of the ends of lines. -/
def universal_newlines : List Char → List Char
  | '\r' :: '\n' :: text => '\n' :: universal_newlines text
  | '\r' :: text => '\n' :: universal_newlines text
  | c :: text => c :: universal_newlines text
  | [] => []

/-- The lines of a text, each with its newline. -/
def lines : List Char → List (List Char)
  | [] => []
  | c :: text =>
    if c = '\n' then [c] :: lines text
    else
      match lines text with
      | [] => [[c]]
      | line :: rest => (c :: line) :: rest

/-- A newline stays where it is, whatever is read before and after it. -/
theorem universal_newlines_append (xs : List Char) :
    ∃ text, ∀ ys, universal_newlines (xs ++ '\n' :: ys) = text ++ '\n' :: universal_newlines ys := by
  induction xs using universal_newlines.induct with
  | case1 xs ih =>
    obtain ⟨text, htext⟩ := ih
    refine ⟨'\n' :: text, fun ys => ?_⟩
    rw [List.cons_append, List.cons_append, universal_newlines, htext, List.cons_append]
  | case2 xs hnewline ih =>
    cases xs with
    | nil => exact ⟨[], fun ys => rfl⟩
    | cons c xs =>
      have hreturn (rest : List Char) :
          universal_newlines ('\r' :: c :: rest) = '\n' :: universal_newlines (c :: rest) := by
        rw [universal_newlines]
        intro rest' hrest
        exact hnewline xs (by rw [(List.cons.inj hrest).1])
      obtain ⟨text, htext⟩ := ih
      refine ⟨'\n' :: text, fun ys => ?_⟩
      rw [List.cons_append, List.cons_append, hreturn, ← List.cons_append, htext, List.cons_append]
  | case3 c xs _ hreturn ih =>
    have hother (rest : List Char) : universal_newlines (c :: rest) = c :: universal_newlines rest := by
      rw [universal_newlines]
      · exact fun _ hc _ => hreturn hc
      · exact hreturn
    obtain ⟨text, htext⟩ := ih
    refine ⟨c :: text, fun ys => ?_⟩
    rw [List.cons_append, hother, htext, List.cons_append]
  | case4 => exact ⟨[], fun ys => rfl⟩

theorem lines_ne_nil {text : List Char} (htext : text ≠ []) : lines text ≠ [] := by
  cases text with
  | nil => exact absurd rfl htext
  | cons c text =>
    rw [lines]
    split
    · exact List.cons_ne_nil _ _
    · split
      · exact List.cons_ne_nil _ _
      · exact List.cons_ne_nil _ _

theorem lines_append (xs ys : List Char) : lines (xs ++ '\n' :: ys) = lines (xs ++ ['\n']) ++ lines ys := by
  induction xs with
  | nil => simp [lines]
  | cons c xs ih =>
    rw [List.cons_append, List.cons_append, lines, lines, ih]
    by_cases hc : c = '\n'
    · rw [if_pos hc, if_pos hc, List.cons_append]
    · rw [if_neg hc, if_neg hc]
      cases hlines : lines (xs ++ ['\n']) with
      | nil => exact absurd hlines (lines_ne_nil (by simp))
      | cons line rest => rfl

/-- The lines of a file that goes on after a newline. -/
theorem file_lines_append (xs ys : List Char) : lines (universal_newlines (xs ++ '\n' :: ys)) =
    lines (universal_newlines (xs ++ ['\n'])) ++ lines (universal_newlines ys) := by
  obtain ⟨text, htext⟩ := universal_newlines_append xs
  rw [htext, htext, lines_append]
  rfl

end PyText
