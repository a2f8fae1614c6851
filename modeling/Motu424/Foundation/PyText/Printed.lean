import Motu424.Foundation.PyText

namespace PyText

section digits

variable {base n : Nat}

/-- A number is its last digit, or has its last digit after those of a smaller one. -/
@[elab_as_elim]
theorem digit_induction {motive : Nat → Prop} (hbase : 1 < base) (digit : ∀ d < base, motive d)
    (append : ∀ n d, 0 < n → d < base → motive n → motive (base * n + d)) (n : Nat) : motive n := by
  induction n using Nat.strongRecOn with
  | ind n ih =>
    by_cases hn : n < base
    · exact digit n hn
    · have hless : n / base < n := Nat.div_lt_self (by omega) hbase
      have hlast : n % base < base := Nat.mod_lt n (by omega)
      have hpos : 0 < n / base := Nat.div_pos (Nat.le_of_not_lt hn) (by omega)
      rw [← Nat.div_add_mod n base]
      exact append _ _ hpos hlast (ih _ hless)

theorem toDigits_append_digit {d : Nat} (hbase : 1 < base) (hn : 0 < n) (hd : d < base) :
    Nat.toDigits base (base * n + d) = Nat.toDigits base n ++ [d.digitChar] := by
  rw [← Nat.toDigits_append_toDigits hbase hn hd, Nat.toDigits_of_lt_base hd]

/-- What holds of every digit of a base holds of every character of a number. -/
theorem of_mem_toDigits {P : Char → Prop} (hbase : 1 < base) (hdigit : ∀ d < base, P d.digitChar) :
    ∀ c ∈ Nat.toDigits base n, P c := by
  induction n using digit_induction hbase with
  | digit d hd =>
    rw [Nat.toDigits_of_lt_base hd]
    exact List.forall_mem_singleton.mpr (hdigit d hd)
  | append n d hn hd ih =>
    rw [toDigits_append_digit hbase hn hd]
    intro c hc
    rcases List.mem_append.mp hc with hc | hc
    · exact ih c hc
    · rw [List.mem_singleton.mp hc]
      exact hdigit d hd

theorem number_append_digit (base : Nat) (value : Char → Option Nat) (digits : List Char) (c : Char) :
    number base value (digits ++ [c]) = base * number base value digits + (value c).getD 0 := by
  rw [number, List.foldl_append]
  rfl

/-- A number reads back as the number that was printed. -/
theorem number_toDigits {value : Char → Option Nat} (hbase : 1 < base)
    (hvalue : ∀ d < base, value d.digitChar = some d) : number base value (Nat.toDigits base n) = n := by
  induction n using digit_induction hbase with
  | digit d hd =>
    rw [Nat.toDigits_of_lt_base hd, ← List.nil_append [d.digitChar], number_append_digit, hvalue d hd,
      Option.getD_some]
    simp [number]
  | append n d hn hd ih =>
    rw [toDigits_append_digit hbase hn hd, number_append_digit, hvalue d hd, Option.getD_some, ih]

theorem decimal_digitChar : ∀ d < 10, decimal d.digitChar = some d := by decide

theorem hexadecimal_digitChar : ∀ d < 16, hexadecimal d.digitChar = some d := by decide

theorem is_decimal_toDigits : ∀ c ∈ Nat.toDigits 10 n, is_decimal c = true := by
  refine of_mem_toDigits (by decide) fun d hd => ?_
  rw [is_decimal, decimal_digitChar d hd, Option.isSome_some]

theorem is_hexadecimal_toDigits : ∀ c ∈ Nat.toDigits 16 n, is_hexadecimal c = true := by
  refine of_mem_toDigits (by decide) fun d hd => ?_
  rw [is_hexadecimal, hexadecimal_digitChar d hd, Option.isSome_some]

/-- The one limit is the length of a decimal number. -/
theorem int_decimal_toDigits : int_decimal (Nat.toDigits 10 n) =
    if max_str_digits < (Nat.toDigits 10 n).length then none else some n := by
  rw [int_decimal, number_toDigits (by decide) decimal_digitChar]

theorem int_base16_toDigits : int_base16 (Nat.toDigits 16 n) = n :=
  number_toDigits (by decide) hexadecimal_digitChar

end digits

section line

variable {text rest : List Char}

/-- No line ends in the text. -/
def OneLine (text : List Char) : Prop := ∀ c ∈ text, c ≠ '\n' ∧ c ≠ '\r'

instance (text : List Char) : Decidable (OneLine text) := List.decidableBAll _ text

theorem OneLine.append {xs ys : List Char} (hxs : OneLine xs) (hys : OneLine ys) : OneLine (xs ++ ys) := by
  intro c hc
  rcases List.mem_append.mp hc with hc | hc
  · exact hxs c hc
  · exact hys c hc

theorem universal_newlines_line (htext : OneLine text) :
    universal_newlines (text ++ '\n' :: rest) = text ++ '\n' :: universal_newlines rest := by
  induction text with
  | nil => rfl
  | cons c text ih =>
    have hc : c ≠ '\r' := (htext c List.mem_cons_self).2
    rw [List.cons_append, universal_newlines, ih fun d hd => htext d (List.mem_cons_of_mem c hd),
      List.cons_append]
    · exact fun _ hreturn _ => hc hreturn
    · exact hc

theorem lines_line (htext : OneLine text) : lines (text ++ ['\n']) = [text ++ ['\n']] := by
  induction text with
  | nil => rfl
  | cons c text ih =>
    rw [List.cons_append, lines, if_neg (htext c List.mem_cons_self).1,
      ih fun d hd => htext d (List.mem_cons_of_mem c hd)]

/-- A file of one line. -/
theorem file_lines_line (htext : OneLine text) :
    lines (universal_newlines (text ++ ['\n'])) = [text ++ ['\n']] := by
  rw [universal_newlines_line htext]
  exact lines_line htext

theorem universal_newlines_text (htext : OneLine text) : universal_newlines text = text := by
  induction text with
  | nil => rfl
  | cons c text ih =>
    have hc : c ≠ '\r' := (htext c List.mem_cons_self).2
    rw [universal_newlines, ih fun d hd => htext d (List.mem_cons_of_mem c hd)]
    · exact fun _ hreturn _ => hc hreturn
    · exact hc

theorem lines_text (htext : OneLine text) (hne : text ≠ []) : lines text = [text] := by
  induction text with
  | nil => exact absurd rfl hne
  | cons c text ih =>
    rw [lines, if_neg (htext c List.mem_cons_self).1]
    by_cases htail : text = []
    · rw [htail]
      rfl
    · rw [ih (fun d hd => htext d (List.mem_cons_of_mem c hd)) htail]

/-- A file of one line without a newline. -/
theorem file_lines_text (htext : OneLine text) (hne : text ≠ []) : lines (universal_newlines text) = [text] := by
  rw [universal_newlines_text htext, lines_text htext hne]

/-- A file of several lines, joined by newlines: all lines but the last have one. -/
theorem file_lines_intercalate {texts : List (List Char)} (htexts : ∀ text ∈ texts, OneLine text ∧ text ≠ []) :
    List.Forall₂ (fun line text => line = text ∨ line = text ++ ['\n'])
      (lines (universal_newlines (List.intercalate ['\n'] texts))) texts := by
  induction texts with
  | nil => exact .nil
  | cons text texts ih =>
    obtain ⟨hone, hne⟩ := htexts text List.mem_cons_self
    cases texts with
    | nil =>
      rw [List.intercalate_singleton, file_lines_text hone hne]
      exact .cons (.inl rfl) .nil
    | cons text' texts =>
      rw [List.intercalate_cons_cons, List.append_assoc, List.singleton_append, file_lines_append, file_lines_line hone,
        List.singleton_append]
      exact .cons (.inr rfl) (ih fun t ht => htexts t (List.mem_cons_of_mem text ht))

/-- A text that is no white space at its ends is the line without its newline. -/
theorem strip_line {c d : Char} {init tail : List Char} (hfirst : text = c :: tail) (hlast : text = init ++ [d])
    (hc : is_space c = false) (hd : is_space d = false) : strip (text ++ ['\n']) = text := by
  have hnewline : is_space '\n' = true := by decide
  have hleft : (text ++ ['\n']).dropWhile is_space = text ++ ['\n'] := by
    rw [hfirst, List.cons_append, List.dropWhile_cons_of_neg (by rw [hc]; decide)]
  rw [strip, hleft, List.reverse_append, List.reverse_singleton, List.singleton_append,
    List.dropWhile_cons_of_pos hnewline, hlast, List.reverse_append, List.reverse_singleton,
    List.singleton_append, List.dropWhile_cons_of_neg (by rw [hd]; decide), List.reverse_cons,
    List.reverse_reverse]

end line

end PyText
