import Motu424.Foundation.PyText.Printed

open PyText (number hexadecimal is_hexadecimal)

namespace Stdio

def isspace (c : Char) : Bool := c = ' ' ∨ (0x09 ≤ c.toNat ∧ c.toNat ≤ 0x0D)

/-- The value of a decimal digit. -/
def decimal (c : Char) : Option Nat := if 0x30 ≤ c.toNat ∧ c.toNat ≤ 0x39 then some (c.toNat - 0x30) else none

def isdigit (c : Char) : Bool := (decimal c).isSome

/-- A directive of a format, for `int *` and `unsigned int *` arguments. -/
inductive Directive where
  | char (c : Char)
  | blank
  | d
  | x
  deriving DecidableEq, Repr

def directives : List Char → List Directive
  | '%' :: 'd' :: format => .d :: directives format
  | '%' :: 'x' :: format => .x :: directives format
  | c :: format => (if isspace c then .blank else .char c) :: directives format
  | [] => []

/-- An optional sign, and what follows it. -/
def sign : List Char → Bool × List Char
  | '-' :: s => (true, s)
  | '+' :: s => (false, s)
  | s => (false, s)

/-- What follows an optional `0x`. -/
def skip_hex_mark (s : List Char) : List Char :=
  match s with
  | '0' :: 'x' :: rest => rest
  | '0' :: 'X' :: rest => rest
  | _ => s

/-- The `int` in which `%d` leaves a number: it is read as a `long`, which it
saturates. -/
def store_int (negative : Bool) (n : Nat) : BitVec 32 :=
  if negative then BitVec.ofInt 32 (-(min n 0x8000000000000000 : Nat)) else BitVec.ofNat 32 (min n 0x7fffffffffffffff)

/-- The `unsigned int` in which `%x` leaves a number, which is read as an
`unsigned long`. -/
def store_unsigned (negative : Bool) (n : Nat) : BitVec 32 :=
  let magnitude := BitVec.ofNat 32 (min n 0xffffffffffffffff)
  if negative then -magnitude else magnitude

def scan_d (s : List Char) : Option (BitVec 32 × List Char) :=
  let (negative, s) := sign (s.dropWhile isspace)
  let digits := s.takeWhile isdigit
  if digits = [] then none else some (store_int negative (number 10 decimal digits), s.dropWhile isdigit)

def scan_x (s : List Char) : Option (BitVec 32 × List Char) :=
  let (negative, s) := sign (s.dropWhile isspace)
  let s := skip_hex_mark s
  let digits := s.takeWhile is_hexadecimal
  -- a mark without digits is no number by the standard of C, where some libraries store 0
  if digits = [] then none
  else some (store_unsigned negative (number 16 hexadecimal digits), s.dropWhile is_hexadecimal)

/-- The values that are stored until a directive fails. -/
def sscanf : List Char → List Directive → List (BitVec 32)
  | _, [] => []
  | [], .char _ :: _ => []
  | d :: s, .char c :: format => if d = c then sscanf s format else []
  | s, .blank :: format => sscanf (s.dropWhile isspace) format
  | s, .d :: format =>
    match scan_d s with
    | some (value, rest) => value :: sscanf rest format
    | none => []
  | s, .x :: format =>
    match scan_x s with
    | some (value, rest) => value :: sscanf rest format
    | none => []

/-- What successive calls of `fgets` with a buffer of a size return, when a part of
a line has been read. -/
def fgets_lines (size : Nat) : List Char → List Char → List (List Char)
  | line, [] => if line = [] then [] else [line]
  | line, c :: text =>
    if c = '\n' ∨ line.length + 2 = size then (line ++ [c]) :: fgets_lines size [] text
    else fgets_lines size (line ++ [c]) text

section scan

variable {s word : List Char} {format : List Directive} {c : Char} {n : Nat}

/-- A word of the format that stands in the text. -/
theorem sscanf_word : sscanf (word ++ s) (word.map .char ++ format) = sscanf s format := by
  induction word with
  | nil => rfl
  | cons c word ih => rw [List.cons_append, List.map_cons, List.cons_append, sscanf, if_pos rfl, ih]

theorem sscanf_blank : sscanf s (.blank :: format) = sscanf (s.dropWhile isspace) format := by
  cases s with
  | nil => rfl
  | cons c s => rfl

theorem sscanf_d {value : BitVec 32} (hscan : scan_d s = some (value, word)) :
    sscanf s (.d :: format) = value :: sscanf word format := by
  cases s with
  | nil => rw [sscanf, hscan]
  | cons c s => rw [sscanf, hscan]

theorem sscanf_x {value : BitVec 32} (hscan : scan_x s = some (value, word)) :
    sscanf s (.x :: format) = value :: sscanf word format := by
  cases s with
  | nil => rw [sscanf, hscan]
  | cons c s => rw [sscanf, hscan]

theorem decimal_digitChar : ∀ d < 10, decimal d.digitChar = some d := by decide

/-- What the digits of a number are, and what they are not. -/
def IsDigit (c : Char) : Prop := isdigit c = true ∧ isspace c = false ∧ c ≠ '-' ∧ c ≠ '+'

instance (c : Char) : Decidable (IsDigit c) := inferInstanceAs (Decidable (_ ∧ _))

theorem isDigit_digitChar : ∀ d < 10, IsDigit d.digitChar := by decide

theorem takeWhile_field {p : Char → Bool} (hword : ∀ d ∈ word, p d = true) (hc : p c = false) :
    (word ++ c :: s).takeWhile p = word := by
  rw [List.takeWhile_append_of_pos hword, List.takeWhile_cons_of_neg (by rw [hc]; decide), List.append_nil]

theorem dropWhile_field {p : Char → Bool} (hword : ∀ d ∈ word, p d = true) (hc : p c = false) :
    (word ++ c :: s).dropWhile p = c :: s := by
  rw [List.dropWhile_append_of_pos hword, List.dropWhile_cons_of_neg (by rw [hc]; decide)]

theorem sign_of_ne {s : List Char} (hminus : c ≠ '-') (hplus : c ≠ '+') : sign (c :: s) = (false, c :: s) := by
  unfold sign
  split
  · rename_i h
    exact absurd (List.cons.inj h).1 hminus
  · rename_i h
    exact absurd (List.cons.inj h).1 hplus
  · rfl

/-- `%d` reads a printed number and stops after it. -/
theorem scan_d_toDigits (hc : isdigit c = false) :
    scan_d (Nat.toDigits 10 n ++ c :: s) = some (store_int false n, c :: s) := by
  have hdigits : ∀ d ∈ Nat.toDigits 10 n, IsDigit d := PyText.of_mem_toDigits (by decide) isDigit_digitChar
  have hisdigit : ∀ d ∈ Nat.toDigits 10 n, isdigit d = true := fun d hd => (hdigits d hd).1
  have hne : Nat.toDigits 10 n ≠ [] := Nat.toDigits_ne_nil
  have hstart : sign ((Nat.toDigits 10 n ++ c :: s).dropWhile isspace) = (false, Nat.toDigits 10 n ++ c :: s) := by
    cases hn : Nat.toDigits 10 n with
    | nil => exact absurd hn hne
    | cons d rest =>
      obtain ⟨_, hspace, hminus, hplus⟩ := hdigits d (by rw [hn]; exact List.mem_cons_self)
      rw [List.cons_append, List.dropWhile_cons_of_neg (by rw [hspace]; decide), sign_of_ne hminus hplus]
  rw [scan_d, hstart]
  dsimp only
  rw [takeWhile_field hisdigit hc, dropWhile_field hisdigit hc, if_neg hne,
    PyText.number_toDigits (by decide) decimal_digitChar]

/-- `%x` reads a printed number with its `0x`. -/
theorem scan_x_toDigits (hc : is_hexadecimal c = false) :
    scan_x ("0x".toList ++ (Nat.toDigits 16 n ++ c :: s)) = some (store_unsigned false n, c :: s) := by
  have hdigits : ∀ d ∈ Nat.toDigits 16 n, is_hexadecimal d = true := PyText.is_hexadecimal_toDigits
  have hstart : sign (("0x".toList ++ (Nat.toDigits 16 n ++ c :: s)).dropWhile isspace) =
      (false, "0x".toList ++ (Nat.toDigits 16 n ++ c :: s)) := rfl
  have hskip : skip_hex_mark ("0x".toList ++ (Nat.toDigits 16 n ++ c :: s)) = Nat.toDigits 16 n ++ c :: s := rfl
  rw [scan_x, hstart]
  dsimp only
  rw [hskip, takeWhile_field hdigits hc, dropWhile_field hdigits hc, if_neg Nat.toDigits_ne_nil,
    PyText.number_toDigits (by decide) PyText.hexadecimal_digitChar]

end scan

/-- A line that fits into the buffer is read as a whole. -/
theorem fgets_lines_line {size : Nat} {line text rest : List Char} (htext : '\n' ∉ text)
    (hfits : line.length + text.length + 1 < size) :
    fgets_lines size line (text ++ '\n' :: rest) = (line ++ text ++ ['\n']) :: fgets_lines size [] rest := by
  induction text generalizing line with
  | nil => rw [List.nil_append, fgets_lines, if_pos (.inl rfl), List.append_nil]
  | cons c text ih =>
    rw [List.mem_cons, not_or] at htext
    rw [List.length_cons] at hfits
    have hgoes : ¬ (c = '\n' ∨ line.length + 2 = size) := by
      rintro (hnewline | hfull)
      · exact htext.1 hnewline.symm
      · omega
    have hrest : (line ++ [c]).length + text.length + 1 < size := by
      rw [List.length_append, List.length_singleton]
      omega
    rw [List.cons_append, fgets_lines, if_neg hgoes, ih htext.2 hrest]
    simp

end Stdio
