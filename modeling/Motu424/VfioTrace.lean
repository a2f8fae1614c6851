import Motu424.Hw
import Motu424.Foundation.PyText.Printed

open PyText

namespace motu424.vfio_trace

/-- `%d` -/
def dec_text (n : Nat) : List Char := Nat.toDigits 10 n

/-- `%x` -/
def hex_text (n : Nat) : List Char := Nat.toDigits 16 n

/-- `%04x` and the like. -/
def padded_hex_text (width n : Nat) : List Char := (hex_text n).leftpad width '0'

/-- A PCI address by its parts. -/
structure PciAddress where
  domain : Nat
  bus : BitVec 8
  device : BitVec 5
  function : BitVec 3
  deriving DecidableEq, Repr

/-- `%04x:%02x:%02x.%x`, which is how the kernel names the device. -/
def PciAddress.text (address : PciAddress) : List Char := List.flatten [
  padded_hex_text 4 address.domain, ":".toList,
  padded_hex_text 2 address.bus.toNat, ":".toList,
  padded_hex_text 2 address.device.toNat, ".".toList,
  hex_text address.function.toNat]

def letters : List Char := "abcdef".toList

/-- A digit above nine is printed in the address. -/
def PciAddress.HasLetter (address : PciAddress) : Prop := ∃ c ∈ address.text, c ∈ letters

instance (address : PciAddress) : Decidable address.HasLetter := List.decidableBEx _ _

/-- A register access that is traced. -/
inductive Access where
  | write (bar offset value size : Nat)
  | read (bar offset value size : Nat)
  deriving DecidableEq, Repr

def Access.bar : Access → Nat
  | write bar _ _ _ => bar
  | read bar _ _ _ => bar

def Access.size : Access → Nat
  | write _ _ _ size => size
  | read _ _ _ size => size

def Access.IsWrite : Access → Prop
  | write .. => True
  | read .. => False

/-- What every line shows of its access first. -/
def region_text (address : PciAddress) (bar offset : Nat) (rest : List Char) : List Char :=
  "  (".toList ++ (address.text ++ (":region".toList ++ (dec_text bar ++ ("+0x".toList ++ (hex_text offset ++
    (",".toList ++ rest))))))

/-- The name of the trace event. -/
def Access.name : Access → List Char
  | write .. => "vfio_region_write".toList
  | read .. => "vfio_region_read".toList

/-- What follows the name in `vfio_region_write  (0000:06:01.0:region0+0x8348, 0x10203, 4)`
and in `vfio_region_read  (0000:06:01.0:region0+0x6fb8, 4) = 0x30000`. -/
def Access.fields (address : PciAddress) : Access → List Char
  | write bar offset value size =>
    region_text address bar offset
      (" 0x".toList ++ (hex_text value ++ (", ".toList ++ (dec_text size ++ ")".toList))))
  | read bar offset value size =>
    region_text address bar offset (" ".toList ++ (dec_text size ++ (") = 0x".toList ++ hex_text value)))

def Access.line (address : PciAddress) (access : Access) : List Char := access.name ++ access.fields address

/-- The trace of a list of accesses to one device. -/
def trace (address : PciAddress) (accesses : List Access) : List Char :=
  accesses.flatMap fun access => access.line address ++ ['\n']

example : (Access.write 0 0x8348 0x10203 4).line ⟨0, 6, 1, 0⟩ =
    "vfio_region_write  (0000:06:01.0:region0+0x8348, 0x10203, 4)".toList := by decide

example : (Access.read 0 0x6fb8 0x30000 4).line ⟨0, 6, 1, 0⟩ =
    "vfio_region_read  (0000:06:01.0:region0+0x6fb8, 4) = 0x30000".toList := by decide

section digits

variable {n width : Nat} {c : Char}

theorem dec_text_ne_nil : dec_text n ≠ [] := Nat.toDigits_ne_nil

theorem hex_text_ne_nil : hex_text n ≠ [] := Nat.toDigits_ne_nil

theorem padded_hex_text_ne_nil : padded_hex_text width n ≠ [] := by
  exact List.append_ne_nil_of_right_ne_nil _ hex_text_ne_nil

theorem is_decimal_dec_text : ∀ c ∈ dec_text n, is_decimal c = true := is_decimal_toDigits

theorem is_hexadecimal_hex_text : ∀ c ∈ hex_text n, is_hexadecimal c = true := is_hexadecimal_toDigits

/-- What holds of the sixteen digits holds of what is printed with them. -/
theorem of_mem_hex_text {P : Char → Prop} (hdigit : ∀ d < 16, P d.digitChar) : ∀ c ∈ hex_text n, P c :=
  of_mem_toDigits (by decide) hdigit

theorem of_mem_padded_hex_text {P : Char → Prop} (hdigit : ∀ d < 16, P d.digitChar) :
    ∀ c ∈ padded_hex_text width n, P c := by
  intro c hc
  rw [padded_hex_text, List.leftpad] at hc
  rcases List.mem_append.mp hc with hzero | hc
  · rw [List.eq_of_mem_replicate hzero]
    exact hdigit 0 (by decide)
  · exact of_mem_hex_text hdigit c hc

theorem is_decimal_digitChar : ∀ d < 16, is_decimal d.digitChar = true ↔ d.digitChar ∉ letters := by decide

theorem not_mem_padded_hex_text (hc : ∀ d < 16, d.digitChar ≠ c) : c ∉ padded_hex_text width n :=
  List.forall_mem_ne'.mp (of_mem_padded_hex_text hc)

end digits

/-- Every character that stands between the digits of a line. -/
def marks : List Char := " (:region.+0x,)=".toList

section lines

variable (address : PciAddress) (access : Access)

theorem write_line (bar offset value size : Nat) : (Access.write bar offset value size).line address =
    "vfio_region_write".toList ++ region_text address bar offset
      (" 0x".toList ++ (hex_text value ++ (", ".toList ++ (dec_text size ++ ")".toList)))) := (rfl)

theorem read_line (bar offset value size : Nat) : (Access.read bar offset value size).line address =
    "vfio_region_read".toList ++ region_text address bar offset
      (" ".toList ++ (dec_text size ++ (") = 0x".toList ++ hex_text value))) := (rfl)

theorem write_name : "vfio_region_write".toList = "vfio_region_".toList ++ 'w' :: "rite".toList := by decide

theorem read_name : "vfio_region_read".toList = "vfio_region_".toList ++ 'r' :: "ead".toList := by decide

theorem is_space_blank : ∀ c ∈ " ".toList, is_space c = true := List.all_eq_true.mp (by decide)

theorem is_space_blanks : ∀ c ∈ "  ".toList, is_space c = true := List.all_eq_true.mp (by decide)

section not_mem

variable {c : Char} (hdigit : ∀ d < 16, d.digitChar ≠ c) (hmarks : c ∉ marks)
include hdigit

theorem not_mem_hex_text {n : Nat} : c ∉ hex_text n := List.forall_mem_ne'.mp (of_mem_hex_text hdigit)

theorem not_mem_dec_text {n : Nat} : c ∉ dec_text n := by
  have hdecimal : ∀ d < 10, d.digitChar ≠ c := fun d hd => hdigit d (by omega)
  exact List.forall_mem_ne'.mp (of_mem_toDigits (by decide) hdecimal)

omit hdigit in
include hmarks in
theorem not_mem_marks {word : List Char} (hword : word.all (· ∈ marks) = true) : c ∉ word := by
  intro hmem
  exact hmarks (of_decide_eq_true (List.all_eq_true.mp hword c hmem))

include hmarks

theorem not_mem_address_text : c ∉ address.text := by
  simp only [PciAddress.text, List.flatten_cons, List.flatten_nil, List.mem_append, not_or]
  exact ⟨not_mem_padded_hex_text hdigit, not_mem_marks hmarks (by decide), not_mem_padded_hex_text hdigit,
    not_mem_marks hmarks (by decide), not_mem_padded_hex_text hdigit, not_mem_marks hmarks (by decide),
    not_mem_hex_text hdigit, List.not_mem_nil⟩

theorem not_mem_region_text {bar offset : Nat} {rest : List Char} (hrest : c ∉ rest) :
    c ∉ region_text address bar offset rest := by
  simp only [region_text, List.mem_append, not_or]
  exact ⟨not_mem_marks hmarks (by decide), not_mem_address_text address hdigit hmarks,
    not_mem_marks hmarks (by decide), not_mem_dec_text hdigit, not_mem_marks hmarks (by decide),
    not_mem_hex_text hdigit, not_mem_marks hmarks (by decide), hrest⟩

/-- A character that is no digit and no mark stands in the name of the event only. -/
theorem Access.not_mem_fields : c ∉ access.fields address := by
  cases access with
  | write bar offset value size =>
    apply not_mem_region_text address hdigit hmarks
    simp only [List.mem_append, not_or]
    exact ⟨not_mem_marks hmarks (by decide), not_mem_hex_text hdigit, not_mem_marks hmarks (by decide),
      not_mem_dec_text hdigit, not_mem_marks hmarks (by decide)⟩
  | read bar offset value size =>
    apply not_mem_region_text address hdigit hmarks
    simp only [List.mem_append, not_or]
    exact ⟨not_mem_marks hmarks (by decide), not_mem_dec_text hdigit, not_mem_marks hmarks (by decide),
      not_mem_hex_text hdigit⟩

end not_mem

/-- An access is traced on one line. -/
theorem Access.one_line : OneLine (access.line address) := by
  have hnewline : '\n' ∉ access.fields address := access.not_mem_fields address (by decide) (by decide)
  have hreturn : '\r' ∉ access.fields address := access.not_mem_fields address (by decide) (by decide)
  have hfields : OneLine (access.fields address) :=
    fun c hc => ⟨fun heq => hnewline (heq ▸ hc), fun heq => hreturn (heq ▸ hc)⟩
  have hwrite : OneLine "vfio_region_write".toList := by decide
  have hread : OneLine "vfio_region_read".toList := by decide
  have hname : OneLine access.name := by
    cases access with
    | write => exact hwrite
    | read => exact hread
  exact hname.append hfields

/-- Stripping takes the newline of a line, and nothing else. -/
theorem Access.strip_line : strip (access.line address ++ ['\n']) = access.line address := by
  obtain ⟨tail, hfirst⟩ : ∃ tail, access.line address = 'v' :: tail := by
    cases access with
    | write => exact ⟨_, rfl⟩
    | read => exact ⟨_, rfl⟩
  cases access with
  | write bar offset value size =>
    have hparen : ")".toList = [')'] := by decide
    obtain ⟨init, hlast⟩ : ∃ init, (write bar offset value size).line address = init ++ [')'] := by
      rw [write_line, region_text]
      simp only [hparen, ← List.append_assoc]
      exact ⟨_, rfl⟩
    exact PyText.strip_line hfirst hlast (by decide) (by decide)
  | read bar offset value size =>
    obtain ⟨front, d, hvalue⟩ : ∃ front d, hex_text value = front ++ [d] :=
      ⟨_, _, (List.dropLast_concat_getLast hex_text_ne_nil).symm⟩
    obtain ⟨init, hlast⟩ : ∃ init, (read bar offset value size).line address = init ++ [d] := by
      rw [read_line, region_text]
      simp only [hvalue, ← List.append_assoc]
      exact ⟨_, rfl⟩
    have hdigit : is_hexadecimal d = true := @is_hexadecimal_hex_text value d (by simp [hvalue])
    exact PyText.strip_line hfirst hlast (by decide) (not_is_space_of_is_hexadecimal hdigit)

end lines

end motu424.vfio_trace
