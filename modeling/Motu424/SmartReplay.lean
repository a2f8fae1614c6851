import Motu424.VfioTrace
import Motu424.Foundation.Stdio
import Mathlib.Data.List.Infix

open Stdio
open motu424.vfio_trace

namespace motu424.smart_replay

/-- The device that the formats name. -/
def device : PciAddress := ⟨0, 6, 1, 0⟩

/-- The lines that the loop gets into its buffer. -/
def trace_lines (content : List Char) : List (List Char) := fgets_lines 256 [] content

def write_format : List Char := "vfio_region_write  (0000:06:01.0:region%d+%x, %x".toList

/-- The `bar`, `off` and `val` that the loop scans from a line of a write. -/
def scan_write (line : List Char) : Option (U32 × U32 × U32) :=
  if "vfio_region_write".toList <:+: line then
    match sscanf line (directives write_format) with
    | [bar, off, val] => some (bar, off, val)
    | _ => none
  else none

theorem device_text : device.text = "0000:06:01.0".toList := by decide

theorem directives_write_format : directives write_format =
    "vfio_region_write".toList.map .char ++ (.blank :: .blank :: ("(0000:06:01.0:region".toList.map .char ++
      (.d :: ("+".toList.map .char ++ (.x :: (",".toList.map .char ++ [.blank, .x])))))) := by decide +kernel

/-- Every write to the device is scanned. -/
theorem scan_write_write (bar offset value size : Nat) :
    scan_write ((Access.write bar offset value size).line device ++ ['\n']) =
      some (store_int false bar, store_unsigned false offset, store_unsigned false value) := by
  obtain ⟨rest, hline⟩ : ∃ rest, (Access.write bar offset value size).line device ++ ['\n'] =
      "vfio_region_write".toList ++ ("  ".toList ++ ("(0000:06:01.0:region".toList ++ (dec_text bar ++ ("+".toList ++
        ("0x".toList ++ (hex_text offset ++ (",".toList ++ (" ".toList ++ ("0x".toList ++ (hex_text value ++
          ',' :: rest)))))))))) := by
    have hparen : "  (".toList = "  ".toList ++ "(".toList := by decide
    have hplus : "+0x".toList = "+".toList ++ "0x".toList := by decide
    have hzero : " 0x".toList = " ".toList ++ "0x".toList := by decide
    have hcomma : ", ".toList = ',' :: " ".toList := by decide
    have hopening : "(0000:06:01.0:region".toList =
        "(".toList ++ ("0000:06:01.0".toList ++ ":region".toList) := by decide
    rw [write_line, region_text, device_text, hparen, hplus, hzero, hcomma, hopening]
    simp only [List.append_assoc, List.cons_append]
    exact ⟨_, rfl⟩
  have hnamed : "vfio_region_write".toList <:+: (Access.write bar offset value size).line device ++ ['\n'] := by
    rw [hline]
    exact (List.prefix_append _ _).isInfix
  have hbar (s : List Char) : scan_d (dec_text bar ++ ("+".toList ++ s)) =
      some (store_int false bar, "+".toList ++ s) := scan_d_toDigits (by decide)
  have hoffset (s : List Char) : scan_x ("0x".toList ++ (hex_text offset ++ (",".toList ++ s))) =
      some (store_unsigned false offset, ",".toList ++ s) := scan_x_toDigits (by decide)
  have hvalue (s : List Char) : scan_x ("0x".toList ++ (hex_text value ++ ',' :: s)) =
      some (store_unsigned false value, ',' :: s) := scan_x_toDigits (by decide)
  have hblanks (s : List Char) : ("  ".toList ++ ("(0000:06:01.0:region".toList ++ s)).dropWhile isspace =
      "(0000:06:01.0:region".toList ++ s := rfl
  have hopen (s : List Char) : ("(0000:06:01.0:region".toList ++ s).dropWhile isspace =
      "(0000:06:01.0:region".toList ++ s := rfl
  have hblank (s : List Char) : (" ".toList ++ ("0x".toList ++ s)).dropWhile isspace = "0x".toList ++ s := rfl
  have hscan : sscanf ((Access.write bar offset value size).line device ++ ['\n']) (directives write_format) =
      [store_int false bar, store_unsigned false offset, store_unsigned false value] := by
    rw [hline, directives_write_format, sscanf_word, sscanf_blank, hblanks, sscanf_blank, hopen, sscanf_word,
      sscanf_d (hbar _), sscanf_word, sscanf_x (hoffset _), sscanf_word, sscanf_blank, hblank, sscanf_x (hvalue _),
      sscanf]
  unfold scan_write
  rw [if_pos hnamed, hscan]

/-- A read is not. -/
theorem scan_write_read (bar offset value size : Nat) :
    scan_write ((Access.read bar offset value size).line device ++ ['\n']) = none := by
  have hname : 'w' ∉ "vfio_region_read".toList := by decide
  have hfields : 'w' ∉ (Access.read bar offset value size).fields device :=
    (Access.read bar offset value size).not_mem_fields device (by decide) (by decide)
  have hnewline : 'w' ∉ ['\n'] := by decide
  have hline : 'w' ∉ (Access.read bar offset value size).line device ++ ['\n'] := by
    rw [Access.line, List.mem_append, List.mem_append, not_or, not_or]
    exact ⟨⟨hname, hfields⟩, hnewline⟩
  unfold scan_write
  rw [if_neg fun hnamed => hline (hnamed.subset (by decide))]

end motu424.smart_replay
