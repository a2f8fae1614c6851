import Motu424.ConvertGolden
import Mathlib.Data.List.Infix

open PyText
open motu424.convert_golden (hexadecimal_literal)

namespace motu424.generate_dsp

/-- `vfio_region_write.*\+0x([0-9a-fA-F]+), (0x[0-9a-fA-F]+)` -/
def write_pattern : Regex := .concat [
  .lit "vfio_region_write".toList, .star (· ≠ '\n'), .lit "+0x".toList, .group (.plus is_hexadecimal),
  .lit ", ".toList, .group hexadecimal_literal]

/-- A line of `golden_dsp.c`. -/
def call_text (offset val : List Char) : List Char :=
  "    write_reg(fd, 0, 0x".toList ++ offset ++ ", ".toList ++ val ++ ");".toList

/-- The first word of the DSP is written. -/
def StartsParsing (line : List Char) : Prop := "region0+0x0, 0x7ec582a".toList <:+: line

instance (line : List Char) : Decidable (StartsParsing line) := inferInstanceAs (Decidable (_ <:+: _))

/-- The last word of the DSP is written. -/
def StopsParsing (line : List Char) : Prop := "region0+0xb44, 0x30000890".toList <:+: line

instance (line : List Char) : Decidable (StopsParsing line) := inferInstanceAs (Decidable (_ <:+: _))

def first_call : List Char := "    write_reg(fd, 0, 0x0, 0x7ec582a);".toList
def last_call : List Char := "    write_reg(fd, 0, 0xb44, 0x30000890);".toList

def write_output (line : List Char) : List (List Char) :=
  if "vfio_region_write".toList <:+: line ∧ "region0".toList <:+: line then
    match write_pattern.search line with
    | some ([offset, val], _) => [call_text offset val]
    | _ => []
  else []

/-- The loop over the lines, with the output so far. -/
def generate_lines : Bool → List (List Char) → List (List Char) → List (List Char)
  | _, [], output => output
  | start_parsing, line :: rest, output =>
    if StartsParsing line then generate_lines true rest (output ++ [first_call])
    else if start_parsing then
      if StopsParsing line then output ++ [last_call]
      else generate_lines start_parsing rest (output ++ write_output line)
    else generate_lines start_parsing rest output

/-- `golden_dsp.c` for the text of the trace. -/
def golden_dsp (content : List Char) : List Char :=
  List.intercalate ['\n'] (generate_lines false (lines (universal_newlines content)) [])

end motu424.generate_dsp
