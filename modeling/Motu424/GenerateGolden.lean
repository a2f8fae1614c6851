import Motu424.ConvertGolden
import Mathlib.Data.List.Infix

open PyText
open motu424.convert_golden (hexadecimal_literal)

namespace motu424.generate_golden3

/-- The part that both patterns share, after the name of the event. -/
def region (rest : List Regex) : List Regex :=
  .plus is_space :: .lit "(".toList :: .plus (· ≠ ':') :: .lit ":region".toList ::
  .group (.plus is_decimal) :: .lit "+".toList :: .group hexadecimal_literal :: rest

/-- `vfio_region_write\s+\([^:]+:region(\d+)\+(0x[0-9a-fA-F]+),\s+(0x[0-9a-fA-F]+)` -/
def write_pattern : Regex := .concat (.lit "vfio_region_write".toList ::
  region [.lit ",".toList, .plus is_space, .group hexadecimal_literal])

/-- `vfio_region_read\s+\([^:]+:region(\d+)\+(0x[0-9a-fA-F]+)` -/
def read_pattern : Regex := .concat (.lit "vfio_region_read".toList :: region [])

/-- A line of `golden_sequence.c`. -/
inductive OutputLine where
  | write_reg (bar offset val : List Char)
  | kickstart
  | usleep (offset : List Char)
  deriving DecidableEq, Repr

def OutputLine.text : OutputLine → List Char
  | write_reg bar offset val =>
    "    write_reg(fd, ".toList ++ bar ++ ", ".toList ++ offset ++ ", ".toList ++ val ++ ");".toList
  | kickstart => "    write_reg(fd, 1, 0x8, 0x10914221); // Kickstart!".toList
  | usleep offset => "    usleep(100); // Emulate hardware delay for read at ".toList ++ offset

/-- The last word of the DSP is written. -/
def StartsParsing (line : List Char) : Prop :=
  "vfio_region_write".toList <:+: line ∧ "region0+0xb44".toList <:+: line ∧ "0x30000890".toList <:+: line

instance (line : List Char) : Decidable (StartsParsing line) := inferInstanceAs (Decidable (_ ∧ _))

/-- The line of the kickstart. -/
def HitsKickstart (line : List Char) : Prop := "10914221".toList <:+: line

instance (line : List Char) : Decidable (HitsKickstart line) := inferInstanceAs (Decidable (_ <:+: _))

def write_output (line : List Char) : List OutputLine :=
  match write_pattern.search line with
  | some ([bar, offset, val], _) => [.write_reg bar offset val]
  | _ => []

def read_output (line : List Char) : List OutputLine :=
  match read_pattern.search line with
  | some ([_, offset], _) => [.usleep offset]
  | _ => []

/-- The loop over the lines, with the output so far. -/
def generate_lines : Bool → List (List Char) → List OutputLine → List OutputLine
  | _, [], output => output
  | start_parsing, line :: rest, output =>
    if StartsParsing line then generate_lines true rest output
    else if start_parsing then
      if HitsKickstart line then output ++ [.kickstart]
      else generate_lines start_parsing rest (output ++ write_output line ++ read_output line)
    else generate_lines start_parsing rest output

/-- The output for the text of the trace. -/
def generate (content : List Char) : List OutputLine :=
  generate_lines false (lines (universal_newlines content)) []

/-- `golden_sequence.c` -/
def golden_sequence (content : List Char) : List Char :=
  List.intercalate ['\n'] ((generate content).map OutputLine.text)

end motu424.generate_golden3
