import Motu424.ConvertGolden.Pack
import Motu424.Foundation.Regex
import Motu424.Foundation.PyText

open PyText

namespace motu424.convert_golden

/-- The exceptions that end a conversion. -/
inductive Failure where
  | os_error
  | unicode_error
  | value_error
  | struct_error (err : StructError)
  deriving DecidableEq, Repr

/-- An input file: one that cannot be opened, one that cannot be decoded, or the
text it holds. -/
inductive InputFile where
  | missing
  | undecodable
  | text (content : List Char)
  deriving DecidableEq, Repr

def InputFile.read : InputFile → Except Failure (List Char)
  | .missing => .error .os_error
  | .undecodable => .error .unicode_error
  | .text content => .ok (universal_newlines content)

/-- `0x[0-9a-fA-F]+` -/
def hexadecimal_literal : Regex := .seq (.lit "0x".toList) (.plus is_hexadecimal)

/-- The pattern of `parse_write_reg_line`, with the white space before each word. -/
def write_reg_call : Regex := .concat [
  .star is_space, .lit "write_reg".toList,
  .star is_space, .lit "(".toList,
  .star is_space, .lit "fd".toList,
  .star is_space, .lit ",".toList,
  .star is_space, .group (.plus is_decimal),
  .star is_space, .lit ",".toList,
  .star is_space, .group hexadecimal_literal,
  .star is_space, .lit ",".toList,
  .star is_space, .group hexadecimal_literal,
  .star is_space, .lit ")".toList]

def parse_write_reg_line (line : List Char) : Except Failure (Option Entry) :=
  match write_reg_call.first line with
  | some ([bar, offset, value], _) =>
    match int_decimal bar with
    | none => .error .value_error
    | some bar => .ok (some (bar, int_hexadecimal offset, int_hexadecimal value))
  | _ => .ok none

/-- The loop over the lines of a file, with the entries found so far. -/
def convert_lines : List (List Char) → List Entry → Except Failure (List Entry)
  | [], entries => .ok entries
  | line :: rest, entries => do
    let result ← parse_write_reg_line line
    convert_lines rest (entries ++ result.toList)

/-- The loop over the input files. -/
def convert_files : List InputFile → List Entry → Except Failure (List Entry)
  | [], entries => .ok entries
  | file :: files, entries => do
    let content ← file.read
    let entries ← convert_lines (lines content) entries
    convert_files files entries

/-- The bytes of the blob for the entries. -/
def write_entries (entries : List Entry) : Except Failure (List U8) :=
  (write_blob entries).mapError .struct_error

/-- The blob that the converter writes for its input files. -/
def convert (input_files : List InputFile) : Except Failure (List U8) := do
  let entries ← convert_files input_files []
  write_entries entries

end motu424.convert_golden
