import Motu424.Foundation.Regex
import Motu424.Foundation.PyText
import Mathlib.Data.List.Sort

open PyText

namespace motu424.analyze_mixer_trace

inductive OpType where
  | write
  | read
  deriving DecidableEq, Repr

/-- An operation as the tool keeps it. The numbers are Python integers that digits
spell. -/
structure Op where
  type : OpType
  time : List Char
  bar : Nat
  offset : Nat
  value : Nat
  size : Nat
  deriving DecidableEq, Repr

/-- `\d+:\d+:\d+\.\d+` -/
def device_address : Regex := .concat [
  .plus is_decimal, .lit ":".toList,
  .plus is_decimal, .lit ":".toList,
  .plus is_decimal, .lit ".".toList,
  .plus is_decimal]

/-- The part that both patterns share, after the name of the event. -/
def region : Regex := .concat [
  .plus is_space, .lit "(".toList,
  .group device_address, .lit ":region".toList,
  .group (.plus is_decimal), .lit "+0x".toList,
  .group (.plus is_hexadecimal), .lit ",".toList]

def WRITE_RE : Regex := .concat [
  .lit "vfio_region_write".toList, region,
  .plus is_space, .lit "0x".toList,
  .group (.plus is_hexadecimal), .lit ",".toList,
  .plus is_space, .group (.plus is_decimal), .lit ")".toList]

def READ_RE : Regex := .concat [
  .lit "vfio_region_read".toList, region,
  .plus is_space, .group (.plus is_decimal), .lit ")".toList,
  .star is_space, .lit "=".toList,
  .star is_space, .lit "0x".toList, .group (.plus is_hexadecimal)]

/-- The body of the loop of `parse_trace`: the operation of a line, if it has one.
There is no value, but a `ValueError`, when a decimal number is too long. -/
def parse_line (line : List Char) : Option (Option Op) :=
  let line := strip line
  match WRITE_RE.first line with
  | some ([time, bar, offset, value, size], _) => do
    let bar ← int_decimal bar
    let size ← int_decimal size
    pure (some {
      type := .write, time := time, bar := bar, offset := int_base16 offset,
      value := int_base16 value, size := size })
  | _ =>
    match READ_RE.first line with
    | some ([time, bar, offset, size, value], _) => do
      let bar ← int_decimal bar
      let size ← int_decimal size
      pure (some {
        type := .read, time := time, bar := bar, offset := int_base16 offset,
        value := int_base16 value, size := size })
    | _ => pure none

/-- The loop over the lines, with the operations found so far. -/
def parse_lines : List (List Char) → List Op → Option (List Op)
  | [], ops => pure ops
  | line :: rest, ops => do
    let op ← parse_line line
    parse_lines rest (ops ++ op.toList)

/-- `parse_trace` on the text of the file. -/
def parse_trace (content : List Char) : Option (List Op) :=
  parse_lines (lines (universal_newlines content)) []

def filter_by_bar (ops : List Op) (bar : Nat) : List Op := ops.filter fun op => op.bar = bar

def filter_by_range (ops : List Op) (start end_ : Nat) : List Op :=
  ops.filter fun op => start ≤ op.offset ∧ op.offset ≤ end_

/-- `[op for op in ops if op['type'] == 'write']` -/
def writes (ops : List Op) : List Op := ops.filter fun op => op.type = .write

def reads (ops : List Op) : List Op := ops.filter fun op => op.type = .read

/-- What the difference compares. -/
def Op.key (op : Op) : Nat × Nat × Nat := (op.bar, op.offset, op.value)

/-- The keys of the writes. The set is a list here, as it is only searched. -/
def init_writes (init_ops : List Op) : List (Nat × Nat × Nat) := (writes init_ops).map Op.key

def subtract_ops (all_ops init_ops : List Op) : List Op :=
  all_ops.filter fun op => if op.type = .write then op.key ∉ init_writes init_ops else true

/-- `diff_traces` on the text of the file with the init trace. -/
def diff_traces (full_trace : List Op) (init_trace : List Char) : Option (List Op) := do
  let init_ops ← parse_trace init_trace
  pure (subtract_ops full_trace init_ops)

structure MixerRange where
  start : Nat
  end_ : Nat
  name : String
  deriving DecidableEq, Repr

/-- `start <= offset <= end` -/
def MixerRange.Has (range : MixerRange) (offset : Nat) : Prop := range.start ≤ offset ∧ offset ≤ range.end_

instance (range : MixerRange) (offset : Nat) : Decidable (range.Has offset) :=
  inferInstanceAs (Decidable (_ ∧ _))

def MIXER_RANGES : List MixerRange := [
  ⟨0x6000, 0x6FFF, "DSP mailbox/control"⟩,
  ⟨0x7000, 0x7FFF, "DSP DMA engine"⟩,
  ⟨0x8000, 0x8400, "Mixer routing matrix"⟩,
  ⟨0x8400, 0x10000, "Mixer parameters (volume/mute)"⟩]

def get_range_name (bar offset : Nat) : String :=
  if bar = 0 then
    match MIXER_RANGES.find? (·.Has offset) with
    | some range => range.name
    | none => if offset < 0x6000 then "DSP program memory" else "Unknown"
  else if bar = 1 then "Control register"
  else if bar = 2 then "FPGA port"
  else "Unknown"

/-- A printed line, by the values that it shows. -/
inductive Print where
  | line (text : String)
  | operations (label : String) (count : Nat)
  | bar_writes (bar count : Nat)
  | range_writes (range : MixerRange) (count : Nat)
  | offset_writes (offset count : Nat)
  | slot (i ch : Nat)
  deriving DecidableEq, Repr

/-- `n` in upper-case hexadecimal, with zeros up to a width. -/
def hex (width n : Nat) : String := .ofList (((Nat.toDigits 16 n).map Char.toUpper).leftpad width '0')

/-- `text`, with blanks up to a width. -/
def ljust (width : Nat) (text : String) : String := .ofList (text.toList.rightpad width ' ')

/-- A character that is repeated. -/
def rule (c : Char) (width : Nat) : String := .ofList (List.replicate width c)

/-- `BAR_NAMES`, with the default of `print_summary`. -/
def bar_name (bar : Nat) : String :=
  match bar with
  | 0 => "BAR0 (DSP)"
  | 1 => "BAR1 (Regs)"
  | 2 => "BAR2 (FPGA)"
  | bar => "BAR" ++ toString bar

/-- The text of a line. -/
def Print.text : Print → String
  | line text => text
  | operations label count => label ++ toString count
  | bar_writes bar count => "    " ++ bar_name bar ++ ": " ++ toString count ++ " writes"
  | range_writes range count =>
    "    0x" ++ hex 4 range.start ++ "-0x" ++ hex 4 range.end_ ++ " (" ++ range.name ++ "): " ++
      toString count ++ " writes"
  | offset_writes offset count => "    0x" ++ hex 4 offset ++ ": " ++ toString count ++ " writes"
  | slot i ch => "  " ++ ljust 8 (toString i) ++ " " ++ ljust 10 (toString ch) ++ " 0x" ++ hex 2 ch

/-- A title between two rules. -/
def heading (title : String) : List Print := [.line ("\n" ++ rule '=' 60), .line title, .line (rule '=' 60)]

/-- A `defaultdict(int)` in which each operation has been counted under its key, in
the order of the keys. -/
def counts (key : Op → Nat) (ops : List Op) : List (Nat × Nat) :=
  ((ops.map key).dedup.insertionSort (· ≤ ·)).map fun k => (k, ops.countP fun op => key op = k)

/-- One line for each range that is hit. -/
def range_lines (bar0_writes : List Op) : List Print :=
  MIXER_RANGES.filterMap fun range =>
    let count := (filter_by_range bar0_writes range.start range.end_).length
    if count ≠ 0 then some (.range_writes range count) else none

/-- The numbers of operations. -/
def operation_lines (ops : List Op) : List Print := [
  .operations "  Total operations: " ops.length,
  .operations "  Writes: " (writes ops).length,
  .operations "  Reads:  " (reads ops).length,
  .line ""]

/-- The group by BAR. -/
def bar_lines (writes : List Op) : List Print :=
  Print.line "  Writes by BAR:" ::
    (counts Op.bar writes).map (fun entry => Print.bar_writes entry.1 entry.2) ++ [Print.line ""]

/-- The group of the BAR0 writes by range. -/
def bar0_lines (bar0_writes : List Op) : List Print :=
  if bar0_writes ≠ [] then Print.line "  BAR0 writes by range:" :: range_lines bar0_writes ++ [Print.line ""] else []

/-- The group of the BAR1 writes by offset. -/
def bar1_lines (bar1_writes : List Op) : List Print :=
  if bar1_writes ≠ [] then
    Print.line "  BAR1 writes by offset:" ::
      (counts Op.offset bar1_writes).map (fun entry => Print.offset_writes entry.1 entry.2) ++ [Print.line ""]
  else []

def print_summary (ops : List Op) : List Print :=
  heading "  TRACE SUMMARY" ++ operation_lines ops ++ bar_lines (writes ops) ++
    bar0_lines (filter_by_bar (writes ops) 0) ++ bar1_lines (filter_by_bar (writes ops) 1)

/-- The writes to the routing matrix. -/
def matrix_ops (ops : List Op) : List Op :=
  ops.filter fun op => op.type = .write ∧ op.bar = 0 ∧ 0x8348 ≤ op.offset ∧ op.offset ≤ 0x83A4

/-- `(value >> (i*8)) & 0xFF` -/
def byte (value i : Nat) : Nat := (value >>> (i * 8)) &&& 0xFF

/-- The channels of one dword. -/
def dword_channels (value : Nat) : List Nat := (List.range 4).map (byte value)

/-- The channels that the table lists, in the order of the offsets. `sorted` is stable. -/
def channels (ops : List Op) : List Nat :=
  ((matrix_ops ops).insertionSort fun a b => a.offset ≤ b.offset).flatMap fun op => dword_channels op.value

/-- The loop that prints the table, from the slot `i` on. It stops at an unused slot. -/
def print_slots : Nat → List Nat → List Print
  | _, [] => []
  | i, ch :: chs => if ch = 0 ∧ 24 ≤ i then [] else .slot i ch :: print_slots (i + 1) chs

def print_routing_matrix (ops : List Op) : List Print :=
  if matrix_ops ops = [] then [Print.line "\n  No routing matrix writes found."]
  else
    heading "  ROUTING MATRIX (BAR0 0x8348-0x83A4)" ++ [Print.line ""] ++
    [Print.line ("  " ++ ljust 8 "Slot" ++ " " ++ ljust 10 "Channel" ++ " Hex"),
      Print.line ("  " ++ rule '-' 8 ++ " " ++ rule '-' 10 ++ " " ++ rule '-' 4)] ++
    print_slots 0 (channels ops)

end motu424.analyze_mixer_trace
