import Motu424.AnalyzeMixerTrace

open PyText

namespace motu424.analyze_mixer_trace

theorem parse_lines_append (xs ys : List (List Char)) (ops : List Op) :
    parse_lines (xs ++ ys) ops = (parse_lines xs ops).bind (parse_lines ys) := by
  induction xs generalizing ops with
  | nil => rfl
  | cons line xs ih =>
    rw [List.cons_append, parse_lines, parse_lines]
    cases parse_line line with
    | none => rfl
    | some op => exact ih _

/-- The operations found so far stand in front. -/
theorem parse_lines_eq (rest : List (List Char)) (ops : List Op) :
    parse_lines rest ops = (parse_lines rest []).map (ops ++ ·) := by
  induction rest generalizing ops with
  | nil => simp [parse_lines]
  | cons line rest ih =>
    rw [parse_lines, parse_lines]
    cases parse_line line with
    | none => rfl
    | some op =>
      change parse_lines rest (ops ++ op.toList) = (parse_lines rest ([] ++ op.toList)).map (ops ++ ·)
      rw [ih (ops ++ op.toList), ih ([] ++ op.toList), Option.map_map]
      congr 1
      funext found
      simp

/-- A trace that goes on after a newline has the operations of its first part, and
then those of the rest. -/
theorem parse_trace_continued (first rest : List Char) : parse_trace (first ++ '\n' :: rest) =
    (parse_trace (first ++ ['\n'])).bind fun init => (parse_trace rest).map (init ++ ·) := by
  rw [parse_trace, file_lines_append, parse_lines_append]
  congr 1
  funext init
  exact parse_lines_eq _ _

/-- So a trace that goes on after an init trace begins with its operations. -/
theorem parse_trace_append (init_trace rest : List Char) {init : List Op}
    (hinit : parse_trace (init_trace ++ ['\n']) = some init) :
    parse_trace (init_trace ++ '\n' :: rest) = (parse_trace rest).map (init ++ ·) := by
  rw [parse_trace_continued, hinit, Option.bind_some]

/-- So the tool compares the rest with the init trace. -/
theorem diff_traces_continued {init_trace rest : List Char} {init later : List Op}
    (hinit : parse_trace (init_trace ++ ['\n']) = some init) (hlater : parse_trace rest = some later) :
    (parse_trace (init_trace ++ '\n' :: rest)).bind (diff_traces · (init_trace ++ ['\n'])) =
      some (subtract_ops (init ++ later) init) := by
  rw [parse_trace_append init_trace rest hinit, hlater, Option.map_some, Option.bind_some, diff_traces, hinit]
  rfl

theorem writes_append (xs ys : List Op) : writes (xs ++ ys) = writes xs ++ writes ys := List.filter_append ..

/-- The difference drops every write with the key of an init write, wherever it
stands. -/
theorem writes_subtract_ops (all_ops init_ops : List Op) :
    writes (subtract_ops all_ops init_ops) =
      (writes all_ops).filter fun op => op.key ∉ init_writes init_ops := by
  rw [writes, subtract_ops, List.filter_filter, writes, List.filter_filter]
  apply List.filter_congr
  intro op _
  by_cases hwrite : op.type = .write
  · simp [hwrite]
  · simp [hwrite]

/-- The reads all stay. -/
theorem reads_subtract_ops (all_ops init_ops : List Op) :
    reads (subtract_ops all_ops init_ops) = reads all_ops := by
  rw [reads, subtract_ops, List.filter_filter, reads]
  apply List.filter_congr
  intro op _
  by_cases hread : op.type = .read
  · simp [hread]
  · simp [hread]

/-- Nothing is left of the init trace. -/
theorem writes_subtract_ops_self (init_ops : List Op) : writes (subtract_ops init_ops init_ops) = [] := by
  rw [writes_subtract_ops, List.filter_eq_nil_iff]
  intro op hop
  have hkey : op.key ∈ init_writes init_ops := List.mem_map_of_mem hop
  simpa using hkey

theorem subtract_ops_append (xs ys init_ops : List Op) :
    subtract_ops (xs ++ ys) init_ops = subtract_ops xs init_ops ++ subtract_ops ys init_ops :=
  List.filter_append ..

/-- The writes after the init trace are kept exactly when none of them repeats a
write of the init trace. -/
theorem later_writes_kept_iff (init later : List Op) :
    writes (subtract_ops (init ++ later) init) = writes later ↔
      ∀ op ∈ writes later, op.key ∉ init_writes init := by
  rw [subtract_ops_append, writes_append, writes_subtract_ops_self, List.nil_append, writes_subtract_ops,
    List.filter_eq_self]
  simp only [decide_eq_true_eq]

/-- A write to a parameter of the mixer. -/
def control_set (value : Nat) : Op := ⟨.write, "0000:06:01.0".toList, 0, 0x8404, value, 4⟩

/-- A control that is moved and then restored: the second write is lost. -/
theorem restored_control_lost :
    ¬ writes (subtract_ops ([control_set 0x10] ++ [control_set 0x20, control_set 0x10]) [control_set 0x10]) =
      writes [control_set 0x20, control_set 0x10] := by
  decide

end motu424.analyze_mixer_trace
