import Motu424.Poke
import Motu424.Foundation.Counter

open Program

namespace motu424.poke

theorem scan_step_pos (bar : Int) : 0 < (scan_step bar).toNat := by
  unfold scan_step
  split <;> decide

theorem scan_step_dvd (bar : Int) : (scan_step bar).toNat ∣ 2 ^ 32 := by
  unfold scan_step
  split <;> decide

/-- The offsets of a progression below an end, each once and in increasing order. -/
structure ProgressionBelow (start end_ step : Nat) (offsets : List Nat) : Prop where
  mem_iff : ∀ n, n ∈ offsets ↔ n < end_ ∧ ∃ k, n = start + k * step
  increasing : offsets.Pairwise (· < ·)

/-- The scan comes to an end, and has then read exactly the offsets from the start on
in steps, below the end. -/
def ScansOnce (env : ToolEnv) (history : List ToolEvent) (bar : Int) (start end_ : Option U32) : Prop :=
  ∃ fuel found new, ∃ offs : List U32, (cmd_scan bar start end_ fuel).eval env history = some found ∧
    (cmd_scan bar start end_ fuel).exec env history = history ++ new ∧
    tool_reads new = offs.map (bar, ·) ∧
    ProgressionBelow (start.getD 0).toNat (end_.getD 0x100000).toNat (scan_step bar).toNat
      (offs.map BitVec.toNat)

section loop

variable (env : ToolEnv) (bar : Int) (step end_ : U32)

theorem exec_scan_round (off : U32) (found : Int) (history : List ToolEvent) :
    ∃ new, (scan_round bar off found).exec env history = history ++ new ∧
      tool_reads new = [(bar, off)] := by
  obtain ⟨new, hnew, hread⟩ := exec_read_reg env history bar off
  rw [scan_round, exec_bind, hnew]
  split
  · refine ⟨new ++ [_], List.append_assoc .., ?_⟩
    rw [tool_reads_append, hread]
    rfl
  · exact ⟨new, rfl, hread⟩

/-- The loop reads what its counter visits, and ends when the counter stops. -/
theorem scan_loop_visits (fuel : Nat) (off : U32) (found : Int) (history : List ToolEvent) :
    ∃ new, (scan_loop bar step end_ fuel off found).exec env history = history ++ new ∧
      (Counter.visits end_ step fuel off = none →
        (scan_loop bar step end_ fuel off found).eval env history = none) ∧
      ∀ offs, Counter.visits end_ step fuel off = some offs → tool_reads new = offs.map (bar, ·) ∧
        ∃ count, (scan_loop bar step end_ fuel off found).eval env history = some count := by
  induction fuel generalizing off found history with
  | zero =>
    refine ⟨[], (List.append_nil history).symm, fun _ => rfl, fun offs hsome => ?_⟩
    cases hsome
  | succ fuel ih =>
    by_cases hlt : off < end_
    · obtain ⟨first, hfirst, hread⟩ := exec_scan_round env bar off found history
      obtain ⟨rest, hrest, hendless, hends⟩ := ih (off + step) ((scan_round bar off found).eval env history)
        (history ++ first)
      rw [scan_loop, if_pos hlt, eval_bind, exec_bind, hfirst, Counter.visits, if_pos hlt]
      refine ⟨first ++ rest, by rw [hrest, List.append_assoc], fun hnone => ?_, fun offs hsome => ?_⟩
      · exact hendless (Option.map_eq_none_iff.mp hnone)
      · obtain ⟨offs', hmore, rfl⟩ := Option.map_eq_some_iff.mp hsome
        obtain ⟨hreads, hcount⟩ := hends offs' hmore
        refine ⟨?_, hcount⟩
        rw [tool_reads_append, hread, hreads]
        rfl
    · rw [scan_loop, if_neg hlt, Counter.visits, if_neg hlt]
      refine ⟨[], (List.append_nil history).symm, fun hnone => ?_, fun offs hsome => ?_⟩
      · cases hnone
      · cases hsome
        exact ⟨rfl, found, rfl⟩

end loop

section scan

variable (env : ToolEnv) (history : List ToolEvent) (bar : Int) (start end_ : Option U32)

/-- What the command does beside its loop. -/
theorem cmd_scan_loop (fuel : Nat) :
    ∃ first, tool_reads first = [] ∧
      (cmd_scan bar start end_ fuel).eval env history =
        (scan_loop bar (scan_step bar) (end_.getD 0x100000) fuel (start.getD 0) 0).eval env (history ++ first) ∧
      ∃ last, tool_reads last = [] ∧ (cmd_scan bar start end_ fuel).exec env history =
        (scan_loop bar (scan_step bar) (end_.getD 0x100000) fuel (start.getD 0) 0).exec env (history ++ first) ++
          last := by
  refine ⟨[.printf "Scanning BAR%d 0x%08X - 0x%08X (step 0x%X)...\n" [.int bar, .u32 (start.getD 0),
    .u32 (end_.getD 0x100000), .u32 (scan_step bar)]], rfl, ?_⟩
  rw [cmd_scan, eval_bind, eval_bind, exec_bind, exec_bind, exec_printf]
  generalize (scan_loop bar (scan_step bar) (end_.getD 0x100000) fuel (start.getD 0) 0).eval env _ = found
  cases found with
  | none => exact ⟨rfl, [], rfl, (List.append_nil _).symm⟩
  | some found => exact ⟨rfl, [_], rfl, rfl⟩

/-- The command ends within some number of rounds exactly when its counter stops,
and reads what the counter visits. -/
theorem cmd_scan_visits (fuel : Nat) :
    ∃ new, (cmd_scan bar start end_ fuel).exec env history = history ++ new ∧
      (Counter.visits (end_.getD 0x100000) (scan_step bar) fuel (start.getD 0) = none →
        (cmd_scan bar start end_ fuel).eval env history = none) ∧
      ∀ offs, Counter.visits (end_.getD 0x100000) (scan_step bar) fuel (start.getD 0) = some offs →
        tool_reads new = offs.map (bar, ·) ∧
        ∃ found, (cmd_scan bar start end_ fuel).eval env history = some found := by
  obtain ⟨first, hfirst, heval, last, hlast, hexec⟩ := cmd_scan_loop env history bar start end_ fuel
  obtain ⟨mid, hmid, hendless, hends⟩ := scan_loop_visits env bar (scan_step bar) (end_.getD 0x100000) fuel
    (start.getD 0) 0 (history ++ first)
  rw [heval, hexec, hmid]
  refine ⟨first ++ mid ++ last, by simp only [List.append_assoc], hendless, fun offs hsome => ?_⟩
  obtain ⟨hreads, hfound⟩ := hends offs hsome
  refine ⟨?_, hfound⟩
  rw [tool_reads_append, tool_reads_append, hfirst, hlast, List.nil_append, List.append_nil, hreads]

/-- Where the offsets do not fit into the word the scan never ends. -/
theorem cmd_scan_endless (hnot : ¬ Counter.Fits 32 (start.getD 0).toNat (end_.getD 0x100000).toNat
    (scan_step bar).toNat) (fuel : Nat) : (cmd_scan bar start end_ fuel).eval env history = none := by
  obtain ⟨_, _, hendless, _⟩ := cmd_scan_visits env history bar start end_ fuel
  exact hendless (Counter.visits_of_not_fits (scan_step_pos bar) (scan_step_dvd bar) hnot fuel)

/-- The scan ends, with every offset read once, exactly when the first offset
that is not below the end is still a 32-bit number. -/
theorem cmd_scan_once_iff : ScansOnce env history bar start end_ ↔
    Counter.Fits 32 (start.getD 0).toNat (end_.getD 0x100000).toNat (scan_step bar).toNat := by
  constructor
  · rintro ⟨fuel, found, _, _, hended, _⟩
    by_contra hnot
    rw [cmd_scan_endless env history bar start end_ hnot fuel] at hended
    cases hended
  · intro hfits
    obtain ⟨fuel, offs, hvisits, hvalues⟩ := Counter.visits_of_fits (scan_step_pos bar) hfits
    obtain ⟨new, hexec, _, hends⟩ := cmd_scan_visits env history bar start end_ fuel
    obtain ⟨hreads, found, hfound⟩ := hends offs hvisits
    refine ⟨fuel, found, new, offs, hfound, hexec, hreads, ?_⟩
    rw [hvalues]
    exact ⟨Counter.mem_values_iff (scan_step_pos bar), Counter.values_increasing (scan_step_pos bar)⟩

end scan

/-- The scan of all of BAR0 up to the last address does not end: its counter goes
from 0xFFFFFFFC back to zero. -/
theorem full_scan_endless :
    (∀ fuel, (cmd_scan 0 (some 0) (some 0xFFFFFFFF) fuel).eval .idle [] = none) ∧
      ¬ ScansOnce .idle [] 0 (some 0) (some 0xFFFFFFFF) := by
  have hnot : ¬ Counter.Fits 32 ((some (0 : U32)).getD 0).toNat ((some (0xFFFFFFFF : U32)).getD 0x100000).toNat
      (scan_step 0).toNat := by
    decide
  refine ⟨cmd_scan_endless .idle [] 0 (some 0) (some 0xFFFFFFFF) hnot, ?_⟩
  rintro ⟨fuel, found, _, _, hended, _⟩
  rw [cmd_scan_endless .idle [] 0 (some 0) (some 0xFFFFFFFF) hnot fuel] at hended
  cases hended

end motu424.poke
