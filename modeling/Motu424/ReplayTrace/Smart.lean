import Motu424.GenerateDsp.Capture
import Motu424.ReplayTrace

open Program Stdio
open motu424.vfio_trace motu424.poke motu424.generate_golden3 motu424.smart_replay

namespace motu424.replay.smart

/-- The number that this tool has for the address of the buffer, with room for four. -/
def MOTU_IOC_GET_DMA : U32 := IOWR 2 16

structure DmaAddrs where
  addr0 : U32
  addr1 : U32
  addr2 : U32
  addr3 : U32
  deriving DecidableEq, Repr

/-- The global array, before anything is written to it. -/
def DmaAddrs.zeroed : DmaAddrs := ⟨0, 0, 0, 0⟩

/-- What a request copies to the array. -/
def copied_addr : DriverEvent → Option U32
  | .copy_addr_to_user addr => some addr
  | _ => none

/-- The request for the addresses. Its outcome is not looked at. -/
def get_dma : Replay DmaAddrs := do
  let before ← Program.gets fun r => r.driver.history.length
  let _ret ← on_driver (motu_ioctl (request_of MOTU_IOC_GET_DMA) ⟨some ⟨0, 0, 0, 0⟩, true⟩)
  Program.gets fun r =>
    match ((r.driver.history.drop before).filterMap copied_addr).getLast? with
    | none => .zeroed
    | some addr => { DmaAddrs.zeroed with addr0 := addr }

def translate (dma_addrs : DmaAddrs) (val : U32) : U32 :=
  if val &&& 0xFFFFF000 = 0x10914000 then dma_addrs.addr0 ||| (val &&& 0xFFF)
  else if val = 0xfe870000 then dma_addrs.addr1
  else if val = 0x90000000 then dma_addrs.addr2
  else if val &&& 0xFFFF0000 = 0xbfd70000 then dma_addrs.addr3 ||| (val &&& 0xFFFF)
  else if val &&& 0xFFFFF000 = 0xbff92000 then dma_addrs.addr3 + 0x222000 + (val &&& 0xFFF)
  else val

def read_format : List Char := "vfio_region_read  (0000:06:01.0:region%d+%x, 4) = %x".toList

/-- The polling loop, with the retries that are left. -/
def poll (bar : Int) (off target_val : U32) : Nat → Replay Unit
  | 0 => do
    let _val ← read_reg bar off
    pure ()
  | retries + 1 => do
    let val ← read_reg bar off
    if val ≠ target_val then do
      tell (.usleep 10)
      poll bar off target_val retries
    else pure ()

/-- The registers that are polled. -/
def Polled (off : U32) : Prop := off = 0x6fec ∨ off = 0x7040 ∨ off = 0x3fffc

instance (off : U32) : Decidable (Polled off) := inferInstanceAs (Decidable (_ ∨ _))

def write_scanned (dma_addrs : DmaAddrs) : List U32 → Replay Unit
  | [bar, off, val] => write_reg bar.toInt off (translate dma_addrs val)
  | _ => pure ()

def read_scanned : List U32 → Replay Unit
  | [bar, off, target_val] =>
    if Polled off then poll bar.toInt off target_val 1000
    else do
      let _val ← read_reg bar.toInt off
      pure ()
  | _ => pure ()

/-- The part of the loop that replays a line. -/
def replay_line (dma_addrs : DmaAddrs) (line : List Char) : Replay Unit :=
  if "vfio_region_write".toList <:+: line then
    write_scanned dma_addrs (sscanf line (directives write_format))
  else if "vfio_region_read".toList <:+: line then read_scanned (sscanf line (directives read_format))
  else pure ()

/-- The line from which on the loop replays. -/
def Syncs (line : List Char) : Prop := "0xb44, 0x30000890".toList <:+: line

/-- The line after which it stops. -/
def Locks (line : List Char) : Prop := "region2+0x0, 4) = 0x13".toList <:+: line

instance (line : List Char) : Decidable (Syncs line) := inferInstanceAs (Decidable (_ <:+: _))

instance (line : List Char) : Decidable (Locks line) := inferInstanceAs (Decidable (_ <:+: _))

def main_loop (dma_addrs : DmaAddrs) : Bool → List (List Char) → Replay Unit
  | _, [] => pure ()
  | in_sync_phase, line :: lines => do
    let in_sync_phase := in_sync_phase || Syncs line
    if in_sync_phase = false then main_loop dma_addrs in_sync_phase lines
    else do
      replay_line dma_addrs line
      if Locks line then tell (.printf "Target Status 0x13 reached in trace replay!\n" [])
      else main_loop dma_addrs in_sync_phase lines

/-- What `main` does with a file. The last two reads, whose order the language leaves open,
are made from right to left. -/
def run (content : List Char) : Replay Int := do
  let dma_addrs ← get_dma
  main_loop dma_addrs false (fgets_lines 256 [] content)
  let p2 ← read_reg 2 0x4
  let p1 ← read_reg 2 0x0
  tell (.printf "Final Hardware Status: P1=%x, P2=%x\n" [.u32 p1, .u32 p2])
  pure 0

/-- `main` with or without the name of a file. It does not check that it could open the
device and the file, so both are there. -/
def main : Option (List Char) → Replay Int
  | none => pure 1
  | some content => run content

section dma

variable {env : DriverEnv} {r : Replayer}

/-- The driver has another number for the request, and refuses it. -/
theorem request_of_get_dma : request_of MOTU_IOC_GET_DMA = .other MOTU_IOC_GET_DMA := by decide

theorem get_dma_refused : get_dma.eval env r = .zeroed ∧ get_dma.exec env r = r := by
  constructor
  · rw [get_dma, request_of_get_dma, eval_bind, eval_bind, eval_gets, exec_gets, eval_gets]
    change (match ((r.driver.history.drop r.driver.history.length).filterMap copied_addr).getLast? with
      | none => DmaAddrs.zeroed
      | some addr => { DmaAddrs.zeroed with addr0 := addr }) = .zeroed
    rw [List.drop_length]
    rfl
  · rw [get_dma, request_of_get_dma]
    rfl

end dma

theorem directives_read_format : directives read_format =
    "vfio_region_read".toList.map .char ++ (.blank :: .blank :: ("(0000:06:01.0:region".toList.map .char ++
      (.d :: ("+".toList.map .char ++ (.x :: (",".toList.map .char ++ (.blank :: ("4)".toList.map .char ++
        (.blank :: ("=".toList.map .char ++ [.blank, .x])))))))))) := by decide +kernel

theorem dropWhile_isspace_dec_text (n : Nat) (s : List Char) :
    (dec_text n ++ s).dropWhile isspace = dec_text n ++ s := by
  have hdigits : ∀ d ∈ dec_text n, IsDigit d := PyText.of_mem_toDigits (by decide) isDigit_digitChar
  cases htext : dec_text n with
  | nil => exact absurd htext dec_text_ne_nil
  | cons d rest =>
    obtain ⟨_, hspace, _⟩ := hdigits d (by rw [htext]; exact List.mem_cons_self)
    rw [List.cons_append, List.dropWhile_cons_of_neg (by rw [hspace]; decide)]

/-- The values of a read are scanned up to its size. -/
theorem sscanf_read (bar offset value size : Nat) :
    sscanf ((Access.read bar offset value size).line device ++ ['\n']) (directives read_format) =
      store_int false bar :: store_unsigned false offset ::
        sscanf (dec_text size ++ (") = 0x".toList ++ (hex_text value ++ ['\n'])))
          ("4)".toList.map .char ++ (.blank :: ("=".toList.map .char ++ [.blank, .x]))) := by
  have hline : (Access.read bar offset value size).line device ++ ['\n'] =
      "vfio_region_read".toList ++ ("  ".toList ++ ("(0000:06:01.0:region".toList ++ (dec_text bar ++ ("+".toList ++
        ("0x".toList ++ (hex_text offset ++ (",".toList ++ (" ".toList ++ (dec_text size ++ (") = 0x".toList ++
          (hex_text value ++ ['\n']))))))))))) := by
    have hparen : "  (".toList = "  ".toList ++ "(".toList := by decide
    have hplus : "+0x".toList = "+".toList ++ "0x".toList := by decide
    have hopening : "(0000:06:01.0:region".toList =
        "(".toList ++ ("0000:06:01.0".toList ++ ":region".toList) := by decide
    rw [read_line, region_text, device_text, hparen, hplus, hopening]
    simp only [List.append_assoc]
  have hbar (s : List Char) : scan_d (dec_text bar ++ ("+".toList ++ s)) =
      some (store_int false bar, "+".toList ++ s) := scan_d_toDigits (by decide)
  have hoffset (s : List Char) : scan_x ("0x".toList ++ (hex_text offset ++ (",".toList ++ s))) =
      some (store_unsigned false offset, ",".toList ++ s) := scan_x_toDigits (by decide)
  have hblanks (s : List Char) : ("  ".toList ++ ("(0000:06:01.0:region".toList ++ s)).dropWhile isspace =
      "(0000:06:01.0:region".toList ++ s := rfl
  have hopen (s : List Char) : ("(0000:06:01.0:region".toList ++ s).dropWhile isspace =
      "(0000:06:01.0:region".toList ++ s := rfl
  have hsize (s : List Char) : (" ".toList ++ (dec_text size ++ s)).dropWhile isspace = dec_text size ++ s :=
    dropWhile_isspace_dec_text size s
  rw [hline, directives_read_format, sscanf_word, sscanf_blank, hblanks, sscanf_blank, hopen, sscanf_word,
    sscanf_d (hbar _), sscanf_word, sscanf_x (hoffset _), sscanf_word, sscanf_blank, hsize]

/-- The rest of the format takes reads of four bytes only. -/
theorem sscanf_size_four (value : Nat) :
    sscanf (dec_text 4 ++ (") = 0x".toList ++ (hex_text value ++ ['\n'])))
      ("4)".toList.map .char ++ (.blank :: ("=".toList.map .char ++ [.blank, .x]))) =
      [store_unsigned false value] := by
  have hline : dec_text 4 ++ (") = 0x".toList ++ (hex_text value ++ ['\n'])) =
      "4)".toList ++ (" ".toList ++ ("=".toList ++ (" ".toList ++ ("0x".toList ++ (hex_text value ++ ['\n']))))) := by
    have hfour : dec_text 4 ++ ") = 0x".toList =
        "4)".toList ++ (" ".toList ++ ("=".toList ++ (" ".toList ++ "0x".toList))) := by decide
    rw [← List.append_assoc, hfour]
    simp only [List.append_assoc]
  have hvalue (s : List Char) : scan_x ("0x".toList ++ (hex_text value ++ '\n' :: s)) =
      some (store_unsigned false value, '\n' :: s) := scan_x_toDigits (by decide)
  have hequals (s : List Char) : (" ".toList ++ ("=".toList ++ s)).dropWhile isspace = "=".toList ++ s := rfl
  have hzero (s : List Char) : (" ".toList ++ ("0x".toList ++ s)).dropWhile isspace = "0x".toList ++ s := rfl
  rw [hline, sscanf_word, sscanf_blank, hequals, sscanf_word, sscanf_blank, hzero, sscanf_x (hvalue _), sscanf]

theorem sscanf_size_other {size : Nat} (hsize : size ≠ 4) (s : List Char) (format : List Directive) :
    sscanf (dec_text size ++ s) ("4)".toList.map .char ++ format) = [] := by
  have hformat : "4)".toList.map Directive.char ++ format = .char '4' :: .char ')' :: format := rfl
  rw [hformat]
  cases htext : dec_text size with
  | nil => exact absurd htext dec_text_ne_nil
  | cons c rest =>
    rw [List.cons_append, sscanf]
    by_cases hc : c = '4'
    · rw [if_pos hc]
      cases rest with
      | nil =>
        -- the digit alone is the size 4
        have hnumber : PyText.number 10 decimal (dec_text size) = size :=
          PyText.number_toDigits (by decide) decimal_digitChar
        rw [htext, hc] at hnumber
        exact absurd hnumber.symm hsize
      | cons d rest =>
        have hdigits : ∀ d ∈ dec_text size, IsDigit d := PyText.of_mem_toDigits (by decide) isDigit_digitChar
        have hparen : d ≠ ')' := by
          rintro rfl
          exact absurd (hdigits ')' (by simp [htext])) (by decide)
        rw [List.cons_append, sscanf, if_neg hparen]
    · rw [if_neg hc]

/-- What a line of the log may make the driver do: a write is made once, with its value
translated, and a read is made again while the register is polled. -/
def Replays (d : PokeDriver) (accesses : List DriverEvent) : LogLine → Prop
  | .access (.write bar offset value _) _ =>
    accesses = (base_of d bar).toList.map
      (.iowrite32 · (BitVec.ofNat 32 offset) (translate .zeroed (BitVec.ofNat 32 value)))
  | .access (.read bar offset _ size) _ =>
    ∃ n, accesses =
        (base_of d bar).toList.flatMap (fun base => List.replicate n (.ioread32 base (BitVec.ofNat 32 offset))) ∧
      (if size ≠ 4 then n = 0 else if Polled (BitVec.ofNat 32 offset) then 1 ≤ n ∧ n ≤ 1001 else n = 1)
  | .other _ _ => accesses = []

/-- The lines that are replayed: from the first that brings the card into sync to the
first after it that shows the clock locked. -/
def phase (log : List LogLine) : List LogLine :=
  generate_dsp.through (fun line => Locks (line.text ++ ['\n']))
    (log.dropWhile fun line => ¬ Syncs (line.text ++ ['\n']))

section replay

variable {env : DriverEnv} {r : Replayer}

theorem toList_flatMap_replicate_succ (base : Option Nat) (n : Nat) (off : U32) :
    base.toList.flatMap (fun base => List.replicate (n + 1) (DriverEvent.ioread32 base off)) =
      base.toList.map (.ioread32 · off) ++ base.toList.flatMap fun base => List.replicate n (.ioread32 base off) := by
  cases base with
  | none => rfl
  | some base => simp [List.replicate_succ]

theorem toList_flatMap_replicate_one (base : Option Nat) (off : U32) :
    base.toList.flatMap (fun base => List.replicate 1 (DriverEvent.ioread32 base off)) =
      base.toList.map (.ioread32 · off) := by
  cases base with
  | none => rfl
  | some base => rfl

theorem poll_accesses (bar : Int) (off target_val : U32) (retries : Nat) : ∃ n, 1 ≤ n ∧ n ≤ retries + 1 ∧
    Accesses r ((base_of r.driver bar).toList.flatMap fun base => List.replicate n (.ioread32 base off))
      ((poll bar off target_val retries).exec env r) := by
  have hread {r : Replayer} : Accesses r ((base_of r.driver bar).toList.flatMap fun base =>
      List.replicate 1 (.ioread32 base off)) ((read_reg bar off).exec env r) := by
    rw [toList_flatMap_replicate_one]
    exact read_reg_accesses bar off
  induction retries generalizing r with
  | zero => exact ⟨1, le_rfl, le_rfl, hread⟩
  | succ retries ih =>
    by_cases hval : (read_reg bar off).eval env r ≠ target_val
    · have hexec : (poll bar off target_val (retries + 1)).exec env r =
          (poll bar off target_val retries).exec env
            ((tell (.usleep 10)).exec env ((read_reg bar off).exec env r)) := by
        rw [poll, exec_bind, if_pos hval, exec_bind]
      have hfirst := (@read_reg_accesses env r bar off).trans (@exec_tell env _ (.usleep 10))
      rw [List.append_nil] at hfirst
      obtain ⟨n, hpos, hle, hrest⟩ := @ih ((tell (.usleep 10)).exec env ((read_reg bar off).exec env r))
      rw [hfirst.1.base_of_eq] at hrest
      refine ⟨n + 1, by omega, by omega, ?_⟩
      rw [hexec, toList_flatMap_replicate_succ]
      exact hfirst.trans hrest
    · have hexec : (poll bar off target_val (retries + 1)).exec env r = (read_reg bar off).exec env r := by
        rw [poll, exec_bind, if_neg hval, exec_pure]
      refine ⟨1, le_rfl, by omega, ?_⟩
      rw [hexec]
      exact hread

theorem replay_write_line {bar offset value size : Nat} (words : MachineWords bar offset value size)
    (dma_addrs : DmaAddrs) : replay_line dma_addrs ((Access.write bar offset value size).line device ++ ['\n']) =
      write_reg bar (BitVec.ofNat 32 offset) (translate dma_addrs (BitVec.ofNat 32 value)) := by
  obtain ⟨hnamed, hvalues⟩ := of_scan_write (scan_write_write bar offset value size)
  refine (if_pos hnamed).trans ?_
  rw [hvalues, write_scanned, store_int_toInt words.bar_lt, store_unsigned_of_lt words.offset_lt,
    store_unsigned_of_lt words.value_lt]

theorem replay_read_line (bar offset value size : Nat) (dma_addrs : DmaAddrs) :
    replay_line dma_addrs ((Access.read bar offset value size).line device ++ ['\n']) =
      read_scanned (sscanf ((Access.read bar offset value size).line device ++ ['\n']) (directives read_format)) := by
  have hnamed : "vfio_region_read".toList <:+: (Access.read bar offset value size).line device ++ ['\n'] := by
    rw [read_line, List.append_assoc]
    exact (List.prefix_append _ _).isInfix
  exact (if_neg (replay_trace.not_write_infix_read bar offset value size)).trans (if_pos hnamed)

theorem replay_other_line {line : List Char} (hforeign : Foreign line) (dma_addrs : DmaAddrs) :
    replay_line dma_addrs (line ++ ['\n']) = pure () := by
  have hwrite : '\n' ∉ "vfio_region_write".toList := by decide
  have hread : '\n' ∉ "vfio_region_read".toList := by decide
  refine (if_neg fun hoccurs => ?_).trans (if_neg fun hoccurs => ?_)
  · exact hforeign.no_write ((Occurrence.infix_concat_iff_of_not_mem hwrite).mp hoccurs)
  · exact hforeign.no_read ((Occurrence.infix_concat_iff_of_not_mem hread).mp hoccurs)

/-- The reads of a line, by the size of the access and its register. -/
theorem replay_read_accesses {bar offset value size : Nat} (words : MachineWords bar offset value size)
    (dma_addrs : DmaAddrs) : ∃ accesses, Replays r.driver accesses (.access (.read bar offset value size) words) ∧
      Accesses r accesses
        ((replay_line dma_addrs ((Access.read bar offset value size).line device ++ ['\n'])).exec env r) := by
  rw [replay_read_line, sscanf_read]
  by_cases hsize : size = 4
  · subst hsize
    rw [sscanf_size_four, read_scanned, store_int_toInt words.bar_lt, store_unsigned_of_lt words.offset_lt]
    by_cases hpolled : Polled (BitVec.ofNat 32 offset)
    · obtain ⟨n, hpos, hle, haccesses⟩ :=
        @poll_accesses env r bar (BitVec.ofNat 32 offset) (store_unsigned false value) 1000
      refine ⟨_, ⟨n, rfl, ?_⟩, ?_⟩
      · rw [if_neg (not_not_intro rfl), if_pos hpolled]
        exact ⟨hpos, hle⟩
      · rw [if_pos hpolled]
        exact haccesses
    · refine ⟨_, ⟨1, rfl, ?_⟩, ?_⟩
      · rw [if_neg (not_not_intro rfl), if_neg hpolled]
      · rw [if_neg hpolled, toList_flatMap_replicate_one]
        exact read_reg_accesses bar _
  · refine ⟨[], ⟨0, ?_, by rw [if_pos hsize]⟩, ?_⟩
    · cases base_of r.driver bar with
      | none => rfl
      | some base => rfl
    · rw [sscanf_size_other hsize]
      exact .refl r

theorem replay_line_accesses (line : LogLine) (dma_addrs : DmaAddrs) (hdma : dma_addrs = .zeroed) :
    ∃ accesses, Replays r.driver accesses line ∧
      Accesses r accesses ((replay_line dma_addrs (line.text ++ ['\n'])).exec env r) := by
  cases line with
  | access traced words =>
    cases traced with
    | write bar offset value size =>
      have hline := @replay_write_line bar offset value size words dma_addrs
      refine ⟨_, rfl, ?_⟩
      change Accesses r _
        ((replay_line dma_addrs ((Access.write bar offset value size).line device ++ ['\n'])).exec env r)
      rw [hline, hdma]
      exact write_reg_accesses bar _ _
    | read bar offset value size => exact @replay_read_accesses env r bar offset value size words dma_addrs
  | other line foreign =>
    have hline := replay_other_line foreign dma_addrs
    refine ⟨[], rfl, ?_⟩
    change Accesses r _ ((replay_line dma_addrs (line ++ ['\n'])).exec env r)
    rw [hline]
    exact .refl r

theorem replays_same {d d' : PokeDriver} (hsame : SameCard d d') : Replays d' = Replays d := by
  funext accesses line
  cases line with
  | access traced words =>
    cases traced with
    | write bar offset value size => simp only [Replays, hsame.base_of_eq]
    | read bar offset value size => simp only [Replays, hsame.base_of_eq]
  | other line foreign => rfl

/-- In the phase the loop replays every line up to the one that shows the lock. -/
theorem main_loop_in_sync (log : List LogLine) : ∃ parts,
    List.Forall₂ (Replays r.driver) parts (generate_dsp.through (fun line => Locks (line.text ++ ['\n'])) log) ∧
    Accesses r parts.flatten
      ((main_loop .zeroed true (log.map fun line => line.text ++ ['\n'])).exec env r) := by
  induction log generalizing r with
  | nil => exact ⟨[], .nil, .refl r⟩
  | cons line log ih =>
    obtain ⟨accesses, hreplays, hline⟩ := @replay_line_accesses env r line .zeroed rfl
    generalize hnext : (replay_line .zeroed (line.text ++ ['\n'])).exec env r = r' at hline
    rw [List.map_cons, main_loop, Bool.true_or, if_neg (by decide : ¬ true = false), exec_bind, hnext,
      generate_dsp.through]
    by_cases hlocks : Locks (line.text ++ ['\n'])
    · rw [if_pos hlocks, if_pos hlocks]
      refine ⟨[accesses], .cons hreplays .nil, ?_⟩
      have haccesses := hline.trans
        (@exec_tell env r' (.printf "Target Status 0x13 reached in trace replay!\n" []))
      simpa using haccesses
    · rw [if_neg hlocks, if_neg hlocks]
      obtain ⟨parts, hparts, hrest⟩ := @ih r'
      rw [replays_same hline.1] at hparts
      exact ⟨accesses :: parts, .cons hreplays hparts, hline.trans hrest⟩

/-- Before it nothing is replayed. -/
theorem main_loop_accesses (log : List LogLine) : ∃ parts, List.Forall₂ (Replays r.driver) parts (phase log) ∧
    Accesses r parts.flatten
      ((main_loop .zeroed false (log.map fun line => line.text ++ ['\n'])).exec env r) := by
  induction log with
  | nil => exact ⟨[], .nil, .refl r⟩
  | cons line log ih =>
    by_cases hsyncs : Syncs (line.text ++ ['\n'])
    · have hphase : phase (line :: log) =
          generate_dsp.through (fun line => Locks (line.text ++ ['\n'])) (line :: log) := by
        rw [phase, List.dropWhile_cons_of_neg (by simpa using hsyncs)]
      have hloop : main_loop .zeroed false ((line :: log).map fun line => line.text ++ ['\n']) =
          main_loop .zeroed true ((line :: log).map fun line => line.text ++ ['\n']) := by
        rw [List.map_cons, main_loop, main_loop, decide_eq_true hsyncs, Bool.or_true, Bool.or_true]
      rw [hphase, hloop]
      exact main_loop_in_sync (line :: log)
    · have hphase : phase (line :: log) = phase log := by
        rw [phase, List.dropWhile_cons_of_pos (by simpa using hsyncs), phase]
      have hloop : main_loop .zeroed false ((line :: log).map fun line => line.text ++ ['\n']) =
          main_loop .zeroed false (log.map fun line => line.text ++ ['\n']) := by
        rw [List.map_cons, main_loop, decide_eq_false hsyncs, Bool.or_false, if_pos rfl]
      rw [hphase, hloop]
      exact ih

end replay

/-- The tool replays the phase of the log between sync and lock, line by line in order. The driver refuses its
request for the addresses of buffers, so the addresses in the values that it writes are made from zeros, and a
register that is polled is read 1001 times at most. At the end the two status registers are read. -/
theorem replays_phase (env : DriverEnv) (r : Replayer) (log : List LogLine) : ∃ parts,
    List.Forall₂ (Replays r.driver) parts (phase log) ∧
    register_accesses ((main (some (log_text log))).exec env r).driver.history =
      register_accesses r.driver.history ++ parts.flatten ++
        (base_of r.driver 2).toList.flatMap fun base => [.ioread32 base 0x4, .ioread32 base 0x0] := by
  obtain ⟨heval, hexec⟩ := @get_dma_refused env r
  obtain ⟨parts, hparts, hloop⟩ := @main_loop_accesses env r log
  refine ⟨parts, hparts, ?_⟩
  have hmain : ((main (some (log_text log))).exec env r).driver = ((read_reg 2 0x0).exec env ((read_reg 2 0x4).exec env
      ((main_loop (get_dma.eval env r) false (fgets_lines 256 [] (log_text log))).exec env
        (get_dma.exec env r)))).driver := (rfl)
  rw [hmain, heval, hexec, fgets_lines_log]
  generalize (main_loop .zeroed false (log.map fun line => line.text ++ ['\n'])).exec env r = r' at hloop
  have hp2 := @read_reg_accesses env r' 2 0x4
  have hp1 := @read_reg_accesses env ((read_reg 2 0x4).exec env r') 2 0x0
  rw [hp1.2, hp2.2, hloop.2, hp2.1.base_of_eq, hloop.1.base_of_eq]
  cases base_of r.driver 2 with
  | none => simp
  | some base => simp

end motu424.replay.smart
