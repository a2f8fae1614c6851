import Motu424.GenerateGolden.Agreement
import Motu424.Poke.Driver
import Motu424.Foundation.Occurrence

open Program Stdio
open motu424.vfio_trace motu424.poke

namespace motu424.replay

/-- What a replayer shows and how long it waits. -/
inductive ReplayEvent where
  | perror (text : String)
  | printf (fmt : String) (args : List LogArg)
  | usleep (usec : Nat)
  deriving DecidableEq, Repr

/-- A replayer and the driver behind the device it has opened. -/
structure Replayer where
  driver : PokeDriver
  output : List ReplayEvent
  deriving DecidableEq, Repr

abbrev Replay (α : Type) : Type := Program DriverEnv Replayer α

def tell (event : ReplayEvent) : Replay Unit := Program.update fun r => { r with output := r.output ++ [event] }

/-- The system hands a request to the driver. -/
def on_driver {α : Type} (p : Driver α) : Replay α :=
  p.zoom id Replayer.driver fun driver r => { r with driver := driver }

def IOC (dir nr size : U32) : U32 := dir <<< 30 ||| size <<< 16 ||| 0x4D <<< 8 ||| nr

def IOR (nr size : U32) : U32 := IOC 2 nr size

def IOWR (nr size : U32) : U32 := IOC 3 nr size

/-- The request of the driver that a number stands for. -/
def request_of (cmd : U32) : MOTU_IOC :=
  if cmd = IOR 2 4 then .ioc_get_dma
  else if cmd = IOWR 3 16 then .ioc_read_dma
  else if cmd = IOWR 1 16 then .ioc_poke
  else .other cmd

/-- The number that the replayers have for register accesses. -/
def MOTU_IOC_POKE : U32 := IOWR 1 16

/-- What a request copies to its data. -/
def DriverEvent.copied : DriverEvent → Option motu_ioctl_data
  | .copy_data_to_user data => some data
  | _ => none

/-- A request with register data, and the data after it. The replayers do not look at
its outcome. -/
def ioctl_data (cmd : U32) (data : motu_ioctl_data) : Replay motu_ioctl_data := do
  let before ← Program.gets fun r => r.driver.history.length
  let _ret ← on_driver (motu_ioctl (request_of cmd) ⟨some data, true⟩)
  Program.gets fun r => ((r.driver.history.drop before).filterMap DriverEvent.copied).getLast?.getD data

def write_reg (bar : Int) (offset value : U32) : Replay Unit := do
  let _data ← ioctl_data MOTU_IOC_POKE { offset := offset, value := value, write := 1, bar := bar }
  pure ()

def read_reg (bar : Int) (offset : U32) : Replay U32 := do
  let data ← ioctl_data MOTU_IOC_POKE { offset := offset, value := 0, write := 0, bar := bar }
  pure data.value

/-- The file that is named by the argument, if there is one. -/
inductive Argument (α : Type) where
  | missing
  | no_file
  | file (content : α)
  deriving DecidableEq, Repr

namespace replay_trace

def read_format : List Char := "vfio_region_read  (0000:06:01.0:region%d+%x".toList

/-- What the loop does with the values scanned from the line of a write. -/
def write_scanned : List U32 → Replay Unit
  | [bar, offset, val] => write_reg bar.toInt offset val
  | _ => pure ()

/-- What it does with those from the line of a read. -/
def read_scanned : List U32 → Replay Unit
  | [bar, offset] => do
    let _val ← read_reg bar.toInt offset
    tell (.usleep 50)
  | _ => pure ()

/-- The body of the loop, for one line. -/
def replay_line (line : List Char) : Replay Unit :=
  if "vfio_region_write".toList <:+: line then write_scanned (sscanf line (directives smart_replay.write_format))
  else if "vfio_region_read".toList <:+: line then read_scanned (sscanf line (directives read_format))
  else pure ()

/-- The loop, which counts the lines. -/
def main_loop : List (List Char) → Nat → Replay Nat
  | [], count => pure count
  | line :: lines, count => do
    replay_line line
    let count := count + 1
    Program.when (count % 100000 = 0) (tell (.printf "\rReplayed %zu events..." [.int count]))
    main_loop lines count

def run (content : List Char) : Replay Int := do
  let count ← main_loop (fgets_lines 256 [] content) 0
  tell (.printf "\nReplay finished! Events: %zu\n" [.int count])
  pure 0

/-- `main`, with a device that can be opened or not. -/
def main (device : Bool) (argv0 : String) (argument : Argument (List Char)) : Replay Int :=
  if argument = .missing then do
    tell (.printf "Usage: %s <trace_file>\n" [.text argv0])
    pure 1
  else if device = false then do
    tell (.perror "open /dev/motu_poke")
    pure 1
  else
    match argument with
    | .file content => run content
    | _ => do
      tell (.perror "fopen")
      pure 1

end replay_trace

def DriverEvent.IsRegister : DriverEvent → Bool
  | .ioread32 _ _ => true
  | .iowrite32 _ _ _ => true
  | _ => false

/-- The register accesses of a history, in order. -/
def register_accesses (history : List DriverEvent) : List DriverEvent := history.filter DriverEvent.IsRegister

/-- The mapping that the driver has for a BAR. -/
def base_of (d : PokeDriver) (bar : Int) : Option Nat :=
  if bar = 0 then d.iobase_bar0 else if bar = 1 then d.iobase_bar1 else if bar = 2 then d.iobase_bar2 else none

/-- What the driver knows of the card. -/
def SameCard (d d' : PokeDriver) : Prop :=
  d'.iobase_bar0 = d.iobase_bar0 ∧ d'.iobase_bar1 = d.iobase_bar1 ∧ d'.iobase_bar2 = d.iobase_bar2

/-- A replayer that has made the driver do the register accesses that are listed. -/
def Accesses (before : Replayer) (accesses : List DriverEvent) (after : Replayer) : Prop :=
  SameCard before.driver after.driver ∧
    register_accesses after.driver.history = register_accesses before.driver.history ++ accesses

section specs

variable {env : DriverEnv} {r r' r'' : Replayer} {xs ys : List DriverEvent}

theorem Accesses.refl (r : Replayer) : Accesses r [] r := ⟨⟨rfl, rfl, rfl⟩, (List.append_nil _).symm⟩

theorem Accesses.trans (hfirst : Accesses r xs r') (hsecond : Accesses r' ys r'') : Accesses r (xs ++ ys) r'' := by
  obtain ⟨⟨h0, h1, h2⟩, hxs⟩ := hfirst
  obtain ⟨⟨h0', h1', h2'⟩, hys⟩ := hsecond
  exact ⟨⟨h0'.trans h0, h1'.trans h1, h2'.trans h2⟩, by rw [hys, hxs, List.append_assoc]⟩

theorem SameCard.base_of_eq {d d' : PokeDriver} (hsame : SameCard d d') (bar : Int) :
    base_of d' bar = base_of d bar := by
  rw [base_of, base_of, hsame.1, hsame.2.1, hsame.2.2]

theorem exec_tell (event : ReplayEvent) : Accesses r [] ((tell event).exec env r) :=
  ⟨⟨rfl, rfl, rfl⟩, (List.append_nil _).symm⟩

/-- The number that the replayers have is that of the driver. -/
theorem request_of_poke : request_of MOTU_IOC_POKE = .ioc_poke := by decide

/-- The register access that a request asks for. -/
def asked (data : motu_ioctl_data) (base : Nat) : DriverEvent :=
  if data.write ≠ 0 then .iowrite32 base data.offset data.value else .ioread32 base data.offset

theorem register_accesses_append (xs ys : List DriverEvent) :
    register_accesses (xs ++ ys) = register_accesses xs ++ register_accesses ys := List.filter_append ..

theorem poke_bar_accesses (d : PokeDriver) (data : motu_ioctl_data) (base : Option Nat) :
    SameCard d ((poke_bar ⟨some data, true⟩ data base).exec env d) ∧
    register_accesses ((poke_bar ⟨some data, true⟩ data base).exec env d).history =
      register_accesses d.history ++ base.toList.map (asked data) := by
  cases base with
  | none => exact ⟨⟨rfl, rfl, rfl⟩, (List.append_nil _).symm⟩
  | some base =>
    rw [Option.toList_some, List.map_singleton, asked]
    by_cases hwrite : data.write ≠ 0
    · rw [poke_bar, if_pos hwrite, if_pos hwrite]
      exact ⟨⟨rfl, rfl, rfl⟩, register_accesses_append d.history _⟩
    · rw [poke_bar, if_neg hwrite, if_neg hwrite]
      refine ⟨⟨rfl, rfl, rfl⟩, ?_⟩
      change register_accesses ((d.history ++ [_]) ++ [_]) = _
      rw [List.append_assoc, register_accesses_append]
      rfl

theorem exec_ioctl_poke_reg (d : PokeDriver) (data : motu_ioctl_data) :
    (ioctl_poke_reg ⟨some data, true⟩).exec env d =
      (poke_bar ⟨some data, true⟩ data (base_of d data.bar)).exec env d := by
  rw [ioctl_poke_reg, exec_bind, eval_gets, exec_gets, base_of]
  dsimp only [id]
  by_cases h0 : data.bar = 0
  · rw [if_pos h0, if_pos h0]
  rw [if_neg h0, if_neg h0]
  by_cases h1 : data.bar = 1
  · rw [if_pos h1, if_pos h1]
  rw [if_neg h1, if_neg h1]
  by_cases h2 : data.bar = 2
  · rw [if_pos h2, if_pos h2]
  · rw [if_neg h2, if_neg h2]
    rfl

/-- A request of the replayers makes the driver do the access that it asks for, if its
BAR is mapped. -/
theorem ioctl_data_accesses (data : motu_ioctl_data) :
    Accesses r ((base_of r.driver data.bar).toList.map (asked data)) ((ioctl_data MOTU_IOC_POKE data).exec env r) := by
  have hexec : ((ioctl_data MOTU_IOC_POKE data).exec env r).driver =
      (ioctl_poke_reg ⟨some data, true⟩).exec env r.driver := by
    rw [ioctl_data, request_of_poke]
    rfl
  rw [Accesses, hexec, exec_ioctl_poke_reg]
  exact poke_bar_accesses r.driver data _

theorem write_reg_accesses (bar : Int) (offset value : U32) :
    Accesses r ((base_of r.driver bar).toList.map (.iowrite32 · offset value))
      ((write_reg bar offset value).exec env r) :=
  ioctl_data_accesses ⟨offset, value, 1, bar⟩

theorem read_reg_accesses (bar : Int) (offset : U32) :
    Accesses r ((base_of r.driver bar).toList.map (.ioread32 · offset)) ((read_reg bar offset).exec env r) :=
  ioctl_data_accesses ⟨offset, 0, 0, bar⟩

end specs

end motu424.replay

namespace motu424.vfio_trace

def Access.offset : Access → Nat
  | write _ offset _ _ => offset
  | read _ offset _ _ => offset

def Access.value : Access → Nat
  | write _ _ value _ => value
  | read _ _ value _ => value

end motu424.vfio_trace

namespace motu424.replay

open motu424.generate_golden3 motu424.smart_replay

/-- A line that is not about a register access and fits into the buffer. -/
structure Foreign (text : List Char) : Prop where
  one_line : '\n' ∉ text
  fits : text.length + 1 < 256
  no_write : ¬ "vfio_region_write".toList <:+: text
  no_read : ¬ "vfio_region_read".toList <:+: text

/-- A line of a log. -/
inductive LogLine where
  | access (traced : Access) (words : MachineWords traced.bar traced.offset traced.value traced.size)
  | other (line : List Char) (foreign : Foreign line)

def LogLine.text : LogLine → List Char
  | .access traced _ => traced.line device
  | .other line _ => line

def log_text (log : List LogLine) : List Char := log.flatMap fun line => line.text ++ ['\n']

theorem LogLine.fits (line : LogLine) : '\n' ∉ line.text ∧ line.text.length + 1 < 256 := by
  cases line with
  | access traced words =>
    have hline : '\n' ∉ traced.line device := fun hmem => (traced.one_line device _ hmem).1 rfl
    refine ⟨hline, ?_⟩
    cases traced with
    | write bar offset value size => exact words.fits.1
    | read bar offset value size => exact words.fits.2
  | other line foreign =>
    have hline : '\n' ∉ line := foreign.one_line
    exact ⟨hline, foreign.fits⟩

/-- Every line is read as a whole. -/
theorem fgets_lines_log (log : List LogLine) :
    fgets_lines 256 [] (log_text log) = log.map fun line => line.text ++ ['\n'] := by
  induction log with
  | nil => rfl
  | cons line log ih =>
    obtain ⟨hnewline, hfits⟩ := line.fits
    have hcons : log_text (line :: log) = line.text ++ '\n' :: log_text log := by simp [log_text]
    have hsize : ([] : List Char).length + line.text.length + 1 < 256 := by simpa using hfits
    rw [hcons, fgets_lines_line hnewline hsize, ih]
    rfl

/-- What a scan of a write tells. -/
theorem of_scan_write {line : List Char} {bar off val : U32} (hscan : scan_write line = some (bar, off, val)) :
    "vfio_region_write".toList <:+: line ∧ sscanf line (directives write_format) = [bar, off, val] := by
  unfold scan_write at hscan
  split at hscan
  · rename_i hnamed
    refine ⟨hnamed, ?_⟩
    split at hscan
    · rename_i hvalues
      cases hscan
      exact hvalues
    · cases hscan
  · cases hscan

theorem store_unsigned_of_lt {n : Nat} (hn : n < 0x10000000000000000) : store_unsigned false n = BitVec.ofNat 32 n := by
  have hmin : min n 0xffffffffffffffff = n := by omega
  rw [store_unsigned, hmin]
  rfl

theorem store_int_toInt {n : Nat} (hn : n < 0x80000000) : (store_int false n).toInt = n := by
  have hmin : min n 0x7fffffffffffffff = n := by omega
  have hint : store_int false n = BitVec.ofNat 32 (min n 0x7fffffffffffffff) := rfl
  rw [hint, hmin, BitVec.toInt_eq_toNat_of_lt]
  · rw [BitVec.toNat_ofNat]
    omega
  · rw [BitVec.toNat_ofNat]
    omega

namespace replay_trace

theorem directives_read_format : directives read_format =
    "vfio_region_read".toList.map .char ++ (.blank :: .blank :: ("(0000:06:01.0:region".toList.map .char ++
      (.d :: ("+".toList.map .char ++ [.x])))) := by decide +kernel

/-- Every read of the device is scanned. -/
theorem sscanf_read (bar offset value size : Nat) :
    sscanf ((Access.read bar offset value size).line device ++ ['\n']) (directives read_format) =
      [store_int false bar, store_unsigned false offset] := by
  obtain ⟨rest, hline⟩ : ∃ rest, (Access.read bar offset value size).line device ++ ['\n'] =
      "vfio_region_read".toList ++ ("  ".toList ++ ("(0000:06:01.0:region".toList ++ (dec_text bar ++ ("+".toList ++
        ("0x".toList ++ (hex_text offset ++ ',' :: rest)))))) := by
    have hparen : "  (".toList = "  ".toList ++ "(".toList := by decide
    have hplus : "+0x".toList = "+".toList ++ "0x".toList := by decide
    have hcomma : ",".toList = [','] := by decide
    have hopening : "(0000:06:01.0:region".toList =
        "(".toList ++ ("0000:06:01.0".toList ++ ":region".toList) := by decide
    rw [read_line, region_text, device_text, hparen, hplus, hcomma, hopening]
    simp only [List.append_assoc, List.cons_append]
    exact ⟨_, rfl⟩
  have hbar (s : List Char) : scan_d (dec_text bar ++ ("+".toList ++ s)) =
      some (store_int false bar, "+".toList ++ s) := scan_d_toDigits (by decide)
  have hoffset (s : List Char) : scan_x ("0x".toList ++ (hex_text offset ++ ',' :: s)) =
      some (store_unsigned false offset, ',' :: s) := scan_x_toDigits (by decide)
  have hblanks (s : List Char) : ("  ".toList ++ ("(0000:06:01.0:region".toList ++ s)).dropWhile isspace =
      "(0000:06:01.0:region".toList ++ s := rfl
  have hopen (s : List Char) : ("(0000:06:01.0:region".toList ++ s).dropWhile isspace =
      "(0000:06:01.0:region".toList ++ s := rfl
  rw [hline, directives_read_format, sscanf_word, sscanf_blank, hblanks, sscanf_blank, hopen, sscanf_word,
    sscanf_d (hbar _), sscanf_word, sscanf_x (hoffset _), sscanf]

theorem not_write_infix_read (bar offset value size : Nat) :
    ¬ "vfio_region_write".toList <:+: (Access.read bar offset value size).line device ++ ['\n'] := by
  have hname : 'w' ∉ "vfio_region_read".toList := by decide
  have hfields : 'w' ∉ (Access.read bar offset value size).fields device :=
    (Access.read bar offset value size).not_mem_fields device (by decide) (by decide)
  have hnewline : 'w' ∉ ['\n'] := by decide
  have hmem : 'w' ∈ "vfio_region_write".toList := by decide
  apply Occurrence.not_infix_of_not_mem hmem
  rw [Access.line, List.mem_append, List.mem_append, not_or, not_or]
  exact ⟨⟨hname, hfields⟩, hnewline⟩

/-- The driver's part in the access that a line tells of. -/
def replayed (d : PokeDriver) : LogLine → List DriverEvent
  | .access (.write bar offset value _) _ =>
    (base_of d bar).toList.map (.iowrite32 · (BitVec.ofNat 32 offset) (BitVec.ofNat 32 value))
  | .access (.read bar offset _ _) _ => (base_of d bar).toList.map (.ioread32 · (BitVec.ofNat 32 offset))
  | .other _ _ => []

section replay

variable {env : DriverEnv} {r : Replayer}

theorem replay_write_line {bar offset value size : Nat} (words : MachineWords bar offset value size) :
    replay_line ((Access.write bar offset value size).line device ++ ['\n']) =
      write_reg bar (BitVec.ofNat 32 offset) (BitVec.ofNat 32 value) := by
  obtain ⟨hnamed, hvalues⟩ := of_scan_write (scan_write_write bar offset value size)
  refine (if_pos hnamed).trans ?_
  rw [hvalues, write_scanned, store_int_toInt words.bar_lt, store_unsigned_of_lt words.offset_lt,
    store_unsigned_of_lt words.value_lt]

theorem replay_read_line {bar offset value size : Nat} (words : MachineWords bar offset value size) :
    replay_line ((Access.read bar offset value size).line device ++ ['\n']) = (do
      let _val ← read_reg bar (BitVec.ofNat 32 offset)
      tell (.usleep 50)) := by
  have hnamed : "vfio_region_read".toList <:+: (Access.read bar offset value size).line device ++ ['\n'] := by
    rw [read_line, List.append_assoc]
    exact (List.prefix_append _ _).isInfix
  refine (if_neg (not_write_infix_read bar offset value size)).trans ((if_pos hnamed).trans ?_)
  rw [sscanf_read, read_scanned, store_int_toInt words.bar_lt, store_unsigned_of_lt words.offset_lt]

theorem replay_other_line {line : List Char} (hforeign : Foreign line) : replay_line (line ++ ['\n']) = pure () := by
  have hwrite : '\n' ∉ "vfio_region_write".toList := by decide
  have hread : '\n' ∉ "vfio_region_read".toList := by decide
  refine (if_neg fun hoccurs => ?_).trans (if_neg fun hoccurs => ?_)
  · exact hforeign.no_write ((Occurrence.infix_concat_iff_of_not_mem hwrite).mp hoccurs)
  · exact hforeign.no_read ((Occurrence.infix_concat_iff_of_not_mem hread).mp hoccurs)

theorem replay_line_accesses (line : LogLine) :
    Accesses r (replayed r.driver line) ((replay_line (line.text ++ ['\n'])).exec env r) := by
  cases line with
  | access traced words =>
    cases traced with
    | write bar offset value size =>
      have hline := @replay_write_line bar offset value size words
      change Accesses r _ ((replay_line ((Access.write bar offset value size).line device ++ ['\n'])).exec env r)
      rw [hline]
      exact write_reg_accesses bar _ _
    | read bar offset value size =>
      have hline := @replay_read_line bar offset value size words
      change Accesses r _ ((replay_line ((Access.read bar offset value size).line device ++ ['\n'])).exec env r)
      rw [hline, exec_bind]
      have haccesses := (@read_reg_accesses env r bar (BitVec.ofNat 32 offset)).trans (@exec_tell env _ (.usleep 50))
      rwa [List.append_nil] at haccesses
  | other line foreign =>
    have hline := replay_other_line foreign
    change Accesses r _ ((replay_line (line ++ ['\n'])).exec env r)
    rw [hline]
    exact .refl r

theorem replayed_same {d d' : PokeDriver} (hsame : SameCard d d') : replayed d' = replayed d := by
  funext line
  cases line with
  | access traced words =>
    cases traced with
    | write bar offset value size => simp only [replayed, hsame.base_of_eq]
    | read bar offset value size => simp only [replayed, hsame.base_of_eq]
  | other line foreign => rfl

/-- The loop replays the lines in order. -/
theorem main_loop_accesses (log : List LogLine) (count : Nat) :
    Accesses r (log.flatMap (replayed r.driver))
      ((main_loop (log.map fun line => line.text ++ ['\n']) count).exec env r) := by
  induction log generalizing r count with
  | nil => exact .refl r
  | cons line log ih =>
    have hline := @replay_line_accesses env r line
    rw [List.map_cons, main_loop, exec_bind, exec_bind, List.flatMap_cons]
    refine hline.trans ?_
    rw [← replayed_same hline.1]
    generalize (replay_line (line.text ++ ['\n'])).exec env r = r'
    have hprogress : Accesses r' [] ((when ((count + 1) % 100000 = 0)
        (tell (.printf "\rReplayed %zu events..." [.int (count + 1)]))).exec env r') := by
      rw [exec_when]
      split
      · exact exec_tell _
      · exact .refl r'
    have hrest := @ih ((when ((count + 1) % 100000 = 0)
        (tell (.printf "\rReplayed %zu events..." [.int (count + 1)]))).exec env r') (count + 1)
    rw [replayed_same hprogress.1] at hrest
    have hboth := hprogress.trans hrest
    rwa [List.nil_append] at hboth

end replay

/-- From a log of register accesses, whatever else stands in it, the replayer makes the driver do the accesses of
the log in their order, each at the mapping of its BAR, and none for a BAR without one. -/
theorem replays_log (env : DriverEnv) (r : Replayer) (argv0 : String) (log : List LogLine) :
    (main true argv0 (.file (log_text log))).eval env r = 0 ∧
    register_accesses ((main true argv0 (.file (log_text log))).exec env r).driver.history =
      register_accesses r.driver.history ++ log.flatMap (replayed r.driver) := by
  have hmain : main true argv0 (.file (log_text log)) = run (log_text log) := by
    rw [main, if_neg nofun, if_neg (by decide)]
  rw [hmain]
  refine ⟨rfl, ?_⟩
  have hloop := @main_loop_accesses env r log 0
  have hexec : ((run (log_text log)).exec env r).driver =
      ((main_loop (fgets_lines 256 [] (log_text log)) 0).exec env r).driver := (rfl)
  rw [hexec, fgets_lines_log]
  exact hloop.2

end replay_trace

end motu424.replay
