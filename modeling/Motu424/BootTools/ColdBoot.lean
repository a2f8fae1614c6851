import Motu424.BootTools
import Motu424.GenerateDsp.Replayed
import Motu424.Poke.Upload
import Motu424.Init.FullInit

open Program Serial
open motu424.poke motu424.convert_golden

namespace motu424.replay

/-- A write of the FPGA control register. -/
def ctrl_write (value : U32) : RegWrite := ⟨1, 0x300008, value⟩

/-- The three writes for a bit, where the data line is set to `first` when the clock
falls. -/
def clocked (first bit : Bool) : List RegWrite :=
  [ctrl_write (fpga_value first), ctrl_write (fpga_value bit), ctrl_write (fpga_value bit ||| FPGA_CLK_BIT)]

/-- The bits with the data held until the clock has fallen. -/
def held_writes : Bool → List Bool → List RegWrite
  | _, [] => []
  | prev, bit :: bits => clocked prev bit ++ held_writes bit bits

/-- The bits with the data changed as the clock falls. -/
def strobe_writes (bits : List Bool) : List RegWrite := bits.flatMap fun bit => clocked bit bit

/-- An upload with the given writes of the control register. -/
def upload_writes (mid : List RegWrite) : List RegWrite := preamble_writes ++ mid ++ finalisation_writes

def zero_writes : List RegWrite := (List.range 0x10000).map fun i => ⟨0, BitVec.ofNat 32 (i * 4), 0⟩

/-- The write of a call in a golden file. -/
def golden_write (call : Nat × Nat) : RegWrite := ⟨0, BitVec.ofNat 32 call.1, BitVec.ofNat 32 call.2⟩

/-- The same write with its value translated for the buffer of the driver. -/
def relocated (c : motu424_ctx) (call : Nat × Nat) : RegWrite :=
  ⟨0, BitVec.ofNat 32 call.1, motu424_translate_dma c (BitVec.ofNat 32 call.2)⟩

def kickstart_writes : List RegWrite := [⟨2, 0x0, 0x0⟩, ⟨0, 0x3fffc, 0x0⟩, ⟨2, 0x4, 0x2⟩]

section lines

theorem clocked_drives (first bit : Bool) : Drives [⟨false, first⟩, ⟨false, bit⟩, ⟨true, bit⟩] (clocked first bit) where
  lines := by
    have hlines : ctrl_lines (clocked first bit) =
      [line_of (fpga_value first), line_of (fpga_value bit), line_of (fpga_value bit ||| FPGA_CLK_BIT)] := (rfl)
    rw [hlines, line_of_fpga_value, line_of_fpga_value, line_of_clock]
  only := by simp [OnlyCtrl, clocked, ctrl_write, RegWrite.OnCtrl]

theorem held_writes_drive (prev : Bool) (bits : List Bool) :
    Drives (Serial.upload prev bits) (held_writes prev bits) := by
  induction bits generalizing prev with
  | nil => exact Drives.nil
  | cons bit bits ih => exact (clocked_drives prev bit).append (ih bit)

theorem strobe_writes_drive (bits : List Bool) : Drives (strobes bits) (strobe_writes bits) := by
  induction bits with
  | nil => exact Drives.nil
  | cons bit bits ih => exact (clocked_drives bit bit).append ih

theorem held_writes_append (prev : Bool) (xs ys : List Bool) :
    held_writes prev (xs ++ ys) = held_writes prev xs ++ held_writes (xs.getLastD prev) ys := by
  induction xs generalizing prev with
  | nil => rfl
  | cons x xs ih => rw [List.cons_append, held_writes, held_writes, ih, List.getLastD_cons, List.append_assoc]

/-- What a receiver takes from an upload is on the line between its first and last writes. -/
theorem received_upload {lines : List Line} {mid : List RegWrite} (hmid : Drives lines mid) :
    received (upload_writes mid) = sampled (⟨false, false⟩ :: lines) := by
  have hpreamble : ctrl_lines preamble_writes = [⟨false, false⟩] := by decide
  have hfinalisation : ctrl_lines finalisation_writes = [] := by decide
  rw [received, upload_writes, ctrl_lines_append, ctrl_lines_append, hpreamble, hfinalisation, hmid.lines,
    List.append_nil]
  rfl

/-- Both ways to clock the bits deliver them. -/
theorem received_bits (bits : List Bool) : received (upload_writes (held_writes false bits)) = bits ∧
    received (upload_writes (strobe_writes bits)) = bits := by
  rw [received_upload (held_writes_drive false bits), received_upload (strobe_writes_drive bits)]
  exact ⟨sampled_upload ⟨false, false⟩ bits, sampled_strobes ⟨false, false⟩ bits⟩

end lines

end motu424.replay

namespace motu424.poke

open motu424.replay

/-- A tool whose first part returns a known value. -/
theorem Asks.bind_value {α β : Type} {Q R S : List RegWrite → Prop} {q : Tool α} {g : α → Tool β} {a : α}
    (hq : Asks Q q) (hvalue : ∀ env history, q.eval env history = a) (hg : Asks R (g a))
    (hS : ∀ xs ys, Q xs → R ys → S (xs ++ ys)) : Asks S (q >>= g) := by
  intro env history
  obtain ⟨first, hfirst, hxs⟩ := hq env history
  obtain ⟨rest, hrest, hys⟩ := hg env (q.exec env history)
  refine ⟨first ++ rest, ?_, ?_⟩
  · rw [exec_bind, hvalue, hrest, hfirst, List.append_assoc]
  · rw [tool_writes_append]
    exact hS _ _ hxs hys

/-- The value of the line for a bit of a byte. -/
theorem bit_value (byte : U8) {bit : Nat} (hbit : bit < 8) :
    (0x40 ||| if byte &&& (1 <<< bit) ≠ 0 then 0x20 else 0x00 : U32) = fpga_value (byte.getLsbD bit) := by
  simp only [and_shiftLeft_ne_zero_iff byte hbit]
  rfl

theorem upload_bits_held (byte : U8) {bits : List Nat} (hbits : ∀ bit ∈ bits, bit < 8) (prev : Bool) :
    (∀ env history, (upload_bits byte bits (fpga_value prev)).eval env history =
      fpga_value ((bits.map byte.getLsbD).getLastD prev)) ∧
    Asks (· = held_writes prev (bits.map byte.getLsbD)) (upload_bits byte bits (fpga_value prev)) := by
  induction bits generalizing prev with
  | nil => exact ⟨fun _ _ => rfl, Asks.pure _ rfl⟩
  | cons bit bits ih =>
    obtain ⟨hvalue, hasks⟩ := ih (fun b hb => hbits b (List.mem_cons_of_mem _ hb)) (byte.getLsbD bit)
    have hbit := bit_value byte (hbits bit List.mem_cons_self)
    rw [upload_bits, hbit, List.map_cons, List.getLastD_cons]
    refine ⟨fun env history => hvalue env _, ?_⟩
    refine (Asks.write_reg _ _ _).write_then (fun _ => ?_) fun ys hys => hys
    refine (Asks.write_reg _ _ _).write_then (fun _ => ?_) fun ys hys => hys
    refine (Asks.write_reg _ _ _).write_then (fun _ => hasks) ?_
    rintro _ rfl
    rfl

theorem upload_bytes_held (bytes : List U8) (prev : Bool) :
    Asks (· = held_writes prev (image_bits bytes)) (upload_bytes bytes (fpga_value prev)) := by
  induction bytes generalizing prev with
  | nil => exact Asks.pure () rfl
  | cons byte bytes ih =>
    obtain ⟨hvalue, hasks⟩ := upload_bits_held byte (fun _ hbit => List.mem_range.mp hbit) prev
    rw [upload_bytes]
    refine hasks.bind_value hvalue (ih _) ?_
    rintro _ _ rfl rfl
    exact (held_writes_append prev (byte_bits byte) (image_bits bytes)).symm

theorem cmd_fpga_upload_held (image : List U8) :
    Asks (· = upload_writes (held_writes false (image_bits image))) (cmd_fpga_upload image) := by
  intro env history
  obtain ⟨new, hnew, mid, hbracket, rfl⟩ :=
    bracketed_asks Asks.write_reg (upload_bytes_held image false) (Asks.printf _ _) (Asks.printf _ _) env history
  exact ⟨new, hnew, hbracket⟩

end motu424.poke

namespace motu424.replay

/-- The shared code, left on the same hardware, has made these register writes. -/
def Boots (m : Machine) (writes : List RegWrite) (m' : Machine) : Prop :=
  m'.ctx = m.ctx ∧ ∃ new, m'.trace = m.trace ++ new ∧ reg_writes new = writes

section driver

variable (env : Env) {m m' m'' : Machine} {xs ys : List RegWrite}

theorem Boots.trans (hfirst : Boots m xs m') (hsecond : Boots m' ys m'') : Boots m (xs ++ ys) m'' := by
  obtain ⟨hctx, first, hfirst, hxs⟩ := hfirst
  obtain ⟨hctx', rest, hrest, hys⟩ := hsecond
  refine ⟨hctx'.trans hctx, first ++ rest, ?_, ?_⟩
  · rw [hrest, hfirst, List.append_assoc]
  · rw [reg_writes_append, hxs, hys]

theorem Boots.emit (m : Machine) (new : List Event) : Boots m (reg_writes new) (m.emit new) :=
  ⟨Machine.emit_ctx m new, new, Machine.emit_trace m new, rfl⟩

theorem load_fpga_boots (m : Machine) {image : List U8} (himage : image ≠ []) :
    Boots m (upload_writes (held_writes false (image_bits image))) ((motu424_load_fpga (some image)).exec env m) := by
  obtain ⟨new, new', hnew, hnew', hsame⟩ := load_fpga_writes_alike himage env m .idle []
  obtain ⟨asked, hasked, hheld⟩ := cmd_fpga_upload_held image .idle []
  have hasks : asked = new' := List.append_cancel_left (hasked.symm.trans hnew')
  obtain ⟨_, _, hexec, _⟩ := exec_motu424_load_fpga env m himage
  refine ⟨by rw [hexec, Machine.emit_ctx], new, hnew, ?_⟩
  rw [← hsame, ← hasks, hheld]

theorem zero_dsp_ram_boots (m : Machine) : Boots m zero_writes (motu424_zero_dsp_ram.exec env m) := by
  have hround (i : Nat) : reg_writes (zero_round_events m.ctx i) = [⟨0, BitVec.ofNat 32 (i * 4), 0⟩] := by
    rw [zero_round_events]
    split <;> rfl
  have hwrites : reg_writes (.log .info "Zeroing DSP RAM (64K words)\n" [] ::
      (List.range 0x10000).flatMap (zero_round_events m.ctx)) = zero_writes := by
    rw [reg_writes, List.filterMap_cons_none rfl, List.filterMap_flatMap, zero_writes, List.map_eq_flatMap]
    exact List.flatMap_congr fun i _ => hround i
  rw [exec_motu424_zero_dsp_ram, ← hwrites]
  exact Boots.emit m _

/-- Only accesses are writes. -/
theorem reg_writes_accesses (trace : List Event) : reg_writes (accesses trace) = reg_writes trace := by
  rw [reg_writes, accesses, List.filterMap_filter, reg_writes]
  refine List.filterMap_congr fun e _ => ?_
  cases e with
  | _ => rfl

/-- The writes of accesses that golden entries stand for. -/
theorem reg_writes_golden {c : motu424_ctx} {events : List Event} {calls : List (Nat × Nat)}
    (hevents : events.map some = calls.map fun call => entry_write c (engine_entry (generate_dsp.entry call))) :
    reg_writes events = calls.map (relocated c) := by
  have hcall : calls.map (fun call => entry_write c (engine_entry (generate_dsp.entry call))) =
      (calls.map (generate_dsp.replayed c)).map some := by
    rw [List.map_map]
    rfl
  have hreplayed := List.map_injective_iff.mpr (Option.some_injective _) (hevents.trans hcall)
  rw [hreplayed, reg_writes, List.filterMap_map, ← List.filterMap_eq_map]
  rfl

theorem golden_entries {calls : List (Nat × Nat)} (hwords : ∀ call ∈ calls, call.1 < 2 ^ 32 ∧ call.2 < 2 ^ 32) :
    ∀ entry ∈ calls.map generate_dsp.entry, IsGolden entry := by
  intro entry hentry
  obtain ⟨call, hcall, rfl⟩ := List.mem_map.mp hentry
  exact ⟨Nat.zero_le 2, hwords call hcall⟩

/-- The replay of a blob of golden calls. -/
theorem replay_boots (m : Machine) {calls : List (Nat × Nat)} (hne : calls ≠ [])
    (hwords : ∀ call ∈ calls, call.1 < 2 ^ 32 ∧ call.2 < 2 ^ 32) :
    ∃ blob, write_blob (calls.map generate_dsp.entry) = .ok blob ∧ 0 < fw_size (some blob) ∧
      (motu424_replay_sequence (some blob)).eval env m = 0 ∧
      Boots m (calls.map (relocated m.ctx)) ((motu424_replay_sequence (some blob)).exec env m) := by
  obtain ⟨blob, hblob, hok, new, hexec, hnew⟩ :=
    replay_golden_entries env m (by simpa using hne) (golden_entries hwords)
  rw [List.map_map] at hnew
  refine ⟨blob, hblob, ?_, hok, ?_⟩
  · apply Nat.pos_of_ne_zero
    intro hsize
    rw [motu424_replay_sequence, eval_bind, if_pos (.inr (.inl hsize))] at hok
    cases hok
  · have hboots := Boots.emit m new
    rwa [← reg_writes_accesses, reg_writes_golden hnew, ← hexec] at hboots

theorem dsp_kickstart_boots (m : Machine) : Boots m kickstart_writes (motu424_dsp_kickstart.exec env m) := by
  obtain ⟨boot, port1, port2, hexec⟩ : ∃ boot port1 port2, motu424_dsp_kickstart.exec env m = m.emit [
      .log .info "Kick-starting DSP\n" [], .write .port m.ctx.iobase_port.addr 0x0 0x0,
      .write .dsp m.ctx.iobase_dsp.addr 0x3fffc 0x0, .write .port m.ctx.iobase_port.addr 0x4 0x2, .msleep 500,
      .read .dsp m.ctx.iobase_dsp.addr 0x3fffc, .log .info "DSP boot vector: 0x%08x\n" [.u32 boot],
      .read .port m.ctx.iobase_port.addr 0x0, .log .info "Port 1 status: 0x%08x\n" [.u32 port1],
      .read .port m.ctx.iobase_port.addr 0x4, .log .info "Port 2 status: 0x%08x\n" [.u32 port2]] := by
    simp only [motu424_dsp_kickstart, exec_bind, exec_get_ctx, eval_get_ctx, exec_pal_log, exec_pal_write32,
      exec_pal_msleep, exec_pal_read32, Machine.emit_emit, List.cons_append, List.nil_append]
    exact ⟨_, _, _, rfl⟩
  rw [hexec]
  exact Boots.emit m _

/-- What follows the kick-start only adds to the trace. -/
theorem full_init_boot_boots (m : Machine) :
    ∃ rest new, (full_init_boot.exec env m).trace = m.trace ++ new ∧ reg_writes new = kickstart_writes ++ rest := by
  obtain ⟨hctx, kicked, hkicked, hwrites⟩ := dsp_kickstart_boots env m
  have hm : Bringup m.ctx m.trace m := ⟨.refl _, [], by simp⟩
  have hkick := WritesOnly.bringup env motu424_dsp_kickstart_writes hm
  generalize hm' : motu424_dsp_kickstart.exec env m = m' at hkicked hkick
  have hm'' : Bringup m.ctx m'.trace m' := ⟨hkick.1, [], by simp⟩
  have hloop := WritesOnly.bringup env motu424_post_init_port_loop_writes hm''
  obtain ⟨_, new, hnew, _⟩ := WritesOnly.bringup env motu424_hw_init_writes hloop
  refine ⟨reg_writes new, kicked ++ new, ?_, by rw [reg_writes_append, hwrites]⟩
  rw [exec_full_init_boot, hm', hnew, hkicked, List.append_assoc]

/-- The cold boot of the driver: the firmware image, the zeroed memory, the program and the
kick-start. -/
theorem full_init_cold_boot (m : Machine) {image : List U8} (himage : image ≠ []) {calls : List (Nat × Nat)}
    (hne : calls ≠ []) (hwords : ∀ call ∈ calls, call.1 < 2 ^ 32 ∧ call.2 < 2 ^ 32) :
    ∃ blob rest, write_blob (calls.map generate_dsp.entry) = .ok blob ∧
      reg_writes (((motu424_full_init (some image) (some blob)).exec env m).since m) =
        upload_writes (held_writes false (image_bits image)) ++ zero_writes ++ calls.map (relocated m.ctx) ++
          kickstart_writes ++ rest := by
  have hfw : 0 < fw_size (some image) := List.length_pos_iff.mpr himage
  have hload := load_fpga_boots env m himage
  have hloaded := eval_motu424_load_fpga env m hfw
  generalize hm₁ : (motu424_load_fpga (some image)).exec env m = m₁ at hload
  have hzero := zero_dsp_ram_boots env m₁
  generalize hm₂ : motu424_zero_dsp_ram.exec env m₁ = m₂ at hzero
  obtain ⟨blob, hblob, hsize, hok, hreplay⟩ := replay_boots env m₂ hne hwords
  generalize hm₃ : (motu424_replay_sequence (some blob)).exec env m₂ = m₃ at hreplay
  obtain ⟨rest, new, hnew, hrest⟩ := full_init_boot_boots env m₃
  obtain ⟨_, before, hbefore, hwrites⟩ := (hload.trans hzero).trans hreplay
  have hexec : (motu424_full_init (some image) (some blob)).exec env m = full_init_boot.exec env m₃ := by
    rw [motu424_full_init, if_pos hfw, exec_bind, hloaded, if_neg (by decide), hm₁, full_init_dsp, exec_bind, hm₂,
      if_pos hsize, exec_bind, hok, if_neg (by decide), hm₃]
  have htrace : ((motu424_full_init (some image) (some blob)).exec env m).trace = m.trace ++ (before ++ new) := by
    rw [hexec, hnew, hbefore, List.append_assoc]
  refine ⟨blob, rest, hblob, ?_⟩
  rw [since_of_trace htrace, reg_writes_append, hwrites, hrest, hzero.1, hload.1]
  simp only [List.append_assoc]

end driver

end motu424.replay
