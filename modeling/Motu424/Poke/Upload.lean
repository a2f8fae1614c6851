import Motu424.Poke.Writes
import Motu424.Fpga.Upload

open Program Serial

namespace motu424.poke

/-- The write goes to the FPGA control register. -/
def RegWrite.OnCtrl (w : RegWrite) : Prop := w.bar = 1 ∧ w.offset = 0x300008

instance (w : RegWrite) : Decidable w.OnCtrl := inferInstanceAs (Decidable (_ ∧ _))

/-- The levels of the serial line that a write sets. -/
def RegWrite.line (w : RegWrite) : Option Line := if w.OnCtrl then some (line_of w.value) else none

/-- The levels of the line in a list of writes, write by write. -/
def ctrl_lines (writes : List RegWrite) : List Line := writes.filterMap RegWrite.line

/-- What puts the FPGA into configuration mode, with the line low. -/
def preamble_writes : List RegWrite :=
  [⟨2, 0x4, 0x1⟩, ⟨1, 0x300000, 0xE0⟩, ⟨1, 0x300004, 0xE0⟩, ⟨1, 0x300008, 0x00⟩]

/-- What ends the configuration. -/
def finalisation_writes : List RegWrite := [⟨1, 0x300004, 0xC0⟩, ⟨2, 0x8, 0x0⟩]

@[simp] theorem ctrl_lines_append (xs ys : List RegWrite) :
    ctrl_lines (xs ++ ys) = ctrl_lines xs ++ ctrl_lines ys :=
  List.filterMap_append

theorem fpga_ctrl_line (e : Event) : e.fpga_ctrl.map line_of = (reg_write e).bind RegWrite.line := by
  cases e with
  | write bar base offset value =>
    cases bar with
    | dsp => rfl
    | port => rfl
    | reg =>
      change (if offset = MOTU_REG_FPGA_CTRL then some value else none).map line_of =
        if (⟨1, offset, value⟩ : RegWrite).OnCtrl then some (line_of value) else none
      by_cases hctrl : offset = MOTU_REG_FPGA_CTRL
      · rw [if_pos hctrl, if_pos ⟨rfl, hctrl⟩, Option.map_some]
      · rw [if_neg hctrl, if_neg fun h => hctrl h.2, Option.map_none]
  | _ => rfl

/-- The lines of a trace are those of its writes. -/
theorem fpga_lines_eq (trace : List Event) : fpga_lines trace = ctrl_lines (reg_writes trace) := by
  rw [fpga_lines, ctrl_lines, reg_writes, List.map_filterMap, List.filterMap_filterMap]
  exact congrArg (fun f => trace.filterMap f) (funext fpga_ctrl_line)

theorem load_fpga_bits_same (ctx : motu424_ctx) (byte : U8) (bits : List Nat) (val_prev : U32) :
    SameWrites (load_fpga_bits ctx byte bits val_prev) (upload_bits byte bits val_prev) := by
  induction bits generalizing val_prev with
  | nil => exact SameWrites.pure val_prev
  | cons bit bits ih =>
    refine SameWrites.bind (SameWrites.write _ _ _) fun _ => ?_
    refine SameWrites.bind (SameWrites.write _ _ _) fun _ => ?_
    exact SameWrites.bind (SameWrites.write _ _ _) fun _ => ih _

/-- The driver yields now and then, which writes nothing. -/
theorem load_fpga_bytes_same (ctx : motu424_ctx) (i : Nat) (bytes : List U8) (val_prev : U32) :
    SameWrites (load_fpga_bytes ctx i bytes val_prev) (upload_bytes bytes val_prev) := by
  constructor
  · exact fun _ _ _ _ => rfl
  · induction bytes generalizing i val_prev with
    | nil => exact (SameWrites.pure ()).writes
    | cons byte bytes ih =>
      refine WritesAlike.bind (load_fpga_bits_same ctx byte (List.range 8) val_prev) fun val => ?_
      exact WritesAlike.quiet_left (Quiet.perform rfl).when fun _ => ih (i + 1) val

/-- Past the test for an image, the driver writes what poke writes. -/
theorem load_fpga_writes_alike {image : List U8} (himage : image ≠ []) :
    WritesAlike (motu424_load_fpga (some image)) (cmd_fpga_upload image) := by
  have hsize : ¬ fw_size (some image) = 0 := by simpa [fw_size] using himage
  refine WritesAlike.quiet_left Quiet.get_ctx fun ctx => ?_
  rw [if_neg hsize]
  refine WritesAlike.quiet_left (Quiet.perform rfl) fun _ => WritesAlike.quiet_right (Asks.printf _ _) ?_
  refine fun _ => WritesAlike.bind (SameWrites.write _ _ _) fun _ => ?_
  refine WritesAlike.bind (SameWrites.write _ _ _) fun _ => ?_
  refine WritesAlike.bind (SameWrites.write _ _ _) fun _ => ?_
  refine WritesAlike.bind (SameWrites.write _ _ _) fun _ => ?_
  refine WritesAlike.bind (load_fpga_bytes_same ctx 0 image FPGA_BASE_VAL) fun _ => ?_
  refine WritesAlike.bind (SameWrites.write _ _ _) fun _ => ?_
  refine WritesAlike.bind (SameWrites.write _ _ _) fun _ => ?_
  -- the driver reads the status and logs, the tool prints
  refine WritesAlike.quiet (Quiet.bind (Quiet.read _ _) fun status => ?_) (Asks.printf _ _)
  refine Quiet.bind (Quiet.perform rfl) fun _ => Quiet.bind (Quiet.perform rfl).when fun _ => ?_
  exact Quiet.bind (Quiet.perform rfl) fun _ => Quiet.pure 0

/-- Writes of the control register only. -/
def OnlyCtrl (writes : List RegWrite) : Prop := ∀ w ∈ writes, w.OnCtrl

/-- Writes of the control register with these levels. -/
structure Drives (lines : List Line) (writes : List RegWrite) : Prop where
  lines : ctrl_lines writes = lines
  only : OnlyCtrl writes

theorem Drives.nil : Drives [] [] := ⟨rfl, by simp [OnlyCtrl]⟩

theorem Drives.append {xs ys : List Line} {first rest : List RegWrite} (hfirst : Drives xs first)
    (hrest : Drives ys rest) : Drives (xs ++ ys) (first ++ rest) where
  lines := by rw [ctrl_lines_append, hfirst.lines, hrest.lines]
  only := List.forall_mem_append.mpr ⟨hfirst.only, hrest.only⟩

theorem upload_bits_asks (byte : U8) (bits : List Nat) (val_prev : U32) :
    Asks OnlyCtrl (upload_bits byte bits val_prev) := by
  induction bits generalizing val_prev with
  | nil => exact Asks.pure val_prev (by simp [OnlyCtrl])
  | cons bit bits ih =>
    have hcons (value : U32) (ys : List RegWrite) (hys : OnlyCtrl ys) :
        OnlyCtrl (⟨1, 0x300008, value⟩ :: ys) := List.forall_mem_cons.mpr ⟨⟨rfl, rfl⟩, hys⟩
    refine (Asks.write_reg _ _ _).write_then (fun _ => ?_) (hcons _)
    refine (Asks.write_reg _ _ _).write_then (fun _ => ?_) (hcons _)
    exact (Asks.write_reg _ _ _).write_then (fun _ => ih _) (hcons _)

theorem upload_bytes_asks (bytes : List U8) (val_prev : U32) : Asks OnlyCtrl (upload_bytes bytes val_prev) := by
  induction bytes generalizing val_prev with
  | nil => exact Asks.pure () (by simp [OnlyCtrl])
  | cons byte bytes ih =>
    refine (upload_bits_asks byte (List.range 8) val_prev).bind (fun val => ih val) fun xs ys hxs hys => ?_
    exact List.forall_mem_append.mpr ⟨hxs, hys⟩

theorem line_of_low (bit : Bool) : line_of (0x40 ||| if bit then 0x20 else 0x00) = ⟨false, bit⟩ := by
  cases bit <;> decide

theorem line_of_high (bit : Bool) : line_of (0xC0 ||| if bit then 0x20 else 0x00) = ⟨true, bit⟩ := by
  cases bit <;> decide

theorem ctrl_write_drives {value : U32} {line : Line} (hline : line_of value = line) :
    Asks (Drives [line]) (fix_bitbang.write_reg 1 0x300008 value) := by
  subst hline
  exact fun _ _ => ⟨_, rfl, rfl, List.forall_mem_singleton.mpr ⟨rfl, rfl⟩⟩

theorem pulse_bit_drives (byte : U8) {bit : Nat} (hbit : bit < 8) :
    Asks (Drives (pulses [byte.getLsbD bit])) (fix_bitbang.pulse_bit byte bit) := by
  have hdata : (if byte &&& (1 <<< bit) ≠ 0 then 0x20 else 0x00 : U32) =
      if byte.getLsbD bit then 0x20 else 0x00 := by
    simp only [and_shiftLeft_ne_zero_iff byte hbit]
  have hlow := line_of_low (byte.getLsbD bit)
  have hhigh := line_of_high (byte.getLsbD bit)
  rw [← hdata] at hlow hhigh
  have hclock := (ctrl_write_drives hhigh).bind (fun _ => ctrl_write_drives hlow) fun _ _ => Drives.append
  exact (ctrl_write_drives hlow).bind (fun _ => hclock) fun _ _ => Drives.append

theorem forEach_drives {ι : Type} {body : ι → Tool Unit} {lines : ι → List Line} {is : List ι}
    (hbody : ∀ i ∈ is, Asks (Drives (lines i)) (body i)) :
    Asks (Drives (is.flatMap lines)) (forEach is body) := by
  induction is with
  | nil => exact Asks.pure () Drives.nil
  | cons i is ih =>
    have hrest := ih fun j hj => hbody j (by simp [hj])
    exact (hbody i (by simp)).bind (fun _ => hrest) fun _ _ => Drives.append

theorem byte_drives (byte : U8) :
    Asks (Drives (pulses (byte_bits byte))) (forEach (List.range 8) (fix_bitbang.pulse_bit byte)) := by
  have hbits : pulses (byte_bits byte) = (List.range 8).flatMap fun bit => pulses [byte.getLsbD bit] := by
    simp only [pulses, byte_bits, List.flatMap_map, List.flatMap_cons, List.flatMap_nil, List.append_nil]
  rw [hbits]
  exact forEach_drives fun bit hbit => pulse_bit_drives byte (List.mem_range.mp hbit)

/-- The main loop pulses the bits of the image; its lines of text write nothing. -/
theorem main_loop_drives (fw_size i : Nat) (bytes : List U8) :
    Asks (Drives (pulses (image_bits bytes))) (fix_bitbang.main_loop fw_size i bytes) := by
  induction bytes generalizing i with
  | nil => exact Asks.pure () Drives.nil
  | cons byte bytes ih =>
    have htext : QuietTool (when (i % 1000 = 0)
        (printf "\rProgress: %zu/%zu" [.int i, .int fw_size])) := by
      unfold Program.when
      split
      · exact Asks.printf _ _
      · exact Asks.pure () rfl
    rw [image_bits, List.flatMap_cons, pulses_append]
    have hrest := Asks.quiet_then htext fun _ => ih (i + 1)
    exact (byte_drives byte).bind (fun _ => hrest) fun _ _ => Drives.append

/-- Writes with a property between a preamble and a finalisation. -/
def Bracketed (preamble finalisation : List RegWrite) (P : List RegWrite → Prop)
    (writes : List RegWrite) : Prop :=
  ∃ mid, writes = preamble ++ mid ++ finalisation ∧ P mid

/-- One more write in front of the preamble. -/
theorem Asks.bracket {α β : Type} {w : RegWrite} {preamble finalisation : List RegWrite}
    {P : List RegWrite → Prop} {q : Tool α} {g : α → Tool β} (hq : Asks (· = [w]) q)
    (hg : ∀ a, Asks (Bracketed preamble finalisation P) (g a)) :
    Asks (Bracketed (w :: preamble) finalisation P) (q >>= g) := by
  refine hq.write_then hg ?_
  rintro _ ⟨mid, rfl, hmid⟩
  exact ⟨mid, rfl, hmid⟩

/-- The shape that both tools give to an upload around their own loop. -/
theorem bracketed_asks {write : Int → U32 → U32 → Tool Unit}
    (hwrite : ∀ bar offset value, Asks (· = [⟨bar, offset, value⟩]) (write bar offset value))
    {P : List RegWrite → Prop} {loop : Tool Unit} (hloop : Asks P loop) {first last : Tool Unit}
    (hfirst : QuietTool first) (hlast : QuietTool last) :
    Asks (Bracketed preamble_writes finalisation_writes P) (do
      first
      write 2 0x4 0x1
      write 1 0x300000 0xE0
      write 1 0x300004 0xE0
      write 1 0x300008 0x00
      loop
      write 1 0x300004 0xC0
      write 2 0x8 0x0
      last) := by
  have hstop : Asks (· = [⟨2, 0x8, 0x0⟩]) (do write 2 0x8 0x0; last) := by
    refine (hwrite 2 0x8 0x0).write_then (fun _ => hlast) ?_
    rintro _ rfl
    rfl
  have hend : Asks (· = finalisation_writes) (do write 1 0x300004 0xC0; write 2 0x8 0x0; last) := by
    refine (hwrite 1 0x300004 0xC0).write_then (fun _ => hstop) ?_
    rintro _ rfl
    rfl
  have hbody : Asks (Bracketed [] finalisation_writes P)
      (do loop; write 1 0x300004 0xC0; write 2 0x8 0x0; last) := by
    refine hloop.bind (fun _ => hend) ?_
    rintro mid _ hmid rfl
    exact ⟨mid, rfl, hmid⟩
  refine Asks.quiet_then hfirst fun _ => ?_
  refine (hwrite 2 0x4 0x1).bracket fun _ => ?_
  refine (hwrite 1 0x300000 0xE0).bracket fun _ => ?_
  refine (hwrite 1 0x300004 0xE0).bracket fun _ => ?_
  exact (hwrite 1 0x300008 0x00).bracket fun _ => hbody

theorem cmd_fpga_upload_asks (image : List U8) :
    Asks (Bracketed preamble_writes finalisation_writes OnlyCtrl) (cmd_fpga_upload image) :=
  bracketed_asks Asks.write_reg (upload_bytes_asks image 0x40) (Asks.printf _ _) (Asks.printf _ _)

theorem fix_bitbang_upload_asks (image : List U8) :
    Asks (Bracketed preamble_writes finalisation_writes (Drives (pulses (image_bits image))))
      (fix_bitbang.upload image) :=
  bracketed_asks Asks.fix_bitbang_write_reg (main_loop_drives image.length 0 image) (Asks.printf _ _)
    (Asks.printf _ _)

/-- The bits that a receiver on the line takes from the writes. -/
def received (writes : List RegWrite) : List Bool := sampled (ctrl_lines writes)

/-- The driver and the two tools upload the same configuration: the first two with
the same writes, the third with the same bits between the same first and last
writes. -/
structure UploadersAgree (driver poke bitbang : List RegWrite) : Prop where
  poke_writes : poke = driver
  bits : received bitbang = received driver
  driver_bracketed : Bracketed preamble_writes finalisation_writes OnlyCtrl driver
  bitbang_bracketed : Bracketed preamble_writes finalisation_writes OnlyCtrl bitbang

/-- The line is low before the first pulse. -/
theorem received_pulses {bits : List Bool} {writes : List RegWrite}
    (h : Bracketed preamble_writes finalisation_writes (Drives (pulses bits)) writes) :
    received writes = bits := by
  obtain ⟨mid, rfl, hmid⟩ := h
  have hpreamble : ctrl_lines preamble_writes = [⟨false, false⟩] := by decide
  have hfinalisation : ctrl_lines finalisation_writes = [] := by decide
  rw [received, ctrl_lines_append, ctrl_lines_append, hpreamble, hfinalisation, hmid.lines,
    List.append_nil]
  exact sampled_pulses ⟨false, false⟩ bits

/-- Every image is uploaded alike, in every state of the driver, whatever the reads
of the driver and the requests of the tools answer. -/
theorem uploaders_agree (env : Env) (m : Machine) (poke_env bitbang_env : ToolEnv) {image : List U8}
    (himage : image ≠ []) :
    UploadersAgree (reg_writes (((motu424_load_fpga (some image)).exec env m).since m))
      (tool_writes ((cmd_fpga_upload image).exec poke_env []))
      (tool_writes ((fix_bitbang.upload image).exec bitbang_env [])) := by
  obtain ⟨new, new', hnew, hnew', hsame⟩ := load_fpga_writes_alike himage env m poke_env []
  obtain ⟨asked, hasked, hpoke⟩ := cmd_fpga_upload_asks image poke_env []
  obtain ⟨driven, hdriven, hbitbang⟩ := fix_bitbang_upload_asks image bitbang_env []
  have hpoke_new : asked = new' := List.append_cancel_left (hasked.symm.trans hnew')
  have hdelivers := (motu424_load_fpga_delivers env m image himage).sampled
  rw [since_of_trace hnew] at hdelivers ⊢
  rw [hasked, hdriven, List.nil_append, List.nil_append]
  subst hpoke_new
  refine ⟨hsame, ?_, by rwa [← hsame], ?_⟩
  · rw [received_pulses hbitbang, received, ← fpga_lines_eq, hdelivers]
  · obtain ⟨mid, hmid, hdrives⟩ := hbitbang
    exact ⟨mid, hmid, hdrives.only⟩

/-- An image of two bytes, with idle outsides. -/
theorem two_bytes_uploaders_agree :
    UploadersAgree
      (reg_writes (((motu424_load_fpga (some [0xA5, 0x3C])).exec .idle ⟨mapped_ctx, []⟩).since ⟨mapped_ctx, []⟩))
      (tool_writes ((cmd_fpga_upload [0xA5, 0x3C]).exec .idle []))
      (tool_writes ((fix_bitbang.upload [0xA5, 0x3C]).exec .idle [])) :=
  uploaders_agree .idle ⟨mapped_ctx, []⟩ .idle .idle (by decide)

end motu424.poke
