import Motu424.Fpga
import Motu424.Pal.Trace
import Motu424.Foundation.Serial

open Program Serial

namespace motu424

/-- The value that an event writes to the FPGA control register. -/
def Event.fpga_ctrl : Event → Option U32
  | .write .reg _ offset value => if offset = MOTU_REG_FPGA_CTRL then some value else none
  | _ => none

/-- The levels in a value: bit 7 is the clock and bit 5 the data. -/
def line_of (value : U32) : Line := ⟨value.getLsbD 7, value.getLsbD 5⟩

/-- The levels of the line in a trace, write by write. -/
def fpga_lines (trace : List Event) : List Line := (trace.filterMap Event.fpga_ctrl).map line_of

/-- The bits of a byte, least significant first. -/
def byte_bits (byte : U8) : List Bool := (List.range 8).map byte.getLsbD

/-- The bits of a firmware image in the order of the wire. -/
def image_bits (image : List U8) : List Bool := image.flatMap byte_bits

/-- The value with the clock low that carries a bit. -/
def fpga_value (bit : Bool) : U32 := FPGA_BASE_VAL ||| if bit then FPGA_DATA_BIT else 0

/-- What puts the FPGA into configuration mode. -/
def fpga_preamble (c : motu424_ctx) : List Event :=
  [.write .port c.iobase_port.addr 0x4 0x1, .write .reg c.iobase_reg.addr 0x300000 0xE0,
    .write .reg c.iobase_reg.addr 0x300004 0xE0]

/-- What ends the configuration. -/
def fpga_finalisation (c : motu424_ctx) : List Event :=
  [.write .reg c.iobase_reg.addr 0x300004 0xC0, .write .port c.iobase_port.addr 0x8 0x0]

/-- A trace delivers an image over the serial line, and drives the line only in
configuration mode. -/
structure Delivers (c : motu424_ctx) (image : List U8) (trace : List Event) : Prop where
  sampled : sampled (fpga_lines trace) = image_bits image
  edges : (edges (fpga_lines trace)).length = 8 * image.length
  set_up : SetUp (fpga_lines trace)
  steady : Steady (fpga_lines trace)
  bracketed : ∃ pre mid post,
    trace = pre ++ fpga_preamble c ++ mid ++ fpga_finalisation c ++ post ∧
    fpga_lines pre = [] ∧ fpga_lines post = []

section lines

variable (xs ys : List Event)

@[simp] theorem fpga_lines_append : fpga_lines (xs ++ ys) = fpga_lines xs ++ fpga_lines ys := by
  rw [fpga_lines, List.filterMap_append, List.map_append, fpga_lines, fpga_lines]

theorem fpga_lines_ctrl (base : Option Nat) (value : U32) :
    fpga_lines (.write .reg base MOTU_REG_FPGA_CTRL value :: xs) = line_of value :: fpga_lines xs := by
  simp [fpga_lines, Event.fpga_ctrl]

theorem line_of_fpga_value (bit : Bool) : line_of (fpga_value bit) = ⟨false, bit⟩ := by
  cases bit <;> decide

theorem line_of_clock (bit : Bool) : line_of (fpga_value bit ||| FPGA_CLK_BIT) = ⟨true, bit⟩ := by
  cases bit <;> decide

end lines

theorem length_image_bits (image : List U8) : (image_bits image).length = 8 * image.length := by
  induction image with
  | nil => rfl
  | cons byte image ih =>
    rw [image_bits, List.flatMap_cons, List.length_append, ← image_bits, ih, byte_bits, List.length_map,
      List.length_range, List.length_cons]
    omega

/-- The bit test of the loop. -/
theorem and_shiftLeft_ne_zero_iff (byte : U8) {bit : Nat} (hbit : bit < 8) :
    byte &&& (1 <<< bit) ≠ 0 ↔ byte.getLsbD bit = true := by
  have hmask : ((1 <<< bit : Nat) : U8) = BitVec.twoPow 8 bit := by
    apply BitVec.eq_of_toNat_eq
    simp [BitVec.toNat_twoPow, Nat.one_shiftLeft]
  have hpow : BitVec.twoPow 8 bit ≠ 0#8 := by
    intro hzero
    have htop := congrArg (BitVec.getLsbD · bit) hzero
    simp [hbit] at htop
  rw [hmask, BitVec.and_twoPow]
  split
  · next hset => exact iff_of_true hpow hset
  · next hclear => exact iff_of_false (by simp) hclear

section exec

variable (env : Env) (ctx : motu424_ctx)

/-- The inner loop uploads the listed bits and returns the value of the last one. -/
theorem load_fpga_bits_upload (byte : U8) {bits : List Nat} (hbits : ∀ bit ∈ bits, bit < 8) (prev : Bool)
    (m : Machine) :
    (load_fpga_bits ctx byte bits (fpga_value prev)).eval env m =
      fpga_value ((bits.map byte.getLsbD).getLastD prev) ∧
    ∃ new, (load_fpga_bits ctx byte bits (fpga_value prev)).exec env m = m.emit new ∧
      fpga_lines new = upload prev (bits.map byte.getLsbD) := by
  induction bits generalizing prev m with
  | nil => exact ⟨rfl, [], by simp [load_fpga_bits], rfl⟩
  | cons bit bits ih =>
    have hval : FPGA_BASE_VAL ||| (if byte &&& (1 <<< bit) ≠ 0 then FPGA_DATA_BIT else 0) =
        fpga_value (byte.getLsbD bit) := by
      simp only [and_shiftLeft_ne_zero_iff byte (hbits bit (by simp)), fpga_value]
    obtain ⟨heval, new, hexec, hlines⟩ := ih (fun b hb => hbits b (by simp [hb])) (byte.getLsbD bit)
      (m.emit [.write .reg ctx.iobase_reg.addr MOTU_REG_FPGA_CTRL (fpga_value prev),
        .write .reg ctx.iobase_reg.addr MOTU_REG_FPGA_CTRL (fpga_value (byte.getLsbD bit)),
        .write .reg ctx.iobase_reg.addr MOTU_REG_FPGA_CTRL
          (fpga_value (byte.getLsbD bit) ||| FPGA_CLK_BIT)])
    rw [load_fpga_bits, hval]
    simp only [eval_bind, exec_bind, exec_pal_write32, Machine.emit_emit, List.cons_append,
      List.nil_append, List.map_cons, List.getLastD_cons]
    refine ⟨heval, _, hexec.trans (Machine.emit_emit ..), ?_⟩
    rw [List.cons_append, List.cons_append, List.singleton_append, fpga_lines_ctrl, fpga_lines_ctrl,
      fpga_lines_ctrl, hlines, line_of_fpga_value, line_of_fpga_value, line_of_clock, upload]

/-- The outer loop uploads the bytes one after another. -/
theorem load_fpga_bytes_upload (i : Nat) (bytes : List U8) (prev : Bool) (m : Machine) :
    ∃ new, (load_fpga_bytes ctx i bytes (fpga_value prev)).exec env m = m.emit new ∧
      fpga_lines new = upload prev (image_bits bytes) := by
  induction bytes generalizing i prev m with
  | nil => exact ⟨[], by simp [load_fpga_bytes], rfl⟩
  | cons byte bytes ih =>
    obtain ⟨heval, first, hfirst, hlines⟩ := load_fpga_bits_upload env ctx byte
      (fun _ hbit => List.mem_range.mp hbit) prev m
    obtain ⟨rest, hrest, hmore⟩ := ih (i + 1) ((byte_bits byte).getLastD prev)
      ((m.emit first).emit (if i &&& 0x3FFF = 0 then [.resched] else []))
    have hyield : fpga_lines (if i &&& 0x3FFF = 0 then [.resched] else []) = [] := by
      split <;> rfl
    refine ⟨first ++ (if i &&& 0x3FFF = 0 then [.resched] else []) ++ rest, ?_, ?_⟩
    · rw [load_fpga_bytes, exec_bind, exec_bind, heval, hfirst,
        exec_when_emit env _ (exec_pal_cond_resched env _)]
      exact hrest.trans (by rw [Machine.emit_emit, Machine.emit_emit, List.append_assoc])
    · rw [fpga_lines_append, fpga_lines_append, hyield, hlines, hmore, List.append_nil, ← byte_bits,
        ← upload_append]
      rfl

/-- What is logged and read after the upload, which does not touch the line. -/
def fpga_status_events (c : motu424_ctx) (size : Nat) (status : U32) : List Event :=
  [.read .port c.iobase_port.addr 0x00, .log .info "FPGA status after load: 0x%08x\n" [.u32 status]] ++
  (if status &&& MOTU_PORT_LOCK_STATUS ≠ MOTU_PORT_LOCK_STATUS then
    [.log .warn "FPGA may not be fully configured (status=0x%08x, expected 0x%02x)\n"
      [.u32 status, .u32 MOTU_PORT_LOCK_STATUS]] else []) ++
  [.log .info "FPGA bitstream loaded (%zu bytes)\n" [.int size]]

theorem fpga_lines_status_events (c : motu424_ctx) (size : Nat) (status : U32) :
    fpga_lines (fpga_status_events c size status) = [] := by
  rw [fpga_status_events, fpga_lines_append, fpga_lines_append]
  split <;> rfl

/-- What precedes the upload. -/
def fpga_start (c : motu424_ctx) (size : Nat) : List Event :=
  .log .info "Loading FPGA bitstream (%zu bytes)\n" [.int size] ::
    (fpga_preamble c ++ [.write .reg c.iobase_reg.addr MOTU_REG_FPGA_CTRL 0x00])

/-- The whole load: the upload starts from a low line, between the preamble and the
finalisation. -/
theorem exec_motu424_load_fpga (m : Machine) {image : List U8} (himage : image ≠ []) :
    ∃ new status, (motu424_load_fpga (some image)).exec env m =
        m.emit (fpga_start m.ctx image.length ++ new ++ fpga_finalisation m.ctx ++
          fpga_status_events m.ctx image.length status) ∧
      fpga_lines new = upload false (image_bits image) := by
  have hsize : ¬ fw_size (some image) = 0 := by simpa [fw_size] using himage
  have hbase : FPGA_BASE_VAL = fpga_value false := by decide
  obtain ⟨new, hexec, hlines⟩ := load_fpga_bytes_upload env m.ctx 0 image false
    (m.emit (fpga_start m.ctx image.length))
  refine ⟨new, env.read32 (m.trace ++ (fpga_start m.ctx image.length ++ new ++
    fpga_finalisation m.ctx)) .port 0, ?_, hlines⟩
  rw [motu424_load_fpga, exec_bind, eval_get_ctx, exec_get_ctx, if_neg hsize, hbase]
  simp only [fpga_start, fpga_preamble, fpga_finalisation, fpga_status_events, List.cons_append,
    List.nil_append, List.append_assoc] at hexec ⊢
  simp only [exec_bind, exec_pal_log, exec_pal_write32, fw_size, Option.getD_some, exec_pal_read32,
    eval_pal_read32, exec_pure, exec_when_emit env _ (exec_pal_log env _ _ _ _), Machine.emit_emit,
    List.cons_append, List.nil_append, hexec, Machine.emit_trace, List.append_assoc]
  rfl

/-- The load delivers every non-empty image. -/
theorem motu424_load_fpga_delivers (m : Machine) (image : List U8) (himage : image ≠ []) :
    Delivers m.ctx image (((motu424_load_fpga (some image)).exec env m).since m) := by
  obtain ⟨new, status, hexec, hnew⟩ := exec_motu424_load_fpga env m himage
  rw [hexec, since_emit]
  have hlines : fpga_lines (fpga_start m.ctx image.length ++ new ++ fpga_finalisation m.ctx ++
      fpga_status_events m.ctx image.length status) =
        ⟨false, false⟩ :: upload false (image_bits image) := by
    rw [fpga_lines_append, fpga_lines_append, fpga_lines_append, hnew, fpga_lines_status_events,
      List.append_nil]
    exact List.append_nil _
  constructor
  · rw [hlines, sampled_upload ⟨false, false⟩]
  · rw [hlines, edges_upload ⟨false, false⟩, List.length_map, length_image_bits]
  · rw [hlines]
    exact setUp_upload ⟨false, false⟩ _
  · rw [hlines]
    exact steady_upload ⟨false, false⟩ _
  · refine ⟨[.log .info "Loading FPGA bitstream (%zu bytes)\n" [.int image.length]],
      .write .reg m.ctx.iobase_reg.addr MOTU_REG_FPGA_CTRL 0x00 :: new, _, ?_, rfl,
      fpga_lines_status_events m.ctx image.length status⟩
    simp [fpga_start]

end exec

/-- An image of two bytes. -/
theorem two_bytes_delivered :
    Delivers mapped_ctx [0xA5, 0x3C] (((motu424_load_fpga (some [0xA5, 0x3C])).exec .idle
      ⟨mapped_ctx, []⟩).since ⟨mapped_ctx, []⟩) :=
  motu424_load_fpga_delivers .idle ⟨mapped_ctx, []⟩ [0xA5, 0x3C] (by decide)

end motu424
