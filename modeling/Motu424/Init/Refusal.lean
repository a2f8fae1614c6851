import Motu424.Init.Mapped

open Program

namespace motu424

/-- The writes of the zeroing: every word of the DSP memory once, in order. -/
def zeroing (c : motu424_ctx) : List Event :=
  (List.range 0x10000).map fun i => .write .dsp c.iobase_dsp.addr (BitVec.ofNat 32 (i * 4)) 0

theorem accesses_zero_round (c : motu424_ctx) (i : Nat) :
    accesses (zero_round_events c i) = [.write .dsp c.iobase_dsp.addr (BitVec.ofNat 32 (i * 4)) 0] := by
  unfold zero_round_events accesses
  split <;> rfl

theorem accesses_zero_rounds (c : motu424_ctx) (is : List Nat) :
    accesses (is.flatMap (zero_round_events c)) =
      is.map fun i => .write .dsp c.iobase_dsp.addr (BitVec.ofNat 32 (i * 4)) 0 := by
  induction is with
  | nil => rfl
  | cons i is ih =>
    rw [List.flatMap_cons, accesses_append, accesses_zero_round, ih, List.map_cons, List.singleton_append]

section refusal

variable (env : Env) (m : Machine) {fpga_fw init_seq : Option (List U8)}

/-- All that an initialisation does that stops at its init sequence. -/
theorem exec_full_init_stops_early (hstops : StopsEarly fpga_fw init_seq) :
    (motu424_full_init fpga_fw init_seq).exec env m = m.emit
      (.log .info "No FPGA firmware — assuming warm boot\n" [] ::
        .log .info "Zeroing DSP RAM (64K words)\n" [] ::
        (List.range 0x10000).flatMap (zero_round_events m.ctx) ++ bad_blob_events init_seq) := by
  obtain ⟨hsize, hbad⟩ := hstops
  rw [motu424_full_init, if_neg (by omega), exec_bind, exec_pal_log, (full_init_dsp_bad_blob env _ hbad).2,
    exec_motu424_zero_dsp_ram, Machine.emit_emit, Machine.emit_emit, Machine.emit_ctx]
  rfl

/-- The first word of the DSP memory is written before the refusal. -/
theorem full_init_stops_early_writes (hstops : StopsEarly fpga_fw init_seq) :
    ¬ WritesNothing (((motu424_full_init fpga_fw init_seq).exec env m).since m) := by
  intro hnothing
  apply hnothing .dsp m.ctx.iobase_dsp.addr 0 0
  rw [exec_full_init_stops_early env m hstops, since_emit]
  apply List.mem_append_left
  apply List.mem_cons_of_mem
  apply List.mem_cons_of_mem
  exact List.mem_flatMap.mpr ⟨0, List.mem_range.mpr (by omega), List.mem_cons_self⟩

/-- Without an FPGA image a bad init sequence is refused after the zeroing of
the DSP memory, which is all that has reached the registers by then. -/
theorem full_init_refuses (hsize : fw_size fpga_fw = 0) (hbad : BadBlob init_seq) :
    (motu424_full_init fpga_fw init_seq).eval env m = -1 ∧
      accesses (((motu424_full_init fpga_fw init_seq).exec env m).since m) = zeroing m.ctx := by
  have heval := eval_motu424_full_init env m fpga_fw init_seq
  rw [if_pos hbad] at heval
  refine ⟨heval, ?_⟩
  rw [exec_full_init_stops_early env m ⟨hsize, hbad⟩, since_emit]
  have hlogs : accesses (bad_blob_events init_seq) = [] := rfl
  have hrounds := accesses_zero_rounds m.ctx (List.range 0x10000)
  rw [List.cons_append, List.cons_append, accesses, List.filter_cons_of_neg (by decide),
    List.filter_cons_of_neg (by decide)]
  change accesses (_ ++ _) = _
  rw [accesses_append, hlogs, List.append_nil, hrounds, zeroing]

end refusal

/-- One byte is no init sequence. -/
theorem full_init_refuses_one_byte :
    (motu424_full_init none (some [0])).eval .idle ⟨mapped_ctx, []⟩ = -1 ∧
      accesses (((motu424_full_init none (some [0])).exec .idle ⟨mapped_ctx, []⟩).since ⟨mapped_ctx, []⟩) =
        zeroing mapped_ctx :=
  full_init_refuses .idle ⟨mapped_ctx, []⟩ (by decide) (by decide)

/-- It is refused, but not before the card was written to. -/
theorem one_byte_init_writes :
    BadBlob (some [0]) ∧ (motu424_full_init none (some [0])).eval .idle ⟨mapped_ctx, []⟩ = -1 ∧
      ¬ WritesNothing
        (((motu424_full_init none (some [0])).exec .idle ⟨mapped_ctx, []⟩).since ⟨mapped_ctx, []⟩) := by
  have hbad : BadBlob (some [0]) := by decide
  have heval := eval_motu424_full_init .idle ⟨mapped_ctx, []⟩ none (some [0])
  rw [if_pos hbad] at heval
  exact ⟨hbad, heval, full_init_stops_early_writes .idle ⟨mapped_ctx, []⟩ ⟨rfl, hbad⟩⟩

end motu424
