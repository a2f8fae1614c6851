import Motu424.Init.Replay
import Motu424.Wdf.Grounded
import Motu424.Wdf.TestTool

open Program Run ByteMemory

namespace motu424.wdf

/-- A line that tells of a failure. -/
def TestEvent.Fails : TestEvent → Prop
  | .printf fmt _ => fmt = "FAIL\n" ∨ fmt = "FAIL (dma_running=%u)\n" ∨ fmt = "FAILED: %d test(s) failed\n" ∨
    fmt = "ERROR: IOCTL 0x%lx failed (error=%lu)\n" ∨ fmt = "ERROR: Cannot open device %ws (error=%lu)\n"
  | .sleep _ => False

/-- The device is open, and the BARs are mapped that the tests go through without a check. -/
structure TestTool.Ready (t : TestTool) : Prop where
  opened : t.opened = true
  bars : t.machine.ctx.RequiredBars

/-- The tool asks for what is listed, gets to a value and shows no failure. -/
structure Passes {α : Type} (env : TestEnv) (t : TestTool) (p : Test α) (value : α) (requests : List WDFREQUEST) :
    Prop where
  eval : p.eval env t = value
  machine : (p.exec env t).machine = run (request_step env.driver) t.machine requests
  opened : (p.exec env t).opened = t.opened
  output : ∃ new, (p.exec env t).output = t.output ++ new ∧ ∀ e ∈ new, ¬ e.Fails

section passes

variable {α β : Type} {env : TestEnv} {t : TestTool}

theorem Passes.pure (a : α) : Passes env t (pure a) a [] :=
  ⟨rfl, rfl, rfl, [], (List.append_nil _).symm, List.forall_mem_nil _⟩

theorem Passes.bind {p : Test α} {k : α → Test β} {a : α} {b : β} {first second : List WDFREQUEST}
    (hp : Passes env t p a first) (hk : Passes env (p.exec env t) (k a) b second) :
    Passes env t (p >>= k) b (first ++ second) where
  eval := by rw [eval_bind, hp.eval, hk.eval]
  machine := by rw [exec_bind, hp.eval, hk.machine, hp.machine, run_append]
  opened := by rw [exec_bind, hp.eval, hk.opened, hp.opened]
  output := by
    obtain ⟨new, hnew, hpass⟩ := hp.output
    obtain ⟨more, hmore, hpass'⟩ := hk.output
    refine ⟨new ++ more, ?_, fun e he => ?_⟩
    · rw [exec_bind, hp.eval, hmore, hnew, List.append_assoc]
    · rcases List.mem_append.mp he with he | he
      · exact hpass e he
      · exact hpass' e he

theorem Passes.printf {fmt : String} {args : List LogArg} (hfmt : ¬ (TestEvent.printf fmt args).Fails) :
    Passes env t (printf fmt args) () [] :=
  ⟨rfl, rfl, rfl, [_], rfl, List.forall_mem_singleton.mpr hfmt⟩

theorem Passes.sleep (msecs : Nat) : Passes env t (Sleep msecs) () [] :=
  ⟨rfl, rfl, rfl, [_], rfl, List.forall_mem_singleton.mpr not_false⟩

theorem Passes.ite {c : Prop} [Decidable c] {p q : Test α} {a : α} {requests : List WDFREQUEST}
    (hp : c → Passes env t p a requests) (hq : ¬ c → Passes env t q a requests) :
    Passes env t (if c then p else q) a requests := by
  by_cases hc : c
  · rw [if_pos hc]
    exact hp hc
  · rw [if_neg hc]
    exact hq hc

theorem Passes.ite_pos {c : Prop} [Decidable c] {p q : Test α} {a : α} {requests : List WDFREQUEST} (hc : c)
    (hp : Passes env t p a requests) : Passes env t (if c then p else q) a requests := by
  rw [if_pos hc]
  exact hp

/-- The driver completes a request with what its switch answers. -/
theorem request_completes (m : Machine) (request : WDFREQUEST) :
    completions ((request_step env.driver m request).since m) = [(ioctl_switch request).eval env.driver m] := by
  obtain ⟨⟨new, hnew, hpending⟩, _, _⟩ := ioctl_switch_answers env.driver m request
  have hexec : request_step env.driver m request = ((ioctl_switch request).exec env.driver m).emit
      [.complete ((ioctl_switch request).eval env.driver m).1 ((ioctl_switch request).eval env.driver m).2.1
        ((ioctl_switch request).eval env.driver m).2.2] := (rfl)
  have hsince : (request_step env.driver m request).since m = new ++
      [.complete ((ioctl_switch request).eval env.driver m).1 ((ioctl_switch request).eval env.driver m).2.1
        ((ioctl_switch request).eval env.driver m).2.2] := by
    apply since_of_trace
    rw [hexec, Machine.emit_trace, hnew, List.append_assoc]
  rw [hsince, completions, List.filterMap_append]
  change completions new ++ [(ioctl_switch request).eval env.driver m] = _
  rw [hpending, List.nil_append]

/-- A request that succeeds fills the buffer with what the driver answers. -/
theorem ioctl_passes (hdelivers : env.Delivers) (hopened : t.opened = true) {code : U32} {input : List U8}
    {out output : List U32} {bytes : Nat}
    (hanswer : (ioctl_switch ⟨code, input, 4 * out.length⟩).eval env.driver t.machine =
      (STATUS_SUCCESS, bytes, output)) :
    Passes env t (ioctl code input out) ⟨0, bytes, output ++ out.drop output.length⟩
      [⟨code, input, 4 * out.length⟩] := by
  have hhanded : env.hands_on t ⟨code, input, 4 * out.length⟩ = .ok () := hdelivers t hopened _
  have hcompleted : (completions ((request_step env.driver t.machine ⟨code, input, 4 * out.length⟩).since
      t.machine)).getLast? = some (STATUS_SUCCESS, bytes, output) := by
    rw [request_completes, hanswer, List.getLast?_singleton]
  have heval : (DeviceIoControl ⟨code, input, 4 * out.length⟩).eval env t = (.ok (), bytes, output) := by
    rw [DeviceIoControl, eval_bind, eval_asks, exec_asks, hhanded, carry_out, eval_bind, eval_asks, hcompleted]
    rfl
  have hexec : (DeviceIoControl ⟨code, input, 4 * out.length⟩).exec env t =
      { t with machine := request_step env.driver t.machine ⟨code, input, 4 * out.length⟩ } := by
    rw [DeviceIoControl, exec_bind, eval_asks, exec_asks, hhanded, carry_out, exec_bind, eval_asks, hcompleted]
    rfl
  constructor
  · rw [ioctl, eval_bind, heval]
    rfl
  · rw [ioctl, exec_bind, heval, hexec]
    rfl
  · rw [ioctl, exec_bind, heval, hexec]
    rfl
  · rw [ioctl, exec_bind, heval, hexec]
    exact ⟨[], (List.append_nil _).symm, List.forall_mem_nil _⟩

end passes

section answers

variable {env : Env} {m : Machine}

theorem of_input_bytes (op : MOTU424_REG_OP) : MOTU424_REG_OP.of_input op.bytes = some op := by
  obtain ⟨b0, b1, b2, b3, hbar, hbar'⟩ := le32_split op.bar.isLt
  obtain ⟨o0, o1, o2, o3, hoffset, hoffset'⟩ := le32_split op.offset.isLt
  obtain ⟨v0, v1, v2, v3, hvalue, hvalue'⟩ := le32_split op.value.isLt
  have hop : MOTU424_REG_OP.of_input op.bytes =
      some ⟨le32 b0 b1 b2 b3, le32 o0 o1 o2 o3, le32 v0 v1 v2 v3⟩ := by
    rw [MOTU424_REG_OP.bytes, hbar, hoffset, hvalue]
    rfl
  rw [hop, hbar', hoffset', hvalue', BitVec.ofNat_toNat, BitVec.ofNat_toNat, BitVec.ofNat_toNat]
  rfl

theorem get_info_answer : ∃ port_status port_conf,
    (ioctl_switch ⟨IOCTL_MOTU424_GET_INFO, [], 16⟩).eval env m =
      (STATUS_SUCCESS, 16, [m.ctx.rate, BitVec.ofInt 32 m.ctx.dma_running, port_status, port_conf]) :=
  ⟨_, _, rfl⟩

theorem get_status_answer : ∃ status,
    (ioctl_switch ⟨IOCTL_MOTU424_GET_STATUS, [], 4⟩).eval env m = (STATUS_SUCCESS, 4, [status]) := ⟨_, rfl⟩

theorem get_position_answer : ∃ pos,
    (ioctl_switch ⟨IOCTL_MOTU424_GET_POSITION, [], 4⟩).eval env m = (STATUS_SUCCESS, 4, [pos]) := ⟨_, rfl⟩

theorem read_reg_answer_of_bar {op : MOTU424_REG_OP} (hbar : op.bar = 0 ∨ op.bar = 1) : ∃ value,
    (ioctl_switch ⟨IOCTL_MOTU424_READ_REG, op.bytes, 12⟩).eval env m =
      (STATUS_SUCCESS, 12, [op.bar, op.offset, value]) := by
  have hread : ioctl_switch ⟨IOCTL_MOTU424_READ_REG, op.bytes, 12⟩ = ioctl_read_reg op.bytes 12 := (rfl)
  rw [hread, ioctl_read_reg, of_input_bytes, eval_bind]
  obtain ⟨bar, offset, value⟩ := op
  rcases hbar with rfl | rfl
  · exact ⟨_, rfl⟩
  · exact ⟨_, rfl⟩

theorem start_answer (hreg : m.ctx.iobase_reg ≠ .null) :
    (ioctl_switch ⟨IOCTL_MOTU424_START, [], 0⟩).eval env m = (STATUS_SUCCESS, 0, []) := by
  have hstart : ioctl_switch ⟨IOCTL_MOTU424_START, [], 0⟩ = ioctl_start := (rfl)
  rw [hstart, ioctl_start, eval_bind, eval_get_ctx, if_neg hreg]
  rfl

theorem stop_answer (hreg : m.ctx.iobase_reg ≠ .null) :
    (ioctl_switch ⟨IOCTL_MOTU424_STOP, [], 0⟩).eval env m = (STATUS_SUCCESS, 0, []) := by
  have hstop : ioctl_switch ⟨IOCTL_MOTU424_STOP, [], 0⟩ = ioctl_stop := (rfl)
  rw [hstop, ioctl_stop, eval_bind, eval_get_ctx, if_neg hreg]
  rfl

/-- After a stop the driver says that the DMA does not run. -/
theorem stop_dma_running (hreg : m.ctx.iobase_reg ≠ .null) :
    (request_step env m ⟨IOCTL_MOTU424_STOP, [], 0⟩).ctx.dma_running = 0 := by
  change (ioctl_stop.exec env m).ctx.dma_running = 0
  rw [ioctl_stop, exec_bind, eval_get_ctx, exec_get_ctx, if_neg hreg]
  rfl

end answers

section tests

variable {env : TestEnv} {t : TestTool}

/-- A line that tells of no failure, and the number of failures so far. -/
theorem Passes.result {fmt : String} {args : List LogArg} (hfmt : ¬ (TestEvent.printf fmt args).Fails)
    (failures : Int) :
    Passes env t (wdf.printf fmt args >>= fun _ => Pure.pure failures) failures [] :=
  Passes.bind (Passes.printf hfmt) (Passes.pure failures)

theorem Passes.ready {α : Type} {p : Test α} {a : α} {requests : List WDFREQUEST} (hp : Passes env t p a requests)
    (hready : t.Ready) : (p.exec env t).Ready where
  opened := hp.opened.trans hready.opened
  bars := by
    rw [hp.machine]
    exact run_required hready.bars requests

theorem Passes.then {α β : Type} {p : Test α} {k : α → Test β} {a : α} {b : β} {first second : List WDFREQUEST}
    (hready : t.Ready) (hp : Passes env t p a first)
    (hk : (p.exec env t).Ready → Passes env (p.exec env t) (k a) b second) :
    Passes env t (p >>= k) b (first ++ second) := hp.bind (hk (hp.ready hready))

variable (failures : Int)

theorem test_info_passes (hdelivers : env.Delivers) (hready : t.Ready) :
    Passes env t (test_info failures) failures [⟨IOCTL_MOTU424_GET_INFO, [], 16⟩] := by
  refine Passes.then hready (Passes.printf (by simp [TestEvent.Fails])) fun hready => ?_
  obtain ⟨port_status, port_conf, hanswer⟩ := @get_info_answer env.driver ((printf _ _).exec env t).machine
  refine Passes.bind (ioctl_passes hdelivers hready.opened hanswer) (Passes.ite_pos ⟨rfl, rfl⟩ ?_)
  refine Passes.bind (Passes.printf (by simp [TestEvent.Fails])) ?_
  refine Passes.bind (Passes.printf (by simp [TestEvent.Fails])) ?_
  refine Passes.ite (fun _ => ?_) fun _ => ?_
  · exact Passes.result (by simp [TestEvent.Fails]) failures
  · exact Passes.result (by simp [TestEvent.Fails]) failures

theorem test_status_passes (hdelivers : env.Delivers) (hready : t.Ready) :
    Passes env t (test_status failures) failures [⟨IOCTL_MOTU424_GET_STATUS, [], 4⟩] := by
  refine Passes.then hready (Passes.printf (by simp [TestEvent.Fails])) fun hready => ?_
  obtain ⟨status, hanswer⟩ := @get_status_answer env.driver ((printf _ _).exec env t).machine
  refine Passes.bind (ioctl_passes hdelivers hready.opened hanswer) (Passes.ite_pos ⟨rfl, rfl⟩ ?_)
  exact Passes.result (by simp [TestEvent.Fails]) failures

theorem test_read_reg_passes (hdelivers : env.Delivers) (hready : t.Ready) {title : String} {n : Int}
    (htitle : ¬ (TestEvent.printf title [.int n]).Fails) {bar offset : U32} (hbar : bar = 0 ∨ bar = 1) :
    Passes env t (test_read_reg title n bar offset failures) failures
      [⟨IOCTL_MOTU424_READ_REG, MOTU424_REG_OP.bytes ⟨bar, offset, 0⟩, 12⟩] := by
  refine Passes.then hready (Passes.printf htitle) fun hready => ?_
  obtain ⟨value, hanswer⟩ :=
    @read_reg_answer_of_bar env.driver ((printf title [.int n]).exec env t).machine ⟨bar, offset, 0⟩ hbar
  refine Passes.bind (ioctl_passes hdelivers hready.opened hanswer) (Passes.ite_pos rfl ?_)
  exact Passes.result (by simp [TestEvent.Fails]) failures

theorem test_command_passes (hdelivers : env.Delivers) (hready : t.Ready) {title : String} {n : Int}
    (htitle : ¬ (TestEvent.printf title [.int n]).Fails) {code : U32}
    (hcode : code = IOCTL_MOTU424_START ∨ code = IOCTL_MOTU424_STOP) :
    Passes env t (test_command title n code failures) failures [⟨code, [], 0⟩] := by
  refine Passes.then hready (Passes.printf htitle) fun hready => ?_
  have hanswer : (ioctl_switch ⟨code, [], 0⟩).eval env.driver t.machine = (STATUS_SUCCESS, 0, []) := by
    rcases hcode with rfl | rfl
    · exact start_answer hready.bars.reg
    · exact stop_answer hready.bars.reg
  have hpassed : Passes env _ (ioctl code [] []) ⟨0, 0, []⟩ [⟨code, [], 0⟩] :=
    @ioctl_passes env ((printf title [.int n]).exec env t) hdelivers hready.opened code [] [] [] 0 hanswer
  refine Passes.bind hpassed (Passes.ite_pos rfl ?_)
  exact Passes.result (by simp [TestEvent.Fails]) failures

theorem test_stop_dma_running (hdelivers : env.Delivers) (hready : t.Ready) {title : String} {n : Int}
    (htitle : ¬ (TestEvent.printf title [.int n]).Fails) :
    ((test_command title n IOCTL_MOTU424_STOP failures).exec env t).machine.ctx.dma_running = 0 := by
  rw [(test_command_passes failures hdelivers hready htitle (.inr rfl)).machine, run_cons, run_nil]
  exact stop_dma_running hready.bars.reg

theorem test_position_passes (hdelivers : env.Delivers) (hready : t.Ready) :
    Passes env t (test_position failures) failures [⟨IOCTL_MOTU424_GET_POSITION, [], 4⟩] := by
  refine Passes.then hready (Passes.printf (by simp [TestEvent.Fails])) fun hready => ?_
  obtain ⟨pos, hanswer⟩ := @get_position_answer env.driver ((printf _ _).exec env t).machine
  refine Passes.bind (ioctl_passes hdelivers hready.opened hanswer) (Passes.ite_pos rfl ?_)
  exact Passes.result (by simp [TestEvent.Fails]) failures

/-- This test passes wherever the position stands. -/
theorem test_moving_passes (hdelivers : env.Delivers) (hready : t.Ready) : Passes env t (test_moving failures) failures
    [⟨IOCTL_MOTU424_GET_POSITION, [], 4⟩, ⟨IOCTL_MOTU424_GET_POSITION, [], 4⟩] := by
  have hposition {t : TestTool} (hopened : t.opened = true) : ∃ pos,
      Passes env t (ioctl IOCTL_MOTU424_GET_POSITION [] [0]) ⟨0, 4, [pos]⟩ [⟨IOCTL_MOTU424_GET_POSITION, [], 4⟩] := by
    obtain ⟨pos, hanswer⟩ := @get_position_answer env.driver t.machine
    exact ⟨pos, @ioctl_passes env t hdelivers hopened IOCTL_MOTU424_GET_POSITION [] [0] [pos] 4 hanswer⟩
  refine Passes.bind (Passes.printf (by simp [TestEvent.Fails])) (Passes.bind (Passes.sleep 100) ?_)
  obtain ⟨pos1, hpos1⟩ := @hposition ((Sleep 100).exec env ((printf _ _).exec env t)) hready.opened
  refine Passes.bind hpos1 (Passes.bind (Passes.sleep 100) ?_)
  obtain ⟨pos2, hpos2⟩ := @hposition ((Sleep 100).exec env ((ioctl _ _ _).exec env _))
    (hpos1.opened.trans hready.opened)
  refine Passes.bind hpos2 ?_
  refine Passes.ite (fun _ => ?_) fun _ => ?_
  · exact Passes.result (by simp [TestEvent.Fails]) failures
  · exact Passes.result (by simp [TestEvent.Fails]) failures

theorem test_stopped_passes (hdelivers : env.Delivers) (hready : t.Ready) (hstopped : t.machine.ctx.dma_running = 0) :
    Passes env t (test_stopped failures) failures [⟨IOCTL_MOTU424_GET_INFO, [], 16⟩] := by
  refine Passes.then hready (Passes.printf (by simp [TestEvent.Fails])) fun hready => ?_
  obtain ⟨port_status, port_conf, hanswer⟩ := @get_info_answer env.driver ((printf _ _).exec env t).machine
  refine Passes.bind (ioctl_passes hdelivers hready.opened hanswer) (Passes.ite_pos ?_ ?_)
  · change BitVec.ofInt 32 t.machine.ctx.dma_running = 0
    rw [hstopped]
    rfl
  · exact Passes.result (by simp [TestEvent.Fails]) failures

/-- The requests of the suite, in order. -/
def suite_requests : List WDFREQUEST :=
  [⟨IOCTL_MOTU424_GET_INFO, [], 16⟩, ⟨IOCTL_MOTU424_GET_STATUS, [], 4⟩,
    ⟨IOCTL_MOTU424_READ_REG, MOTU424_REG_OP.bytes ⟨1, 0x00, 0⟩, 12⟩,
    ⟨IOCTL_MOTU424_READ_REG, MOTU424_REG_OP.bytes ⟨1, 0x18, 0⟩, 12⟩,
    ⟨IOCTL_MOTU424_READ_REG, MOTU424_REG_OP.bytes ⟨0, 0x6fec, 0⟩, 12⟩,
    ⟨IOCTL_MOTU424_READ_REG, MOTU424_REG_OP.bytes ⟨0, 0x3fffc, 0⟩, 12⟩,
    ⟨IOCTL_MOTU424_STOP, [], 0⟩, ⟨IOCTL_MOTU424_GET_POSITION, [], 4⟩, ⟨IOCTL_MOTU424_START, [], 0⟩,
    ⟨IOCTL_MOTU424_GET_POSITION, [], 4⟩, ⟨IOCTL_MOTU424_GET_POSITION, [], 4⟩, ⟨IOCTL_MOTU424_STOP, [], 0⟩,
    ⟨IOCTL_MOTU424_GET_INFO, [], 16⟩]

theorem test_suite_passes (hdelivers : env.Delivers) (hready : t.Ready) :
    Passes env t test_suite 0 suite_requests := by
  refine Passes.then hready (Passes.printf (by simp [TestEvent.Fails])) fun hready => ?_
  refine Passes.then hready (test_info_passes 0 hdelivers hready) fun hready => ?_
  refine Passes.then hready (test_status_passes 0 hdelivers hready) fun hready => ?_
  have hregister {t : TestTool} (hready : t.Ready) {title : String} {n : Int}
      (htitle : ¬ (TestEvent.printf title [.int n]).Fails) {bar : U32} (offset : U32) (hbar : bar = 0 ∨ bar = 1) :=
    @test_read_reg_passes env t 0 hdelivers hready title n htitle bar offset hbar
  have hcommand {t : TestTool} (hready : t.Ready) {title : String} {n : Int}
      (htitle : ¬ (TestEvent.printf title [.int n]).Fails) {code : U32}
      (hcode : code = IOCTL_MOTU424_START ∨ code = IOCTL_MOTU424_STOP) :=
    @test_command_passes env t 0 hdelivers hready title n htitle code hcode
  refine Passes.then hready (hregister hready (by simp [TestEvent.Fails]) _ (.inr rfl)) fun hready => ?_
  refine Passes.then hready (hregister hready (by simp [TestEvent.Fails]) _ (.inr rfl)) fun hready => ?_
  refine Passes.then hready (hregister hready (by simp [TestEvent.Fails]) _ (.inl rfl)) fun hready => ?_
  refine Passes.then hready (hregister hready (by simp [TestEvent.Fails]) _ (.inl rfl)) fun hready => ?_
  refine Passes.then hready (hcommand hready (by simp [TestEvent.Fails]) (.inr rfl)) fun hready => ?_
  refine Passes.then hready (test_position_passes 0 hdelivers hready) fun hready => ?_
  refine Passes.then hready (hcommand hready (by simp [TestEvent.Fails]) (.inl rfl)) fun hready => ?_
  refine Passes.then hready (test_moving_passes 0 hdelivers hready) fun hready => ?_
  have hstopped := @test_stop_dma_running env _ 0 hdelivers hready "[Test %d] Stop DMA (cleanup)... " 11
    (by simp [TestEvent.Fails])
  refine Passes.then hready (hcommand hready (by simp [TestEvent.Fails]) (.inr rfl)) fun hready => ?_
  refine Passes.bind (test_stopped_passes 0 hdelivers hready hstopped) ?_
  refine Passes.bind (Passes.printf (by simp [TestEvent.Fails])) ?_
  refine Passes.ite (fun hfailed => absurd hfailed (Int.lt_irrefl 0)) fun _ => ?_
  exact Passes.bind (Passes.printf (by simp [TestEvent.Fails])) (Passes.pure 0)

end tests

/-- A stop undoes a start of a configuration that was stopped. -/
theorem stop_conf_start_conf (conf : U32) : stop_conf (start_conf .playback (stop_conf conf)) = stop_conf conf := by
  simp only [stop_conf, start_conf]
  ext i
  simp only [BitVec.getElem_and, BitVec.getElem_or, BitVec.getElem_not]
  cases MOTU_PORT_CONF_DMA_EN[i] <;> cases MOTU_PORT_CONF_RUN[i] <;> cases MOTU_PORT_CONF_DMA_RD[i] <;> simp

theorem suite_triggers : suite_requests.flatMap (trigger_of (test_substream .playback)) =
    [.trigger (test_substream .playback) .stop, .trigger (test_substream .playback) .start,
      .trigger (test_substream .playback) .stop] := (rfl)

theorem suite_requests_leave : ∀ r ∈ suite_requests, LeavesPortConf r := by
  intro r hr hwrite
  have hcodes : ∀ r ∈ suite_requests, r.code ≠ IOCTL_MOTU424_WRITE_REG := by decide
  exact absurd hwrite (hcodes r hr)

theorem spares_of_empty (code : U32) (output_length : Nat) : SparesPort ⟨code, [], output_length⟩ := by
  intro regOp hop
  cases hop

theorem spares_of_bytes (code : U32) {op : MOTU424_REG_OP} (hbar : op.bar ≠ 2) (output_length : Nat) :
    SparesPort ⟨code, op.bytes, output_length⟩ := by
  intro regOp hop
  rw [of_input_bytes] at hop
  cases hop
  exact hbar

theorem suite_requests_spare : ∀ r ∈ suite_requests, SparesPort r := by
  simp only [suite_requests, List.forall_mem_cons]
  exact ⟨spares_of_empty _ _, spares_of_empty _ _, spares_of_bytes _ (by decide) _, spares_of_bytes _ (by decide) _,
    spares_of_bytes _ (by decide) _, spares_of_bytes _ (by decide) _, spares_of_empty _ _, spares_of_empty _ _,
    spares_of_empty _ _, spares_of_empty _ _, spares_of_empty _ _, spares_of_empty _ _, spares_of_empty _ _,
    List.forall_mem_nil _⟩

section main

variable {env : TestEnv} {t : TestTool}

theorem open_device_refused {err : U32} (hrefused : env.opens t = .error err) :
    open_device.eval env t = -1 ∧ (open_device.exec env t).machine = t.machine := by
  rw [open_device, eval_bind, exec_bind, eval_asks, exec_asks, hrefused]
  exact ⟨rfl, rfl⟩

theorem open_device_opens (hopens : env.opens t = .ok ()) :
    open_device.eval env t = 0 ∧ open_device.exec env t = { t with opened := true } := by
  rw [open_device, eval_bind, exec_bind, eval_asks, exec_asks, hopens]
  exact ⟨rfl, rfl⟩

theorem main_test_refused {err : U32} (hrefused : env.opens t = .error err) :
    main_test.eval env t = 1 ∧ (main_test.exec env t).machine = t.machine := by
  obtain ⟨heval, hmachine⟩ := open_device_refused hrefused
  rw [main_test, eval_bind, exec_bind, heval, if_pos (by decide)]
  exact ⟨rfl, hmachine⟩

theorem main_test_runs (hdelivers : env.Delivers) (hbars : t.machine.ctx.RequiredBars) (hopens : env.opens t = .ok ()) :
    main_test.eval env t = 0 ∧
    (main_test.exec env t).machine = run (request_step env.driver) t.machine suite_requests ∧
    ∃ new, (main_test.exec env t).output = t.output ++ new ∧ ∀ e ∈ new, ¬ e.Fails := by
  obtain ⟨heval, hexec⟩ := open_device_opens hopens
  have hsuite : Passes env { t with opened := true } test_suite 0 suite_requests :=
    test_suite_passes hdelivers ⟨rfl, hbars⟩
  have hret : main_test.eval env t = test_suite.eval env { t with opened := true } := by
    rw [main_test, eval_bind, heval, hexec, if_neg (by decide)]
    rfl
  have hleft : main_test.exec env t = { test_suite.exec env { t with opened := true } with opened := false } := by
    rw [main_test, exec_bind, heval, hexec, if_neg (by decide)]
    rfl
  rw [hret, hleft]
  exact ⟨hsuite.eval, hsuite.machine, hsuite.output⟩

end main

/-- With the system handing requests on, and with the DSP memory and the control registers mapped, the command `test`
fails exactly when the device cannot be opened, and asks nothing of the driver then. Otherwise it returns 0 and shows
no failure, no register is accessed through NULL, and where the port configuration reads as it was last written the
stream ends stopped and the configuration with only its stream bits cleared. -/
theorem main_test_passes (env : TestEnv) (t : TestTool) (hdelivers : env.Delivers)
    (hbars : t.machine.ctx.RequiredBars) :
    (∀ err, env.opens t = .error err →
      main_test.eval env t = 1 ∧ (main_test.exec env t).machine = t.machine) ∧
    (env.opens t = .ok () →
      main_test.eval env t = 0 ∧
      (∃ new, (main_test.exec env t).output = t.output ++ new ∧ ∀ e ∈ new, ¬ e.Fails) ∧
      (∀ e ∈ (main_test.exec env t).machine.since t.machine, e.Mapped) ∧
      ∀ init, env.driver.Keeps init .reg MOTU_REG_PORT_CONF →
        (main_test.exec env t).machine.port_state init =
          .written (stop_conf (t.machine.port_state init).conf) 0) := by
  refine ⟨fun err hrefused => main_test_refused hrefused, fun hopens => ?_⟩
  obtain ⟨heval, hmachine, houtput⟩ := main_test_runs hdelivers hbars hopens
  obtain ⟨new, hnew, hmapped⟩ := @run_grounded env.driver t.machine hbars suite_requests suite_requests_spare
  refine ⟨heval, houtput, ?_, fun init hkeeps => ?_⟩
  · rw [hmachine, since_of_trace hnew]
    exact hmapped
  · obtain ⟨_, hport⟩ := @requests_refine env.driver init hkeeps (test_substream .playback) rfl t.machine hbars.reg
      suite_requests suite_requests_leave
    rw [hmachine, hport, suite_triggers]
    simp only [run_cons, run_nil, PortState.step, PortState.trigger, PortState.written]
    have hstream : (test_substream .playback).stream = .playback := rfl
    rw [hstream, stop_conf_start_conf]

/-- The tool on a machine with all BARs mapped. -/
def mapped_tool : TestTool := ⟨⟨mapped_ctx, []⟩, false, []⟩

/-- A system that opens the device and hands everything on. -/
def passing_env : TestEnv := ⟨register_env, fun _ => .ok (), fun _ _ => .ok (), fun _ => 0⟩

theorem mapped_main_passes :
    (∀ err, passing_env.opens mapped_tool = .error err →
      main_test.eval passing_env mapped_tool = 1 ∧
      (main_test.exec passing_env mapped_tool).machine = mapped_tool.machine) ∧
    (passing_env.opens mapped_tool = .ok () →
      main_test.eval passing_env mapped_tool = 0 ∧
      (∃ new, (main_test.exec passing_env mapped_tool).output = mapped_tool.output ++ new ∧ ∀ e ∈ new, ¬ e.Fails) ∧
      (∀ e ∈ (main_test.exec passing_env mapped_tool).machine.since mapped_tool.machine, e.Mapped) ∧
      ∀ init, passing_env.driver.Keeps init .reg MOTU_REG_PORT_CONF →
        (main_test.exec passing_env mapped_tool).machine.port_state init =
          .written (stop_conf (mapped_tool.machine.port_state init).conf) 0) :=
  main_test_passes passing_env mapped_tool (fun _ _ _ => rfl) ⟨by decide, by decide⟩

end motu424.wdf
