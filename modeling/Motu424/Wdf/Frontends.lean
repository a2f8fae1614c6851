import Motu424.Wdf
import Motu424.Alsa.Shadow

open Program Run ByteMemory

namespace motu424.wdf

/-- What the requests of user space leave behind in the shared context. -/
def request_step (env : Env) (m : Machine) (request : WDFREQUEST) : Machine := (EvtIoDeviceControl request).exec env m

/-- The request writes no register that overlaps PORT_CONF. -/
def LeavesPortConf (request : WDFREQUEST) : Prop :=
  request.code = IOCTL_MOTU424_WRITE_REG → ∀ regOp, MOTU424_REG_OP.of_input request.input = some regOp →
    regOp.bar = 1 → 4 ≤ regOp.offset.toNat

/-- The command to the playback substream that does what the request does. -/
def trigger_of (substream : snd_pcm_substream) (request : WDFREQUEST) : List PcmOp :=
  if request.code = IOCTL_MOTU424_START then [.trigger substream .start]
  else if request.code = IOCTL_MOTU424_STOP then [.trigger substream .stop]
  else []

/-- An event that leaves PORT_CONF as it is. -/
def Event.Leaves (e : Event) : Prop := ∀ s ∈ e.stores .reg, Apart 0 4 s.1 s.2.length

section requests

variable {env : Env} {init : ByteMemory}

theorem Event.leaves_of_none {e : Event} (he : e.stores .reg = []) : Event.Leaves e := by
  intro s hs
  rw [he] at hs
  cases hs

theorem Event.leaves_write {bar : Bar} {base : Option Nat} {offset value : U32}
    (hoffset : bar = .reg → 4 ≤ offset.toNat) : Event.Leaves (.write bar base offset value) := by
  intro s hs
  cases base with
  | none => cases hs
  | some base =>
    rw [Event.stores] at hs
    split at hs
    · rw [List.mem_singleton.mp hs]
      exact .inl (hoffset ‹_›)
    · cases hs

/-- Code that keeps the context and PORT_CONF. -/
theorem Refines.of_leaves {α : Type} {p : Pal α} (hp : ∀ c, motu424.Emits env (· = c) Event.Leaves p) :
    Refines env init p id := by
  intro m hreg
  obtain ⟨hctx, new, hnew, hleaves⟩ := (hp m.ctx).spec m rfl
  have hconf : port_conf init (p.exec env m).trace = port_conf init m.trace := by
    rw [hnew]
    apply bar_word_frame
    intro s hs
    obtain ⟨e, he, hstore⟩ := List.mem_flatMap.mp hs
    exact hleaves e he s hstore
  rw [Machine.port_state, hctx, hconf]
  exact ⟨rfl, rfl⟩

section quiet

variable {c : motu424_ctx} {bar : Bar} (base : Iomem bar) (offset : U32)

theorem leaves_read : motu424.Emits env (· = c) Event.Leaves (pal_read32 base offset) :=
  motu424.Emits.pal_read32 (Event.leaves_of_none rfl)

theorem leaves_read_or_zero : motu424.Emits env (· = c) Event.Leaves (read_or_zero base offset) :=
  motu424.Emits.ite (fun _ => motu424.Emits.pure _) fun _ => leaves_read base offset

end quiet

theorem ioctl_get_info_leaves (output_length : Nat) (c : motu424_ctx) :
    motu424.Emits env (· = c) Event.Leaves (ioctl_get_info output_length) := by
  refine motu424.Emits.ite (fun _ => motu424.Emits.pure _) fun _ => motu424.Emits.get_ctx fun c' _ => ?_
  refine motu424.Emits.bind (leaves_read_or_zero _ _) fun _ => ?_
  exact motu424.Emits.bind (leaves_read_or_zero _ _) fun _ => motu424.Emits.pure _

theorem word_request_leaves {bar : Bar} (base : motu424_ctx → Iomem bar) (offset : U32) (output_length : Nat)
    (c : motu424_ctx) : motu424.Emits env (· = c) Event.Leaves (
      if output_length < 4 then pure (Answer.of_status STATUS_BUFFER_TOO_SMALL)
      else do
        let ctx ← get_ctx
        let word ← read_or_zero (base ctx) offset
        pure (Answer.of_words [word])) := by
  refine motu424.Emits.ite (fun _ => motu424.Emits.pure _) fun _ => motu424.Emits.get_ctx fun c' _ => ?_
  exact motu424.Emits.bind (leaves_read_or_zero _ _) fun _ => motu424.Emits.pure _

theorem ioctl_read_reg_leaves (input : List U8) (output_length : Nat) (c : motu424_ctx) :
    motu424.Emits env (· = c) Event.Leaves (ioctl_read_reg input output_length) := by
  refine motu424.Emits.get_ctx fun c' _ => ?_
  cases MOTU424_REG_OP.of_input input with
  | none => exact motu424.Emits.pure _
  | some regOp =>
    refine motu424.Emits.ite (fun _ => ?_) fun _ => motu424.Emits.ite (fun _ => ?_) fun _ =>
      motu424.Emits.ite (fun _ => ?_) fun _ => motu424.Emits.pure _
    · exact motu424.Emits.bind (leaves_read _ _) fun _ => motu424.Emits.pure _
    · exact motu424.Emits.bind (leaves_read _ _) fun _ => motu424.Emits.pure _
    · exact motu424.Emits.bind (leaves_read _ _) fun _ => motu424.Emits.pure _

theorem ioctl_write_reg_leaves {input : List U8} (c : motu424_ctx)
    (hinput : ∀ regOp, MOTU424_REG_OP.of_input input = some regOp → regOp.bar = 1 → 4 ≤ regOp.offset.toNat) :
    motu424.Emits env (· = c) Event.Leaves (ioctl_write_reg input) := by
  refine motu424.Emits.get_ctx fun c' _ => ?_
  cases hop : MOTU424_REG_OP.of_input input with
  | none => exact motu424.Emits.pure _
  | some regOp =>
    have hwrite {bar : Bar} (base : Iomem bar) (hbar : bar = .reg → 4 ≤ regOp.offset.toNat) :
        motu424.Emits env (· = c) Event.Leaves (do
          pal_write32 base regOp.offset regOp.value
          pure (Answer.of_status STATUS_SUCCESS)) :=
      motu424.Emits.bind (motu424.Emits.pal_write32 (Event.leaves_write hbar)) fun _ => motu424.Emits.pure _
    refine motu424.Emits.ite (fun _ => hwrite _ nofun) fun _ => motu424.Emits.ite (fun hbar => ?_) fun _ =>
      motu424.Emits.ite (fun _ => hwrite _ nofun) fun _ => motu424.Emits.pure _
    exact hwrite _ fun _ => hinput regOp hop hbar

/-- The registers are touched before the request is completed, which touches none. -/
theorem Refines.completed {p : Pal Answer} {f : PortState → PortState} (hp : Refines env init p f) :
    Refines env init (do
      let (status, bytesReturned, output) ← p
      perform (.complete status bytesReturned output)
      pure status : Pal NTSTATUS) f := by
  intro m hreg
  obtain ⟨hsame, hport⟩ := hp m hreg
  refine ⟨hsame, ?_⟩
  rw [← hport]
  exact @port_state_quiet init (p.exec env m) _ [.complete _ _ _] rfl rfl rfl

variable (hkeeps : env.Keeps init .reg MOTU_REG_PORT_CONF)
include hkeeps

/-- A request that reads PORT_CONF, and writes and remembers it changed. -/
theorem write_back_refines {conf : U32 → U32} {dma_running : Int} {fmt : String} {a b : Answer} :
    Refines env init (do
      let ctx ← get_ctx
      if ctx.iobase_reg = .null then pure a
      else do
        let val ← pal_read32 ctx.iobase_reg MOTU_REG_PORT_CONF
        pal_write32 ctx.iobase_reg MOTU_REG_PORT_CONF (conf val)
        set_ctx fun ctx => { ctx with port_conf_shadow := conf val, dma_running := dma_running }
        pal_log .info fmt []
        pure b) fun p => .written (conf p.conf) dma_running := by
  intro m hreg
  have hread := read_port_conf hkeeps m (show stores .reg [] = [] from rfl)
  rw [List.append_nil] at hread
  rw [exec_bind, eval_get_ctx, exec_get_ctx, if_neg hreg, exec_bind, eval_pal_read32, exec_pal_read32, hread]
  refine ⟨rfl, ?_⟩
  exact @port_state_written init m _ hreg [.read .reg m.ctx.iobase_reg.addr MOTU_REG_PORT_CONF] [.log .info fmt []]
    _ (by simp [Machine.emit]) rfl rfl

theorem ioctl_start_refines : Refines env init ioctl_start fun p => .written (start_conf .playback p.conf) 1 := by
  have hconf (conf : U32) : start_conf .playback conf =
      conf ||| (MOTU_PORT_CONF_DMA_EN ||| MOTU_PORT_CONF_RUN ||| MOTU_PORT_CONF_DMA_RD) := by
    rw [start_conf, BitVec.or_assoc, BitVec.or_assoc]
  simp only [hconf]
  exact write_back_refines hkeeps

theorem ioctl_stop_refines : Refines env init ioctl_stop fun p => .written (stop_conf p.conf) 0 :=
  write_back_refines hkeeps

/-- A request does to the port configuration what its trigger does to it. -/
theorem EvtIoDeviceControl_refines {substream : snd_pcm_substream} (hplayback : substream.stream = .playback)
    {request : WDFREQUEST} (hleaves : LeavesPortConf request) :
    Refines env init (EvtIoDeviceControl request) fun p => run PortState.step p (trigger_of substream request) := by
  refine Refines.completed ?_
  rw [ioctl_switch, trigger_of]
  by_cases hinfo : request.code = IOCTL_MOTU424_GET_INFO
  · have hstart : request.code ≠ IOCTL_MOTU424_START := by rw [hinfo]; decide
    have hstop : request.code ≠ IOCTL_MOTU424_STOP := by rw [hinfo]; decide
    rw [if_pos hinfo, if_neg hstart, if_neg hstop]
    exact Refines.of_leaves (ioctl_get_info_leaves _)
  rw [if_neg hinfo]
  by_cases hstart : request.code = IOCTL_MOTU424_START
  · rw [if_pos hstart, if_pos hstart]
    simp only [run_cons, run_nil, PortState.step, PortState.trigger, hplayback]
    exact ioctl_start_refines hkeeps
  rw [if_neg hstart, if_neg hstart]
  by_cases hstop : request.code = IOCTL_MOTU424_STOP
  · rw [if_pos hstop, if_pos hstop]
    exact ioctl_stop_refines hkeeps
  rw [if_neg hstop, if_neg hstop]
  -- the rest of the switch leaves the register as it is
  refine Refines.of_leaves fun c => motu424.Emits.ite (fun _ => word_request_leaves _ _ _ c) fun _ =>
    motu424.Emits.ite (fun _ => ioctl_read_reg_leaves _ _ c) fun _ => motu424.Emits.ite (fun hwrite => ?_) fun _ =>
      motu424.Emits.ite (fun _ => word_request_leaves _ _ _ c) fun _ => motu424.Emits.pure _
  exact ioctl_write_reg_leaves c (hleaves hwrite)

/-- So the requests of a run do what their triggers do. -/
theorem requests_refine {substream : snd_pcm_substream} (hplayback : substream.stream = .playback) {m : Machine}
    (hreg : m.ctx.iobase_reg ≠ .null) {requests : List WDFREQUEST} (hleaves : ∀ r ∈ requests, LeavesPortConf r) :
    (run (request_step env) m requests).ctx.iobase_reg ≠ .null ∧
    (run (request_step env) m requests).port_state init =
      run PortState.step (m.port_state init) (requests.flatMap (trigger_of substream)) := by
  induction requests using List.reverseRecOn with
  | nil => exact ⟨hreg, rfl⟩
  | append_singleton requests request ih =>
    obtain ⟨hmapped, hport⟩ := ih fun r hr => hleaves r (List.mem_append_left _ hr)
    obtain ⟨hsame, hstep⟩ := EvtIoDeviceControl_refines hkeeps hplayback
      (hleaves request (List.mem_append_right _ (List.mem_singleton_self _))) _ hmapped
    rw [run_append_singleton, List.flatMap_append, run_append, ← hport, List.flatMap_singleton]
    exact ⟨by rw [request_step, hsame]; exact hmapped, hstep⟩

end requests

/-- From the same port configuration, starting and stopping the stream through the framework and through ALSA
leaves the same configuration behind, whatever is asked of the device in between. -/
theorem frontends_agree (env linux : Env) (init linux_init : ByteMemory)
    (hkeeps : env.Keeps init .reg MOTU_REG_PORT_CONF) (hlinux : linux.Keeps linux_init .reg MOTU_REG_PORT_CONF)
    (m : Machine) (motu : motu424_linux) (hreg : m.ctx.iobase_reg ≠ .null)
    (hmotu : motu.machine.ctx.iobase_reg ≠ .null)
    (hsame : m.port_state init = motu.machine.port_state linux_init) (substream : snd_pcm_substream)
    (hplayback : substream.stream = .playback) (requests : List WDFREQUEST)
    (hleaves : ∀ r ∈ requests, LeavesPortConf r) :
    (run (request_step env) m requests).port_state init =
      (run (pcm_step linux) motu (requests.flatMap (trigger_of substream))).machine.port_state linux_init := by
  obtain ⟨_, hwindows⟩ := requests_refine hkeeps hplayback hreg hleaves
  obtain ⟨_, halsa⟩ := pcm_run_refines hlinux motu (requests.flatMap (trigger_of substream)) hmotu
  rw [hwindows, halsa, hsame]

/-- Write 0x1000 to the DMA size register. -/
def write_dma_size : WDFREQUEST where
  code := IOCTL_MOTU424_WRITE_REG
  input := [1, 0, 0, 0, 0x14, 0, 0, 0, 0, 0x10, 0, 0]
  output_length := 0

theorem write_dma_size_leaves : LeavesPortConf write_dma_size := by
  intro _ regOp hop _
  have hinput : MOTU424_REG_OP.of_input write_dma_size.input = some ⟨1, 0x14, 0x1000⟩ := by decide
  obtain rfl := Option.some_inj.mp (hinput.symm.trans hop)
  decide

/-- A request with nothing but a control code. -/
def plain_request (code : U32) : WDFREQUEST := ⟨code, [], 0⟩

theorem plain_request_leaves (code : U32) : LeavesPortConf (plain_request code) := by
  intro _ _ hop
  cases hop

/-- Start, write a register, stop. -/
def start_write_stop : List WDFREQUEST :=
  [plain_request IOCTL_MOTU424_START, write_dma_size, plain_request IOCTL_MOTU424_STOP]

theorem start_write_stop_leaves : ∀ r ∈ start_write_stop, LeavesPortConf r := by
  intro r hr
  rcases List.mem_cons.mp hr with rfl | hr
  · exact plain_request_leaves _
  rcases List.mem_cons.mp hr with rfl | hr
  · exact write_dma_size_leaves
  · rw [List.mem_singleton.mp hr]
    exact plain_request_leaves _

theorem start_write_stop_agree :
    (run (request_step register_env) ⟨mapped_ctx, []⟩ start_write_stop).port_state .zeroed =
    (run (pcm_step register_env) (no_streams ⟨mapped_ctx, []⟩)
      (start_write_stop.flatMap (trigger_of (test_substream .playback)))).machine.port_state .zeroed :=
  frontends_agree register_env register_env .zeroed .zeroed (register_env_keeps _) (register_env_keeps _)
    ⟨mapped_ctx, []⟩ (no_streams ⟨mapped_ctx, []⟩) mapped_ctx_reg mapped_ctx_reg rfl (test_substream .playback) rfl
    start_write_stop start_write_stop_leaves

end motu424.wdf
