import Motu424.Wdf.Frontends
import Motu424.Wdf.Lifecycle

open Program Run

namespace motu424.wdf

/-- A request that reads and writes no register of BAR2 goes through no pointer that the
driver does not check. -/
def SparesPort (request : WDFREQUEST) : Prop :=
  ∀ regOp, MOTU424_REG_OP.of_input request.input = some regOp → regOp.bar ≠ 2

section mapped

variable {env : Env}

/-- On mapped DSP memory and control registers the code goes through no pointer that is
NULL. -/
abbrev Grounded (env : Env) {α : Type} (p : Pal α) : Prop :=
  motu424.Emits env motu424_ctx.RequiredBars motu424.Event.Mapped p

theorem read_or_zero_grounded {bar : Bar} (base : Iomem bar) (offset : U32) :
    Grounded env (read_or_zero base offset) :=
  motu424.Emits.ite (fun _ => motu424.Emits.pure _) fun hbase => motu424.Emits.pal_read32 (Iomem.addr_ne_none hbase)

theorem ioctl_get_info_grounded (output_length : Nat) : Grounded env (ioctl_get_info output_length) := by
  refine motu424.Emits.ite (fun _ => motu424.Emits.pure _) fun _ => motu424.Emits.get_ctx fun c hc => ?_
  refine motu424.Emits.bind (read_or_zero_grounded _ _) fun _ => ?_
  exact motu424.Emits.bind (read_or_zero_grounded _ _) fun _ => motu424.Emits.pure _

theorem write_back_grounded {val : U32 → U32} {dma_running : Int} {fmt : String} {a b : Answer} :
    Grounded env (do
      let ctx ← get_ctx
      if ctx.iobase_reg = .null then pure a
      else do
        let old ← pal_read32 ctx.iobase_reg MOTU_REG_PORT_CONF
        pal_write32 ctx.iobase_reg MOTU_REG_PORT_CONF (val old)
        set_ctx fun ctx => { ctx with port_conf_shadow := val old, dma_running := dma_running }
        pal_log .info fmt []
        pure b) := by
  refine motu424.Emits.get_ctx fun c hc => motu424.Emits.ite (fun _ => motu424.Emits.pure _) fun hreg => ?_
  have hbase := Iomem.addr_ne_none hreg
  refine motu424.Emits.bind (motu424.Emits.pal_read32 hbase) fun old => ?_
  refine motu424.Emits.bind (motu424.Emits.pal_write32 hbase) fun _ => ?_
  refine motu424.Emits.bind (motu424.Emits.set_ctx fun _ hc => ⟨hc.dsp, hc.reg⟩) fun _ => ?_
  exact motu424.Emits.bind motu424.Emits.pal_log fun _ => motu424.Emits.pure _

theorem word_request_grounded {bar : Bar} (base : motu424_ctx → Iomem bar) (offset : U32) (output_length : Nat) :
    Grounded env (
      if output_length < 4 then pure (Answer.of_status STATUS_BUFFER_TOO_SMALL)
      else do
        let ctx ← get_ctx
        let word ← read_or_zero (base ctx) offset
        pure (Answer.of_words [word])) := by
  refine motu424.Emits.ite (fun _ => motu424.Emits.pure _) fun _ => motu424.Emits.get_ctx fun c hc => ?_
  exact motu424.Emits.bind (read_or_zero_grounded _ _) fun _ => motu424.Emits.pure _

theorem ioctl_read_reg_grounded {input : List U8}
    (hspares : ∀ regOp, MOTU424_REG_OP.of_input input = some regOp → regOp.bar ≠ 2) (output_length : Nat) :
    Grounded env (ioctl_read_reg input output_length) := by
  refine motu424.Emits.get_ctx fun c hc => ?_
  cases hop : MOTU424_REG_OP.of_input input with
  | none => exact motu424.Emits.pure _
  | some regOp =>
    refine motu424.Emits.ite (fun _ => ?_) fun _ => motu424.Emits.ite (fun _ => ?_) fun _ => ?_
    · exact motu424.Emits.bind (motu424.Emits.pal_read32 (Iomem.addr_ne_none hc.dsp)) fun _ => motu424.Emits.pure _
    · exact motu424.Emits.bind (motu424.Emits.pal_read32 (Iomem.addr_ne_none hc.reg)) fun _ => motu424.Emits.pure _
    · rw [if_neg (hspares regOp hop)]
      exact motu424.Emits.pure _

theorem ioctl_write_reg_grounded {input : List U8}
    (hspares : ∀ regOp, MOTU424_REG_OP.of_input input = some regOp → regOp.bar ≠ 2) :
    Grounded env (ioctl_write_reg input) := by
  refine motu424.Emits.get_ctx fun c hc => ?_
  cases hop : MOTU424_REG_OP.of_input input with
  | none => exact motu424.Emits.pure _
  | some regOp =>
    refine motu424.Emits.ite (fun _ => ?_) fun _ => motu424.Emits.ite (fun _ => ?_) fun _ => ?_
    · exact motu424.Emits.bind (motu424.Emits.pal_write32 (Iomem.addr_ne_none hc.dsp)) fun _ => motu424.Emits.pure _
    · exact motu424.Emits.bind (motu424.Emits.pal_write32 (Iomem.addr_ne_none hc.reg)) fun _ => motu424.Emits.pure _
    · rw [if_neg (hspares regOp hop)]
      exact motu424.Emits.pure _

theorem EvtIoDeviceControl_grounded {request : WDFREQUEST} (hspares : SparesPort request) :
    Grounded env (EvtIoDeviceControl request) := by
  have hswitch : Grounded env (ioctl_switch request) := by
    refine motu424.Emits.ite (fun _ => ioctl_get_info_grounded _) fun _ => ?_
    refine motu424.Emits.ite (fun _ => write_back_grounded) fun _ => ?_
    refine motu424.Emits.ite (fun _ => write_back_grounded) fun _ => ?_
    refine motu424.Emits.ite (fun _ => word_request_grounded _ _ _) fun _ => ?_
    refine motu424.Emits.ite (fun _ => ioctl_read_reg_grounded hspares _) fun _ => ?_
    refine motu424.Emits.ite (fun _ => ioctl_write_reg_grounded hspares) fun _ => ?_
    exact motu424.Emits.ite (fun _ => word_request_grounded _ _ _) fun _ => motu424.Emits.pure _
  refine motu424.Emits.bind hswitch fun answer => ?_
  exact motu424.Emits.bind (motu424.Emits.perform trivial) fun _ => motu424.Emits.pure _

/-- Requests leave the pointers of the machine. -/
theorem run_required {m : Machine} (hbars : m.ctx.RequiredBars) (requests : List WDFREQUEST) :
    (run (request_step env) m requests).ctx.RequiredBars := by
  refine @run_invariant _ _ (request_step env) m requests (fun m' => m'.ctx.RequiredBars) ?_ hbars
  intro m' request hm'
  obtain ⟨hsame, _⟩ := (@EvtIoDeviceControl_through env request m'.ctx).spec m' (.refl _)
  exact hsame.same_bases.required hm'

/-- Requests one after the other go through no such pointer either. -/
theorem run_grounded {m : Machine} (hbars : m.ctx.RequiredBars) {requests : List WDFREQUEST}
    (hspare : ∀ r ∈ requests, SparesPort r) :
    ∃ new, (run (request_step env) m requests).trace = m.trace ++ new ∧ ∀ e ∈ new, e.Mapped := by
  induction requests using List.reverseRecOn with
  | nil => exact ⟨[], (List.append_nil _).symm, List.forall_mem_nil _⟩
  | append_singleton requests request ih =>
    obtain ⟨new, hnew, hmapped⟩ := ih fun r hr => hspare r (List.mem_append_left _ hr)
    have hrequest : Grounded env (EvtIoDeviceControl request) :=
      EvtIoDeviceControl_grounded (hspare request (List.mem_append_right _ (List.mem_singleton_self _)))
    obtain ⟨_, more, hmore, hmapped'⟩ := hrequest.spec _ (run_required hbars requests)
    refine ⟨new ++ more, ?_, fun e he => ?_⟩
    · rw [run_append_singleton, request_step, hmore, hnew, List.append_assoc]
    · rcases List.mem_append.mp he with he | he
      · exact hmapped e he
      · exact hmapped' e he

end mapped

end motu424.wdf
