import Motu424.Alsa.Callbacks
import Motu424.Alsa.PortConf

open Program ByteMemory Run Interleaving

namespace motu424

/-- A callback that the sound core or the interrupt line invokes, on any processor. -/
inductive Callback where
  | pcm_open (substream : snd_pcm_substream)
  | pcm_close (substream : snd_pcm_substream)
  | prepare (substream : snd_pcm_substream)
  | trigger (substream : snd_pcm_substream) (cmd : snd_pcm_trigger)
  | pointer (substream : snd_pcm_substream)
  | ack (substream : snd_pcm_substream)
  | irq
  deriving DecidableEq, Repr

/-- The callback through the table of its direction, as the driver has it. -/
def Callback.run (callback : Callback) : Alsa Unit :=
  match callback with
  | .pcm_open substream => (motu424_pcm_ops substream.stream).pcm_open substream >>= fun _ => pure ()
  | .pcm_close substream => (motu424_pcm_ops substream.stream).pcm_close substream >>= fun _ => pure ()
  | .prepare substream => (motu424_pcm_ops substream.stream).prepare substream >>= fun _ => pure ()
  | .trigger substream cmd => (motu424_pcm_ops substream.stream).trigger substream cmd >>= fun _ => pure ()
  | .pointer substream => shared (motu424_pointer substream) >>= fun _ => pure ()
  | .ack substream => (motu424_pcm_ops substream.stream).ack substream >>= fun _ => pure ()
  | .irq => registered_irq >>= fun _ => pure ()

/-- The callback access by access. -/
def Callback.code (callback : Callback) : AlsaCode Unit :=
  match callback with
  | .pcm_open substream =>
    match substream.stream with
    | .playback => open_code (fun motu =>
        { motu with playback_substream := some substream.addr, playback_hw := some motu424_pcm_hw }) fun _ => .ret ()
    | .capture => open_code (fun motu =>
        { motu with capture_substream := some substream.addr, capture_hw := some motu424_pcm_hw }) fun _ => .ret ()
  | .pcm_close substream =>
    match substream.stream with
    | .playback => open_code (fun motu => { motu with playback_substream := none }) fun _ => .ret ()
    | .capture => open_code (fun motu => { motu with capture_substream := none }) fun _ => .ret ()
  | .prepare substream =>
    match substream.stream with
    | .playback => playback_prepare_code substream fun _ => .ret ()
    | .capture => capture_prepare_code substream fun _ => .ret ()
  | .trigger substream cmd => trigger_code substream cmd fun _ => .ret ()
  | .pointer substream => pointer_code substream fun _ => .ret ()
  | .ack substream =>
    match substream.stream with
    | .playback => ack_code playback_ack_round_code substream fun _ => .ret ()
    | .capture => ack_code capture_ack_round_code substream fun _ => .ret ()
  | .irq => irq_code fun _ => .ret ()

theorem Callback.code_program (callback : Callback) : alone callback.code = callback.run := by
  cases callback with
  | pcm_open substream =>
    obtain ⟨_, stream, _⟩ := substream
    cases stream <;> rfl
  | pcm_close substream =>
    obtain ⟨_, stream, _⟩ := substream
    cases stream <;> rfl
  | prepare substream =>
    obtain ⟨addr, stream, runtime⟩ := substream
    cases stream with
    | playback => exact playback_prepare_program ⟨addr, .playback, runtime⟩ fun _ => .ret ()
    | capture => exact capture_prepare_program ⟨addr, .capture, runtime⟩ fun _ => .ret ()
  | trigger substream cmd =>
    obtain ⟨addr, stream, runtime⟩ := substream
    cases stream with
    | playback => exact trigger_program ⟨addr, .playback, runtime⟩ cmd fun _ => .ret ()
    | capture => exact trigger_program ⟨addr, .capture, runtime⟩ cmd fun _ => .ret ()
  | pointer substream => exact pointer_program substream fun _ => .ret ()
  | ack substream =>
    obtain ⟨addr, stream, runtime⟩ := substream
    cases stream with
    | playback => exact playback_ack_program ⟨addr, .playback, runtime⟩ fun _ => .ret ()
    | capture => exact capture_ack_program ⟨addr, .capture, runtime⟩ fun _ => .ret ()
  | irq => exact irq_program fun _ => .ret ()

/-- What the callback does to the port configuration. -/
def Callback.port (callback : Callback) (p : PortState) : PortState :=
  match callback with
  | .prepare substream => p.prepare substream.stream
  | .trigger substream cmd => p.trigger substream.stream cmd
  | _ => p

/-- The pointer to the control registers, and the port configuration. -/
abbrev PortView : Type := Iomem .reg × PortState

def port_view (init : ByteMemory) (motu : motu424_linux) : PortView :=
  (motu.machine.ctx.iobase_reg, motu.machine.port_state init)

/-- A change of the port configuration, as long as the control registers are mapped. -/
def Turns (f : PortState → PortState) (v w : PortView) : Prop := v.1 ≠ .null → w = (v.1, f v.2)

/-- The configuration after a write of it, which goes nowhere through NULL. -/
def PortView.write (v : PortView) (val : U32) : PortView :=
  if v.1 = .null then v else (v.1, { v.2 with conf := val })

section guards

variable {env : Env} {init : ByteMemory} {α β : Type}

/-- The program leaves the port configuration alone. -/
def LeavesPort (env : Env) (init : ByteMemory) (p : Alsa β) : Prop :=
  ∀ motu, port_view init (p.exec env motu) = port_view init motu

theorem leavesPort_perform {e : Event} (he : ∀ s ∈ e.stores .reg, Apart 0 4 s.1 s.2.length) :
    LeavesPort env init (shared (perform e)) := by
  intro motu
  have hstores : ∀ s ∈ stores .reg [e], Apart MOTU_REG_PORT_CONF.toNat 4 s.1 s.2.length := by
    rw [stores_cons, stores_nil, List.append_nil]
    exact he
  have hconf : port_conf init (motu.machine.trace ++ [e]) = port_conf init motu.machine.trace :=
    bar_word_frame init motu.machine.trace hstores
  change (motu.machine.ctx.iobase_reg, (⟨port_conf init (motu.machine.trace ++ [e]), _, _⟩ : PortState)) = _
  rw [hconf]
  rfl

/-- A write to a register behind the port configuration. -/
theorem leavesPort_write {reg : Iomem .reg} {offset value : U32} (hoffset : 4 ≤ offset.toNat) :
    LeavesPort env init (shared (pal_write32 reg offset value)) := by
  apply leavesPort_perform
  intro s hs
  cases haddr : reg.addr with
  | none =>
    rw [haddr] at hs
    cases hs
  | some base =>
    rw [haddr, Event.stores, if_pos rfl] at hs
    rw [List.mem_singleton.mp hs]
    exact .inl hoffset

theorem leavesPort_quiet {e : Event} (he : e.stores .reg = []) : LeavesPort env init (shared (perform e)) := by
  apply leavesPort_perform
  rw [he]
  exact fun _ hs => nomatch hs

theorem leavesPort_gets {γ : Type} (f : Machine → γ) : LeavesPort env init (shared (gets f)) := fun _ => rfl

theorem leavesPort_read {reg : Iomem .reg} {offset : U32} : LeavesPort env init (shared (pal_read32 reg offset)) :=
  @leavesPort_quiet env init (.read .reg reg.addr offset) rfl

theorem leavesPort_load {buf : Buffer} {index : Nat} : LeavesPort env init (shared (load buf index)) :=
  @leavesPort_quiet env init (.load buf index) rfl

theorem leavesPort_notify_open (substream : Option Nat) : LeavesPort env init (shared (notify_open substream)) := by
  cases substream with
  | none => exact fun _ => rfl
  | some substream => exact leavesPort_quiet rfl

section lock_free

variable {f : PortState → PortState} {k : AlsaCode α}

/-- The code changes the port configuration as the function says. -/
abbrev TurnsPort (env : Env) (init : ByteMemory) (f : PortState → PortState) (c : AlsaCode α) : Prop :=
  c.Guarded env (port_view init) (Turns f)

theorem turnsPort_ret (a : α) : TurnsPort env init id (.ret a : AlsaCode α) := fun _ _ => rfl

theorem TurnsPort.access {p : Pal β} {k : β → AlsaCode α} (hp : LeavesPort env init (shared p))
    (hk : ∀ b, TurnsPort env init f (k b)) : TurnsPort env init f (access p k) := Code.Guarded.step hp hk

theorem TurnsPort.access' {p : Pal Unit} (hp : LeavesPort env init (shared p)) (hk : TurnsPort env init f k) :
    TurnsPort env init f (access' p k) := Code.Guarded.step hp fun _ => hk

theorem TurnsPort.field {g : motu424_ctx → β} {k : β → AlsaCode α} (hk : ∀ b, TurnsPort env init f (k b)) :
    TurnsPort env init f (field g k) := TurnsPort.access (leavesPort_gets _) hk

theorem TurnsPort.read_reg {offset : U32} {k : U32 → AlsaCode α} (hk : ∀ val, TurnsPort env init f (k val)) :
    TurnsPort env init f (read_reg offset k) := TurnsPort.field fun _ => TurnsPort.access leavesPort_read hk

theorem open_code_turns {g : motu424_linux → motu424_linux} {done : Int → AlsaCode α}
    (hg : ∀ motu, (g motu).machine = motu.machine) (hk : ∀ ret, TurnsPort env init f (done ret)) :
    TurnsPort env init f (open_code g done) := by
  refine Code.Guarded.step (fun motu => ?_) fun _ => hk 0
  rw [exec_update, port_view, hg]
  rfl

theorem clock_pointer_code_turns {runtime : snd_pcm_runtime} {done : U64 → AlsaCode α}
    (hk : ∀ pos, TurnsPort env init f (done pos)) : TurnsPort env init f (clock_pointer_code runtime done) := by
  refine TurnsPort.field fun dma_running => ?_
  split
  · refine TurnsPort.access (fun _ => rfl) fun now => ?_
    exact TurnsPort.field fun start_time_ns => TurnsPort.field fun rate => hk _
  · exact hk 0

theorem pointer_code_turns {substream : snd_pcm_substream} {done : U64 → AlsaCode α}
    (hk : ∀ pos, TurnsPort env init f (done pos)) : TurnsPort env init f (pointer_code substream done) := by
  refine TurnsPort.read_reg fun hw_ptr => TurnsPort.field fun dma_running => ?_
  split
  · refine TurnsPort.field fun dma_size => ?_
    split
    · exact hk _
    · exact clock_pointer_code_turns hk
  · exact clock_pointer_code_turns hk

theorem ack_code_turns {round : Buffer → Buffer → Nat → AlsaCode α → AlsaCode α} {substream : snd_pcm_substream}
    {done : Int → AlsaCode α} (hround : ∀ alsa_buf hw_buf i k, TurnsPort env init f k →
      TurnsPort env init f (round alsa_buf hw_buf i k)) (hk : TurnsPort env init f (done 0)) :
    TurnsPort env init f (ack_code round substream done) := by
  refine TurnsPort.field fun dma_buf => ?_
  split
  · exact Code.Guarded.forEach (hround _ _) _ hk
  · exact hk

theorem playback_ack_round_turns (alsa_buf hw_buf : Buffer) (i : Nat) (hk : TurnsPort env init f k) :
    TurnsPort env init f (playback_ack_round_code alsa_buf hw_buf i k) := by
  refine TurnsPort.access leavesPort_load fun val_l => TurnsPort.access leavesPort_load fun val_r => ?_
  exact TurnsPort.access' (leavesPort_quiet rfl) (TurnsPort.access' (leavesPort_quiet rfl) hk)

theorem capture_ack_round_turns (alsa_buf hw_buf : Buffer) (i : Nat) (hk : TurnsPort env init f k) :
    TurnsPort env init f (capture_ack_round_code alsa_buf hw_buf i k) := by
  refine TurnsPort.access leavesPort_load fun val_l => TurnsPort.access' (leavesPort_quiet rfl) ?_
  exact TurnsPort.access leavesPort_load fun val_r => TurnsPort.access' (leavesPort_quiet rfl) hk

theorem notify_open_code_turns {substream : motu424_linux → Option Nat} (hk : TurnsPort env init f k) :
    TurnsPort env init f (notify_open_code substream k) := by
  refine Code.Guarded.step (fun _ => rfl) fun checked => ?_
  split
  · exact hk
  · refine Code.Guarded.step (fun _ => rfl) fun used => ?_
    exact TurnsPort.access' (leavesPort_notify_open used) hk

theorem irq_code_turns {done : irqreturn_t → AlsaCode α} (hk : ∀ ret, TurnsPort env init f (done ret)) :
    TurnsPort env init f (irq_code done) := by
  refine TurnsPort.read_reg fun status => ?_
  split
  · exact hk _
  · refine TurnsPort.field fun reg => TurnsPort.access' (leavesPort_write (by decide)) ?_
    exact notify_open_code_turns (notify_open_code_turns (hk _))

end lock_free

section locked

variable {good : PortView → Prop} {v : PortView} {k : AlsaCode α}

/-- The code brings the port configuration from one that it finds under the lock to a
good one. -/
abbrev Section (env : Env) (init : ByteMemory) (good : PortView → Prop) (c : AlsaCode α) (v : PortView) : Prop :=
  c.InSection env (port_view init) good v

theorem section_unlock (hgood : good v) (hk : k.Settled env (port_view init)) : Section env init good (.unlock k) v :=
  ⟨hgood, hk⟩

theorem section_step {p : Pal Unit} {w : PortView}
    (hp : ∀ motu, port_view init motu = v → port_view init ((shared p).exec env motu) = w)
    (hk : Section env init good k w) : Section env init good (access' p k) v := by
  intro motu hmotu
  change Section env init good k (port_view init ((shared p).exec env motu))
  rw [hp motu hmotu]
  exact hk

theorem section_access {p : Pal Unit} (hp : LeavesPort env init (shared p)) (hk : Section env init good k v) :
    Section env init good (access' p k) v := Code.InSection.step_quiet hp fun _ => hk

theorem section_field {g : motu424_ctx → β} {k : β → AlsaCode α} (hk : ∀ b, Section env init good (k b) v) :
    Section env init good (field g k) v := Code.InSection.step_quiet (leavesPort_gets _) hk

/-- Nobody changes the pointer to the registers. -/
theorem section_field_reg {k : Iomem .reg → AlsaCode α} (hk : Section env init good (k v.1) v) :
    Section env init good (field motu424_ctx.iobase_reg k) v := by
  refine Code.InSection.step fun motu hmotu => ⟨hmotu, ?_⟩
  have hreg : motu.machine.ctx.iobase_reg = v.1 := congrArg Prod.fst hmotu
  change Section env init good (k motu.machine.ctx.iobase_reg) v
  rw [hreg]
  exact hk

/-- Nor, under the lock, what is remembered of the configuration. -/
theorem section_field_shadow {k : U32 → AlsaCode α} (hk : Section env init good (k v.2.shadow) v) :
    Section env init good (field motu424_ctx.port_conf_shadow k) v := by
  refine Code.InSection.step fun motu hmotu => ⟨hmotu, ?_⟩
  have hshadow : motu.machine.ctx.port_conf_shadow = v.2.shadow := congrArg (fun w => w.2.shadow) hmotu
  change Section env init good (k motu.machine.ctx.port_conf_shadow) v
  rw [hshadow]
  exact hk

theorem section_read_conf {k : U32 → AlsaCode α} (hkeeps : env.Keeps init .reg MOTU_REG_PORT_CONF)
    (hk : Section env init good (k v.2.conf) v) : Section env init good (read_reg MOTU_REG_PORT_CONF k) v := by
  refine section_field_reg (Code.InSection.step fun motu hmotu => ⟨(leavesPort_read motu).trans hmotu, ?_⟩)
  have hconf : env.read32 motu.machine.trace .reg MOTU_REG_PORT_CONF = v.2.conf :=
    (hkeeps _).trans (congrArg (fun w => w.2.conf) hmotu)
  change Section env init good (k (env.read32 motu.machine.trace .reg MOTU_REG_PORT_CONF)) v
  rw [hconf]
  exact hk

theorem port_view_write (motu : motu424_linux) (val : U32) :
    port_view init ((shared (pal_write32 motu.machine.ctx.iobase_reg MOTU_REG_PORT_CONF val)).exec env motu) =
      (port_view init motu).write val := by
  change _ = if motu.machine.ctx.iobase_reg = .null then _ else _
  by_cases hreg : motu.machine.ctx.iobase_reg = .null
  · rw [if_pos hreg, hreg]
    exact @leavesPort_quiet env init (.write .reg none MOTU_REG_PORT_CONF val) rfl motu
  · obtain ⟨base, hbase⟩ := Iomem.exists_addr hreg
    have hconf : port_conf init (motu.machine.trace ++ [.write .reg motu.machine.ctx.iobase_reg.addr
        MOTU_REG_PORT_CONF val]) = val := by
      rw [hbase]
      exact port_conf_write init motu.machine.trace fun _ hs => nomatch hs
    rw [if_neg hreg]
    change (_, (⟨port_conf init (motu.machine.trace ++ [.write .reg motu.machine.ctx.iobase_reg.addr
      MOTU_REG_PORT_CONF val]), _, _⟩ : PortState)) = _
    rw [hconf]
    rfl

theorem section_write_conf {val : U32} (hk : Section env init good k (v.write val)) :
    Section env init good (write_reg MOTU_REG_PORT_CONF val k) v := by
  refine section_field_reg (section_step (fun motu hmotu => ?_) hk)
  have hreg : motu.machine.ctx.iobase_reg = v.1 := congrArg Prod.fst hmotu
  rw [← hreg, port_view_write, hmotu]

theorem section_set_shadow {val : U32} (hk : Section env init good k (v.1, { v.2 with shadow := val })) :
    Section env init good (set_port_conf_shadow val k) v := by
  refine section_step (fun motu hmotu => ?_) hk
  rw [← hmotu]
  rfl

theorem section_set_running {val : Int} (hk : Section env init good k (v.1, { v.2 with dma_running := val })) :
    Section env init good (set_dma_running val k) v := by
  refine section_step (fun motu hmotu => ?_) hk
  rw [← hmotu]
  rfl

theorem PortView.write_of_mapped (hv : v.1 ≠ .null) (val : U32) : v.write val = (v.1, { v.2 with conf := val }) :=
  if_neg hv

/-- The write of a new configuration, with all that goes with it. -/
theorem section_write_port_conf {f : PortState → PortState} {val : U32} {dma_running : Int}
    (hf : f v.2 = .written val dma_running)
    (hk : ∀ w, Turns f v w → Section env init (Turns f v) k w) :
    Section env init (Turns f v) (write_port_conf_code val dma_running k) v := by
  refine section_write_conf (section_set_shadow (section_set_running (hk _ fun hv => ?_)))
  rw [PortView.write_of_mapped hv, hf]
  rfl

theorem playback_prepare_code_turns (substream : snd_pcm_substream) {done : Int → AlsaCode α}
    (hk : ∀ ret, (done ret).Settled env (port_view init)) :
    TurnsPort env init (·.prepare .playback) (playback_prepare_code substream done) := by
  intro v
  have hrest (w : PortView) (hw : Turns (fun p => { p with conf := 0 }) v w) :
      Section env init (Turns (·.prepare .playback) v)
        (set_rate substream.runtime.rate <| set_dma_running 0 <| .unlock <| done 0) w := by
    refine section_access (fun _ => rfl) (section_set_running (section_unlock (fun hv => ?_) (hk 0)))
    rw [hw hv]
    rfl
  have hbase (w : PortView) (hw : Turns (fun p => { p with conf := 0 }) v w) :
      Section env init (Turns (·.prepare .playback) v) (write_dma_base_code <|
        set_rate substream.runtime.rate <| set_dma_running 0 <| .unlock <| done 0) w := by
    refine section_field fun dma_addr => ?_
    split
    · exact section_field fun reg => section_access (leavesPort_write (by decide)) (hrest w hw)
    · exact hrest w hw
  have hconf : Section env init (Turns (·.prepare .playback) v) (write_reg MOTU_REG_PORT_CONF 0 <|
      write_reg MOTU_REG_DMA_SIZE
        (BitVec.ofNat 32 (frames_to_bytes substream.runtime substream.runtime.period_size)) <|
      write_dma_base_code <| set_rate substream.runtime.rate <| set_dma_running 0 <| .unlock <| done 0) v := by
    refine section_write_conf (section_field fun reg => section_access (leavesPort_write (by decide)) ?_)
    exact hbase _ fun hv => PortView.write_of_mapped hv 0
  refine section_field fun dma_buf => ?_
  cases dma_buf with
  | none => exact hconf
  | some buf => exact section_field fun size => section_access (leavesPort_quiet rfl) hconf

theorem capture_prepare_code_turns (substream : snd_pcm_substream) {done : Int → AlsaCode α}
    (hk : ∀ ret, (done ret).Settled env (port_view init)) :
    TurnsPort env init (·.prepare .capture) (capture_prepare_code substream done) := by
  intro v
  exact section_access (fun _ => rfl) (section_set_running (section_unlock (fun _ => rfl) (hk 0)))

theorem trigger_code_turns (hkeeps : env.Keeps init .reg MOTU_REG_PORT_CONF) (substream : snd_pcm_substream)
    (cmd : snd_pcm_trigger) {done : Int → AlsaCode α} (hk : ∀ ret, (done ret).Settled env (port_view init)) :
    TurnsPort env init (·.trigger substream.stream cmd) (trigger_code substream cmd done) := by
  intro v
  have hunlock (ret : Int) (w : PortView) (hw : Turns (·.trigger substream.stream cmd) v w) :
      Section env init (Turns (·.trigger substream.stream cmd) v) (.unlock <| done ret) w :=
    section_unlock hw (hk ret)
  have hclock (w : PortView) (hw : Turns (·.trigger substream.stream cmd) v w) :
      Section env init (Turns (·.trigger substream.stream cmd) v)
        (access ktime_get_ns fun now => set_start_time_ns now <| .unlock <| done 0) w :=
    Code.InSection.step_quiet (fun _ => rfl) fun now => section_access (fun _ => rfl) (hunlock 0 w hw)
  cases cmd with
  | start => exact section_read_conf hkeeps (section_write_port_conf rfl hclock)
  | resume => exact section_read_conf hkeeps (section_write_port_conf rfl hclock)
  | stop => exact section_read_conf hkeeps (section_write_port_conf rfl (hunlock 0))
  | suspend => exact section_read_conf hkeeps (section_write_port_conf rfl (hunlock 0))
  | pause_push => exact section_field_shadow (section_write_port_conf rfl (hunlock 0))
  | pause_release => exact section_field_shadow (section_write_port_conf rfl (hunlock 0))
  | other cmd => exact hunlock _ v fun _ => rfl

end locked

/-- Every callback changes the port configuration as it should, under the lock. -/
theorem Callback.code_turns (hkeeps : env.Keeps init .reg MOTU_REG_PORT_CONF) (callback : Callback) :
    TurnsPort env init callback.port callback.code := by
  have hdone : ∀ _ : Int, (Code.ret () : AlsaCode Unit).Settled env (port_view init) := fun _ => trivial
  have hret : TurnsPort env init id (Code.ret () : AlsaCode Unit) := turnsPort_ret ()
  cases callback with
  | pcm_open substream =>
    obtain ⟨_, stream, _⟩ := substream
    cases stream with
    | playback => exact open_code_turns (fun _ => rfl) fun _ => hret
    | capture => exact open_code_turns (fun _ => rfl) fun _ => hret
  | pcm_close substream =>
    obtain ⟨_, stream, _⟩ := substream
    cases stream with
    | playback => exact open_code_turns (fun _ => rfl) fun _ => hret
    | capture => exact open_code_turns (fun _ => rfl) fun _ => hret
  | prepare substream =>
    obtain ⟨addr, stream, runtime⟩ := substream
    cases stream with
    | playback =>
      have hturns := playback_prepare_code_turns ⟨addr, .playback, runtime⟩ hdone
      exact hturns
    | capture =>
      have hturns := capture_prepare_code_turns ⟨addr, .capture, runtime⟩ hdone
      exact hturns
  | trigger substream cmd =>
    have hturns := trigger_code_turns hkeeps substream cmd hdone
    exact hturns
  | pointer substream =>
    have hturns := @pointer_code_turns env init Unit id substream _ fun _ => hret
    exact hturns
  | ack substream =>
    obtain ⟨addr, stream, runtime⟩ := substream
    cases stream with
    | playback =>
      have hturns := @ack_code_turns env init Unit id playback_ack_round_code ⟨addr, .playback, runtime⟩
        (fun _ => .ret ()) (fun alsa_buf hw_buf i _ => playback_ack_round_turns alsa_buf hw_buf i) hret
      exact hturns
    | capture =>
      have hturns := @ack_code_turns env init Unit id capture_ack_round_code ⟨addr, .capture, runtime⟩
        (fun _ => .ret ()) (fun alsa_buf hw_buf i _ => capture_ack_round_turns alsa_buf hw_buf i) hret
      exact hturns
  | irq =>
    have hturns := @irq_code_turns env init Unit id _ fun _ => hret
    exact hturns

end guards

section schedules

variable {θ : Type} [DecidableEq θ] (env : Env)

/-- A callback that runs alone. -/
def callback_step (motu : motu424_linux) (callback : Callback) : motu424_linux := callback.run.exec env motu

/-- The driver after the processors of a schedule have taken their steps, each through its
own callbacks. -/
def interleave (motu : motu424_linux) (programs : θ → List Callback) (schedule : List θ) :
    System θ Env motu424_linux Unit Callback :=
  run (advance env take_lock drop_lock Callback.code) (.start motu programs) schedule

/-- The driver after an interleaving, against one that ran the callbacks in an order, one
at a time. -/
structure Linearizes (init : ByteMemory) (motu : motu424_linux) (programs : θ → List Callback)
    (S : System θ Env motu424_linux Unit Callback) (order : List (θ × Callback)) : Prop where
  /-- The order is that of each processor. -/
  own_order : ∀ i, own order i <+: programs i
  complete : ∀ i, S.Finished i → own order i = programs i
  /-- Outside the sections the port configuration is that of the serial run. -/
  port_state : S.holder = none →
    S.shared.machine.port_state init = (run (callback_step env) motu (order.map Prod.snd)).machine.port_state init
  /-- Who holds the lock gives it back. -/
  drops : ∀ i, S.holder = some i →
    ∃ n, (run (advance env take_lock drop_lock Callback.code) S (List.replicate n i)).holder = none

variable {env} {init : ByteMemory} (hkeeps : env.Keeps init .reg MOTU_REG_PORT_CONF)
include hkeeps

omit hkeeps in
theorem take_lock_view (motu : motu424_linux) : port_view init (take_lock.exec env motu) = port_view init motu :=
  @leavesPort_quiet env init .spin_lock rfl motu

omit hkeeps in
theorem drop_lock_view (motu : motu424_linux) : port_view init (drop_lock.exec env motu) = port_view init motu :=
  @leavesPort_quiet env init .spin_unlock rfl motu

/-- A callback that runs alone turns the port configuration, too. -/
theorem callback_step_turns (motu : motu424_linux) (callback : Callback) :
    Turns callback.port (port_view init motu) (port_view init (callback_step env motu callback)) := by
  have hexec := (callback.code_turns hkeeps).exec drop_lock_view take_lock_view motu
  rw [callback_step, ← Callback.code_program]
  exact hexec

omit [DecidableEq θ] in
/-- So a serial run ends with the port configuration that the effects in its order have. -/
theorem serial_port_view {order : List (θ × Callback)} {v : PortView} {motu : motu424_linux}
    (hreg : motu.machine.ctx.iobase_reg ≠ .null)
    (horder : InOrder (fun e : θ × Callback => Turns e.2.port) order (port_view init motu) v) :
    v = port_view init (run (callback_step env) motu (order.map Prod.snd)) := by
  induction order generalizing motu with
  | nil =>
    cases horder
    rfl
  | cons e order ih =>
    obtain ⟨u, hfirst, hrest⟩ := inOrder_cons_iff.mp horder
    have hstep : port_view init (callback_step env motu e.2) = u :=
      (callback_step_turns hkeeps motu e.2 hreg).trans (hfirst hreg).symm
    have hreg' : (callback_step env motu e.2).machine.ctx.iobase_reg ≠ .null := by
      have hsame := congrArg Prod.fst (callback_step_turns hkeeps motu e.2 hreg)
      exact fun hnull => hreg (hsame.symm.trans hnull)
    rw [List.map_cons, run_cons]
    rw [← hstep] at hrest
    exact ih hreg' hrest

/-- Under any schedule of any number of processors, each of which runs callbacks of its
own, there is an order of the callbacks that has the same effect on the port
configuration when they run one at a time. -/
theorem callbacks_linearizable {motu : motu424_linux} (hreg : motu.machine.ctx.iobase_reg ≠ .null)
    (programs : θ → List Callback) (schedule : List θ) :
    ∃ order, Linearizes env init motu programs (interleave env motu programs schedule) order := by
  obtain ⟨order, v, hserial⟩ : ∃ order v, Serial env (port_view init) (fun callback => Turns callback.port)
      (port_view init motu) programs (interleave env motu programs schedule) order v :=
    serial_run (Callback.code_turns hkeeps) take_lock_view drop_lock_view motu programs schedule
  refine ⟨order, hserial.own_prefix, fun i => hserial.own_of_finished, fun hfree => ?_, fun i => hserial.drops⟩
  have hview := (hserial.free hfree).trans (serial_port_view hkeeps hreg hserial.effects)
  exact congrArg Prod.snd hview

end schedules

/-- One processor starts playback and asks for its position, and another one stops capture
and takes an interrupt. -/
def two_processors : Bool → List Callback
  | true => [.trigger (test_substream .playback) .start, .pointer (test_substream .playback)]
  | false => [.trigger (test_substream .capture) .stop, .irq]

theorem two_processors_linearizable : ∃ order, Linearizes register_env .zeroed (no_streams ⟨mapped_ctx, []⟩)
    two_processors (interleave register_env (no_streams ⟨mapped_ctx, []⟩) two_processors
      [true, true, true, false, false, true, false, true]) order :=
  callbacks_linearizable (register_env_keeps _) (by decide) two_processors _

end motu424
