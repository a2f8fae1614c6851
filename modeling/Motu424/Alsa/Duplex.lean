import Motu424.Alsa.Shadow

open Program Run

namespace motu424

def snd_pcm_stream.other : snd_pcm_stream → snd_pcm_stream
  | .playback => .capture
  | .capture => .playback

/-- Whether a substream runs after a trigger on it. -/
def snd_pcm_trigger.running (running : Bool) : snd_pcm_trigger → Bool
  | .start | .resume | .pause_release => true
  | .stop | .suspend | .pause_push => false
  | .other _ => running

/-- Whether a substream runs after an operation, which may be one of the other's. -/
def PcmOp.running (stream : snd_pcm_stream) (running : Bool) : PcmOp → Bool
  | .trigger substream cmd => if substream.stream = stream then cmd.running running else running
  | .prepare substream => if substream.stream = stream then false else running
  | .pcm_close substream => if substream.stream = stream then false else running
  | .pcm_open _ => running
  | .hw_stop => running

/-- A substream runs: it was started, resumed or released from a pause, and has
since seen no stop, suspend, pause, prepare or close of its own. -/
def Running (stream : snd_pcm_stream) (history : List PcmOp) : Prop :=
  history.foldl (PcmOp.running stream) false = true

instance (stream : snd_pcm_stream) (history : List PcmOp) : Decidable (Running stream history) :=
  inferInstanceAs (Decidable (_ = _))

/-- A substream has been started or resumed, which gave it a DMA direction. -/
def Started (stream : snd_pcm_stream) (history : List PcmOp) : Prop :=
  ∃ substream cmd, .trigger substream cmd ∈ history ∧ substream.stream = stream ∧
    (cmd = .start ∨ cmd = .resume)

/-- The substream whose prepare or trigger an operation is. -/
def PcmOp.actor : PcmOp → Option snd_pcm_stream
  | .prepare substream => some substream.stream
  | .trigger substream _ => some substream.stream
  | _ => none

/-- The DMA runs in the direction of a substream. -/
def DirectionOf (stream : snd_pcm_stream) (conf : U32) : Prop :=
  conf &&& MOTU_PORT_CONF_DMA_RD ≠ 0 ↔ stream = .playback

/-- The port serves a substream: it is enabled and running, in the direction
that the start of the substream gave it, and the driver knows. -/
structure PortState.Serves (p : PortState) (stream : snd_pcm_stream) (history : List PcmOp) : Prop where
  enabled : p.conf &&& MOTU_PORT_CONF_DMA_EN ≠ 0
  run : p.conf &&& MOTU_PORT_CONF_RUN ≠ 0
  direction : Started stream history → DirectionOf stream p.conf
  dma_running : p.dma_running = 1

/-- A prepare or trigger on one substream leaves the other one running. -/
def Undisturbed (env : Env) (init : ByteMemory) (history : List PcmOp) (motu : motu424_linux)
    (op : PcmOp) : Prop :=
  ∀ stream, op.actor = some stream → Running stream.other history →
    ((pcm_step env motu op).machine.port_state init).Serves stream.other history

/-- The triggers that leave a port in service of the other substream: a start of
a substream next to one that has only ever been released from a pause, a release
whose shadow is the other's configuration, and a command that is refused. -/
def TriggerHarmless (history : List PcmOp) (p : PortState) (other : snd_pcm_stream) :
    snd_pcm_trigger → Prop
  | .start | .resume => ¬ Started other history
  | .stop | .suspend | .pause_push => False
  | .pause_release => p.shadow &&& MOTU_PORT_CONF_RUN ≠ 0 ∧
      (Started other history → DirectionOf other p.shadow)
  | .other _ => p.Serves other history

/-- The operations that do no harm to the other substream: any while that one
does not run, otherwise no prepare and only the harmless triggers. -/
def Harmless (history : List PcmOp) (p : PortState) : PcmOp → Prop
  | .prepare substream => ¬ Running substream.stream.other history
  | .trigger substream cmd =>
    Running substream.stream.other history → TriggerHarmless history p substream.stream.other cmd
  | _ => True

section bits

variable (conf : U32)

/-- Two words that share a set bit. -/
theorem and_ne_zero_of_getLsbD {x y : U32} (i : Nat) (hx : x.getLsbD i = true) (hy : y.getLsbD i = true) :
    x &&& y ≠ 0 := by
  intro hzero
  have hbit : (x &&& y).getLsbD i = true := by rw [BitVec.getLsbD_and, hx, hy]; rfl
  rw [hzero] at hbit
  simp at hbit

/-- Clearing bits that include a mask's clears the mask. -/
theorem and_not_and_eq_zero {cleared mask : U32} (hmask : ~~~cleared &&& mask = 0#32) :
    conf &&& ~~~cleared &&& mask = 0#32 := by
  rw [BitVec.and_assoc, hmask, BitVec.and_zero]

/-- Setting bits outside a mask keeps what the mask selects. -/
theorem or_and_eq_and {added mask : U32} (hmask : added &&& mask = 0#32) :
    (conf ||| added) &&& mask = conf &&& mask := by
  rw [BitVec.and_or_distrib_right, hmask, BitVec.or_zero]

theorem or_enable_and_enable : (conf ||| MOTU_PORT_CONF_DMA_EN) &&& MOTU_PORT_CONF_DMA_EN ≠ 0 :=
  and_ne_zero_of_getLsbD 7 (by simp [MOTU_PORT_CONF_DMA_EN]) (by decide)

theorem start_conf_and_enable (stream : snd_pcm_stream) :
    start_conf stream conf &&& MOTU_PORT_CONF_DMA_EN ≠ 0 := by
  refine and_ne_zero_of_getLsbD 7 ?_ (by decide)
  cases stream <;>
    simp [start_conf, MOTU_PORT_CONF_DMA_EN, MOTU_PORT_CONF_RUN, MOTU_PORT_CONF_DMA_RD]

theorem start_conf_and_run (stream : snd_pcm_stream) :
    start_conf stream conf &&& MOTU_PORT_CONF_RUN ≠ 0 := by
  refine and_ne_zero_of_getLsbD 17 ?_ (by decide)
  cases stream <;>
    simp [start_conf, MOTU_PORT_CONF_DMA_EN, MOTU_PORT_CONF_RUN, MOTU_PORT_CONF_DMA_RD]

/-- A start sets the direction of its own substream. -/
theorem start_conf_direction (stream : snd_pcm_stream) : DirectionOf stream (start_conf stream conf) := by
  cases stream with
  | playback =>
    refine iff_of_true (and_ne_zero_of_getLsbD 18 ?_ (by decide)) rfl
    simp [start_conf, MOTU_PORT_CONF_DMA_RD]
  | capture =>
    refine iff_of_false (not_not.mpr ?_) (by decide)
    exact and_not_and_eq_zero _ (by decide)

end bits

/-- There is one direction bit for both substreams. -/
theorem DirectionOf.not_other {stream : snd_pcm_stream} {conf : U32} (hdirection : DirectionOf stream conf) :
    ¬ DirectionOf stream.other conf := by
  intro hother
  cases stream with
  | playback => exact absurd (hother.mp (hdirection.mpr rfl)) nofun
  | capture => exact absurd (hdirection.mp (hother.mpr rfl)) nofun

namespace PortState

variable {p : PortState} {history : List PcmOp}

theorem not_serves_of_stopped {stream : snd_pcm_stream} (hstopped : p.dma_running = 0) :
    ¬ p.Serves stream history := by
  intro hserves
  have hrunning := hserves.dma_running
  omega

/-- A prepare takes the port out of service. -/
theorem prepare_not_serves (stream other : snd_pcm_stream) : ¬ (p.prepare stream).Serves other history := by
  apply not_serves_of_stopped
  cases stream <;> rfl

/-- A trigger leaves the port in service of the other substream exactly when it
is a harmless one. -/
theorem trigger_serves_other_iff (stream : snd_pcm_stream) (cmd : snd_pcm_trigger) :
    (p.trigger stream cmd).Serves stream.other history ↔
      TriggerHarmless history p stream.other cmd := by
  have hstart : (written (start_conf stream p.conf) 1).Serves stream.other history ↔
      ¬ Started stream.other history := by
    constructor
    · intro hserves hstarted
      exact (start_conf_direction p.conf stream).not_other (hserves.direction hstarted)
    · intro hfresh
      exact ⟨start_conf_and_enable p.conf stream, start_conf_and_run p.conf stream,
        fun hstarted => absurd hstarted hfresh, rfl⟩
  cases cmd with
  | start => exact hstart
  | resume => exact hstart
  | stop => exact iff_of_false (not_serves_of_stopped rfl) not_false
  | suspend => exact iff_of_false (not_serves_of_stopped rfl) not_false
  | pause_push => exact iff_of_false (not_serves_of_stopped rfl) not_false
  | pause_release =>
    have hrun : (p.shadow ||| MOTU_PORT_CONF_DMA_EN) &&& MOTU_PORT_CONF_RUN =
        p.shadow &&& MOTU_PORT_CONF_RUN := or_and_eq_and p.shadow (by decide)
    have hread : (p.shadow ||| MOTU_PORT_CONF_DMA_EN) &&& MOTU_PORT_CONF_DMA_RD =
        p.shadow &&& MOTU_PORT_CONF_DMA_RD := or_and_eq_and p.shadow (by decide)
    constructor
    · intro hserves
      have hdirection := hserves.direction
      simp only [DirectionOf, trigger, written, hread] at hdirection
      exact ⟨hrun ▸ hserves.run, hdirection⟩
    · rintro ⟨hshadow, hdirection⟩
      refine ⟨or_enable_and_enable p.shadow, hrun ▸ hshadow, ?_, rfl⟩
      simp only [DirectionOf, trigger, written, hread]
      exact hdirection
  | other cmd => exact Iff.rfl

end PortState

/-- In every reachable state an operation leaves a running other substream alone
exactly when it is a harmless one. -/
theorem undisturbed_iff_harmless {env : Env} {init : ByteMemory}
    (hkeeps : env.Keeps init .reg MOTU_REG_PORT_CONF) (history : List PcmOp) (motu : motu424_linux)
    (op : PcmOp) (hreg : motu.machine.ctx.iobase_reg ≠ .null) :
    Undisturbed env init history motu op ↔ Harmless history (motu.machine.port_state init) op := by
  obtain ⟨_, hport⟩ := pcm_step_refines hkeeps motu op hreg
  rw [Undisturbed, hport]
  cases op with
  | prepare substream =>
    constructor
    · intro hserves hrunning
      exact PortState.prepare_not_serves _ _ (hserves substream.stream rfl hrunning)
    · intro hidle stream hstream hrunning
      cases hstream
      exact absurd hrunning hidle
  | trigger substream cmd =>
    constructor
    · intro hserves hrunning
      exact (PortState.trigger_serves_other_iff _ _).mp (hserves substream.stream rfl hrunning)
    · intro hharmless stream hstream hrunning
      cases hstream
      exact (PortState.trigger_serves_other_iff _ _).mpr (hharmless hrunning)
  | pcm_open substream => exact iff_of_true nofun trivial
  | pcm_close substream => exact iff_of_true nofun trivial
  | hw_stop => exact iff_of_true nofun trivial

/-- The two substreams do not disturb each other exactly in the runs whose
operations are all harmless. -/
theorem substreams_undisturbed_iff (env : Env) (init : ByteMemory)
    (hkeeps : env.Keeps init .reg MOTU_REG_PORT_CONF) (motu : motu424_linux)
    (hreg : motu.machine.ctx.iobase_reg ≠ .null) (ops : List PcmOp) :
    Along (pcm_step env) motu ops (Undisturbed env init) ↔
    Along (pcm_step env) motu ops fun history s op =>
      Harmless history (s.machine.port_state init) op :=
  along_iff (fun history s op hmapped => undisturbed_iff_harmless hkeeps history s op hmapped)
    (fun _ s op hmapped _ => (pcm_step_refines hkeeps s op hmapped).1) hreg

/-- A playback, and a capture once it has stopped. -/
def in_turn : List PcmOp :=
  [] ++ [.prepare (test_substream .playback)] ++ [.trigger (test_substream .playback) .start] ++
    [.trigger (test_substream .playback) .stop] ++ [.prepare (test_substream .capture)] ++
    [.trigger (test_substream .capture) .start]

/-- Substreams that take turns are harmless to each other. -/
theorem in_turn_undisturbed :
    Along (pcm_step register_env) (no_streams ⟨mapped_ctx, []⟩) in_turn (Undisturbed register_env .zeroed) := by
  refine (substreams_undisturbed_iff register_env .zeroed (register_env_keeps _) (no_streams ⟨mapped_ctx, []⟩)
    mapped_ctx_reg in_turn).mpr ?_
  rw [in_turn]
  simp only [along_append_singleton]
  -- no step meets the other substream running
  refine ⟨⟨⟨⟨⟨along_nil _, ?_⟩, ?_⟩, ?_⟩, ?_⟩, ?_⟩
  · exact fun hrunning => absurd hrunning (by decide)
  · exact fun hrunning => absurd hrunning (by decide)
  · exact fun hrunning => absurd hrunning (by decide)
  · exact fun hrunning => absurd hrunning (by decide)
  · exact fun hrunning => absurd hrunning (by decide)

/-- Preparing capture while playback runs makes the driver forget that the DMA
is running. -/
theorem capture_prepare_disturbs_playback :
    ¬ Along (pcm_step register_env)
      (no_streams (motu424_hw_init.exec register_env ⟨mapped_ctx, []⟩))
      [.trigger (test_substream .playback) .start, .prepare (test_substream .capture)]
      (Undisturbed register_env .zeroed) := by
  intro hundisturbed
  obtain ⟨hreg, _⟩ := motu424_hw_init_in_sync (register_env_keeps _) ⟨mapped_ctx, []⟩ mapped_ctx_reg
  generalize motu424_hw_init.exec register_env ⟨mapped_ctx, []⟩ = m at hreg hundisturbed
  have hstart := (pcm_step_refines (register_env_keeps _) (no_streams m)
    (.trigger (test_substream .playback) .start) hreg).1
  have hharmless := (undisturbed_iff_harmless (register_env_keeps _) _ _ _ hstart).mp
    (hundisturbed [.trigger (test_substream .playback) .start] (.prepare (test_substream .capture)) [] rfl)
  exact hharmless rfl

end motu424
