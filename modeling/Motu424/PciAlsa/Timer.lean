import Motu424.PciAlsa
import Motu424.Foundation.Confined

open Program Run

namespace motu424.pci_alsa

/-- The substream that is open, whether it runs, and whether its timer is pending. -/
structure Stream where
  opened : Option Nat
  running : Bool
  pending : Bool
  deriving DecidableEq, Repr

def Stream.closed : Stream := ⟨none, false, false⟩

/-- What the sound core made of the stream when it was told of a period. -/
inductive Told where
  -- it was not told, or lets the stream run on
  | kept
  -- it stopped the stream
  | stopped
  -- it stopped the stream, and waits for the timer for ever
  | stuck
  deriving DecidableEq, Repr

/-- The sound core came back. -/
def Told.back : Told → Bool
  | .stuck => false
  | _ => true

/-- The stream after the sound core was told. -/
def Stream.heard (s : Stream) : Told → Stream
  | .kept => s
  | _ => { s with running := false, pending := false }

/-- A timer that expires is started again for a stream that is open and runs, also when the
sound core stops that stream and comes back. -/
def Stream.step (s : Stream) : PciCall × Told → Stream
  | (.pcm_open substream, _) => { s with opened := some substream }
  | (.pcm_close, _) => { s with opened := none }
  | (.trigger .start, _) => { s with running := true, pending := true }
  | (.trigger .stop, _) => { s with running := false, pending := false }
  | (.timer, .kept) => { s with pending := s.pending && (s.running && s.opened.isSome) }
  | (.timer, .stopped) => { s with running := false, pending := true }
  | (.timer, .stuck) => { s with running := false, pending := false }
  | (.interrupt, told) => s.heard told
  | _ => s

def PciDriver.stream (d : PciDriver) : Stream where
  opened := d.motu.playback_substream
  running := decide (d.motu.dma_running ≠ 0)
  pending := d.period_timer

/-- What was done since an earlier state. -/
def PciDriver.since (d' d : PciDriver) : List PciEvent := d'.history.drop d.history.length

/-- The event gives notice of a period or deletes the timer. -/
def PciEvent.loud : PciEvent → Bool
  | .period_elapsed _ _ => true
  | .timer_delete_sync _ => true
  | _ => false

/-- The substream that an event gives notice of a period to. -/
def PciEvent.notice : PciEvent → Option Nat
  | .period_elapsed substream _ => some substream
  | _ => none

/-- The sound core answers by stopping the stream. -/
def PciEvent.stops : PciEvent → Bool
  | .period_elapsed _ .stopped => true
  | _ => false

/-- The wait for the timer does not end. -/
def PciEvent.hangs : PciEvent → Bool
  | .timer_delete_sync ends => !ends
  | _ => false

/-- What the sound core made of the stream, by what was done. -/
def told (events : List PciEvent) : Told :=
  if events.any PciEvent.stops then (if events.any PciEvent.hangs then .stuck else .stopped) else .kept

/-- A call, with what the sound core makes of the stream when it is told in it. -/
def told_call (env : PciEnv) (d : PciDriver) (call : PciCall) : PciCall × Told :=
  (call, told ((pci_step env d call).since d))

/-- The timer expires on a stream that runs and is closed. -/
def PciCall.Strands (s : Stream) (call : PciCall) : Prop := call = .timer ∧ s.running = true ∧ s.opened = none

namespace Stream

/-- A stream that does not run has no timer pending. -/
def Quiet (s : Stream) : Prop := s.pending = true → s.running = true

theorem Quiet.heard {s : Stream} (hquiet : s.Quiet) (told : Told) : (s.heard told).Quiet := by
  cases told with
  | kept => exact hquiet
  | stopped => exact fun hpending => hpending
  | stuck => exact fun hpending => hpending

/-- The timer of a stream that was stopped when it expired is pending again. -/
theorem not_quiet_step (s : Stream) : ¬ (s.step (.timer, .stopped)).Quiet := by
  intro hquiet
  cases hquiet rfl

theorem Quiet.step {s : Stream} (hquiet : s.Quiet) {call : PciCall} {told : Told}
    (hstop : (call, told) ≠ (.timer, .stopped)) : (s.step (call, told)).Quiet := by
  cases call with
  | trigger cmd =>
    cases cmd with
    | start => exact fun _ => rfl
    | stop => exact fun hpending => hpending
    | _ => exact hquiet
  | timer =>
    cases told with
    | kept =>
      intro hpending
      rw [Stream.step, Bool.and_eq_true] at hpending
      exact hquiet hpending.1
    | stopped => exact absurd rfl hstop
    | stuck => exact fun hpending => hpending
  | interrupt => exact hquiet.heard told
  | _ => exact hquiet

/-- A stream that runs keeps its timer, unless the timer finds it closed. -/
theorem pending_step {s : Stream} (htimer : s.running = true → s.pending = true) {call : PciCall}
    (hcall : ¬ call.Strands s) (told : Told) :
    (s.step (call, told)).running = true → (s.step (call, told)).pending = true := by
  cases call with
  | trigger cmd =>
    cases cmd with
    | start => exact fun _ => rfl
    | stop => exact fun hrunning => hrunning
    | _ => exact htimer
  | timer =>
    cases told with
    | kept =>
      intro hrunning
      cases hopened : s.opened with
      | none => exact absurd ⟨rfl, hrunning, hopened⟩ hcall
      | some substream =>
        have hrunning' : s.running = true := hrunning
        rw [Stream.step, hopened, htimer hrunning', hrunning', Option.isSome_some, Bool.and_self, Bool.and_self]
    | stopped => exact fun _ => rfl
    | stuck => exact fun hrunning => hrunning
  | interrupt =>
    cases told with
    | kept => exact htimer
    | stopped => exact fun hrunning => hrunning
    | stuck => exact fun hrunning => hrunning
  | _ => exact htimer

end Stream

/-- Code that leaves the stream and its timer alone, gives no notice and deletes no timer. -/
def signals : Confinement PciDriver PciEvent where
  history := PciDriver.history
  same := fun d d' => d'.stream = d.stream
  allowed := fun _ e => e.loud = false
  refl := fun _ => rfl
  trans := fun hfirst hsecond => hsecond.trans hfirst
  allowed_iff := fun _ _ => Iff.rfl

section silent

variable {α : Type} {env : PciEnv} {d : PciDriver}

abbrev Silent (env : PciEnv) (d : PciDriver) (p : PciAlsa α) : Prop := Confined signals env d p

theorem Silent.perform {e : PciEvent} (he : e.loud = false) : Silent env d (perform e) :=
  Confined.update_event rfl rfl he

theorem Silent.ioread32 (offset : U32) : Silent env d (ioread32 offset) :=
  Confined.bind (Confined.asks _) fun _ _ _ => Confined.bind (Silent.perform rfl) fun _ _ _ => Confined.pure _

theorem Silent.iowrite32 (value offset : U32) : Silent env d (iowrite32 value offset) := Silent.perform rfl

theorem snd_pcm_lib_malloc_pages_silent (size : Nat) : Silent env d (snd_pcm_lib_malloc_pages size) := by
  refine Confined.bind (Confined.asks _) fun result d _ => Confined.bind (Silent.perform rfl) fun _ d _ => ?_
  cases result with
  | error err => exact Confined.bind (Confined.update rfl rfl) fun _ _ _ => Confined.pure _
  | ok area => exact Confined.bind (Confined.update rfl rfl) fun _ _ _ => Confined.pure _

theorem snd_pcm_lib_free_pages_silent : Silent env d snd_pcm_lib_free_pages :=
  Confined.bind (Silent.perform rfl) fun _ _ _ => Confined.bind (Confined.update rfl rfl) fun _ _ _ => Confined.pure _

theorem drop_small_buf_silent (hw_bytes : U32) : Silent env d (drop_small_buf hw_bytes) := by
  refine Confined.bind_gets ?_
  cases d.motu.shadow_buf with
  | none => exact Confined.pure _
  | some buf =>
    exact Confined.when fun _ => Confined.bind (Silent.perform rfl) fun _ _ _ => Confined.update rfl rfl

theorem take_buf_silent (hw_bytes : U32) : Silent env d (take_buf hw_bytes) := by
  refine Confined.bind_gets ?_
  cases d.motu.shadow_buf with
  | some buf => exact Confined.pure _
  | none =>
    refine Confined.bind (Confined.update rfl rfl) fun _ d _ => ?_
    refine Confined.bind (Confined.bind (Confined.asks _) fun _ _ _ => Confined.bind (Silent.perform rfl)
      fun _ _ _ => Confined.pure _) fun result d _ => ?_
    cases result with
    | none => exact Confined.pure _
    | some result =>
      refine Confined.bind (Confined.update rfl rfl) fun _ d _ => ?_
      exact Confined.bind (Silent.perform rfl) fun _ _ _ => Confined.pure _

theorem core_hw_params_silent (params : snd_pcm_hw_params) : Silent env d (core_hw_params params) := by
  refine Confined.bind ?_ fun _ d _ => Confined.bind (Confined.when fun _ => Confined.update rfl rfl) fun _ _ _ =>
    Confined.pure _
  refine Confined.bind (snd_pcm_lib_malloc_pages_silent _) fun err d _ => ?_
  cases err with
  | error err => exact Confined.pure _
  | ok _ => exact Confined.bind (drop_small_buf_silent _) fun _ _ _ => take_buf_silent _

theorem snd_motu_hw_free_silent : Silent env d snd_motu_hw_free := by
  refine Confined.bind_gets ?_
  cases d.motu.shadow_buf with
  | none => exact snd_pcm_lib_free_pages_silent
  | some buf =>
    exact Confined.bind (Confined.bind (Silent.perform rfl) fun _ _ _ => Confined.update rfl rfl) fun _ _ _ =>
      snd_pcm_lib_free_pages_silent

theorem prepare_frame_silent (buf frame_idx : Nat) : Silent env d (prepare_frame buf frame_idx) :=
  Confined.bind (Silent.perform rfl) fun _ _ _ => Confined.bind (Silent.perform rfl) fun _ _ _ =>
    Confined.forEach fun _ _ _ _ => Silent.perform rfl

theorem snd_motu_prepare_silent : Silent env d snd_motu_prepare := by
  refine Confined.bind_gets (Confined.bind_gets ?_)
  have hregisters (d' : PciDriver) : Silent env d' (do
      iowrite32 0 0x10
      iowrite32 (d.runtime.period_size.truncate 32 * 392) 0x14
      if d.motu.sg_table ≠ none then iowrite32 (d.motu.sg_table_dma.truncate 32) MOTU_REG_DMA_BASE
      else iowrite32 0 MOTU_REG_DMA_BASE
      pure (0 : Int)) := by
    refine Confined.bind (Silent.iowrite32 _ _) fun _ _ _ => Confined.bind (Silent.iowrite32 _ _) fun _ _ _ => ?_
    refine Confined.ite (fun _ => ?_) fun _ => ?_
    · exact Confined.bind (Silent.iowrite32 _ _) fun _ _ _ => Confined.pure _
    · exact Confined.bind (Silent.iowrite32 _ _) fun _ _ _ => Confined.pure _
  cases d.motu.shadow_buf with
  | none => exact hregisters d
  | some buf =>
    exact Confined.bind (Confined.forEach fun i _ d' _ => prepare_frame_silent buf i) fun _ d' _ => hregisters d'

theorem ack_frame_silent (area buf i : Nat) : Silent env d (ack_frame area buf i) :=
  Confined.bind (Confined.asks _) fun _ _ _ => Confined.bind (Silent.perform rfl) fun _ _ _ =>
    Confined.bind (Confined.asks _) fun _ _ _ => Confined.bind (Silent.perform rfl) fun _ _ _ =>
      Confined.bind (Silent.perform rfl) fun _ _ _ => Silent.perform rfl

theorem snd_motu_ack_silent : Silent env d snd_motu_ack := by
  refine Confined.bind_gets (Confined.bind_gets ?_)
  cases d.motu.shadow_buf with
  | none => exact Confined.pure _
  | some buf =>
    cases d.runtime.dma_area with
    | none => exact Confined.pure _
    | some area =>
      exact Confined.bind (Confined.forEach fun i _ _ _ => ack_frame_silent area buf i) fun _ _ _ => Confined.pure _

theorem snd_motu_pointer_silent : Silent env d snd_motu_pointer := by
  refine Confined.bind_gets (Confined.bind_gets (Confined.ite (fun _ => ?_) fun _ => Confined.pure _))
  exact Confined.bind (Confined.asks _) fun _ _ _ => Confined.pure _

theorem log_tick_silent : Silent env d log_tick :=
  Confined.bind (Silent.ioread32 _) fun _ _ _ => Confined.bind (Silent.ioread32 _) fun _ _ _ =>
    Confined.bind (Silent.ioread32 _) fun _ _ _ => Confined.bind (Silent.ioread32 _) fun _ _ _ => Silent.perform rfl

end silent

section loud

variable {new : List PciEvent}

theorem any_stops_filter : (new.filter PciEvent.loud).any PciEvent.stops = new.any PciEvent.stops := by
  rw [List.any_filter]
  refine congrArg new.any (funext fun e => ?_)
  cases e with
  | _ => rfl

theorem any_hangs_filter : (new.filter PciEvent.loud).any PciEvent.hangs = new.any PciEvent.hangs := by
  rw [List.any_filter]
  refine congrArg new.any (funext fun e => ?_)
  cases e with
  | _ => rfl

theorem told_of_silence : told [] = .kept := rfl

/-- What is loud tells what the sound core made of the stream. -/
theorem told_filter : told (new.filter PciEvent.loud) = told new := by
  rw [told, told, any_stops_filter, any_hangs_filter]

theorem PciEvent.loud_of_notice {e : PciEvent} {x : Nat} (hx : e.notice = some x) : e.loud = true := by
  cases e with
  | period_elapsed => rfl
  | _ => cases hx

end loud

section signals

variable {α β : Type} {env : PciEnv} {d : PciDriver}

/-- Started in a state, the code ends with a value, loud events and a stream that a
relation allows. -/
def Signals (env : PciEnv) (d : PciDriver) (p : PciAlsa α) (Q : α → List PciEvent → Stream → Prop) : Prop :=
  ∃ new, (p.exec env d).history = d.history ++ new ∧
    Q (p.eval env d) (new.filter PciEvent.loud) (p.exec env d).stream

variable {Q R : α → List PciEvent → Stream → Prop}

theorem Signals.pure {a : α} (ha : Q a [] d.stream) : Signals env d (pure a) Q :=
  ⟨[], (List.append_nil _).symm, ha⟩

theorem Signals.mono {p : PciAlsa α} (hp : Signals env d p Q) (himp : ∀ a new s, Q a new s → R a new s) :
    Signals env d p R := by
  obtain ⟨new, hnew, hQ⟩ := hp
  exact ⟨new, hnew, himp _ _ _ hQ⟩

theorem Signals.bind {p : PciAlsa β} {f : β → PciAlsa α} {S : β → List PciEvent → Stream → Prop}
    (hp : Signals env d p S) (hf : ∀ b new d', S b new d'.stream →
      Signals env d' (f b) fun a new' s => Q a (new ++ new') s) : Signals env d (p >>= f) Q := by
  obtain ⟨new, hnew, hS⟩ := hp
  obtain ⟨new', hnew', hQ⟩ := hf _ _ _ hS
  refine ⟨new ++ new', ?_, ?_⟩
  · rw [exec_bind, hnew', hnew, List.append_assoc]
  · rw [List.filter_append]
    exact hQ

/-- What follows a read of the state may use the value that was read. -/
theorem Signals.bind_gets {g : PciDriver → β} {f : β → PciAlsa α} (hf : Signals env d (f (g d)) Q) :
    Signals env d (Program.gets g >>= f) Q := hf

theorem Signals.ite {c : Prop} [Decidable c] {p q : PciAlsa α} (hp : c → Signals env d p Q)
    (hq : ¬ c → Signals env d q Q) : Signals env d (if c then p else q) Q := by
  by_cases hc : c
  · simpa only [if_pos hc] using hp hc
  · simpa only [if_neg hc] using hq hc

theorem Silent.signals {p : PciAlsa α} (hp : Silent env d p) :
    Signals env d p fun _ new s => new = [] ∧ s = d.stream := by
  obtain ⟨hsame, new, hnew, hmute⟩ := hp
  refine ⟨new, hnew, List.filter_eq_nil_iff.mpr fun e he => ?_, hsame⟩
  rw [hmute e he]
  exact Bool.false_ne_true

/-- What follows silent code starts with the same stream. -/
theorem Silent.bind {p : PciAlsa β} {f : β → PciAlsa α} (hp : Silent env d p)
    (hf : ∀ b d', d'.stream = d.stream → Signals env d' (f b) Q) : Signals env d (p >>= f) Q := by
  refine hp.signals.bind fun b new d' h => ?_
  rw [h.1]
  exact hf b d' h.2

theorem perform_signals (e : PciEvent) :
    Signals env d (perform e) fun _ new s => new = [e].filter PciEvent.loud ∧ s = d.stream :=
  ⟨[e], rfl, rfl, rfl⟩

theorem timer_delete_sync_signals : Signals env d timer_delete_sync fun ends new s =>
    new = [.timer_delete_sync ends] ∧ s = { d.stream with pending := false } :=
  ⟨[.timer_delete_sync (env.timer_delete_sync d.history)], rfl, rfl, rfl⟩

theorem snd_motu_trigger_stop_signals : Signals env d (snd_motu_trigger .stop) fun ret new s =>
    new = [.timer_delete_sync ret.isSome] ∧ s = { d.stream with running := false, pending := false } := by
  refine Silent.bind (Silent.perform rfl) fun _ d₁ h₁ => Silent.bind (Silent.ioread32 _) fun _ d₂ h₂ => ?_
  refine Silent.bind (Silent.iowrite32 _ _) fun _ d₃ h₃ => ?_
  have hstream : d₃.stream = d.stream := h₃.trans (h₂.trans h₁)
  have hhalted : Signals env d₃ (set_motu fun motu => { motu with dma_running := 0 }) fun _ new s =>
      new = [] ∧ s = { d.stream with running := false } := by
    rw [← hstream]
    exact ⟨[], (List.append_nil _).symm, rfl, rfl⟩
  refine hhalted.bind fun _ new d₄ h₄ => timer_delete_sync_signals.bind fun ends new' d₅ h₅ => ?_
  obtain ⟨rfl, hhalt⟩ := h₄
  obtain ⟨rfl, hdeleted⟩ := h₅
  rw [hhalt] at hdeleted
  refine Signals.ite (fun hends => ?_) fun hends => ?_
  · rw [hends]
    exact Silent.bind (Silent.perform rfl) fun _ d₆ h₆ => Signals.pure ⟨rfl, h₆.trans hdeleted⟩
  · rw [eq_false_of_ne_true hends]
    exact Signals.pure ⟨rfl, hdeleted⟩

/-- The event is no notice to another substream. -/
def PciEvent.Only (substream : Nat) (e : PciEvent) : Prop := ∀ x, e.notice = some x → x = substream

theorem period_elapsed_only (substream : Nat) (answer : Elapsed) :
    (PciEvent.period_elapsed substream answer).Only substream := fun _ hx => (Option.some.inj hx).symm

theorem only_of_notice {e : PciEvent} (he : e.notice = none) (substream : Nat) : e.Only substream := by
  intro x hx
  rw [he] at hx
  cases hx

/-- The sound core is told once, of the substream, and the stream is what it makes of it. -/
theorem snd_pcm_period_elapsed_signals (substream : Nat) :
    Signals env d (snd_pcm_period_elapsed substream) fun back new s =>
      (∀ e ∈ new, e.Only substream) ∧ back = (told new).back ∧ s = d.stream.heard (told new) := by
  refine (Silent.signals (Confined.asks _)).bind fun answer new d₁ h₁ => ?_
  rw [h₁.1, ← h₁.2]
  refine (perform_signals _).bind fun _ new d₂ h₂ => ?_
  obtain ⟨rfl, hstream⟩ := h₂
  have honly := List.forall_mem_singleton.mpr (period_elapsed_only substream answer)
  cases answer with
  | unheard => exact Signals.pure ⟨honly, rfl, hstream⟩
  | updated =>
    exact Silent.bind snd_motu_pointer_silent fun _ d₃ h₃ => Signals.pure ⟨honly, rfl, h₃.trans hstream⟩
  | stopped =>
    refine Silent.bind snd_motu_pointer_silent fun _ d₃ h₃ => snd_motu_trigger_stop_signals.bind ?_
    rintro ret new d₄ ⟨rfl, hstopped⟩
    rw [h₃.trans hstream] at hstopped
    have honly' := List.forall_mem_cons.mpr ⟨period_elapsed_only substream .stopped,
      List.forall_mem_singleton.mpr (only_of_notice (e := .timer_delete_sync ret.isSome) rfl substream)⟩
    refine Signals.pure ⟨honly', ?_, ?_⟩
    · cases ret with
      | _ => rfl
    · rw [hstopped]
      cases ret with
      | _ => rfl

/-- What a tick does before it gives notice. -/
def count_tick : PciAlsa Unit := do
  let tick ← Program.gets PciDriver.tick
  Program.update fun d => { d with tick := tick + 1 }
  Program.when (tick.srem 10 = 0) log_tick

theorem count_tick_silent : Silent env d count_tick :=
  Confined.bind (Confined.gets _) fun _ _ _ => Confined.bind (Confined.update rfl rfl) fun _ _ _ =>
    Confined.when fun _ => log_tick_silent

/-- A tick of a stream that runs. -/
def tick_stream (substream : Nat) : PciAlsa Unit := do
  count_tick
  let back ← snd_pcm_period_elapsed substream
  Program.when (back = true) (mod_timer 10)

theorem mod_timer_signals (msecs : Nat) :
    Signals env d (mod_timer msecs) fun _ new s => new = [] ∧ s = { d.stream with pending := true } :=
  ⟨[.mod_timer msecs], rfl, rfl, rfl⟩

/-- The timer is started again if the sound core comes back. -/
theorem tick_stream_signals (substream : Nat) :
    Signals env d (tick_stream substream) fun _ new s =>
      (∀ e ∈ new, e.Only substream) ∧ s = { d.stream.heard (told new) with pending := (told new).back } := by
  refine Silent.bind count_tick_silent fun _ d₁ h₁ => (snd_pcm_period_elapsed_signals substream).bind ?_
  rintro back new d₂ ⟨honly, hback, hstream⟩
  rw [h₁] at hstream
  rw [hback]
  refine Signals.ite (fun hback => (mod_timer_signals 10).mono ?_) fun hback => Signals.pure ?_
  · rintro _ new' s ⟨rfl, hstarted⟩
    rw [List.append_nil]
    refine ⟨honly, ?_⟩
    rw [hstarted, hstream, hback]
  · rw [List.append_nil]
    refine ⟨honly, ?_⟩
    rw [hstream]
    cases htold : told new with
    | stuck => rfl
    | kept =>
      rw [htold] at hback
      exact absurd rfl hback
    | stopped =>
      rw [htold] at hback
      exact absurd rfl hback

/-- Notice is given to a stream that is open and runs only. -/
def Stream.Fits (s : Stream) (new : List PciEvent) : Prop :=
  ∀ e ∈ new, ∀ x, e.notice = some x → s.opened = some x ∧ s.running = true

theorem fits_nil (s : Stream) : s.Fits [] := List.forall_mem_nil _

theorem fits_of_only {s : Stream} {substream : Nat} {new : List PciEvent} (hopened : s.opened = some substream)
    (hrunning : s.running = true) (honly : ∀ e ∈ new, e.Only substream) : s.Fits new := by
  intro e he x hx
  rw [honly e he x hx]
  exact ⟨hopened, hrunning⟩

/-- A timer that expired starts again for a stream that is open and runs. -/
theorem motu_timer_function_signals (hexpired : d.period_timer = false) :
    Signals env d motu_timer_function fun _ new s =>
      d.stream.Fits new ∧ s = { d.stream with pending := true }.step (.timer, told new) := by
  have hidle (hgone : (d.stream.running && d.stream.opened.isSome) = false) :
      d.stream.Fits [] ∧ d.stream = { d.stream with pending := true }.step (.timer, told []) := by
    refine ⟨fits_nil _, ?_⟩
    have hpending : d.stream.pending = false := hexpired
    rw [told_of_silence, Stream.step, hgone, Bool.and_false, ← hpending]
  refine Signals.bind_gets ?_
  cases hopened : d.motu.playback_substream with
  | none =>
    refine Signals.pure (hidle ?_)
    rw [PciDriver.stream, hopened, Option.isSome_none, Bool.and_false]
  | some substream =>
    refine Signals.ite (fun hrunning => ?_) fun hstopped => Signals.pure (hidle ?_)
    · have hruns : d.stream.running = true := decide_eq_true hrunning
      refine Signals.mono (tick_stream_signals substream) ?_
      rintro _ new s ⟨honly, hs⟩
      refine ⟨fits_of_only hopened hruns honly, ?_⟩
      rw [hs]
      have hopened' : d.stream.opened = some substream := hopened
      have hboth : (d.stream.running && d.stream.opened.isSome) = true := by
        rw [hruns, hopened', Option.isSome_some, Bool.and_self]
      cases told new with
      | kept =>
        rw [Stream.step, hboth]
        rfl
      | stopped => rfl
      | stuck => rfl
    · rw [PciDriver.stream, decide_eq_false hstopped, Bool.false_and]

/-- An interrupt gives notice to that stream too, but it leaves the timer alone. -/
theorem snd_motu_interrupt_signals : Signals env d snd_motu_interrupt fun _ new s =>
    d.stream.Fits new ∧ s = d.stream.step (.interrupt, told new) := by
  have hquiet {d' : PciDriver} (hstream : d'.stream = d.stream) (ret : Option irqreturn_t) :
      Signals env d' (pure ret) fun _ new s => d.stream.Fits new ∧ s = d.stream.step (.interrupt, told new) :=
    Signals.pure ⟨fits_nil _, hstream⟩
  refine Silent.bind (Silent.ioread32 _) fun status d₁ h₁ => Signals.ite (fun _ => hquiet h₁ _) fun _ => ?_
  refine Silent.bind (Silent.perform rfl) fun _ d₂ h₂ => Silent.bind (Silent.iowrite32 _ _) fun _ d₃ h₃ => ?_
  have hstream : d₃.stream = d.stream := h₃.trans (h₂.trans h₁)
  refine Signals.bind_gets ?_
  cases hopened : d₃.motu.playback_substream with
  | none => exact hquiet hstream _
  | some substream =>
    refine Signals.ite (fun hrunning => ?_) fun _ => hquiet hstream _
    refine (snd_pcm_period_elapsed_signals substream).bind ?_
    rintro back new d₄ ⟨honly, _, hheard⟩
    rw [hstream] at hheard
    have hopened' : d.stream.opened = some substream := by
      rw [← hstream]
      exact hopened
    have hruns : d.stream.running = true := by
      rw [← hstream]
      exact decide_eq_true hrunning
    refine Signals.pure ?_
    rw [List.append_nil]
    exact ⟨fits_of_only hopened' hruns honly, hheard⟩

/-- A start leaves the stream running, with its timer pending. -/
theorem snd_motu_trigger_start_signals : Signals env d (snd_motu_trigger .start) fun _ new s =>
    new = [] ∧ s = { d.stream with running := true, pending := true } := by
  refine Silent.bind (Silent.perform rfl) fun _ d₁ h₁ => Silent.bind (Silent.ioread32 _) fun _ d₂ h₂ => ?_
  refine Silent.bind (Silent.iowrite32 _ _) fun _ d₃ h₃ => Silent.bind (Confined.asks _) fun now d₄ h₄ => ?_
  have hstream : d₄.stream = d.stream := h₄.trans (h₃.trans (h₂.trans h₁))
  have hset : Signals env d₄ (set_motu fun motu => { motu with start_time_ns := now, dma_running := 1 })
      fun _ new s => new = [] ∧ s = { d.stream with running := true } := by
    rw [← hstream]
    exact ⟨[], (List.append_nil _).symm, rfl, rfl⟩
  refine hset.bind ?_
  rintro _ _ d₅ ⟨rfl, h₅⟩
  refine (mod_timer_signals 10).bind ?_
  rintro _ _ d₆ ⟨rfl, h₆⟩
  rw [h₅] at h₆
  exact Silent.bind (Silent.perform rfl) fun _ d₇ h₇ => Signals.pure ⟨rfl, h₇.trans h₆⟩

/-- What a call makes of the stream, and to whom it gives notice. -/
def Follows (env : PciEnv) (d : PciDriver) (call : PciCall) : Prop :=
  (pci_step env d call).stream = d.stream.step (told_call env d call) ∧
    d.stream.Fits ((pci_step env d call).since d)

theorem Signals.follows {p : PciAlsa α} {call : PciCall} (hcall : pci_step env d call = p.exec env d)
    (hp : Signals env d p fun _ new s => d.stream.Fits new ∧ s = d.stream.step (call, told new)) :
    Follows env d call := by
  obtain ⟨new, hnew, hfits, hs⟩ := hp
  have hsince : (pci_step env d call).since d = new := by rw [PciDriver.since, hcall, hnew, List.drop_left]
  rw [Follows, told_call, hsince, hcall]
  refine ⟨?_, fun e he x hx => ?_⟩
  · rw [hs, told_filter]
  · exact hfits e (List.mem_filter.mpr ⟨he, PciEvent.loud_of_notice hx⟩) x hx

/-- A call that is silent but for what it makes of the stream. -/
theorem follows_of_silence {p : PciAlsa α} {call : PciCall} (hcall : pci_step env d call = p.exec env d)
    (hp : Signals env d p fun _ new s => new = [] ∧ s = d.stream.step (call, .kept)) : Follows env d call := by
  refine (hp.mono ?_).follows hcall
  rintro _ new s ⟨rfl, hs⟩
  exact ⟨fits_nil _, hs⟩

theorem snd_motu_trigger_follows (cmd : snd_pcm_trigger) : Follows env d (.trigger cmd) := by
  have hrefused : Signals env d (do
      perform .spin_lock
      perform .spin_unlock
      pure (some (-EINVAL))) fun _ new s => new = [] ∧ s = d.stream :=
    Silent.bind (Silent.perform rfl) fun _ d₁ h₁ => Silent.bind (Silent.perform rfl) fun _ d₂ h₂ =>
      Signals.pure ⟨rfl, h₂.trans h₁⟩
  cases cmd with
  | start => exact follows_of_silence rfl snd_motu_trigger_start_signals
  | stop =>
    refine Signals.follows (p := snd_motu_trigger .stop) rfl (snd_motu_trigger_stop_signals.mono ?_)
    rintro ret new s ⟨rfl, hs⟩
    refine ⟨?_, hs⟩
    intro e he x hx
    rw [List.mem_singleton.mp he] at hx
    cases hx
  | _ => exact follows_of_silence rfl hrefused

theorem expire_follows : Follows env d .timer := by
  refine Signals.follows (p := expire) rfl (Signals.bind_gets (Signals.ite (fun hpending => ?_) fun hpending => ?_))
  · have hstream : { { d with period_timer := false }.stream with pending := true } = d.stream := by
      rw [← hpending]
      rfl
    have htimer := @motu_timer_function_signals env { d with period_timer := false } rfl
    rw [hstream] at htimer
    exact htimer
  · refine Signals.pure ⟨fits_nil _, ?_⟩
    have hgone : d.stream.pending = false := eq_false_of_ne_true hpending
    rw [told_of_silence, Stream.step, hgone, Bool.false_and, ← hgone]

/-- The driver follows the stream machine at every call. -/
theorem pci_step_follows (call : PciCall) : Follows env d call := by
  cases call with
  | pcm_open substream => exact follows_of_silence rfl ⟨[.new_runtime], rfl, rfl, rfl⟩
  | pcm_close => exact follows_of_silence rfl ⟨[], (List.append_nil _).symm, rfl, rfl⟩
  | hw_params params => exact follows_of_silence rfl (core_hw_params_silent params).signals
  | hw_free => exact follows_of_silence rfl snd_motu_hw_free_silent.signals
  | prepare => exact follows_of_silence rfl snd_motu_prepare_silent.signals
  | trigger cmd => exact snd_motu_trigger_follows cmd
  | pointer => exact follows_of_silence rfl snd_motu_pointer_silent.signals
  | ack => exact follows_of_silence rfl snd_motu_ack_silent.signals
  | timer => exact expire_follows
  | interrupt => exact snd_motu_interrupt_signals.follows rfl

end signals

/-- The driver and the stream machine, at the end of a run. -/
theorem run_stream (env : PciEnv) (calls : List PciCall) : (run (pci_step env) .probed calls).stream =
    run Stream.step .closed (notes (pci_step env) (told_call env) .probed calls) :=
  run_notes fun _ call => (pci_step_follows call).1

/-- Whatever is asked of the driver, in any order, and whatever the sound core does when it is told of a period: the
stream is what the opens, closes, starts and stops and the sound core made of it, notice of a period is only given to
a stream that is open and runs, no timer is pending unless the stream runs, exactly as long as no stream is stopped by
the sound core in a tick that then goes on, and a stream that runs has its timer pending as long as no timer found it
running and closed. -/
theorem period_timer_follows (env : PciEnv) (calls : List PciCall) :
    (run (pci_step env) .probed calls).stream =
      run Stream.step .closed (notes (pci_step env) (told_call env) .probed calls) ∧
    Along (pci_step env) .probed calls (fun _ d call => ∀ e ∈ (pci_step env d call).since d, ∀ x,
      e.notice = some x → d.stream.opened = some x ∧ d.stream.running = true) ∧
    (Along (pci_step env) .probed calls (fun _ d call => (pci_step env d call).stream.Quiet) ↔
      Along (pci_step env) .probed calls (fun _ d call => told_call env d call ≠ (.timer, .stopped))) ∧
    (Along (pci_step env) .probed calls (fun _ d call => ¬ call.Strands d.stream) →
      (run (pci_step env) .probed calls).stream.running = true →
      (run (pci_step env) .probed calls).stream.pending = true) := by
  refine ⟨run_stream env calls, ?_, ?_, ?_⟩
  · intro before call after _
    exact (pci_step_follows call).2
  · have hquiet (d : PciDriver) (call : PciCall) (hd : d.stream.Quiet)
        (htold : told_call env d call ≠ (.timer, .stopped)) : (pci_step env d call).stream.Quiet := by
      rw [(pci_step_follows call).1]
      exact hd.step htold
    refine along_iff (I := fun d => d.stream.Quiet) (fun _ d call hd => ⟨fun hafter htold => ?_, hquiet d call hd⟩)
      (fun _ d call hd htold => hquiet d call hd htold) fun hpending => hpending
    rw [(pci_step_follows call).1, htold] at hafter
    exact Stream.not_quiet_step _ hafter
  · intro hguard
    refine (@guarded_invariant _ _ _ _ _ (fun d => d.stream.running = true → d.stream.pending = true) _ ?_
      (fun hrunning => hrunning) hguard).2
    intro _ d call htimer hcall
    rw [(pci_step_follows call).1]
    exact Stream.pending_step htimer hcall _

/-- A stream that is stopped at its first tick has its timer started again. -/
example : (run (pci_step { PciEnv.idle with period_elapsed := fun _ _ => .stopped }) .probed
    [.pcm_open 1, .trigger .start, .timer]).stream = ⟨some 1, false, true⟩ := by decide

end motu424.pci_alsa
