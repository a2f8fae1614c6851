import Motu424.Alsa.Position

open Program Run SampleClock

namespace motu424

/-- A pause: when it begins and when it ends. -/
structure Pause where
  push : U64
  release : U64

/-- The commands of a pause with their times. -/
def Pause.commands (p : Pause) : List (U64 × snd_pcm_trigger) :=
  [(p.push, .pause_push), (p.release, .pause_release)]

/-- A start and any number of pauses. -/
def paused_play (start : U64) (pauses : List Pause) : List (U64 × snd_pcm_trigger) :=
  (start, .start) :: pauses.flatMap Pause.commands

/-- A trigger command at its time. -/
def timed_trigger (env : Env) (substream : snd_pcm_substream) (m : Machine) (op : U64 × snd_pcm_trigger) :
    Machine :=
  (motu424_trigger substream op.2).exec (env.at_time op.1) m

/-- From a time on, the times of the pauses and of the call do not go back. -/
def Ordered (since : Nat) : List Pause → Nat → Prop
  | [], call => since ≤ call
  | p :: pauses, call =>
    since ≤ p.push.toNat ∧ p.push.toNat ≤ p.release.toNat ∧ Ordered p.release.toNat pauses call

instance decidableOrdered : (since : Nat) → (pauses : List Pause) → (call : Nat) →
    Decidable (Ordered since pauses call)
  | since, [], call => inferInstanceAs (Decidable (since ≤ call))
  | _, p :: pauses, call =>
    have := decidableOrdered p.release.toNat pauses call
    inferInstanceAs (Decidable (_ ∧ _ ∧ _))

/-- The time spent running from a time on until the call. -/
def running_ns (since : Nat) : List Pause → Nat → Nat
  | [], call => call - since
  | p :: pauses, call => (p.push.toNat - since) + running_ns p.release.toNat pauses call

/-- The time spent in pauses. -/
def paused_ns : List Pause → Nat
  | [] => 0
  | p :: pauses => (p.release.toNat - p.push.toNat) + paused_ns pauses

/-- Running and pausing fill the time until the call. -/
theorem running_add_paused {since : Nat} {pauses : List Pause} {call : Nat}
    (hordered : Ordered since pauses call) :
    since ≤ call ∧ running_ns since pauses call + paused_ns pauses = call - since := by
  induction pauses generalizing since with
  | nil => exact ⟨hordered, rfl⟩
  | cons p pauses ih =>
    obtain ⟨hpush, hrelease, hrest⟩ := hordered
    obtain ⟨hcall, hsum⟩ := ih hrest
    rw [running_ns, paused_ns]
    omega

/-- The driver plays, and takes the stream to have run since a time. -/
structure PlaysSince (start : U64) (rate : U32) (m : Machine) : Prop where
  running : m.ctx.dma_running = 1
  start : m.ctx.start_time_ns = start
  rate : m.ctx.rate = rate

section run

variable {env : Env} {substream : snd_pcm_substream}

theorem start_plays (m : Machine) (start : U64) :
    PlaysSince start m.ctx.rate (timed_trigger env substream m (start, .start)) := by
  rw [timed_trigger, exec_trigger_start (env.at_time start) m substream (.inl rfl)]
  exact ⟨rfl, rfl, rfl⟩

/-- A pause leaves no trace in what the pointer goes by. -/
theorem pause_plays {start : U64} {rate : U32} {m : Machine} (hplays : PlaysSince start rate m)
    (p : Pause) : PlaysSince start rate (run (timed_trigger env substream) m p.commands) := by
  rw [Pause.commands, run_cons, run_cons, run_nil, timed_trigger, timed_trigger,
    exec_trigger_pause_release, exec_trigger_pause_push]
  exact ⟨rfl, hplays.start, hplays.rate⟩

theorem pauses_play {start : U64} {rate : U32} {m : Machine} (hplays : PlaysSince start rate m)
    (pauses : List Pause) :
    PlaysSince start rate (run (timed_trigger env substream) m (pauses.flatMap Pause.commands)) := by
  induction pauses generalizing m with
  | nil => exact hplays
  | cons p pauses ih =>
    rw [List.flatMap_cons, run_append]
    exact ih (pause_plays hplays p)

/-- After any pauses the driver still counts from the start. -/
theorem paused_play_plays (m : Machine) (start : U64) (pauses : List Pause) :
    PlaysSince start m.ctx.rate (run (timed_trigger env substream) m (paused_play start pauses)) := by
  rw [paused_play, run_cons]
  exact pauses_play (start_plays m start) pauses

end run

/-- At the call the pointer is where the stream is after the time it has been running. -/
def PausesExact (env : Env) (m : Machine) (start : U64) (pauses : List Pause) (call : U64)
    (substream : snd_pcm_substream) : Prop :=
  PositionAfter (env.at_time call) (run (timed_trigger env substream) m (paused_play start pauses))
    substream (running_ns start.toNat pauses call.toNat)

/-- The pointer counts the whole time since the start. -/
theorem eval_paused_pointer (env : Env) (m : Machine) {start : U64} {pauses : List Pause} {call : U64}
    (hordered : Ordered start.toNat pauses call.toNat)
    (hregister : ∀ trace, env.read32 trace .reg MOTU_REG_DMA_CTRL = 0)
    (hfits : (call.toNat - start.toNat) * m.ctx.rate.toNat < 2 ^ 64) {substream : snd_pcm_substream}
    (hsize : 0 < substream.runtime.buffer_size.toNat) :
    ((motu424_pointer substream).eval (env.at_time call)
        (run (timed_trigger env substream) m (paused_play start pauses))).toNat =
      samples NSEC_PER_SEC m.ctx.rate.toNat
        (running_ns start.toNat pauses call.toNat + paused_ns pauses) %
          substream.runtime.buffer_size.toNat := by
  obtain ⟨hlater, hsum⟩ := running_add_paused hordered
  have hplays : PlaysSince start m.ctx.rate
      (run (timed_trigger env substream) m (paused_play start pauses)) := paused_play_plays m start pauses
  generalize run (timed_trigger env substream) m (paused_play start pauses) = s at hplays
  have hpos : NoPosition (env.at_time call) s := ⟨hplays.running, hregister s.trace⟩
  have helapsed : elapsed_ns (env.at_time call) s = call.toNat - start.toNat := by
    rw [elapsed_ns, hplays.start]
    rfl
  have hpointer := @eval_motu424_pointer_by_time (env.at_time call) s hpos
    (by rw [hplays.start]; exact hlater) substream hsize
  rw [hpointer, helapsed, hplays.rate, Nat.mod_eq_of_lt hfits, hsum]
  rfl

/-- The pointer counts the pauses as if the stream had been running. For a given
ring it is exact when the samples of the pauses fill the ring a whole number of
times, and for all rings when all pauses together do not complete the sample that
has begun. -/
theorem pauses_exact_iff (env : Env) (m : Machine) (start : U64) (pauses : List Pause) (call : U64)
    (hordered : Ordered start.toNat pauses call.toNat)
    (hregister : ∀ trace, env.read32 trace .reg MOTU_REG_DMA_CTRL = 0)
    (hfits : (call.toNat - start.toNat) * m.ctx.rate.toNat < 2 ^ 64) :
    (∀ substream : snd_pcm_substream, 0 < substream.runtime.buffer_size.toNat →
      (PausesExact env m start pauses call substream ↔ substream.runtime.buffer_size.toNat ∣
        samples NSEC_PER_SEC m.ctx.rate.toNat
            (running_ns start.toNat pauses call.toNat + paused_ns pauses) -
          samples NSEC_PER_SEC m.ctx.rate.toNat (running_ns start.toNat pauses call.toNat))) ∧
    ((∀ substream : snd_pcm_substream, 0 < substream.runtime.buffer_size.toNat →
      PausesExact env m start pauses call substream) ↔
        running_ns start.toNat pauses call.toNat * m.ctx.rate.toNat % NSEC_PER_SEC +
          paused_ns pauses * m.ctx.rate.toNat < NSEC_PER_SEC) := by
  have hmono := @samples_mono NSEC_PER_SEC m.ctx.rate.toNat _ _
    (Nat.le_add_right (running_ns start.toNat pauses call.toNat) (paused_ns pauses))
  have hring (substream : snd_pcm_substream) (hsize : 0 < substream.runtime.buffer_size.toNat) :
      PausesExact env m start pauses call substream ↔
        samples NSEC_PER_SEC m.ctx.rate.toNat (running_ns start.toNat pauses call.toNat) %
            substream.runtime.buffer_size.toNat =
          samples NSEC_PER_SEC m.ctx.rate.toNat
            (running_ns start.toNat pauses call.toNat + paused_ns pauses) %
              substream.runtime.buffer_size.toNat := by
    rw [PausesExact, PositionAfter, eval_paused_pointer env m hordered hregister hfits hsize,
      (paused_play_plays m start pauses).rate]
    exact eq_comm
  constructor
  · intro substream hsize
    rw [hring substream hsize, mod_eq_mod_iff hmono]
  · have hnsec : 0 < NSEC_PER_SEC := by decide
    have hfew : samples NSEC_PER_SEC m.ctx.rate.toNat
        (running_ns start.toNat pauses call.toNat + paused_ns pauses) < 2 ^ 63 := by
      rw [(running_add_paused hordered).2, samples, NSEC_PER_SEC]
      omega
    rw [forall₂_congr hring, forall_rings_iff hmono hfew, samples_add_eq_iff hnsec]

/-- A pause of a microsecond, after a second. -/
def short_pause : Pause := ⟨1000000000, 1000001000⟩

theorem short_pause_exact :
    (∀ substream : snd_pcm_substream, 0 < substream.runtime.buffer_size.toNat →
      (PausesExact .idle ⟨mapped_ctx, []⟩ 0 [short_pause] 2000000000 substream ↔
        substream.runtime.buffer_size.toNat ∣
          samples NSEC_PER_SEC 48000 (1999999000 + 1000) - samples NSEC_PER_SEC 48000 1999999000)) ∧
    ((∀ substream : snd_pcm_substream, 0 < substream.runtime.buffer_size.toNat →
      PausesExact .idle ⟨mapped_ctx, []⟩ 0 [short_pause] 2000000000 substream) ↔
        1999999000 * 48000 % NSEC_PER_SEC + 1000 * 48000 < NSEC_PER_SEC) :=
  pauses_exact_iff .idle ⟨mapped_ctx, []⟩ 0 [short_pause] 2000000000 (by decide)
    (fun _ => rfl) (by decide)

/-- A pause of a second, after a second. -/
def long_pause : Pause := ⟨1000000000, 2000000000⟩

/-- A second later the stream has run for two seconds, a whole number of rings of
256 frames, and the pointer is in the middle of the ring. -/
theorem long_pause_invents_audio :
    Ordered 0 [long_pause] 3000000000 ∧ running_ns 0 [long_pause] 3000000000 = 2000000000 ∧
    samples NSEC_PER_SEC 48000 2000000000 % 256 = 0 ∧
    (motu424_pointer (test_substream .playback)).eval (Env.idle.at_time 3000000000)
      (run (timed_trigger .idle (test_substream .playback)) ⟨mapped_ctx, []⟩
        (paused_play 0 [long_pause])) = 128 ∧
    ¬ PausesExact .idle ⟨mapped_ctx, []⟩ 0 [long_pause] 3000000000 (test_substream .playback) := by
  have hpointer : (motu424_pointer (test_substream .playback)).eval (Env.idle.at_time 3000000000)
      (run (timed_trigger .idle (test_substream .playback)) ⟨mapped_ctx, []⟩
        (paused_play 0 [long_pause])) = 128 := by decide
  have hring : samples NSEC_PER_SEC 48000 2000000000 % 256 = 0 := by decide
  refine ⟨by decide, by decide, hring, hpointer, fun hexact => ?_⟩
  rw [PausesExact, PositionAfter, hpointer] at hexact
  exact absurd (hexact.trans hring) (by decide)

end motu424
