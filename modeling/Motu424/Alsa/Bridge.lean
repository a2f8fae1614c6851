import Motu424.Alsa.Leak

open Program Flow Function

namespace motu424

/-- The outside of the `ack` callbacks while the device leaves the hardware buffer
alone, with its initial words and the samples of the application by area and index. -/
def bridge_env (hw : Nat → U32) (samples : Nat → Nat → U32) : Env :=
  ack_env hw (fun _ => []) fun x => samples x.2.1 x.2.2

/-- The words of the hardware buffer in a state of the driver. -/
def Machine.buffer_words (hw : Nat → U32) (m : Machine) : Nat → U32 := hw_words (fun _ => []) 0 m.trace hw

/-- The word of the hardware buffer for a sample of the application's interleaved ones. -/
def sample_word (k : Nat) : Nat := k / 2 * MOTU_CHANNELS_PER_FRAME + 2 + k % 2

theorem sample_word_left (i : Nat) : sample_word (2 * i) = i * MOTU_CHANNELS_PER_FRAME + 2 := by
  rw [sample_word, Nat.mul_div_cancel_left i (by omega), Nat.mul_mod_right, Nat.add_zero]

theorem sample_word_right (i : Nat) : sample_word (2 * i + 1) = i * MOTU_CHANNELS_PER_FRAME + 3 := by
  have hframe : (2 * i + 1) / 2 = i := by omega
  have hright : (2 * i + 1) % 2 = 1 := by omega
  rw [sample_word, hframe, hright]

theorem sample_word_injective : Injective sample_word := by
  intro j k hsame
  unfold sample_word MOTU_CHANNELS_PER_FRAME at hsame
  omega

/-- Frames of two samples in a row are the samples in a row. -/
theorem flatMap_pair_range {α : Type} (f : Nat → α) (frames : Nat) :
    (List.range frames).flatMap (fun i => [f (2 * i), f (2 * i + 1)]) = (List.range (2 * frames)).map f := by
  induction frames with
  | zero => rfl
  | succ frames ih =>
    rw [List.range_succ, List.flatMap_append, ih, Nat.mul_succ, List.range_succ, List.range_succ]
    simp

section rounds

variable (hw : Nat → U32) (samples : Nat → Nat → U32)

/-- The playback callback puts the samples in order. -/
theorem playback_accesses (area start frames : Nat) :
    (List.range frames).flatMap
        (fun i => ack_round_accesses (fun _ => []) area (start + 4 * i) i .playback) =
      (List.range (2 * frames)).map
        fun k => .put (sample_word k) (start + 4 * (k / 2) + k % 2, area, k) := by
  rw [← flatMap_pair_range]
  congr 1
  funext i
  have hframe : (2 * i + 1) / 2 = i := by omega
  have hright : (2 * i + 1) % 2 = 1 := by omega
  rw [sample_word_left, sample_word_right, hframe, hright]
  simp [ack_round_accesses, device_accesses, Nat.mul_comm i 2]

/-- The capture callback gets them in order. -/
theorem capture_accesses (area start frames : Nat) :
    (List.range frames).flatMap
        (fun i => ack_round_accesses (fun _ => []) area (start + 4 * i) i .capture) =
      (List.range (2 * frames)).map fun k => .get (area, k) (sample_word k) := by
  rw [← flatMap_pair_range]
  congr 1
  funext i
  rw [sample_word_left, sample_word_right]
  simp [ack_round_accesses, device_accesses, Nat.mul_comm i 2]

/-- The hardware buffer after the playback callback. -/
theorem buffer_words_playback_ack (m : Machine) {substream : snd_pcm_substream} {buf area : Nat}
    (hbuf : m.ctx.dma_buf = some buf) (harea : substream.runtime.dma_area = some area) :
    ((motu424_playback_ack substream).exec (bridge_env hw samples) m).buffer_words hw =
      memory (fun x => samples x.2.1 x.2.2) (m.buffer_words hw)
        ((List.range (2 * substream.runtime.buffer_size.toNat)).map
          fun k => (.put (sample_word k) (m.trace.length + 4 * (k / 2) + k % 2, area, k) : AckAccess)) := by
  have hperforms := @motu424_ack_performs hw (fun _ => []) (fun x => samples x.2.1 x.2.2) m .playback
    substream buf area hbuf harea
  rw [playback_accesses] at hperforms
  obtain ⟨_, _, _, _, hwords⟩ := hperforms
  exact hwords

/-- What the capture callback stores in the area of the recording. -/
theorem captured_capture_ack (m : Machine) {substream : snd_pcm_substream} {buf area : Nat}
    (hbuf : m.ctx.dma_buf = some buf) (harea : substream.runtime.dma_area = some area) :
    captured (((motu424_capture_ack substream).exec (bridge_env hw samples) m).since m) =
      received (fun x => samples x.2.1 x.2.2) (m.buffer_words hw)
        ((List.range (2 * substream.runtime.buffer_size.toNat)).map
          fun k => (.get (area, k) (sample_word k) : AckAccess)) := by
  have hperforms := @motu424_ack_performs hw (fun _ => []) (fun x => samples x.2.1 x.2.2) m .capture
    substream buf area hbuf harea
  rw [capture_accesses] at hperforms
  obtain ⟨new, hrun, _, hcaptured, _⟩ := hperforms
  rw [motu424_ack] at hrun
  rw [bridge_env, hrun, since_emit, hcaptured]
  rfl

end rounds

/-- The driver after the playback callback, on a hardware buffer with given words. -/
def after_playback (hw : Nat → U32) (samples : Nat → Nat → U32) (c : motu424_ctx)
    (substream : snd_pcm_substream) : Machine :=
  (motu424_playback_ack substream).exec (bridge_env hw samples) ⟨c, []⟩

/-- The event writes to a hardware buffer. -/
def Event.WritesBuffer : Event → Prop
  | .store (.dma _) _ _ => True
  | .memset _ _ _ => True
  | _ => False

/-- Other events leave the words as they are. -/
theorem hw_words_of_quiet {quiet : List Event} (hquiet : ∀ e ∈ quiet, ¬ e.WritesBuffer) (n : Nat)
    (mem : Nat → U32) : hw_words (fun _ => []) n quiet mem = mem := by
  induction quiet generalizing n with
  | nil => rfl
  | cons e quiet ih =>
    obtain ⟨hfirst, hrest⟩ := List.forall_mem_cons.mp hquiet
    have hkeeps : e.hw_store mem = mem := by
      unfold Event.hw_store
      split
      · exact absurd trivial hfirst
      · rfl
    rw [hw_words, device_store, List.foldl_nil, hkeeps]
    exact ih hrest (n + 1)

/-- A round trip of samples through the hardware buffer: the playback callback writes
nothing but the two audio words of each frame, and as long as nothing is written
afterwards, the capture callback records the samples in order. -/
theorem playback_capture_inverse (hw : Nat → U32) (samples : Nat → Nat → U32) (c : motu424_ctx)
    {playback capture : snd_pcm_substream} {buf area area' frames : Nat} (hbuf : c.dma_buf = some buf)
    (harea : playback.runtime.dma_area = some area) (harea' : capture.runtime.dma_area = some area')
    (hframes : playback.runtime.buffer_size.toNat = frames)
    (hframes' : capture.runtime.buffer_size.toNat = frames) :
    (∀ i < frames,
      (after_playback hw samples c playback).buffer_words hw (i * MOTU_CHANNELS_PER_FRAME + 2) =
        samples area (2 * i) ∧
      (after_playback hw samples c playback).buffer_words hw (i * MOTU_CHANNELS_PER_FRAME + 3) =
        samples area (2 * i + 1)) ∧
    (∀ w, (∀ i < frames, w ≠ i * MOTU_CHANNELS_PER_FRAME + 2 ∧ w ≠ i * MOTU_CHANNELS_PER_FRAME + 3) →
      (after_playback hw samples c playback).buffer_words hw w = hw w) ∧
    ∀ (m : Machine) (quiet : List Event), m.ctx.dma_buf = some buf →
      m.trace = (after_playback hw samples c playback).trace ++ quiet →
      (∀ e ∈ quiet, ¬ e.WritesBuffer) →
      captured (((motu424_capture_ack capture).exec (bridge_env hw samples) m).since m) =
        (List.range (2 * frames)).map fun k => ((area', k), samples area k) := by
  have hwords := buffer_words_playback_ack hw samples ⟨c, []⟩ hbuf harea
  rw [hframes, ← after_playback] at hwords
  have hput (k : Nat) (hk : k < 2 * frames) :
      (after_playback hw samples c playback).buffer_words hw (sample_word k) = samples area k := by
    rw [hwords, memory_puts _ _ _ sample_word_injective (List.mem_range.mpr hk)]
  refine ⟨?_, ?_, ?_⟩
  · intro i hi
    rw [← sample_word_left, ← sample_word_right]
    exact ⟨hput _ (by omega), hput _ (by omega)⟩
  · intro w hw'
    rw [hwords]
    apply memory_puts_of_ne
    intro k hk hsame
    have hi : k / 2 < frames := by
      have hlt := List.mem_range.mp hk
      omega
    obtain ⟨hleft, hright⟩ := hw' _ hi
    unfold sample_word at hsame
    omega
  · intro m quiet hbuf' htrace hquiet
    have hsame : m.buffer_words hw = (after_playback hw samples c playback).buffer_words hw := by
      rw [Machine.buffer_words, htrace, hw_words_append, hw_words_of_quiet hquiet]
      rfl
    rw [captured_capture_ack hw samples m hbuf' harea', hframes', hsame, hwords,
      received_gets_memory_puts _ _ _ _ sample_word_injective]

/-- The driver after the shortest stream has played a ramp. -/
def ramp_played : Machine :=
  after_playback (fun _ => 7) (fun _ k => BitVec.ofNat 32 k) buffer_ctx (short_substream .playback 0x9000)

/-- The ramp is recorded. -/
theorem ramp_recorded :
    captured (((motu424_capture_ack (short_substream .capture 0xA000)).exec
      (bridge_env (fun _ => 7) fun _ k => BitVec.ofNat 32 k) ramp_played).since ramp_played) =
      (List.range 512).map fun k => ((0xA000, k), BitVec.ofNat 32 k) := by
  have hctx : ramp_played.ctx = buffer_ctx :=
    (@motu424_ack_performs (fun _ => 7) (fun _ => []) (fun x => BitVec.ofNat 32 x.2.2)
      ⟨buffer_ctx, []⟩ .playback (short_substream .playback 0x9000) 0x10000 0x9000 rfl rfl).ctx
  obtain ⟨_, _, hrecorded⟩ := @playback_capture_inverse (fun _ => 7) (fun _ k => BitVec.ofNat 32 k)
    buffer_ctx (short_substream .playback 0x9000) (short_substream .capture 0xA000)
    0x10000 0x9000 0xA000 256 rfl rfl rfl rfl rfl
  apply hrecorded ramp_played []
  · rw [hctx]
    rfl
  · rw [List.append_nil, ramp_played]
  · intro e he
    cases he

end motu424
