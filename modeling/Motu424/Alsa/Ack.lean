import Motu424.Alsa
import Motu424.Dma.Alloc
import Motu424.Pal.Trace

open Program

namespace motu424

/-- The `ack` callback of a direction on the shared context. -/
def motu424_ack : snd_pcm_stream → snd_pcm_substream → Pal Int
  | .playback => motu424_playback_ack
  | .capture => motu424_capture_ack

/-- The two audio words of a frame in the DMA buffer. -/
def frame_words (i : Nat) : List Nat :=
  [i * MOTU_CHANNELS_PER_FRAME + 2, i * MOTU_CHANNELS_PER_FRAME + 3]

/-- The audio words of the first frames. -/
def ack_words (frames : Nat) : List Nat := (List.range frames).flatMap frame_words

/-- One round of the loop in the callback of a direction. -/
def ack_round (dma_area dma_buf i : Nat) : snd_pcm_stream → Pal Unit
  | .playback => playback_ack_round (.area dma_area) (.dma dma_buf) i
  | .capture => capture_ack_round (.area dma_area) (.dma dma_buf) i

section callbacks

variable (env : Env) (m : Machine) (stream : snd_pcm_stream)

/-- Either callback goes through the frames of the stream. -/
theorem exec_motu424_ack {substream : snd_pcm_substream} {dma_buf dma_area : Nat}
    (hbuf : m.ctx.dma_buf = some dma_buf) (harea : substream.runtime.dma_area = some dma_area) :
    (motu424_ack stream substream).exec env m =
      (Program.forEach (List.range substream.runtime.buffer_size.toNat)
        fun i => ack_round dma_area dma_buf i stream).exec env m := by
  cases stream with
  | playback =>
    rw [motu424_ack, motu424_playback_ack, exec_bind, eval_get_ctx, exec_get_ctx, hbuf, harea]
    rfl
  | capture =>
    rw [motu424_ack, motu424_capture_ack, exec_bind, eval_get_ctx, exec_get_ctx, hbuf, harea]
    rfl

/-- Without an application area the callbacks do nothing. -/
theorem motu424_ack_no_area {substream : snd_pcm_substream} (harea : substream.runtime.dma_area = none) :
    (motu424_ack stream substream).exec env m = m := by
  cases stream with
  | playback =>
    rw [motu424_ack, motu424_playback_ack, exec_bind, eval_get_ctx, exec_get_ctx, harea]
    cases m.ctx.dma_buf <;> rfl
  | capture =>
    rw [motu424_ack, motu424_capture_ack, exec_bind, eval_get_ctx, exec_get_ctx, harea]
    cases m.ctx.dma_buf <;> rfl

/-- Without a buffer there is nothing to copy. -/
theorem motu424_ack_no_buffer (substream : snd_pcm_substream) (hbuf : m.ctx.dma_buf = none) :
    (motu424_ack stream substream).exec env m = m := by
  cases stream with
  | playback =>
    rw [motu424_ack, motu424_playback_ack, exec_bind, eval_get_ctx, exec_get_ctx, hbuf]
    rfl
  | capture =>
    rw [motu424_ack, motu424_capture_ack, exec_bind, eval_get_ctx, exec_get_ctx, hbuf]
    rfl

theorem ack_round_words (dma_area dma_buf i : Nat) :
    ∃ new, (ack_round dma_area dma_buf i stream).exec env m = m.emit new ∧
      dma_words new = frame_words i := by
  cases stream with
  | playback =>
    rw [ack_round, playback_ack_round]
    simp only [exec_bind, exec_load, exec_store, eval_load, Machine.emit_emit]
    exact ⟨_, rfl, rfl⟩
  | capture =>
    rw [ack_round, capture_ack_round]
    simp only [exec_bind, exec_load, exec_store, eval_load, Machine.emit_emit]
    exact ⟨_, rfl, rfl⟩

/-- Either callback touches exactly the audio words of the stream's frames. -/
theorem motu424_ack_words {substream : snd_pcm_substream} {dma_buf dma_area : Nat}
    (hbuf : m.ctx.dma_buf = some dma_buf) (harea : substream.runtime.dma_area = some dma_area) :
    ∃ new, (motu424_ack stream substream).exec env m = m.emit new ∧
      dma_words new = ack_words substream.runtime.buffer_size.toNat := by
  rw [exec_motu424_ack env m stream hbuf harea]
  exact exec_forEach_dma_words (fun i m => ack_round_words env m stream dma_area dma_buf i) _ m

end callbacks

/-- The frames whose two audio words lie in a buffer of the given size. -/
def ack_frames (dma_size : U64) : Nat := (dma_size.toNat / 4 + 94) / MOTU_CHANNELS_PER_FRAME

theorem ack_words_inside_iff (frames : Nat) (dma_size : U64) :
    (∀ w ∈ ack_words frames, w < dma_size.toNat / 4) ↔ frames ≤ ack_frames dma_size := by
  have hwidth : MOTU_CHANNELS_PER_FRAME = 98 := rfl
  rw [ack_frames, Nat.le_div_iff_mul_le (by decide), hwidth]
  constructor
  · intro hinside
    cases frames with
    | zero => omega
    | succ last =>
      have hmem : last * 98 + 3 ∈ ack_words (last + 1) :=
        List.mem_flatMap.mpr ⟨last, List.mem_range.mpr (by omega), by simp [frame_words, hwidth]⟩
      have hlast := hinside _ hmem
      omega
  · intro hframes w hw
    obtain ⟨i, hi, hwi⟩ := List.mem_flatMap.mp hw
    have hlt : i < frames := List.mem_range.mp hi
    have hcases : w = i * 98 + 2 ∨ w = i * 98 + 3 := by simpa [frame_words, hwidth] using hwi
    omega

/-- The words that a callback touches on a machine lie in the DMA buffer. -/
def AckInside (env : Env) (m : Machine) (stream : snd_pcm_stream) (substream : snd_pcm_substream) :
    Prop :=
  ∀ w ∈ dma_words (((motu424_ack stream substream).exec env m).since m), w < m.ctx.dma_size.toNat / 4

theorem ackInside_iff (env : Env) {m : Machine} {dma_buf : Nat} (hbuf : m.ctx.dma_buf = some dma_buf)
    (stream : snd_pcm_stream) (substream : snd_pcm_substream) :
    AckInside env m stream substream ↔ substream.runtime.dma_area = none ∨
      substream.runtime.buffer_size.toNat ≤ ack_frames m.ctx.dma_size := by
  cases harea : substream.runtime.dma_area with
  | none =>
    refine iff_of_true ?_ (.inl rfl)
    intro w hw
    rw [motu424_ack_no_area env m stream harea, Machine.since, List.drop_length] at hw
    cases hw
  | some dma_area =>
    obtain ⟨new, hrun, hwords⟩ := motu424_ack_words env m stream hbuf harea
    rw [AckInside, hrun, since_emit, hwords, ack_words_inside_iff]
    simp

/-- A context whose buffer, if it has one, is not larger than the driver makes
them, has a buffer of exactly the maximal size afterwards. -/
theorem dma_alloc_max_size {env : Env} {m : Machine}
    (hsize : m.ctx.dma_buf ≠ none → m.ctx.dma_size ≤ MOTU_DMA_BUF_MAX)
    (hok : (motu424_dma_alloc MOTU_DMA_BUF_MAX).eval env m = 0) :
    ((motu424_dma_alloc MOTU_DMA_BUF_MAX).exec env m).ctx.dma_size = MOTU_DMA_BUF_MAX := by
  rcases motu424_dma_alloc_success hok with ⟨hbuf, hlarge, hctx⟩ | ⟨buf, hctx⟩
  · rw [hctx]
    exact BitVec.le_antisymm (hsize hbuf) hlarge
  · rw [hctx]
    have hrequest : dma_request MOTU_DMA_BUF_MAX = MOTU_DMA_BUF_MAX := by decide
    exact hrequest

/-- Such a buffer has the audio words of 10700 frames. -/
theorem ack_frames_max {env : Env} {m : Machine}
    (hsize : m.ctx.dma_buf ≠ none → m.ctx.dma_size ≤ MOTU_DMA_BUF_MAX)
    (hok : (motu424_dma_alloc MOTU_DMA_BUF_MAX).eval env m = 0) :
    ack_frames ((motu424_dma_alloc MOTU_DMA_BUF_MAX).exec env m).ctx.dma_size = 10700 := by
  rw [dma_alloc_max_size hsize hok]
  decide

/-- After an allocation of the maximal size, the callbacks stay in the DMA
buffer exactly for streams whose frames all have their audio words in it. -/
theorem ack_inside_iff_frames_fit (env : Env) (m : Machine)
    (hok : (motu424_dma_alloc MOTU_DMA_BUF_MAX).eval env m = 0) (substream : snd_pcm_substream) :
    (∀ stream, AckInside env ((motu424_dma_alloc MOTU_DMA_BUF_MAX).exec env m) stream substream) ↔
      substream.runtime.dma_area = none ∨ substream.runtime.buffer_size.toNat ≤
        ack_frames ((motu424_dma_alloc MOTU_DMA_BUF_MAX).exec env m).ctx.dma_size := by
  obtain ⟨dma_buf, hbuf⟩ : ∃ dma_buf,
      ((motu424_dma_alloc MOTU_DMA_BUF_MAX).exec env m).ctx.dma_buf = some dma_buf := by
    rcases motu424_dma_alloc_success hok with ⟨hbuf, _, hctx⟩ | ⟨buf, hctx⟩
    · rw [hctx]
      exact Option.ne_none_iff_exists'.mp hbuf
    · rw [hctx]
      exact ⟨buf.1, rfl⟩
  constructor
  · intro hinside
    exact (ackInside_iff env hbuf .playback substream).mp (hinside .playback)
  · intro hfit stream
    exact (ackInside_iff env hbuf stream substream).mpr hfit

/-- A stream with the given period and buffer size in frames. -/
def stereo_substream (period_size buffer_size : U64) : snd_pcm_substream where
  addr := 0x8000
  stream := .playback
  runtime :=
    { format := .s32_le
      channels := 2
      rate := 48000
      period_size := period_size
      buffer_size := buffer_size
      dma_area := some 0x9000 }

/-- Two periods of 1024 bytes fit. -/
theorem smallest_buffer_frames_fit :
    (∀ stream, AckInside .idle ((motu424_dma_alloc MOTU_DMA_BUF_MAX).exec .idle ⟨mapped_ctx, []⟩) stream
      (stereo_substream 128 256)) ↔
      (stereo_substream 128 256).runtime.dma_area = none ∨ 256 ≤ ack_frames
        ((motu424_dma_alloc MOTU_DMA_BUF_MAX).exec .idle ⟨mapped_ctx, []⟩).ctx.dma_size :=
  ack_inside_iff_frames_fit .idle ⟨mapped_ctx, []⟩ (by decide) (stereo_substream 128 256)

/-- Sixteen periods of 64 KB are admitted and do not. -/
theorem largest_periods_outside :
    (motu424_dma_alloc MOTU_DMA_BUF_MAX).eval .idle ⟨mapped_ctx, []⟩ = 0 ∧
    motu424_pcm_hw.Admits (stereo_substream 8192 131072).runtime ∧
    ¬ AckInside .idle ((motu424_dma_alloc MOTU_DMA_BUF_MAX).exec .idle ⟨mapped_ctx, []⟩) .playback
      (stereo_substream 8192 131072) := by
  refine ⟨by decide, by decide, ?_⟩
  have hbuf : ((motu424_dma_alloc MOTU_DMA_BUF_MAX).exec .idle ⟨mapped_ctx, []⟩).ctx.dma_buf =
    some 0x10000 := by decide
  rw [ackInside_iff .idle hbuf]
  decide

end motu424
