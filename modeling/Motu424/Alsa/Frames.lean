import Motu424.Alsa.Shadow

open Program

namespace motu424

/-- The value that an event writes to the size register of the DMA engine. -/
def Event.dma_size : Event → Option U32
  | .write .reg _ offset value => if offset = MOTU_REG_DMA_SIZE then some value else none
  | _ => none

/-- The sizes that a trace programs into the DMA engine. -/
def dma_sizes (trace : List Event) : List U32 := trace.filterMap Event.dma_size

/-- A prepare programs the bytes that the frames of a period occupy. -/
def SizeInFrames (env : Env) (m : Machine) (substream : snd_pcm_substream) : Prop :=
  (dma_sizes (((motu424_playback_prepare substream).exec env m).since m)).map BitVec.toNat =
    [MOTU_BYTES_PER_FRAME * substream.runtime.period_size.toNat]

/-- The DMA engine runs and has transferred a part of a frame of the stream. -/
structure InFrame (env : Env) (m : Machine) (substream : snd_pcm_substream) (i : Nat) : Prop where
  running : m.ctx.dma_running = 1
  frame : i < substream.runtime.buffer_size.toNat
  started : 0 < (env.read32 m.trace .reg MOTU_REG_DMA_CTRL).toNat
  first : MOTU_BYTES_PER_FRAME * i ≤ (env.read32 m.trace .reg MOTU_REG_DMA_CTRL).toNat
  last : (env.read32 m.trace .reg MOTU_REG_DMA_CTRL).toNat < MOTU_BYTES_PER_FRAME * (i + 1)

/-- The callbacks agree on what a frame is: prepare programs whole frames, and the
pointer is the frame that the engine is in. -/
structure OneFrameUnit (env : Env) (m : Machine) (substream : snd_pcm_substream) : Prop where
  size : SizeInFrames env m substream
  pointer : ∀ i, InFrame env m substream i → ((motu424_pointer substream).eval env m).toNat = i

section admitted

variable {runtime : snd_pcm_runtime} (hadmits : motu424_pcm_hw.Admits runtime)
include hadmits

theorem admitted_frame_bits : runtime.frame_bits = 64 := by
  obtain ⟨hlow, hhigh⟩ := hadmits.channels
  have hchannels : runtime.channels = 2 := Nat.le_antisymm hhigh hlow
  rw [snd_pcm_runtime.frame_bits, hchannels]
  cases runtime.format
  rfl

theorem admitted_frames_to_bytes (size : U64) : frames_to_bytes runtime size = 8 * size.toNat := by
  rw [frames_to_bytes, admitted_frame_bits hadmits]
  omega

theorem admitted_bytes_to_frames (size : Nat) : bytes_to_frames runtime size = size / 8 := by
  rw [bytes_to_frames, admitted_frame_bits hadmits]
  omega

/-- The smallest period has 128 frames. -/
theorem admitted_period_size : 128 ≤ runtime.period_size.toNat ∧ runtime.period_size.toNat ≤ 8192 := by
  obtain ⟨hlow, hhigh⟩ := hadmits.period_bytes
  rw [admitted_frames_to_bytes hadmits] at hlow hhigh
  have hmin : motu424_pcm_hw.period_bytes_min = 1024 := rfl
  have hmax : motu424_pcm_hw.period_bytes_max = 65536 := rfl
  omega

/-- And there are two of them at least. -/
theorem admitted_buffer_size : 256 ≤ runtime.buffer_size.toNat := by
  obtain ⟨hperiod, _⟩ := admitted_period_size hadmits
  obtain ⟨hlow, _⟩ := hadmits.periods
  have hmin : motu424_pcm_hw.periods_min = 2 := rfl
  rw [hmin] at hlow
  omega

end admitted

section callbacks

variable (env : Env) (m : Machine) {substream : snd_pcm_substream}

theorem dma_sizes_append (xs ys : List Event) : dma_sizes (xs ++ ys) = dma_sizes xs ++ dma_sizes ys :=
  List.filterMap_append

/-- Preparing playback programs the bytes of the stereo stream. -/
theorem dma_sizes_playback_prepare :
    dma_sizes (((motu424_playback_prepare substream).exec env m).since m) =
      [BitVec.ofNat 32 (frames_to_bytes substream.runtime substream.runtime.period_size)] := by
  have hclear : dma_sizes (prepare_clear_events m.ctx) = [] := by
    rw [prepare_clear_events]
    split <;> rfl
  have hbase : dma_sizes (if m.ctx.dma_addr ≠ 0 then
      [.write .reg m.ctx.iobase_reg.addr MOTU_REG_DMA_BASE (m.ctx.dma_addr.truncate 32)] else []) = [] := by
    split <;> rfl
  rw [exec_motu424_playback_prepare, since_of_trace (List.append_assoc ..), dma_sizes_append, hclear,
    ← List.singleton_append, dma_sizes_append, prepare_size_events, dma_sizes_append, dma_sizes_append,
    hbase]
  rfl

/-- Those are never the bytes of the frames of the card. -/
theorem not_sizeInFrames (hadmits : motu424_pcm_hw.Admits substream.runtime) :
    ¬ SizeInFrames env m substream := by
  obtain ⟨hlow, hhigh⟩ := admitted_period_size hadmits
  have hwidth : MOTU_BYTES_PER_FRAME = 392 := rfl
  rw [SizeInFrames, dma_sizes_playback_prepare, admitted_frames_to_bytes hadmits, List.map_singleton,
    List.singleton_inj, BitVec.toNat_ofNat, hwidth]
  omega

/-- The time that `motu424_pointer` reads from the clock. -/
def pointer_clock (env : Env) (m : Machine) : U64 :=
  env.ktime_get_ns (m.trace ++ [.read .reg m.ctx.iobase_reg.addr MOTU_REG_DMA_CTRL])

/-- What the pointer goes by: the position register while the engine is inside the
buffer, or else the clock while it runs at all. -/
theorem eval_motu424_pointer_eq :
    (motu424_pointer substream).eval env m =
      if m.ctx.dma_running ≠ 0 ∧ 0 < env.read32 m.trace .reg MOTU_REG_DMA_CTRL ∧
          (env.read32 m.trace .reg MOTU_REG_DMA_CTRL).zeroExtend 64 < m.ctx.dma_size then
        if BitVec.ofNat 64 (bytes_to_frames substream.runtime
            (env.read32 m.trace .reg MOTU_REG_DMA_CTRL).toNat) ≥ substream.runtime.buffer_size then 0
        else BitVec.ofNat 64 (bytes_to_frames substream.runtime
          (env.read32 m.trace .reg MOTU_REG_DMA_CTRL).toNat)
      else if m.ctx.dma_running ≠ 0 ∧ 0 < substream.runtime.buffer_size then
        (pointer_clock env m - m.ctx.start_time_ns) * m.ctx.rate.zeroExtend 64 / 1000000000 %
          substream.runtime.buffer_size
      else 0 := by
  rw [motu424_pointer, eval_bind, eval_get_ctx, exec_get_ctx, eval_bind, eval_pal_read32]
  split_ifs with hposition hclamp hrunning
  · exact if_pos hclamp
  · exact if_neg hclamp
  · rfl
  · rfl

/-- While the engine runs inside the buffer, the pointer is its position in the
stereo stream, as long as that is in the stream's buffer. -/
theorem eval_motu424_pointer (hadmits : motu424_pcm_hw.Admits substream.runtime)
    (hrunning : m.ctx.dma_running = 1)
    (hstarted : 0 < (env.read32 m.trace .reg MOTU_REG_DMA_CTRL).toNat)
    (hinside : (env.read32 m.trace .reg MOTU_REG_DMA_CTRL).toNat < m.ctx.dma_size.toNat) :
    ((motu424_pointer substream).eval env m).toNat =
      if substream.runtime.buffer_size.toNat ≤ (env.read32 m.trace .reg MOTU_REG_DMA_CTRL).toNat / 8
      then 0 else (env.read32 m.trace .reg MOTU_REG_DMA_CTRL).toNat / 8 := by
  rw [eval_motu424_pointer_eq]
  generalize env.read32 m.trace .reg MOTU_REG_DMA_CTRL = hw_ptr at *
  have hguard : m.ctx.dma_running ≠ 0 ∧ 0 < hw_ptr ∧ hw_ptr.zeroExtend 64 < m.ctx.dma_size := by
    refine ⟨by rw [hrunning]; decide, ?_, ?_⟩
    · rw [BitVec.lt_def]
      exact hstarted
    · rw [BitVec.lt_def, BitVec.toNat_setWidth]
      omega
  have hpos : (BitVec.ofNat 64 (hw_ptr.toNat / 8)).toNat = hw_ptr.toNat / 8 := by
    rw [BitVec.toNat_ofNat]
    omega
  rw [if_pos hguard, admitted_bytes_to_frames hadmits, apply_ite BitVec.toNat, hpos]
  simp only [ge_iff_le, BitVec.le_def, hpos]
  rfl

end callbacks

/-- The callbacks never agree: prepare programs no whole frames, and the pointer is
right only in the first eight bytes of the first frame. -/
theorem one_frame_unit_never (env : Env) (m : Machine) (substream : snd_pcm_substream)
    (hadmits : motu424_pcm_hw.Admits substream.runtime)
    (hfits : MOTU_BYTES_PER_FRAME * substream.runtime.buffer_size.toNat ≤ m.ctx.dma_size.toNat) :
    ¬ OneFrameUnit env m substream ∧
    ∀ i, InFrame env m substream i → (((motu424_pointer substream).eval env m).toNat = i ↔
      i = 0 ∧ (env.read32 m.trace .reg MOTU_REG_DMA_CTRL).toNat < 8) := by
  constructor
  · intro hunit
    exact not_sizeInFrames env m hadmits hunit.size
  · intro i hframe
    obtain ⟨hrunning, hi, hstarted, hfirst, hlast⟩ := hframe
    have hbuffer := admitted_buffer_size hadmits
    have hwidth : MOTU_BYTES_PER_FRAME = 392 := rfl
    rw [hwidth] at hfits hfirst hlast
    rw [eval_motu424_pointer env m hadmits hrunning hstarted (by omega)]
    split <;> omega

/-- A driver with a buffer of the maximal size and a running engine. -/
def running_machine : Machine :=
  ⟨{ mapped_ctx with
      dma_buf := some 0x10000
      dma_addr := 0x1000000
      dma_size := MOTU_DMA_BUF_MAX
      dma_running := 1 }, []⟩

theorem test_substream_admitted : motu424_pcm_hw.Admits (test_substream .playback).runtime := by
  decide

/-- An engine that has transferred one frame of the card. -/
def one_frame_env : Env := { Env.idle with read32 := fun _ _ _ => 392 }

/-- The pointer of two short periods there. -/
theorem short_periods_never :
    ¬ OneFrameUnit one_frame_env running_machine (test_substream .playback) ∧
    ∀ i, InFrame one_frame_env running_machine (test_substream .playback) i →
      (((motu424_pointer (test_substream .playback)).eval one_frame_env running_machine).toNat = i ↔
        i = 0 ∧ (one_frame_env.read32 [] .reg MOTU_REG_DMA_CTRL).toNat < 8) :=
  one_frame_unit_never one_frame_env running_machine (test_substream .playback)
    test_substream_admitted (by decide)

/-- The engine is in the second frame, and the pointer says 49. -/
theorem pointer_ahead :
    motu424_pcm_hw.Admits (test_substream .playback).runtime ∧
    InFrame one_frame_env running_machine (test_substream .playback) 1 ∧
    ((motu424_pointer (test_substream .playback)).eval one_frame_env running_machine).toNat = 49 ∧
    ¬ OneFrameUnit one_frame_env running_machine (test_substream .playback) := by
  have hframe : InFrame one_frame_env running_machine (test_substream .playback) 1 :=
    ⟨rfl, by decide, by decide, by decide, by decide⟩
  have hpointer : ((motu424_pointer (test_substream .playback)).eval one_frame_env
      running_machine).toNat = 49 := by decide
  refine ⟨test_substream_admitted, hframe, hpointer, fun hunit => ?_⟩
  have hone := hunit.pointer 1 hframe
  omega

end motu424
