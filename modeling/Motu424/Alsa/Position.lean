import Motu424.Alsa.Frames
import Motu424.Foundation.SampleClock

open Program Run SampleClock

namespace motu424

def NSEC_PER_SEC : Nat := 1000000000

/-- The time since the start, when the clock has not gone back. -/
def elapsed_ns (env : Env) (m : Machine) : Nat :=
  (pointer_clock env m).toNat - m.ctx.start_time_ns.toNat

/-- The engine runs, and its position register reads zero. -/
structure NoPosition (env : Env) (m : Machine) : Prop where
  running : m.ctx.dma_running = 1
  register : env.read32 m.trace .reg MOTU_REG_DMA_CTRL = 0

/-- The pointer is where a stream is in its ring after playing for a time. -/
def PositionAfter (env : Env) (m : Machine) (substream : snd_pcm_substream) (time : Nat) : Prop :=
  ((motu424_pointer substream).eval env m).toNat =
    samples NSEC_PER_SEC m.ctx.rate.toNat time % substream.runtime.buffer_size.toNat

section by_time

variable {env : Env} {m : Machine} (hpos : NoPosition env m)
include hpos

/-- Without a position from the card the pointer counts the samples since the start,
with a product of 64 bits. -/
theorem eval_motu424_pointer_by_time (hlater : m.ctx.start_time_ns.toNat ≤ (pointer_clock env m).toNat)
    {substream : snd_pcm_substream} (hsize : 0 < substream.runtime.buffer_size.toNat) :
    ((motu424_pointer substream).eval env m).toNat =
      elapsed_ns env m * m.ctx.rate.toNat % 2 ^ 64 / NSEC_PER_SEC %
        substream.runtime.buffer_size.toNat := by
  have hrunning : m.ctx.dma_running ≠ 0 := by
    rw [hpos.running]
    decide
  have hregister : ¬ (m.ctx.dma_running ≠ 0 ∧ 0 < (0 : U32) ∧
      (0 : U32).zeroExtend 64 < m.ctx.dma_size) := fun h => absurd h.2.1 (by decide)
  have hbuffer : m.ctx.dma_running ≠ 0 ∧ 0 < substream.runtime.buffer_size :=
    ⟨hrunning, BitVec.lt_def.mpr hsize⟩
  have helapsed : (pointer_clock env m - m.ctx.start_time_ns).toNat = elapsed_ns env m :=
    BitVec.toNat_sub_of_le (BitVec.le_def.mpr hlater)
  have hrate : (m.ctx.rate.zeroExtend 64 : U64).toNat = m.ctx.rate.toNat := by
    rw [BitVec.zeroExtend_eq_setWidth, BitVec.toNat_setWidth]
    have hlt := m.ctx.rate.isLt
    omega
  rw [eval_motu424_pointer_eq, hpos.register, if_neg hregister, if_pos hbuffer, BitVec.toNat_umod,
    BitVec.toNat_udiv, BitVec.toNat_mul, helapsed, hrate]
  rfl

end by_time

/-- A substream with a ring of a given size. -/
def ring_substream (size : Nat) : snd_pcm_substream where
  addr := 0x8000
  stream := .playback
  runtime := { (test_substream .playback).runtime with buffer_size := BitVec.ofNat 64 size }

theorem ring_substream_size {size : Nat} (hsize : size < 2 ^ 64) :
    (ring_substream size).runtime.buffer_size.toNat = size := by
  rw [ring_substream, BitVec.toNat_ofNat, Nat.mod_eq_of_lt hsize]

/-- Two counts of samples give the same position in every ring exactly when they are
equal. -/
theorem forall_rings_iff {a b : Nat} (hle : a ≤ b) (hlt : b < 2 ^ 63) :
    (∀ substream : snd_pcm_substream, 0 < substream.runtime.buffer_size.toNat →
      a % substream.runtime.buffer_size.toNat = b % substream.runtime.buffer_size.toNat) ↔ a = b := by
  constructor
  · intro hall
    apply eq_of_forall_mod_eq hle (show b - a + 1 < 2 ^ 64 by omega)
    intro size hsize hlimit
    have hsame := hall (ring_substream size)
    rw [ring_substream_size hlimit] at hsame
    exact hsame hsize
  · intro heq substream _
    rw [heq]

/-- A division or remainder that fails at a zero divisor. -/
def checked {α : Type} [OfNat α (nat_lit 0)] [DecidableEq α] (op : α → α → α) (a b : α) : Option α :=
  if b = 0 then none else some (op a b)

/-- `motu424_pointer` with checked divisions. -/
def motu424_pointer_checked (substream : snd_pcm_substream) : Pal (Option U64) := do
  let ctx ← get_ctx
  let hw_ptr ← pal_read32 ctx.iobase_reg MOTU_REG_DMA_CTRL
  if ctx.dma_running ≠ 0 ∧ 0 < hw_ptr ∧ hw_ptr.zeroExtend 64 < ctx.dma_size then do
    let frames := checked (· / ·) (hw_ptr.toNat * 8) substream.runtime.frame_bits
    pure <| frames.map fun frames =>
      if BitVec.ofNat 64 frames ≥ substream.runtime.buffer_size then 0 else BitVec.ofNat 64 frames
  else if ctx.dma_running ≠ 0 ∧ 0 < substream.runtime.buffer_size then do
    let now ← ktime_get_ns
    let elapsed_ns := now - ctx.start_time_ns
    let frames := checked (· / ·) (elapsed_ns * ctx.rate.zeroExtend 64) 1000000000
    pure (frames.bind fun frames => checked (· % ·) frames substream.runtime.buffer_size)
  else pure (some 0)

theorem checked_eq_some {α : Type} [OfNat α (nat_lit 0)] [DecidableEq α] {op : α → α → α} {a b : α}
    (hb : b ≠ 0) : checked op a b = some (op a b) := if_neg hb

section ring

variable (env : Env) (m : Machine) (substream : snd_pcm_substream)

/-- No division of the pointer has a zero divisor. -/
theorem eval_motu424_pointer_checked (hframe : substream.runtime.frame_bits = 64) :
    (motu424_pointer_checked substream).eval env m = some ((motu424_pointer substream).eval env m) := by
  rw [motu424_pointer_checked, motu424_pointer, eval_bind, eval_bind, eval_bind, eval_bind]
  split_ifs with hposition hrunning
  · rw [eval_pure, eval_pure, checked_eq_some (by rw [hframe]; decide), Option.map_some]
    rfl
  · have hbuffer : substream.runtime.buffer_size ≠ 0 := by
      intro hzero
      rw [hzero] at hrunning
      exact absurd hrunning.2 (by decide)
    rw [eval_bind, eval_bind, eval_pure, eval_pure, checked_eq_some (by decide), Option.bind_some,
      checked_eq_some hbuffer]
  · rfl

theorem motu424_pointer_lt (hsize : 0 < substream.runtime.buffer_size) :
    (motu424_pointer substream).eval env m < substream.runtime.buffer_size := by
  rw [eval_motu424_pointer_eq]
  split_ifs with hposition hclamp hrunning
  · exact hsize
  · exact BitVec.not_le.mp hclamp
  · rw [BitVec.lt_def, BitVec.toNat_umod]
    exact Nat.mod_lt _ (BitVec.lt_def.mp hsize)
  · exact hsize

theorem motu424_pointer_eq_zero (hsize : substream.runtime.buffer_size = 0) :
    (motu424_pointer substream).eval env m = 0 := by
  rw [eval_motu424_pointer_eq, hsize]
  split_ifs with hposition hclamp hrunning
  · rfl
  · exact absurd (BitVec.le_def.mpr (Nat.zero_le _)) hclamp
  · exact absurd hrunning.2 (by decide)
  · rfl

/-- Whatever the card and the clock say, the pointer divides by no zero and is an
index of the ring, or zero where there is no ring. -/
theorem pointer_in_ring (hframe : substream.runtime.frame_bits = 64) :
    (motu424_pointer_checked substream).eval env m = some ((motu424_pointer substream).eval env m) ∧
    (0 < substream.runtime.buffer_size →
      (motu424_pointer substream).eval env m < substream.runtime.buffer_size) ∧
    (substream.runtime.buffer_size = 0 → (motu424_pointer substream).eval env m = 0) :=
  ⟨eval_motu424_pointer_checked env m substream hframe, motu424_pointer_lt env m substream,
    motu424_pointer_eq_zero env m substream⟩

end ring

/-- The pointer of two short periods at the first frame of the card. -/
theorem one_frame_in_ring :
    (motu424_pointer_checked (test_substream .playback)).eval one_frame_env running_machine =
      some ((motu424_pointer (test_substream .playback)).eval one_frame_env running_machine) ∧
    (0 < (test_substream .playback).runtime.buffer_size →
      (motu424_pointer (test_substream .playback)).eval one_frame_env running_machine <
        (test_substream .playback).runtime.buffer_size) ∧
    ((test_substream .playback).runtime.buffer_size = 0 →
      (motu424_pointer (test_substream .playback)).eval one_frame_env running_machine = 0) :=
  pointer_in_ring one_frame_env running_machine (test_substream .playback) rfl

theorem supported_rate {rate : U32} (hrate : rate ∈ motu424_pcm_hw.rates) :
    0 < rate.toNat ∧ rate.toNat ≤ 96000 := by
  have hrates : ∀ r ∈ motu424_pcm_hw.rates, 0 < r.toNat ∧ r.toNat ≤ 96000 := by
    rw [motu424_pcm_hw]
    simp only [List.forall_mem_cons]
    refine ⟨by decide, by decide, by decide, by decide, fun r hr => nomatch hr⟩
  exact hrates rate hrate

/-- At a supported rate the samples that any clock can count are far below 2^64. -/
theorem samples_elapsed_lt (env : Env) (m : Machine) (hrate : m.ctx.rate ∈ motu424_pcm_hw.rates) :
    samples NSEC_PER_SEC m.ctx.rate.toNat (elapsed_ns env m) < 2 ^ 63 := by
  have helapsed : elapsed_ns env m ≤ 2 ^ 64 := by
    have hclock := (pointer_clock env m).isLt
    rw [elapsed_ns]
    omega
  have hproduct : elapsed_ns env m * m.ctx.rate.toNat ≤ 2 ^ 64 * 96000 :=
    Nat.mul_le_mul helapsed (supported_rate hrate).2
  rw [samples, NSEC_PER_SEC]
  omega

/-- For a given ring the position is exact when the samples lost by the wrap happen
to fill the ring a whole number of times. For all rings it is exact as long as the
product does not wrap, which is about 53 hours at 96 kHz. -/
theorem position_exact_iff (env : Env) (m : Machine) (hpos : NoPosition env m)
    (hrate : m.ctx.rate ∈ motu424_pcm_hw.rates)
    (hlater : m.ctx.start_time_ns.toNat ≤ (pointer_clock env m).toNat) :
    (∀ substream : snd_pcm_substream, 0 < substream.runtime.buffer_size.toNat →
      (PositionAfter env m substream (elapsed_ns env m) ↔ substream.runtime.buffer_size.toNat ∣
        lost_samples NSEC_PER_SEC m.ctx.rate.toNat (2 ^ 64) (elapsed_ns env m))) ∧
    ((∀ substream : snd_pcm_substream, 0 < substream.runtime.buffer_size.toNat →
      PositionAfter env m substream (elapsed_ns env m)) ↔
        elapsed_ns env m * m.ctx.rate.toNat < 2 ^ 64) := by
  have hwrapped := @wrapped_le_samples NSEC_PER_SEC m.ctx.rate.toNat (2 ^ 64) (elapsed_ns env m)
  have hring (substream : snd_pcm_substream) (hsize : 0 < substream.runtime.buffer_size.toNat) :
      PositionAfter env m substream (elapsed_ns env m) ↔
        elapsed_ns env m * m.ctx.rate.toNat % 2 ^ 64 / NSEC_PER_SEC % substream.runtime.buffer_size.toNat =
          samples NSEC_PER_SEC m.ctx.rate.toNat (elapsed_ns env m) %
            substream.runtime.buffer_size.toNat := by
    rw [PositionAfter, eval_motu424_pointer_by_time hpos hlater hsize]
  constructor
  · intro substream hsize
    rw [hring substream hsize, mod_eq_mod_iff hwrapped, lost_samples]
  · have hnsec : 0 < NSEC_PER_SEC := by decide
    rw [forall₂_congr hring, forall_rings_iff hwrapped (samples_elapsed_lt env m hrate),
      wrapped_eq_samples_iff hnsec (by decide)]

/-- The outside at a time. -/
def Env.at_time (env : Env) (now : U64) : Env := { env with ktime_get_ns := fun _ => now }

/-- A stream that plays at 96 kHz since the clock was zero. -/
def long_machine : Machine := ⟨{ running_machine.ctx with rate := 96000 }, []⟩

theorem long_machine_no_position (now : U64) : NoPosition (Env.idle.at_time now) long_machine := ⟨rfl, rfl⟩

/-- After a second it is at 96000 samples. -/
theorem first_second_exact :
    (∀ substream : snd_pcm_substream, 0 < substream.runtime.buffer_size.toNat →
      (PositionAfter (Env.idle.at_time 1000000000) long_machine substream 1000000000 ↔
        substream.runtime.buffer_size.toNat ∣ lost_samples NSEC_PER_SEC 96000 (2 ^ 64) 1000000000)) ∧
    ((∀ substream : snd_pcm_substream, 0 < substream.runtime.buffer_size.toNat →
      PositionAfter (Env.idle.at_time 1000000000) long_machine substream 1000000000) ↔
        1000000000 * 96000 < 2 ^ 64) :=
  position_exact_iff (Env.idle.at_time 1000000000) long_machine (long_machine_no_position _) (by decide)
    (by decide)

/-- After 53 hours the product wraps, and the position of a ring of 256 frames jumps
from 9 to 0. -/
theorem position_jumps :
    NoPosition (Env.idle.at_time 192153584101142) long_machine ∧
    long_machine.ctx.rate ∈ motu424_pcm_hw.rates ∧
    elapsed_ns (Env.idle.at_time 192153584101142) long_machine = 192153584101142 ∧
    (motu424_pointer (test_substream .playback)).eval (Env.idle.at_time 192153584101142) long_machine = 0 ∧
    samples NSEC_PER_SEC 96000 192153584101142 % 256 = 9 ∧
    ¬ PositionAfter (Env.idle.at_time 192153584101142) long_machine (test_substream .playback)
      192153584101142 := by
  have hpointer : (motu424_pointer (test_substream .playback)).eval
      (Env.idle.at_time 192153584101142) long_machine = 0 := by decide
  have hnine : samples NSEC_PER_SEC 96000 192153584101142 % 256 = 9 := by decide
  refine ⟨long_machine_no_position _, by decide, by decide, hpointer, hnine, fun hexact => ?_⟩
  rw [PositionAfter, hpointer] at hexact
  exact absurd (hexact.trans hnine) (by decide)

end motu424
