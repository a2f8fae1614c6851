import Motu424.PciAlsa.Buffers

open Program Run

namespace motu424.pci_alsa

/-- What an event makes of a word of a buffer. -/
def PciEvent.word (vaddr index : Nat) (old : U32) : PciEvent → U32
  | .store v i value => if v = vaddr ∧ i = index then value else old
  | .memset v byte size => if v = vaddr ∧ 4 * (index + 1) ≤ size.toNat then byte.zeroExtend 32 * 0x01010101 else old
  | _ => old

/-- A word of a buffer after what was done. -/
def word_of (history : List PciEvent) (vaddr index : Nat) : U32 :=
  history.foldl (fun old e => e.word vaddr index old) 0

/-- The words that `snd_motu_prepare` lays out. -/
def pattern (frame_idx ch : Nat) : U32 := if ch < 2 then status_word frame_idx ch else channel_word frame_idx

/-- The driver in the loop of `snd_motu_ack`, before the given round. -/
def ack_rounds (env : PciEnv) (d : PciDriver) (area buf rounds : Nat) : PciDriver :=
  (forEach (List.range rounds) (ack_frame area buf)).exec env d

/-- What the loop reads for the left channel of a frame, which is the word 2 of the wide
frame, or for the right one, which is its word 3. -/
def heard (env : PciEnv) (d : PciDriver) (area buf i ch : Nat) : U32 :=
  let history := (ack_rounds env d area buf i).history
  if ch = 2 then env.load history area (i * 2 + 0)
  else env.load (history ++ [.load area (i * 2 + 0)]) area (i * 2 + 1)

section words

variable (xs ys : List PciEvent) (vaddr index : Nat)

theorem word_of_concat (e : PciEvent) :
    word_of (xs ++ [e]) vaddr index = e.word vaddr index (word_of xs vaddr index) := by
  rw [word_of, List.foldl_append]
  rfl

theorem word_of_store (i : Nat) (value : U32) : word_of (xs ++ [.store vaddr i value]) vaddr index =
    if i = index then value else word_of xs vaddr index := by
  rw [word_of_concat, PciEvent.word]
  simp only [true_and]

variable {xs ys}

/-- Events that leave the word alone. -/
theorem word_of_untouched (hys : ∀ e ∈ ys, ∀ old, e.word vaddr index old = old) :
    word_of (xs ++ ys) vaddr index = word_of xs vaddr index := by
  induction ys using List.reverseRecOn with
  | nil => rw [List.append_nil]
  | append_singleton ys e ih =>
    rw [← List.append_assoc, word_of_concat, hys e (by simp)]
    exact ih fun e' he' => hys e' (List.mem_append_left _ he')

theorem PciEvent.Plain.word_eq {e : PciEvent} (he : e.Plain) (old : U32) : e.word vaddr index old = old := by
  cases e with
  | store => exact he.elim
  | memset => exact he.elim
  | _ => rfl

end words

section loops

variable (env : PciEnv) (d : PciDriver) (area buf : Nat)

theorem exec_ack_frame (i : Nat) : (ack_frame area buf i).exec env d = d.emit [.load area (i * 2 + 0),
    .load area (i * 2 + 1), .store buf (i * 98 + 2) (env.load d.history area (i * 2 + 0)),
    .store buf (i * 98 + 3) (env.load (d.history ++ [.load area (i * 2 + 0)]) area (i * 2 + 1))] := by
  simp only [ack_frame, exec_bind, exec_asks, eval_asks, exec_perform, PciDriver.emit_emit, List.cons_append,
    List.nil_append, PciDriver.emit_history]

/-- The loop fills the words 2 and 3 of its frames. -/
theorem ack_rounds_word (rounds index : Nat) : word_of (ack_rounds env d area buf rounds).history buf index =
    if index / 98 < rounds ∧ (index % 98 = 2 ∨ index % 98 = 3) then heard env d area buf (index / 98) (index % 98)
    else word_of d.history buf index := by
  induction rounds with
  | zero => rw [if_neg (by omega)]; rfl
  | succ rounds ih =>
    have hround : (ack_rounds env d area buf (rounds + 1)).history =
        (ack_rounds env d area buf rounds).history ++ [.load area (rounds * 2 + 0)] ++ [.load area (rounds * 2 + 1)] ++
          [.store buf (rounds * 98 + 2) (heard env d area buf rounds 2)] ++
          [.store buf (rounds * 98 + 3) (heard env d area buf rounds 3)] := by
      rw [ack_rounds, List.range_succ, exec_forEach_append, exec_forEach_cons, exec_forEach_nil, exec_ack_frame]
      simp only [PciDriver.emit_history, List.append_assoc, List.cons_append, List.nil_append]
      rfl
    have hloads : word_of ((ack_rounds env d area buf rounds).history ++ [.load area (rounds * 2 + 0)] ++
        [.load area (rounds * 2 + 1)]) buf index = word_of (ack_rounds env d area buf rounds).history buf index := by
      rw [word_of_concat, word_of_concat]
      rfl
    rw [hround, word_of_store, word_of_store, hloads, ih]
    by_cases hright : rounds * 98 + 3 = index
    · obtain ⟨hdiv, hmod⟩ : index / 98 = rounds ∧ index % 98 = 3 := by omega
      rw [if_pos hright, if_pos (by omega), hdiv, hmod]
    by_cases hleft : rounds * 98 + 2 = index
    · obtain ⟨hdiv, hmod⟩ : index / 98 = rounds ∧ index % 98 = 2 := by omega
      rw [if_neg hright, if_pos hleft, if_pos (by omega), hdiv, hmod]
    rw [if_neg hright, if_neg hleft]
    by_cases hbefore : index / 98 < rounds ∧ (index % 98 = 2 ∨ index % 98 = 3)
    · rw [if_pos hbefore, if_pos (by omega)]
    · rw [if_neg hbefore, if_neg (by omega)]

/-- The loop over the channels of a frame. -/
theorem channel_stores_word (j count index : Nat) : word_of ((forEach (List.range' 2 count) fun ch =>
      perform (.store buf (j * 98 + ch) (channel_word j))).exec env d).history buf index =
    if j * 98 + 2 ≤ index ∧ index < j * 98 + 2 + count then channel_word j else word_of d.history buf index := by
  induction count with
  | zero => rw [if_neg (by omega)]; rfl
  | succ count ih =>
    rw [List.range'_concat, exec_forEach_append, exec_forEach_cons, exec_forEach_nil, exec_perform,
      PciDriver.emit_history, word_of_store, ih]
    by_cases hlast : j * 98 + (2 + 1 * count) = index
    · rw [if_pos hlast, if_pos (by omega)]
    rw [if_neg hlast]
    by_cases hbefore : j * 98 + 2 ≤ index ∧ index < j * 98 + 2 + count
    · rw [if_pos hbefore, if_pos (by omega)]
    · rw [if_neg hbefore, if_neg (by omega)]

theorem prepare_frame_word (j index : Nat) : word_of ((prepare_frame buf j).exec env d).history buf index =
    if index / 98 = j then pattern j (index % 98) else word_of d.history buf index := by
  rw [prepare_frame, exec_bind, exec_bind, exec_perform, exec_perform, channel_stores_word, PciDriver.emit_history,
    PciDriver.emit_history, word_of_store, word_of_store, pattern]
  by_cases hframe : index / 98 = j
  · rw [if_pos hframe]
    by_cases hstatus : index % 98 < 2
    · rw [if_pos hstatus, if_neg (by omega)]
      by_cases hsecond : j * 98 + 1 = index
      · have hmod : index % 98 = 1 := by omega
        rw [if_pos hsecond, hmod]
      · have hmod : index % 98 = 0 := by omega
        rw [if_neg hsecond, if_pos (by omega), hmod]
    · rw [if_neg hstatus, if_pos (by omega)]
  · rw [if_neg hframe, if_neg (by omega), if_neg (by omega), if_neg (by omega)]

/-- The loop over the frames. -/
theorem prepare_rounds_word (rounds index : Nat) :
    word_of ((forEach (List.range rounds) (prepare_frame buf)).exec env d).history buf index =
      if index / 98 < rounds then pattern (index / 98) (index % 98) else word_of d.history buf index := by
  induction rounds with
  | zero => rw [if_neg (by omega)]; rfl
  | succ rounds ih =>
    rw [List.range_succ, exec_forEach_append, exec_forEach_cons, exec_forEach_nil, prepare_frame_word, ih]
    by_cases hlast : index / 98 = rounds
    · rw [if_pos hlast, if_pos (by omega), hlast]
    rw [if_neg hlast]
    by_cases hbefore : index / 98 < rounds
    · rw [if_pos hbefore, if_pos (by omega)]
    · rw [if_neg hbefore, if_neg (by omega)]

end loops

/-- The calls that leave the buffer and its configuration alone. -/
def PciCall.Streams : PciCall → Prop
  | .pcm_close => True
  | .trigger _ => True
  | .pointer => True
  | .ack => True
  | .timer => True
  | .interrupt => True
  | _ => False

/-- What an ack hears, if there is an area to read. -/
def heard_by (env : PciEnv) (d : PciDriver) : PciCall → Option (Nat → Nat → U32)
  | .ack =>
    match d.motu.shadow_buf, d.runtime.dma_area with
    | some buf, some area => some (heard env d area buf)
    | _, _ => none
  | _ => none

/-- What the last ack of some calls hears. -/
def last_heard (env : PciEnv) : PciDriver → List PciCall → Option (Nat → Nat → U32)
  | _, [] => none
  | d, call :: calls => (last_heard env (pci_step env d call) calls).or (heard_by env d call)

/-- A word of a frame: the first two channels are what was heard, and the rest is the
pattern. -/
def frame_word (sound : Option (Nat → Nat → U32)) (i ch : Nat) : U32 :=
  match sound with
  | some sound => if ch = 2 ∨ ch = 3 then sound i ch else pattern i ch
  | none => pattern i ch

/-- The same buffer for the same frames, which hold the pattern and what was heard. -/
structure Frames (buf : Nat) (runtime : snd_pcm_runtime) (sound : Option (Nat → Nat → U32))
    (d : PciDriver) : Prop where
  buf_eq : d.motu.shadow_buf = some buf
  runtime_eq : d.runtime = runtime
  words : ∀ i < runtime.buffer_size.toNat, ∀ ch < 98, word_of d.history buf (i * 98 + ch) = frame_word sound i ch

section calls

variable {env : PciEnv} {d : PciDriver} {buf : Nat} {runtime : snd_pcm_runtime} {sound : Option (Nat → Nat → U32)}

theorem Frames.plain {α : Type} (hframes : Frames buf runtime sound d) {p : PciAlsa α} (hp : Plain env d p) :
    Frames buf runtime sound (p.exec env d) := by
  obtain ⟨hsame, new, hnew, hplain⟩ := hp
  refine ⟨hsame.buf.trans hframes.buf_eq, hsame.runtime.trans hframes.runtime_eq, fun i hi ch hch => ?_⟩
  have hhistory : (p.exec env d).history = d.history ++ new := hnew
  rw [hhistory, word_of_untouched _ _ fun e he => (hplain e he).word_eq _ _]
  exact hframes.words i hi ch hch

/-- The buffer and the runtime stay what they are. -/
def Kept (d d' : PciDriver) : Prop := d'.motu.shadow_buf = d.motu.shadow_buf ∧ d'.runtime = d.runtime

theorem ack_rounds_kept (area rounds : Nat) : Kept d (ack_rounds env d area buf rounds) := by
  have hround (i : Nat) : Preserves env (Kept d) (ack_frame area buf i) := by
    intro s hs
    rw [exec_ack_frame]
    exact hs
  exact Preserves.forEach (fun i _ => hround i) d ⟨rfl, rfl⟩

theorem prepare_rounds_kept (rounds : Nat) :
    Kept d ((forEach (List.range rounds) (prepare_frame buf)).exec env d) := by
  have hevent (e : PciEvent) : Preserves env (Kept d) (perform e) := fun _ hs => hs
  exact Preserves.forEach (fun i _ => Preserves.bind (hevent _) fun _ => Preserves.bind (hevent _) fun _ =>
    Preserves.forEach fun ch _ => hevent _) d ⟨rfl, rfl⟩

/-- The preparation lays out the pattern. -/
theorem frames_prepare (hbuf : d.motu.shadow_buf = some buf) :
    Frames buf d.runtime none (snd_motu_prepare.exec env d) := by
  have hrounds : Frames buf d.runtime none
      ((forEach (List.range d.runtime.buffer_size.toNat) (prepare_frame buf)).exec env d) := by
    obtain ⟨hkept, hruntime⟩ := @prepare_rounds_kept env d buf d.runtime.buffer_size.toNat
    refine ⟨hkept.trans hbuf, hruntime, fun i hi ch hch => ?_⟩
    obtain ⟨hdiv, hmod⟩ : (i * 98 + ch) / 98 = i ∧ (i * 98 + ch) % 98 = ch := by omega
    rw [prepare_rounds_word, hdiv, hmod, if_pos hi]
    rfl
  rw [snd_motu_prepare, exec_bind, exec_bind, eval_get_motu, exec_get_motu, eval_get_runtime, exec_get_runtime, hbuf]
  refine hrounds.plain (Confined.bind (Plain.iowrite32 _ _) fun _ _ _ => ?_)
  refine Confined.bind (Plain.iowrite32 _ _) fun _ _ _ => Confined.ite (fun _ => ?_) fun _ => ?_
  · exact Confined.bind (Plain.iowrite32 _ _) fun _ _ _ => Confined.pure _
  · exact Confined.bind (Plain.iowrite32 _ _) fun _ _ _ => Confined.pure _

/-- An ack replaces what was heard, where there is an area to read. -/
theorem Frames.ack (hframes : Frames buf runtime sound d) :
    Frames buf runtime ((heard_by env d .ack).or sound) (snd_motu_ack.exec env d) := by
  rw [snd_motu_ack, exec_bind, exec_bind, eval_get_motu, exec_get_motu, eval_get_runtime, exec_get_runtime, heard_by,
    hframes.buf_eq]
  cases harea : d.runtime.dma_area with
  | none => exact hframes
  | some area =>
    obtain ⟨hkept, hruntime⟩ := @ack_rounds_kept env d buf area d.runtime.buffer_size.toNat
    refine ⟨hkept.trans hframes.buf_eq, hruntime.trans hframes.runtime_eq, fun i hi ch hch => ?_⟩
    obtain ⟨hdiv, hmod⟩ : (i * 98 + ch) / 98 = i ∧ (i * 98 + ch) % 98 = ch := by omega
    have hrounds := ack_rounds_word env d area buf d.runtime.buffer_size.toNat (i * 98 + ch)
    rw [hdiv, hmod] at hrounds
    refine hrounds.trans ?_
    rw [Option.some_or, frame_word]
    by_cases hch : ch = 2 ∨ ch = 3
    · rw [if_pos hch, if_pos ⟨by rwa [hframes.runtime_eq], hch⟩]
    · rw [if_neg hch, if_neg fun h => hch h.2, hframes.words i hi ch ‹_›]
      cases sound with
      | none => rfl
      | some sound => rw [frame_word, if_neg hch]

theorem Frames.step (hframes : Frames buf runtime sound d) {call : PciCall} (hcall : call.Streams) :
    Frames buf runtime ((heard_by env d call).or sound) (pci_step env d call) := by
  have hplain {α : Type} {p : PciAlsa α} (hp : Plain env d p) :
      Frames buf runtime sound ((p >>= fun _ => pure ()).exec env d) := hframes.plain hp
  cases call with
  | pcm_close => exact hplain snd_motu_close_plain
  | trigger cmd => exact hplain (snd_motu_trigger_plain cmd)
  | pointer => exact hplain snd_motu_pointer_plain
  | ack => exact hframes.ack
  | timer => exact hframes.plain expire_plain
  | interrupt => exact hplain snd_motu_interrupt_plain
  | _ => exact hcall.elim

theorem Frames.run (hframes : Frames buf runtime sound d) {calls : List PciCall}
    (hcalls : ∀ call ∈ calls, call.Streams) :
    Frames buf runtime ((last_heard env d calls).or sound) (run (pci_step env) d calls) := by
  induction calls generalizing d sound with
  | nil => exact hframes
  | cons call calls ih =>
    obtain ⟨hcall, hrest⟩ := List.forall_mem_cons.mp hcalls
    rw [last_heard, Option.or_assoc, run_cons]
    exact ih (hframes.step hcall) hrest

end calls

/-- From a preparation on, and through whatever calls follow that leave the configuration alone, every frame of the
buffer keeps the status words and the pattern that were laid out in it, except that its first two channels are what the
last ack read for that frame in the area of the stream. -/
theorem frames_hold (env : PciEnv) (d : PciDriver) {buf : Nat} (hbuf : d.motu.shadow_buf = some buf)
    (calls : List PciCall) (hcalls : ∀ call ∈ calls, call.Streams) :
    Frames buf d.runtime (last_heard env (pci_step env d .prepare) calls)
      (run (pci_step env) d (.prepare :: calls)) := by
  have hprepared : Frames buf d.runtime none (pci_step env d .prepare) := frames_prepare hbuf
  have hrun : Frames buf d.runtime ((last_heard env (pci_step env d .prepare) calls).or none)
      (run (pci_step env) (pci_step env d .prepare) calls) := hprepared.run hcalls
  rwa [Option.or_none] at hrun

/-- The smallest buffer that the constraints admit. -/
def small_params : snd_pcm_hw_params where
  config :=
    { format := .s32_le
      channels := 2
      rate := 48000
      period_size := 128
      buffer_size := 256
      dma_area := none }
  admitted := by decide

/-- The driver with that buffer. -/
def small_stream : PciDriver := run (pci_step .idle) .probed [.pcm_open 1, .hw_params small_params]

/-- A stream that starts, hears two acks and is stopped. -/
theorem small_stream_frames :
    Frames 0x10000 small_stream.runtime
      (last_heard .idle (pci_step .idle small_stream .prepare) [.trigger .start, .ack, .timer, .ack, .trigger .stop])
      (run (pci_step .idle) small_stream [.prepare, .trigger .start, .ack, .timer, .ack, .trigger .stop]) :=
  frames_hold .idle small_stream rfl [.trigger .start, .ack, .timer, .ack, .trigger .stop] (by simp [PciCall.Streams])

end motu424.pci_alsa
