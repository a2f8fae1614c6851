import Motu424.Alsa.Ack
import Motu424.Foundation.Flow
import Motu424.Foundation.Run

open Program Flow Function Run

namespace motu424

/-- The words of the hardware buffer after the device has written some. -/
def device_store (mem : Nat → U32) (writes : List (Nat × U32)) : Nat → U32 :=
  writes.foldl (fun mem w => update mem w.1 w.2) mem

/-- The words of the hardware buffer after an event of the driver. -/
def Event.hw_store (mem : Nat → U32) : Event → Nat → U32
  | .store (.dma _) index value => update mem index value
  | _ => mem

/-- The words of the hardware buffer after events of the driver, the first of which is
its `n`-th one. The device writes some words before each event. -/
def hw_words (device : Nat → List (Nat × U32)) : Nat → List Event → (Nat → U32) → Nat → U32
  | _, [], mem => mem
  | n, e :: events, mem => hw_words device (n + 1) events (e.hw_store (device_store mem (device n)))

/-- The outside of the `ack` callbacks: the hardware buffer with its initial words and
those of the device, and the samples of the application, by the time of the access, the
area and the index. -/
def ack_env (hw : Nat → U32) (device : Nat → List (Nat × U32)) (samples : Nat × Nat × Nat → U32) : Env where
  read32 := Env.idle.read32
  dma_alloc := Env.idle.dma_alloc
  irq_request := Env.idle.irq_request
  ktime_get_ns := Env.idle.ktime_get_ns
  load := fun trace buf index =>
    match buf with
    | .area vaddr => samples (trace.length, vaddr, index)
    | .dma _ => device_store (hw_words device 0 trace hw) (device trace.length) index

/-- The state the callback of a substream leaves behind. -/
def ack_step (env : Env) (m : Machine) (substream : snd_pcm_substream) : Machine :=
  (motu424_ack substream.stream substream).exec env m

/-- A sample that an event stores in the area of a stream, and where. -/
def Event.captured : Event → Option ((Nat × Nat) × U32)
  | .store (.area vaddr) index value => some ((vaddr, index), value)
  | _ => none

/-- The samples that a trace stores in the areas of streams. -/
def captured (trace : List Event) : List ((Nat × Nat) × U32) := trace.filterMap Event.captured

/-- Samples are put under their time, area and index, and got for a place in an area. -/
abbrev AckAccess := Access Nat (Nat × Nat × Nat) (Nat × Nat) U32

def device_accesses (writes : List (Nat × U32)) : List AckAccess := writes.map fun w => .set w.1 w.2

/-- The accesses of the round for a frame whose first event is the driver's `n`-th. -/
def ack_round_accesses (device : Nat → List (Nat × U32)) (area n i : Nat) :
    snd_pcm_stream → List AckAccess
  | .playback =>
    device_accesses (device n) ++ device_accesses (device (n + 1)) ++ device_accesses (device (n + 2)) ++
    [.put (i * MOTU_CHANNELS_PER_FRAME + 2) (n, area, i * 2)] ++ device_accesses (device (n + 3)) ++
    [.put (i * MOTU_CHANNELS_PER_FRAME + 3) (n + 1, area, i * 2 + 1)]
  | .capture =>
    device_accesses (device n) ++ [.get (area, i * 2) (i * MOTU_CHANNELS_PER_FRAME + 2)] ++
    device_accesses (device (n + 1)) ++ device_accesses (device (n + 2)) ++
    [.get (area, i * 2 + 1) (i * MOTU_CHANNELS_PER_FRAME + 3)] ++ device_accesses (device (n + 3))

/-- The accesses of callbacks in a row, the first of which starts at the driver's `n`-th
event. A round has four events. -/
def ack_accesses (c : motu424_ctx) (device : Nat → List (Nat × U32)) :
    Nat → List snd_pcm_substream → List AckAccess
  | _, [] => []
  | n, substream :: substreams =>
    match c.dma_buf, substream.runtime.dma_area with
    | some _, some area =>
      (List.range substream.runtime.buffer_size.toNat).flatMap
        (fun i => ack_round_accesses device area (n + 4 * i) i substream.stream) ++
      ack_accesses c device (n + 4 * substream.runtime.buffer_size.toNat) substreams
    | _, _ => ack_accesses c device n substreams

section rounds

variable (hw : Nat → U32) (device : Nat → List (Nat × U32)) (samples : Nat × Nat × Nat → U32)

@[simp] theorem memory_device_accesses (mem : Nat → U32) (writes : List (Nat × U32)) :
    memory samples mem (device_accesses writes) = device_store mem writes := by
  rw [memory, device_accesses, List.foldl_map]
  rfl

@[simp] theorem received_device_accesses (mem : Nat → U32) (writes : List (Nat × U32)) :
    received samples mem (device_accesses writes) = [] := by
  induction writes generalizing mem with
  | nil => rfl
  | cons w writes ih => exact ih (update mem w.1 w.2)

theorem hw_words_append (n : Nat) (xs ys : List Event) (mem : Nat → U32) :
    hw_words device n (xs ++ ys) mem = hw_words device (n + xs.length) ys (hw_words device n xs mem) := by
  induction xs generalizing n mem with
  | nil => rfl
  | cons x xs ih =>
    rw [List.cons_append, hw_words, ih, hw_words, List.length_cons, Nat.add_right_comm, Nat.add_assoc]

/-- From one machine to a later one, a number of events of the driver perform a list of
accesses: the events publish what the accesses publish, and leave in the hardware buffer
what they leave there. -/
def Performs (events : Nat) (accesses : List AckAccess) (m m' : Machine) : Prop :=
  ∃ new, m' = m.emit new ∧ new.length = events ∧
    captured new = received samples (hw_words device 0 m.trace hw) accesses ∧
    hw_words device 0 m'.trace hw = memory samples (hw_words device 0 m.trace hw) accesses

variable {hw device samples}

theorem Performs.refl (m : Machine) : Performs hw device samples 0 [] m m :=
  ⟨[], by rw [Machine.emit_nil], rfl, rfl, rfl⟩

theorem Performs.trans {k l : Nat} {xs ys : List AckAccess} {m m' m'' : Machine}
    (hfirst : Performs hw device samples k xs m m') (hrest : Performs hw device samples l ys m' m'') :
    Performs hw device samples (k + l) (xs ++ ys) m m'' := by
  obtain ⟨first, rfl, hlength, hcaptured, hwords⟩ := hfirst
  obtain ⟨rest, rfl, hlength', hcaptured', hwords'⟩ := hrest
  refine ⟨first ++ rest, Machine.emit_emit .., ?_, ?_, ?_⟩
  · rw [List.length_append, hlength, hlength']
  · rw [captured, List.filterMap_append, ← captured, ← captured, hcaptured, hcaptured', received_append,
      hwords]
  · rw [hwords', hwords, memory_append]

theorem Performs.trace_length {k : Nat} {xs : List AckAccess} {m m' : Machine}
    (hperforms : Performs hw device samples k xs m m') : m'.trace.length = m.trace.length + k := by
  obtain ⟨new, rfl, hlength, _⟩ := hperforms
  rw [Machine.emit_trace, List.length_append, hlength]

theorem Performs.ctx {k : Nat} {xs : List AckAccess} {m m' : Machine}
    (hperforms : Performs hw device samples k xs m m') : m'.ctx = m.ctx := by
  obtain ⟨new, rfl, _⟩ := hperforms
  rfl

/-- A round of the playback loop puts two samples. -/
theorem playback_ack_round_performs (m : Machine) (area buf i : Nat) :
    Performs hw device samples 4 (ack_round_accesses device area m.trace.length i .playback) m
      ((playback_ack_round (.area area) (.dma buf) i).exec (ack_env hw device samples) m) := by
  have hexec : (playback_ack_round (.area area) (.dma buf) i).exec (ack_env hw device samples) m =
      m.emit [.load (.area area) (i * 2), .load (.area area) (i * 2 + 1),
        .store (.dma buf) (i * MOTU_CHANNELS_PER_FRAME + 2) (samples (m.trace.length, area, i * 2)),
        .store (.dma buf) (i * MOTU_CHANNELS_PER_FRAME + 3)
          (samples (m.trace.length + 1, area, i * 2 + 1))] := by
    simp [playback_ack_round, ack_env]
  refine ⟨_, hexec, rfl, ?_, ?_⟩
  · simp [ack_round_accesses, received_append, received, captured, Event.captured]
  · rw [hexec, Machine.emit_trace, hw_words_append, Nat.zero_add]
    simp [ack_round_accesses, hw_words, Event.hw_store, Access.store, Nat.add_assoc]

/-- A round of the capture loop gets two samples. -/
theorem capture_ack_round_performs (m : Machine) (area buf i : Nat) :
    Performs hw device samples 4 (ack_round_accesses device area m.trace.length i .capture) m
      ((capture_ack_round (.area area) (.dma buf) i).exec (ack_env hw device samples) m) := by
  obtain ⟨words, hwords⟩ : ∃ words, hw_words device 0 m.trace hw = words := ⟨_, rfl⟩
  have hexec : (capture_ack_round (.area area) (.dma buf) i).exec (ack_env hw device samples) m =
      m.emit [.load (.dma buf) (i * MOTU_CHANNELS_PER_FRAME + 2),
        .store (.area area) (i * 2) (device_store words (device m.trace.length)
          (i * MOTU_CHANNELS_PER_FRAME + 2)),
        .load (.dma buf) (i * MOTU_CHANNELS_PER_FRAME + 3),
        .store (.area area) (i * 2 + 1) (device_store (device_store (device_store words
          (device m.trace.length)) (device (m.trace.length + 1))) (device (m.trace.length + 2))
            (i * MOTU_CHANNELS_PER_FRAME + 3))] := by
    simp [capture_ack_round, ack_env, hw_words_append, hw_words, Event.hw_store, hwords]
  refine ⟨_, hexec, rfl, ?_, ?_⟩
  · simp [ack_round_accesses, received_append, received, hwords]
    rfl
  · rw [hexec, Machine.emit_trace, hw_words_append, Nat.zero_add]
    simp [ack_round_accesses, hw_words, Event.hw_store, Access.store, Nat.add_assoc]

theorem ack_round_performs (m : Machine) (area buf i : Nat) (stream : snd_pcm_stream) :
    Performs hw device samples 4 (ack_round_accesses device area m.trace.length i stream) m
      ((ack_round area buf i stream).exec (ack_env hw device samples) m) := by
  cases stream with
  | playback => exact playback_ack_round_performs m area buf i
  | capture => exact capture_ack_round_performs m area buf i

/-- A loop performs its rounds one after another, four events each. -/
theorem forEach_performs {body : Nat → Pal Unit} {accesses : Nat → Nat → List AckAccess}
    (hbody : ∀ m i, Performs hw device samples 4 (accesses m.trace.length i) m
      ((body i).exec (ack_env hw device samples) m)) (base start len : Nat) (m : Machine)
    (hm : m.trace.length = base + 4 * start) :
    Performs hw device samples (4 * len)
      ((List.range' start len).flatMap fun i => accesses (base + 4 * i) i) m
      ((Program.forEach (List.range' start len) body).exec (ack_env hw device samples) m) := by
  induction len generalizing start m with
  | zero => exact .refl m
  | succ len ih =>
    have hround := hbody m start
    have hlength := hround.trace_length
    have hrest := ih (start + 1) ((body start).exec (ack_env hw device samples) m) (by omega)
    have hboth := hround.trans hrest
    rw [hm, Nat.add_comm 4] at hboth
    exact hboth

/-- A callback performs the accesses of its frames. -/
theorem motu424_ack_performs (m : Machine) (stream : snd_pcm_stream) {substream : snd_pcm_substream}
    {buf area : Nat} (hbuf : m.ctx.dma_buf = some buf)
    (harea : substream.runtime.dma_area = some area) :
    Performs hw device samples (4 * substream.runtime.buffer_size.toNat)
      ((List.range substream.runtime.buffer_size.toNat).flatMap
        fun i => ack_round_accesses device area (m.trace.length + 4 * i) i stream) m
      ((motu424_ack stream substream).exec (ack_env hw device samples) m) := by
  rw [exec_motu424_ack _ m stream hbuf harea, List.range_eq_range']
  exact @forEach_performs hw device samples _ (fun n i => ack_round_accesses device area n i stream)
    (fun m i => ack_round_performs m area buf i stream) m.trace.length 0 _ m rfl

/-- A run of callbacks performs their accesses. -/
theorem ack_run_performs (substreams : List snd_pcm_substream) (m : Machine) : ∃ events,
    Performs hw device samples events (ack_accesses m.ctx device m.trace.length substreams) m
      (run (ack_step (ack_env hw device samples)) m substreams) := by
  induction substreams generalizing m with
  | nil => exact ⟨0, .refl m⟩
  | cons substream substreams ih =>
    have hskip (hsame : ack_step (ack_env hw device samples) m substream = m) : ∃ events,
        Performs hw device samples events (ack_accesses m.ctx device m.trace.length substreams) m
          (run (ack_step (ack_env hw device samples)) m (substream :: substreams)) := by
      obtain ⟨events, hrest⟩ := ih m
      refine ⟨events, ?_⟩
      rw [run, List.foldl_cons, hsame]
      exact hrest
    rw [ack_accesses]
    cases hbuf : m.ctx.dma_buf with
    | none => exact hskip (motu424_ack_no_buffer _ m _ substream hbuf)
    | some buf =>
      cases harea : substream.runtime.dma_area with
      | none => exact hskip (motu424_ack_no_area _ m _ harea)
      | some area =>
        have hfirst := @motu424_ack_performs hw device samples m substream.stream substream buf area hbuf
          harea
        rw [← ack_step] at hfirst
        obtain ⟨events, hrest⟩ := ih (ack_step (ack_env hw device samples) m substream)
        rw [hfirst.ctx, hfirst.trace_length] at hrest
        exact ⟨_, hfirst.trans hrest⟩

end rounds

/-- What a run of callbacks stores in the areas of streams is what its accesses publish. -/
theorem captured_ack_run (hw : Nat → U32) (device : Nat → List (Nat × U32))
    (samples : Nat × Nat × Nat → U32) (c : motu424_ctx) (substreams : List snd_pcm_substream) :
    captured (run (ack_step (ack_env hw device samples)) ⟨c, []⟩ substreams).trace =
      received samples hw (ack_accesses c device 0 substreams) := by
  obtain ⟨_, new, hrun, _, hcaptured, _⟩ :=
    @ack_run_performs hw device samples substreams ⟨c, []⟩
  rw [hrun]
  exact hcaptured

/-- The recording is independent of the samples that are played exactly when no capture
callback reads a word that a playback callback was the last to write. -/
theorem capture_independent_iff (hw : Nat → U32) (device : Nat → List (Nat × U32)) (c : motu424_ctx)
    (substreams : List snd_pcm_substream) :
    (∀ samples samples',
      captured (run (ack_step (ack_env hw device samples)) ⟨c, []⟩ substreams).trace =
      captured (run (ack_step (ack_env hw device samples')) ⟨c, []⟩ substreams).trace) ↔
    Clean (fun _ => false) (ack_accesses c device 0 substreams) := by
  have hnontrivial : Nontrivial U32 := ⟨0, 1, by decide⟩
  simp only [captured_ack_run]
  exact independent_iff_clean hw _

/-- The shortest stream in the given direction, with its own area. -/
def short_substream (stream : snd_pcm_stream) (area : Nat) : snd_pcm_substream :=
  { stereo_substream 128 256 with
    stream := stream
    runtime := { (stereo_substream 128 256).runtime with dma_area := some area } }

/-- A context with a DMA buffer of the maximal size. -/
def buffer_ctx : motu424_ctx :=
  { mapped_ctx with
    dma_buf := some 0x10000
    dma_addr := 0x1000000
    dma_size := MOTU_DMA_BUF_MAX }

/-- A capture callback right after a playback callback records what is played. -/
theorem playback_leaks :
    motu424_pcm_hw.Admits (short_substream .playback 0x9000).runtime ∧
    motu424_pcm_hw.Admits (short_substream .capture 0xA000).runtime ∧
    captured (run (ack_step (ack_env (fun _ => 0) (fun _ => []) fun _ => 0)) ⟨buffer_ctx, []⟩
      [short_substream .playback 0x9000, short_substream .capture 0xA000]).trace ≠
    captured (run (ack_step (ack_env (fun _ => 0) (fun _ => []) fun _ => 1)) ⟨buffer_ctx, []⟩
      [short_substream .playback 0x9000, short_substream .capture 0xA000]).trace := by
  refine ⟨by decide, by decide, ?_⟩
  have hdirty : ¬ Clean (fun _ => false) (ack_accesses buffer_ctx (fun _ => []) 0
      [short_substream .playback 0x9000, short_substream .capture 0xA000]) := by decide +kernel
  rw [captured_ack_run, captured_ack_run]
  exact received_ne_of_not_clean (by decide) hdirty (by simp)

end motu424
