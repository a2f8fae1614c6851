import Motu424.Alsa.Irq
import Motu424.Foundation.Interleaving

open Program

namespace motu424

section code

variable {α : Type}

/-- What a processor that runs a callback has still to do. -/
abbrev AlsaCode (α : Type) : Type := Code Env motu424_linux α

/-- An access through shared code. -/
def access {β : Type} (p : Pal β) (k : β → AlsaCode α) : AlsaCode α := .step (shared p) k

/-- An access without a result. -/
def access' (p : Pal Unit) (k : AlsaCode α) : AlsaCode α := access p fun _ => k

/-- A read of a field of the shared context. -/
def field {β : Type} (f : motu424_ctx → β) (k : β → AlsaCode α) : AlsaCode α :=
  access (Program.gets fun m => f m.ctx) k

/-- An access to a register, with the read of the pointer before it. -/
def write_reg (offset value : U32) (k : AlsaCode α) : AlsaCode α :=
  field motu424_ctx.iobase_reg fun reg => access' (pal_write32 reg offset value) k

def read_reg (offset : U32) (k : U32 → AlsaCode α) : AlsaCode α :=
  field motu424_ctx.iobase_reg fun reg => access (pal_read32 reg offset) k

def set_port_conf_shadow (val : U32) (k : AlsaCode α) : AlsaCode α :=
  access' (set_ctx fun ctx => { ctx with port_conf_shadow := val }) k

def set_dma_running (val : Int) (k : AlsaCode α) : AlsaCode α :=
  access' (set_ctx fun ctx => { ctx with dma_running := val }) k

def set_rate (val : U32) (k : AlsaCode α) : AlsaCode α :=
  access' (set_ctx fun ctx => { ctx with rate := val }) k

def set_start_time_ns (val : U64) (k : AlsaCode α) : AlsaCode α :=
  access' (set_ctx fun ctx => { ctx with start_time_ns := val }) k

def open_code (f : motu424_linux → motu424_linux) (done : Int → AlsaCode α) : AlsaCode α :=
  .step (Program.update f) fun _ => done 0

def clear_dma_buf_code (k : AlsaCode α) : AlsaCode α :=
  field motu424_ctx.dma_buf fun dma_buf =>
    match dma_buf with
    | none => k
    | some buf => field motu424_ctx.dma_size fun size => access' (memset buf 0 size) k

def write_dma_base_code (k : AlsaCode α) : AlsaCode α :=
  field motu424_ctx.dma_addr fun dma_addr =>
  if dma_addr ≠ 0 then write_reg MOTU_REG_DMA_BASE (dma_addr.truncate 32) k else k

def playback_prepare_code (substream : snd_pcm_substream) (done : Int → AlsaCode α) : AlsaCode α :=
  .lock <|
  clear_dma_buf_code <|
  write_reg MOTU_REG_PORT_CONF 0 <|
  write_reg MOTU_REG_DMA_SIZE
    (BitVec.ofNat 32 (frames_to_bytes substream.runtime substream.runtime.period_size)) <|
  write_dma_base_code <|
  set_rate substream.runtime.rate <|
  set_dma_running 0 <|
  .unlock <| done 0

def capture_prepare_code (substream : snd_pcm_substream) (done : Int → AlsaCode α) : AlsaCode α :=
  .lock <|
  set_rate substream.runtime.rate <|
  set_dma_running 0 <|
  .unlock <| done 0

/-- Write a new configuration and remember it. -/
def write_port_conf_code (val : U32) (dma_running : Int) (k : AlsaCode α) : AlsaCode α :=
  write_reg MOTU_REG_PORT_CONF val <|
  set_port_conf_shadow val <|
  set_dma_running dma_running k

def trigger_switch_code (stream : snd_pcm_stream) (cmd : snd_pcm_trigger) (k : Int → AlsaCode α) : AlsaCode α :=
  match cmd with
  | .start | .resume =>
    read_reg MOTU_REG_PORT_CONF fun val =>
    let val := val ||| (MOTU_PORT_CONF_DMA_EN ||| MOTU_PORT_CONF_RUN)
    let val := match stream with
      | .playback => val ||| MOTU_PORT_CONF_DMA_RD
      | .capture => val &&& ~~~MOTU_PORT_CONF_DMA_RD
    write_port_conf_code val 1 <|
    access ktime_get_ns fun now =>
    set_start_time_ns now <| k 0
  | .stop | .suspend =>
    read_reg MOTU_REG_PORT_CONF fun val =>
    write_port_conf_code (val &&& ~~~(MOTU_PORT_CONF_DMA_EN ||| MOTU_PORT_CONF_RUN |||
      MOTU_PORT_CONF_DMA_RD ||| MOTU_PORT_CONF_START)) 0 <| k 0
  | .pause_release =>
    field motu424_ctx.port_conf_shadow fun shadow =>
    write_port_conf_code (shadow ||| MOTU_PORT_CONF_DMA_EN) 1 <| k 0
  | .pause_push =>
    field motu424_ctx.port_conf_shadow fun shadow =>
    write_port_conf_code (shadow &&& ~~~MOTU_PORT_CONF_DMA_EN) 0 <| k 0
  | .other _ => k (-EINVAL)

def trigger_code (substream : snd_pcm_substream) (cmd : snd_pcm_trigger) (done : Int → AlsaCode α) : AlsaCode α :=
  .lock <| trigger_switch_code substream.stream cmd fun ret => .unlock <| done ret

/-- What `motu424_pointer` answers when it goes by the clock. -/
def clock_pointer_code (runtime : snd_pcm_runtime) (done : U64 → AlsaCode α) : AlsaCode α :=
  field motu424_ctx.dma_running fun dma_running =>
  if dma_running ≠ 0 ∧ 0 < runtime.buffer_size then
    access ktime_get_ns fun now =>
    field motu424_ctx.start_time_ns fun start_time_ns =>
    field motu424_ctx.rate fun rate =>
    done ((now - start_time_ns) * rate.zeroExtend 64 / 1000000000 % runtime.buffer_size)
  else done 0

def pointer_code (substream : snd_pcm_substream) (done : U64 → AlsaCode α) : AlsaCode α :=
  read_reg MOTU_REG_DMA_CTRL fun hw_ptr =>
  field motu424_ctx.dma_running fun dma_running =>
  if dma_running ≠ 0 ∧ 0 < hw_ptr then
    field motu424_ctx.dma_size fun dma_size =>
    if hw_ptr.zeroExtend 64 < dma_size then
      let pos : U64 := BitVec.ofNat 64 (bytes_to_frames substream.runtime hw_ptr.toNat)
      done (if pos ≥ substream.runtime.buffer_size then 0 else pos)
    else clock_pointer_code substream.runtime done
  else clock_pointer_code substream.runtime done

def playback_ack_round_code (alsa_buf hw_buf : Buffer) (i : Nat) (k : AlsaCode α) : AlsaCode α :=
  access (load alsa_buf (i * 2)) fun val_l =>
  access (load alsa_buf (i * 2 + 1)) fun val_r =>
  access' (store hw_buf (i * MOTU_CHANNELS_PER_FRAME + 2) val_l) <|
  access' (store hw_buf (i * MOTU_CHANNELS_PER_FRAME + 3) val_r) k

def capture_ack_round_code (alsa_buf hw_buf : Buffer) (i : Nat) (k : AlsaCode α) : AlsaCode α :=
  access (load hw_buf (i * MOTU_CHANNELS_PER_FRAME + 2)) fun val_l =>
  access' (store alsa_buf (i * 2) val_l) <|
  access (load hw_buf (i * MOTU_CHANNELS_PER_FRAME + 3)) fun val_r =>
  access' (store alsa_buf (i * 2 + 1) val_r) k

/-- Both acks, by the round of their loop. -/
def ack_code (round : Buffer → Buffer → Nat → AlsaCode α → AlsaCode α) (substream : snd_pcm_substream)
    (done : Int → AlsaCode α) : AlsaCode α :=
  field motu424_ctx.dma_buf fun dma_buf =>
    match dma_buf, substream.runtime.dma_area with
    | some dma_buf, some dma_area =>
      .forEach (List.range substream.runtime.buffer_size.toNat) (round (.area dma_area) (.dma dma_buf)) (done 0)
    | _, _ => done 0

/-- The check of a substream, and its use: each reads the pointer. The core ignores
a substream that is NULL by then. -/
def notify_open_code (substream : motu424_linux → Option Nat) (k : AlsaCode α) : AlsaCode α :=
  .step (Program.gets substream) fun checked =>
  if checked = none then k
  else .step (Program.gets substream) fun used => access' (notify_open used) k

def irq_code (done : irqreturn_t → AlsaCode α) : AlsaCode α :=
  read_reg MOTU_REG_INT_STATUS fun status =>
  if status &&& MOTU_INT_PERIOD_ELAPSED = 0 then done .irq_handled
  else
    write_reg MOTU_REG_INT_ACK status <|
    notify_open_code motu424_linux.playback_substream <|
    notify_open_code motu424_linux.capture_substream <| done .irq_handled

/-- What the taking of the lock does, and its dropping. -/
def take_lock : Alsa Unit := shared pal_spinlock_lock_irqsave

def drop_lock : Alsa Unit := shared pal_spinlock_unlock_irqrestore

/-- The code of a processor that has the device to itself. -/
def alone (c : AlsaCode α) : Alsa α := c.program take_lock drop_lock

theorem write_dma_base_program (k : AlsaCode α) : alone (write_dma_base_code k) =
    shared (get_ctx >>= fun ctx => when (ctx.dma_addr ≠ 0)
      (pal_write32 ctx.iobase_reg MOTU_REG_DMA_BASE (ctx.dma_addr.truncate 32))) >>= fun _ => alone k := by
  funext env motu
  change alone (if motu.machine.ctx.dma_addr ≠ 0 then _ else _) env motu =
    (shared (if motu.machine.ctx.dma_addr ≠ 0 then _ else _) >>= fun _ => alone k) env motu
  by_cases haddr : motu.machine.ctx.dma_addr ≠ 0
  · rw [if_pos haddr, if_pos haddr]
    rfl
  · rw [if_neg haddr, if_neg haddr]
    rfl

/-- `motu424_playback_prepare` up to the write of the base. -/
def prepare_head (substream : snd_pcm_substream) : Pal Unit := do
  pal_spinlock_lock_irqsave
  let ctx ← get_ctx
  clear_dma_buf ctx
  pal_write32 ctx.iobase_reg MOTU_REG_PORT_CONF 0
  pal_write32 ctx.iobase_reg MOTU_REG_DMA_SIZE
    (BitVec.ofNat 32 (frames_to_bytes substream.runtime substream.runtime.period_size))

theorem playback_prepare_program (substream : snd_pcm_substream) (done : Int → AlsaCode α) :
    alone (playback_prepare_code substream done) =
      shared (motu424_playback_prepare substream) >>= fun ret => alone (done ret) := by
  funext env motu
  have hbase := congrFun₂ (write_dma_base_program <| set_rate substream.runtime.rate <| set_dma_running 0 <|
    .unlock <| done 0) env ((shared (prepare_head substream)).exec env motu)
  obtain ⟨⟨ctx, trace⟩, _⟩ := motu
  obtain ⟨_, _, _, dma_buf, _⟩ := ctx
  cases dma_buf with
  | none => exact hbase
  | some buf => exact hbase

theorem capture_prepare_program (substream : snd_pcm_substream) (done : Int → AlsaCode α) :
    alone (capture_prepare_code substream done) =
      shared (motu424_capture_prepare substream) >>= fun ret => alone (done ret) := (rfl)

theorem trigger_program (substream : snd_pcm_substream) (cmd : snd_pcm_trigger) (done : Int → AlsaCode α) :
    alone (trigger_code substream cmd done) =
      shared (motu424_trigger substream cmd) >>= fun ret => alone (done ret) := by
  cases cmd <;> rfl

/-- The part of `motu424_pointer` that goes by the clock. -/
def clock_pointer (runtime : snd_pcm_runtime) (ctx : motu424_ctx) : Pal U64 :=
  if ctx.dma_running ≠ 0 ∧ 0 < runtime.buffer_size then do
    let now ← ktime_get_ns
    pure ((now - ctx.start_time_ns) * ctx.rate.zeroExtend 64 / 1000000000 % runtime.buffer_size)
  else pure 0

theorem clock_pointer_program (runtime : snd_pcm_runtime) (done : U64 → AlsaCode α) :
    alone (clock_pointer_code runtime done) =
      shared (get_ctx >>= clock_pointer runtime) >>= fun pos => alone (done pos) := by
  funext env motu
  change alone (if motu.machine.ctx.dma_running ≠ 0 ∧ 0 < runtime.buffer_size then _ else _) env motu =
    (shared (if motu.machine.ctx.dma_running ≠ 0 ∧ 0 < runtime.buffer_size then _ else _) >>= fun pos =>
      alone (done pos)) env motu
  split
  · rfl
  · rfl

theorem pointer_program (substream : snd_pcm_substream) (done : U64 → AlsaCode α) :
    alone (pointer_code substream done) =
      shared (motu424_pointer substream) >>= fun pos => alone (done pos) := by
  funext env motu
  let hw_ptr := env.read32 motu.machine.trace .reg MOTU_REG_DMA_CTRL
  let dma_running := motu.machine.ctx.dma_running
  let after_read := (shared (pal_read32 motu.machine.ctx.iobase_reg MOTU_REG_DMA_CTRL)).exec env motu
  have hclock := congrFun₂ (clock_pointer_program substream.runtime done) env after_read
  change alone (if dma_running ≠ 0 ∧ 0 < hw_ptr then field motu424_ctx.dma_size fun dma_size =>
      if hw_ptr.zeroExtend 64 < dma_size then _ else _ else _) env after_read =
    (shared (if dma_running ≠ 0 ∧ 0 < hw_ptr ∧ hw_ptr.zeroExtend 64 < motu.machine.ctx.dma_size then _
      else clock_pointer substream.runtime motu.machine.ctx) >>= fun pos => alone (done pos)) env after_read
  by_cases hrunning : dma_running ≠ 0 ∧ 0 < hw_ptr
  · rw [if_pos hrunning]
    change alone (if hw_ptr.zeroExtend 64 < motu.machine.ctx.dma_size then _ else _) env after_read = _
    by_cases hinside : hw_ptr.zeroExtend 64 < motu.machine.ctx.dma_size
    · rw [if_pos hinside, if_pos ⟨hrunning.1, hrunning.2, hinside⟩]
      rfl
    · rw [if_neg hinside, if_neg fun h => hinside h.2.2]
      exact hclock
  · rw [if_neg hrunning, if_neg fun h => hrunning ⟨h.1, h.2.1⟩]
    exact hclock

/-- A loop through shared code is a loop of accesses. -/
theorem shared_forEach {ι : Type} (is : List ι) (body : ι → Pal Unit) :
    shared (Program.forEach is body) = Program.forEach is fun i => shared (body i) := by
  induction is with
  | nil => rfl
  | cons i is ih =>
    change (shared (body i) >>= fun _ => shared (Program.forEach is body)) = _
    rw [ih]
    rfl

theorem ack_loop_program {code : Nat → AlsaCode α → AlsaCode α} {round : Nat → Pal Unit}
    (hround : ∀ i k, alone (code i k) = shared (round i) >>= fun _ => alone k) (frames : List Nat)
    (k : AlsaCode α) : alone (Code.forEach frames code k) =
      shared (Program.forEach frames round) >>= fun _ => alone k := by
  rw [shared_forEach]
  exact Code.program_forEach take_lock drop_lock hround frames k

theorem playback_ack_program (substream : snd_pcm_substream) (done : Int → AlsaCode α) :
    alone (ack_code playback_ack_round_code substream done) =
      shared (motu424_playback_ack substream) >>= fun ret => alone (done ret) := by
  funext env motu
  obtain ⟨⟨ctx, trace⟩, _⟩ := motu
  obtain ⟨_, _, _, dma_buf, _⟩ := ctx
  obtain ⟨_, _, runtime⟩ := substream
  obtain ⟨_, _, _, _, _, dma_area⟩ := runtime
  cases dma_buf with
  | none => cases dma_area <;> rfl
  | some dma_buf =>
    cases dma_area with
    | none => rfl
    | some dma_area =>
      exact congrFun₂ (ack_loop_program (fun _ _ => rfl) _ (done 0)) env _

theorem capture_ack_program (substream : snd_pcm_substream) (done : Int → AlsaCode α) :
    alone (ack_code capture_ack_round_code substream done) =
      shared (motu424_capture_ack substream) >>= fun ret => alone (done ret) := by
  funext env motu
  obtain ⟨⟨ctx, trace⟩, _⟩ := motu
  obtain ⟨_, _, _, dma_buf, _⟩ := ctx
  obtain ⟨_, _, runtime⟩ := substream
  obtain ⟨_, _, _, _, _, dma_area⟩ := runtime
  cases dma_buf with
  | none => cases dma_area <;> rfl
  | some dma_buf =>
    cases dma_area with
    | none => rfl
    | some dma_area =>
      exact congrFun₂ (ack_loop_program (fun _ _ => rfl) _ (done 0)) env _

theorem notify_open_program (substream : motu424_linux → Option Nat) (k : AlsaCode α) :
    alone (notify_open_code substream k) =
      (Program.gets substream >>= fun used => shared (notify_open used)) >>= fun _ => alone k := by
  funext env motu
  change alone (if substream motu = none then _ else _) env motu = _
  by_cases hopen : substream motu = none
  · rw [if_pos hopen]
    change _ = (shared (notify_open (substream motu)) >>= fun _ => alone k) env motu
    rw [hopen]
    rfl
  · rw [if_neg hopen]
    rfl

theorem irq_program (done : irqreturn_t → AlsaCode α) :
    alone (irq_code done) = registered_irq >>= fun ret => alone (done ret) := by
  funext env motu
  let status := irq_status env motu
  change alone (if status &&& MOTU_INT_PERIOD_ELAPSED = 0 then _ else _) env _ =
    ((if status &&& MOTU_INT_PERIOD_ELAPSED = 0 then _ else _ : Alsa Unit) >>= fun _ => alone (done .irq_handled)) env _
  by_cases hraised : status &&& MOTU_INT_PERIOD_ELAPSED = 0
  · rw [if_pos hraised, if_pos hraised]
    rfl
  · rw [if_neg hraised, if_neg hraised]
    have hcapture := notify_open_program motu424_linux.capture_substream (done .irq_handled)
    have hplayback := notify_open_program motu424_linux.playback_substream
      (notify_open_code motu424_linux.capture_substream <| done .irq_handled)
    rw [hcapture] at hplayback
    exact congrFun₂ hplayback env _

end code

end motu424
