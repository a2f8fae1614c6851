import Motu424.Init
import Motu424.Pal.Emits

open Program

namespace motu424

/-- Two contexts with the same mappings and the same DMA buffer. -/
structure motu424_ctx.SameHw (c c' : motu424_ctx) : Prop where
  dsp : c'.iobase_dsp = c.iobase_dsp
  reg : c'.iobase_reg = c.iobase_reg
  port : c'.iobase_port = c.iobase_port
  buf : c'.dma_buf = c.dma_buf
  addr : c'.dma_addr = c.dma_addr
  size : c'.dma_size = c.dma_size

theorem motu424_ctx.SameHw.refl (c : motu424_ctx) : c.SameHw c := ⟨rfl, rfl, rfl, rfl, rfl, rfl⟩

theorem motu424_ctx.SameHw.translate_eq {c c' : motu424_ctx} (h : c.SameHw c') (val : U32) :
    motu424_translate_dma c' val = motu424_translate_dma c val := by
  simp only [motu424_translate_dma, h.buf, h.addr]

/-- An event of the bring-up code: every register access goes through the
pointer the context holds for its BAR, and writes are those `W` allows. -/
def Event.Within (c : motu424_ctx) (W : Bar → U32 → U32 → Prop) : Event → Prop
  | .read bar base _ => base = c.base bar
  | .write bar base offset value => base = c.base bar ∧ W bar offset value
  | .msleep _ => True
  | .resched => True
  | .log _ _ _ => True
  | _ => False

theorem Event.Within.mono {c : motu424_ctx} {V W : Bar → U32 → U32 → Prop} {e : Event}
    (he : e.Within c V) (hVW : ∀ bar offset value, V bar offset value → W bar offset value) :
    e.Within c W := by
  cases e with
  | write bar base offset value => exact ⟨he.1, hVW bar offset value he.2⟩
  | _ => exact he

/-- The program works on the hardware of `c` and writes only what `W` allows. -/
def WritesOnly (env : Env) (c : motu424_ctx) (W : Bar → U32 → U32 → Prop) {α : Type}
    (p : Pal α) : Prop :=
  Emits env c.SameHw (Event.Within c W) p

def zero_dsp_ram_writes : Bar → U32 → U32 → Prop := fun bar offset value =>
  bar = .dsp ∧ value = 0 ∧ ∃ i < 0x10000, offset = BitVec.ofNat 32 (i * 4)

def dsp_kickstart_writes : Bar → U32 → U32 → Prop := fun bar offset value =>
  (bar, offset, value) ∈ [(Bar.port, (0x0 : U32), (0x0 : U32)), (.dsp, 0x3fffc, 0x0), (.port, 0x4, 0x2)]

def port_loop_writes : Bar → U32 → U32 → Prop := fun bar offset value =>
  (bar, offset, value) ∈ [(Bar.dsp, (0x7040 : U32), (0x0 : U32)), (.dsp, 0x6fec, 0x0),
    (.reg, 0x400000, 0x10), (.dsp, 0x70d4, 0x0), (.dsp, 0x70d8, 0x0), (.dsp, 0x70dc, 0x0)]

def load_fpga_writes : Bar → U32 → U32 → Prop := fun bar offset _ =>
  (bar, offset) ∈ [(Bar.port, (0x4 : U32)), (.port, 0x8), (.reg, 0x300000), (.reg, 0x300004),
    (.reg, MOTU_REG_FPGA_CTRL)]

/-- The BAR that a tag byte names. -/
def tag_bar (tag : U8) : Option Bar :=
  if tag = PAL_BAR_DSP then some .dsp
  else if tag = PAL_BAR_REG then some .reg
  else if tag = PAL_BAR_PORT then some .port
  else none

def replay_writes (c : motu424_ctx) (entries : List motu_init_entry) : Bar → U32 → U32 → Prop :=
  fun bar offset value =>
    ∃ e ∈ entries, tag_bar e.bar = some bar ∧ e.offset = offset ∧ motu424_translate_dma c e.value = value

section phases

variable {env : Env} {c : motu424_ctx} {W : Bar → U32 → U32 → Prop} {K : motu424_ctx → Prop}

theorem WritesOnly.mono {V : Bar → U32 → U32 → Prop} {α : Type} {p : Pal α}
    (hp : WritesOnly env c V p)
    (hVW : ∀ bar offset value, V bar offset value → W bar offset value) : WritesOnly env c W p :=
  Emits.mono hp fun _ he => he.mono hVW

theorem pal_log_writes (level : LogLevel) (fmt : String) (args : List LogArg) :
    Emits env K (Event.Within c W) (pal_log level fmt args) := Emits.perform trivial

theorem pal_cond_resched_writes : Emits env K (Event.Within c W) pal_cond_resched := Emits.perform trivial

theorem pal_msleep_writes (msecs : Nat) : Emits env K (Event.Within c W) (pal_msleep msecs) :=
  Emits.perform trivial

section accesses

variable {c' : motu424_ctx} (hc : c.SameHw c') {offset value : U32}
include hc

theorem dsp_write_writes (hW : W .dsp offset value) :
    Emits env K (Event.Within c W) (pal_write32 c'.iobase_dsp offset value) :=
  Emits.pal_write32 ⟨by rw [hc.dsp]; rfl, hW⟩

theorem reg_write_writes (hW : W .reg offset value) :
    Emits env K (Event.Within c W) (pal_write32 c'.iobase_reg offset value) :=
  Emits.pal_write32 ⟨by rw [hc.reg]; rfl, hW⟩

theorem port_write_writes (hW : W .port offset value) :
    Emits env K (Event.Within c W) (pal_write32 c'.iobase_port offset value) :=
  Emits.pal_write32 ⟨by rw [hc.port]; rfl, hW⟩

theorem dsp_read_writes : Emits env K (Event.Within c W) (pal_read32 c'.iobase_dsp offset) :=
  Emits.pal_read32 (by rw [hc.dsp]; rfl)

theorem reg_read_writes : Emits env K (Event.Within c W) (pal_read32 c'.iobase_reg offset) :=
  Emits.pal_read32 (by rw [hc.reg]; rfl)

theorem port_read_writes : Emits env K (Event.Within c W) (pal_read32 c'.iobase_port offset) :=
  Emits.pal_read32 (by rw [hc.port]; rfl)

end accesses

theorem motu_write_writes {c' : motu424_ctx} (hc : c.SameHw c') {bar : U8} {offset value : U32}
    (hW : ∀ b, tag_bar bar = some b → W b offset value) :
    Emits env K (Event.Within c W) (motu_write c' bar offset value) := by
  refine Emits.ite (fun h => ?_) fun h₀ => Emits.ite (fun h => ?_) fun h₁ => Emits.ite (fun h => ?_) fun _ => ?_
  · exact dsp_write_writes hc (hW .dsp (by simp [tag_bar, h]))
  · exact reg_write_writes hc (hW .reg (by simp [tag_bar, h]; decide))
  · exact port_write_writes hc (hW .port (by simp [tag_bar, h]; decide))
  · exact Emits.pure ()

theorem motu_read_writes {c' : motu424_ctx} (hc : c.SameHw c') (bar : U8) (offset : U32) :
    Emits env K (Event.Within c W) (motu_read c' bar offset) := by
  refine Emits.ite (fun _ => ?_) fun _ => Emits.ite (fun _ => ?_) fun _ => Emits.ite (fun _ => ?_) fun _ => ?_
  · exact dsp_read_writes hc
  · exact reg_read_writes hc
  · exact port_read_writes hc
  · exact Emits.pure _

theorem poll_reg_loop_emits {P : Event → Prop} {c' : motu424_ctx} {bar : U8} {offset : U32}
    (hread : Emits env K P (motu_read c' bar offset)) (hsleep : P (.msleep 1)) (expected : U32)
    (rounds : Nat) (val : Option U32) :
    Emits env K P (poll_reg_loop c' bar offset expected rounds val) := by
  induction rounds generalizing val with
  | zero => exact Emits.pure _
  | succ rounds ih =>
    refine Emits.bind hread fun val => Emits.ite (fun _ => ?_) fun _ => ?_
    · exact Emits.pure _
    · exact Emits.bind (Emits.perform hsleep) fun _ => ih (some val)

/-- A poll reads, sleeps and logs. -/
theorem motu424_poll_reg_emits {P : Event → Prop} {bar : U8} {offset : U32}
    (hread : ∀ c', K c' → Emits env K P (motu_read c' bar offset)) (hsleep : P (.msleep 1))
    (hlog : ∀ level fmt args, P (.log level fmt args)) (expected : U32) (timeout_ms : Int) :
    Emits env K P (motu424_poll_reg bar offset expected timeout_ms) := by
  refine Emits.get_ctx fun c' hc => ?_
  refine Emits.bind (poll_reg_loop_emits (hread c' hc) hsleep expected _ _) fun result => ?_
  refine Emits.ite (fun _ => ?_) fun _ => ?_
  · exact Emits.pure _
  · exact Emits.bind (Emits.perform (hlog ..)) fun _ => Emits.pure _

/-- Polling writes nothing and leaves the context as it is. -/
theorem motu424_poll_reg_writes (hK : ∀ c', K c' → c.SameHw c') (bar : U8) (offset expected : U32)
    (timeout_ms : Int) : Emits env K (Event.Within c W) (motu424_poll_reg bar offset expected timeout_ms) :=
  motu424_poll_reg_emits (fun c' hc => motu_read_writes (hK c' hc) bar offset) trivial
    (fun _ _ _ => trivial) expected timeout_ms

theorem motu424_zero_dsp_ram_writes :
    WritesOnly env c zero_dsp_ram_writes motu424_zero_dsp_ram := by
  refine Emits.get_ctx fun c' hc => Emits.bind (pal_log_writes _ _ _) fun _ => ?_
  refine Emits.forEach fun i hi => Emits.bind ?_ fun _ => Emits.when fun _ => ?_
  · exact dsp_write_writes hc ⟨rfl, rfl, i, List.mem_range.mp hi, rfl⟩
  · exact pal_cond_resched_writes

theorem motu424_dsp_kickstart_writes :
    WritesOnly env c dsp_kickstart_writes motu424_dsp_kickstart := by
  refine Emits.get_ctx fun c' hc => Emits.bind (pal_log_writes _ _ _) fun _ => ?_
  refine Emits.bind (port_write_writes hc (by simp [dsp_kickstart_writes])) fun _ => ?_
  refine Emits.bind (dsp_write_writes hc (by simp [dsp_kickstart_writes])) fun _ => ?_
  refine Emits.bind (port_write_writes hc (by simp [dsp_kickstart_writes])) fun _ => ?_
  refine Emits.bind (pal_msleep_writes 500) fun _ => ?_
  refine Emits.bind (dsp_read_writes hc) fun _ => Emits.bind (pal_log_writes _ _ _) fun _ => ?_
  refine Emits.bind (port_read_writes hc) fun _ => Emits.bind (pal_log_writes _ _ _) fun _ => ?_
  exact Emits.bind (port_read_writes hc) fun _ => pal_log_writes _ _ _

theorem port_loop_status_check_writes {c' : motu424_ctx} (hc : c.SameHw c') (count : Nat) :
    WritesOnly env c port_loop_writes (port_loop_status_check c' count) := by
  refine Emits.bind (dsp_read_writes hc) fun s1 => Emits.bind (Emits.when fun _ => ?_) fun _ => ?_
  · exact dsp_write_writes hc (by simp [port_loop_writes])
  refine Emits.bind (dsp_read_writes hc) fun s2 => Emits.bind (dsp_read_writes hc) fun s3 => ?_
  refine Emits.bind (Emits.when fun _ => ?_) fun _ => ?_
  · exact dsp_write_writes hc (by simp [port_loop_writes])
  refine Emits.bind (Emits.when fun _ => ?_) fun _ => pal_log_writes _ _ _
  exact dsp_write_writes hc (by simp [port_loop_writes])

theorem port_loop_round_writes {c' : motu424_ctx} (hc : c.SameHw c') (port_iter : Nat) :
    WritesOnly env c port_loop_writes (port_loop_round c' port_iter) := by
  refine Emits.bind (dsp_read_writes hc) fun _ => ?_
  refine Emits.bind (dsp_write_writes hc (by simp [port_loop_writes])) fun _ => ?_
  refine Emits.bind (dsp_read_writes hc) fun _ => ?_
  refine Emits.bind (dsp_write_writes hc (by simp [port_loop_writes])) fun _ => ?_
  refine Emits.bind (port_read_writes hc) fun status => ?_
  refine Emits.bind (Emits.when fun _ => pal_log_writes _ _ _) fun _ => ?_
  refine Emits.bind (reg_write_writes hc (by simp [port_loop_writes])) fun _ => ?_
  refine Emits.bind (Emits.when fun _ => ?_) fun _ => pal_cond_resched_writes
  exact port_loop_status_check_writes hc _

theorem motu424_post_init_port_loop_writes :
    WritesOnly env c port_loop_writes motu424_post_init_port_loop := by
  refine Emits.get_ctx fun c' hc => Emits.bind (pal_log_writes _ _ _) fun _ => ?_
  exact Emits.bind (Emits.forEach fun i _ => port_loop_round_writes hc i) fun _ => pal_log_writes _ _ _

theorem load_fpga_bits_writes {c' : motu424_ctx} (hc : c.SameHw c') (byte : U8) (bits : List Nat)
    (val_prev : U32) : WritesOnly env c load_fpga_writes (load_fpga_bits c' byte bits val_prev) := by
  induction bits generalizing val_prev with
  | nil => exact Emits.pure _
  | cons bit bits ih =>
    have hctrl : ∀ value, load_fpga_writes .reg MOTU_REG_FPGA_CTRL value := by
      simp [load_fpga_writes]
    refine Emits.bind (reg_write_writes hc (hctrl _)) fun _ => ?_
    refine Emits.bind (reg_write_writes hc (hctrl _)) fun _ => ?_
    exact Emits.bind (reg_write_writes hc (hctrl _)) fun _ => ih _

theorem load_fpga_bytes_writes {c' : motu424_ctx} (hc : c.SameHw c') (i : Nat) (bytes : List U8)
    (val_prev : U32) : WritesOnly env c load_fpga_writes (load_fpga_bytes c' i bytes val_prev) := by
  induction bytes generalizing i val_prev with
  | nil => exact Emits.pure _
  | cons byte bytes ih =>
    refine Emits.bind (load_fpga_bits_writes hc byte _ val_prev) fun val => ?_
    refine Emits.bind (Emits.when fun _ => pal_cond_resched_writes) fun _ => ?_
    exact ih (i + 1) val

theorem motu424_load_fpga_writes (fw_data : Option (List U8)) :
    WritesOnly env c load_fpga_writes (motu424_load_fpga fw_data) := by
  refine Emits.get_ctx fun c' hc => Emits.ite (fun _ => Emits.pure _) fun _ => ?_
  refine Emits.bind (pal_log_writes _ _ _) fun _ => ?_
  refine Emits.bind (port_write_writes hc (by simp [load_fpga_writes])) fun _ => ?_
  refine Emits.bind (reg_write_writes hc (by simp [load_fpga_writes])) fun _ => ?_
  refine Emits.bind (reg_write_writes hc (by simp [load_fpga_writes])) fun _ => ?_
  refine Emits.bind (reg_write_writes hc (by simp [load_fpga_writes])) fun _ => ?_
  refine Emits.bind (load_fpga_bytes_writes hc 0 _ _) fun _ => ?_
  refine Emits.bind (reg_write_writes hc (by simp [load_fpga_writes])) fun _ => ?_
  refine Emits.bind (port_write_writes hc (by simp [load_fpga_writes])) fun _ => ?_
  refine Emits.bind (port_read_writes hc) fun status => Emits.bind (pal_log_writes _ _ _) fun _ => ?_
  refine Emits.bind (Emits.when fun _ => pal_log_writes _ _ _) fun _ => ?_
  exact Emits.bind (pal_log_writes _ _ _) fun _ => Emits.pure _

theorem replay_entry_writes {c' : motu424_ctx} (hc : c.SameHw c') (i : Nat)
    {entry : motu_init_entry} {entries : List motu_init_entry} (hmem : entry ∈ entries) :
    WritesOnly env c (replay_writes c entries) (replay_entry c' i entry) := by
  refine Emits.ite (fun _ => ?_) fun _ => ?_
  · exact Emits.bind (motu424_poll_reg_writes (fun _ h => h) _ _ _ _) fun _ => Emits.pure _
  · refine Emits.bind (motu_write_writes hc ?_) fun _ => ?_
    · intro bar hbar
      exact ⟨entry, hmem, hbar, rfl, (hc.translate_eq entry.value).symm⟩
    · exact Emits.when fun _ => pal_cond_resched_writes

theorem replay_entries_writes {c' : motu424_ctx} (hc : c.SameHw c') (all : List motu_init_entry)
    (i : Nat) (entries : List motu_init_entry) (hsub : ∀ e ∈ entries, e ∈ all) :
    WritesOnly env c (replay_writes c all) (replay_entries c' i entries) := by
  induction entries generalizing i with
  | nil => exact Emits.pure _
  | cons entry entries ih =>
    refine Emits.bind (replay_entry_writes hc i (hsub entry (by simp))) fun _ => ?_
    exact ih (i + 1) fun e he => hsub e (by simp [he])

theorem motu424_replay_sequence_writes (seq_data : Option (List U8)) :
    WritesOnly env c (replay_writes c (init_entries (seq_data.getD [])))
      (motu424_replay_sequence seq_data) := by
  refine Emits.get_ctx fun c' hc => Emits.ite (fun _ => ?_) fun _ => ?_
  · exact Emits.bind (pal_log_writes _ _ _) fun _ => Emits.pure _
  · refine Emits.bind (pal_log_writes _ _ _) fun _ => ?_
    refine Emits.bind (replay_entries_writes hc _ 0 _ fun _ he => he) fun _ => ?_
    exact Emits.bind (pal_log_writes _ _ _) fun _ => Emits.pure _

theorem shadow_load_writes (conf : U32) :
    WritesOnly env c W (set_ctx fun ctx => { ctx with port_conf_shadow := conf }) :=
  Emits.set_ctx fun _ h => ⟨h.dsp, h.reg, h.port, h.buf, h.addr, h.size⟩

/-- The last steps of `motu424_hw_init` only look, and leave the context as it is. -/
theorem hw_init_status_writes (hK : ∀ c', K c' → c.SameHw c') {c' : motu424_ctx} (hc : c.SameHw c') :
    Emits env K (Event.Within c W) (hw_init_status c') := by
  refine Emits.bind (motu424_poll_reg_writes hK _ _ _ _) fun err => ?_
  refine Emits.bind (Emits.when fun _ => pal_log_writes _ _ _) fun _ => ?_
  refine Emits.bind (port_read_writes hc) fun status => Emits.bind (pal_log_writes _ _ _) fun _ => ?_
  refine Emits.ite (fun _ => ?_) fun _ => ?_
  · exact Emits.bind (pal_log_writes _ _ _) fun _ => Emits.pure _
  · exact Emits.bind (pal_log_writes _ _ _) fun _ => Emits.pure _

theorem load_shadow_writes {c' : motu424_ctx} (hc : c.SameHw c') : WritesOnly env c W (load_shadow c') := by
  refine Emits.ite (fun _ => ?_) fun _ => ?_
  · exact Emits.bind (reg_read_writes hc) fun conf => shadow_load_writes conf
  · exact shadow_load_writes 0

/-- After its zeroing, `motu424_hw_init` writes nothing. -/
theorem hw_init_check_writes : WritesOnly env c W hw_init_check :=
  Emits.get_ctx fun _ hc => Emits.bind (load_shadow_writes hc) fun _ =>
    hw_init_status_writes (fun _ h => h) hc

theorem motu424_hw_init_writes : WritesOnly env c zero_dsp_ram_writes motu424_hw_init :=
  Emits.bind motu424_zero_dsp_ram_writes fun _ => hw_init_check_writes

end phases

end motu424
