import Motu424.Init
import Motu424.Foundation.Cost
import Mathlib.Algebra.GroupWithZero.Nat
import Mathlib.Algebra.Order.Group.Nat
import Mathlib.Algebra.Order.Monoid.Prod

open Program

namespace motu424

/-- What is spent at the hardware: register accesses, and milliseconds of sleep. -/
abbrev Spent : Type := Nat × Nat

def Event.spent : Event → Spent
  | .read _ _ _ => (1, 0)
  | .write _ _ _ _ => (1, 0)
  | .msleep msecs => (0, msecs)
  | _ => 0

def Machine.spent (m : Machine) : Spent := (m.trace.map Event.spent).sum

/-- What the entries of a blob can spend. A poll entry may wait for a whole second. -/
def entry_spent (entry : motu_init_entry) : Spent :=
  if entry.bar = MOTU_INIT_POLL_MARKER then (1000, 1000) else (1, 0)

def blob_spent (init_seq : Option (List U8)) : Spent :=
  ((init_entries (init_seq.getD [])).map entry_spent).sum

/-- All that `motu424_full_init` can spend on files of the given sizes. An entry of the
init sequence has nine bytes. -/
def full_init_spent (fpga_size init_size : Nat) : Spent :=
  (24 * fpga_size + 1000 * (init_size / 9) + 133303, 1000 * (init_size / 9) + 2500)

theorem entry_spent_le (entry : motu_init_entry) : entry_spent entry ≤ (1000, 1000) := by
  rw [entry_spent]
  split
  · exact le_rfl
  · decide

theorem init_entries_length_le (blob : List U8) : (init_entries blob).length ≤ blob.length / 9 := by
  induction blob using init_entries.induct with
  | case1 bar o0 o1 o2 o3 v0 v1 v2 v3 blob ih =>
    rw [init_entries, List.length_cons]
    simp only [List.length_cons]
    omega
  | case2 blob hshort =>
    rw [init_entries]
    · exact Nat.zero_le _
    · exact hshort

theorem entries_spent_le (entries : List motu_init_entry) :
    (entries.map entry_spent).sum ≤ (1000 * entries.length, 1000 * entries.length) := by
  induction entries with
  | nil => exact le_rfl
  | cons entry entries ih =>
    have hlength : 1000 * (entries.length + 1) = 1000 + 1000 * entries.length := by omega
    rw [List.map_cons, List.sum_cons, List.length_cons, hlength, ← Prod.mk_add_mk]
    exact add_le_add (entry_spent_le entry) ih

/-- Whatever the entries of a blob are, they spend no more than as many polls would. -/
theorem blob_spent_le (init_seq : Option (List U8)) :
    blob_spent init_seq ≤ (1000 * (fw_size init_seq / 9), 1000 * (fw_size init_seq / 9)) := by
  have hcount := Nat.mul_le_mul_left 1000 (init_entries_length_le (init_seq.getD []))
  exact le_trans (entries_spent_le _) (Prod.le_def.mpr ⟨hcount, hcount⟩)

section spending

variable {env : Env} {α : Type}

/-- The code spends at most so much. -/
abbrev Spends (env : Env) (cost : Spent) (p : Pal α) : Prop := AtMost env Machine.spent cost p

theorem spent_emit (m : Machine) (events : List Event) :
    (m.emit events).spent = m.spent + (events.map Event.spent).sum := by
  rw [Machine.spent, Machine.emit_trace, List.map_append, List.sum_append]
  rfl

theorem spends_perform (e : Event) : Spends env e.spent (perform e) := by
  intro m
  rw [exec_perform, spent_emit, List.map_singleton, List.sum_singleton]

theorem spends_write {bar : Bar} (base : Iomem bar) (offset value : U32) :
    Spends env (1, 0) (pal_write32 base offset value) := spends_perform _

theorem spends_read {bar : Bar} (base : Iomem bar) (offset : U32) : Spends env (1, 0) (pal_read32 base offset) :=
  @spends_perform env (.read bar base.addr offset)

theorem spends_log (level : LogLevel) (fmt : String) (args : List LogArg) : Spends env 0 (pal_log level fmt args) :=
  spends_perform _

theorem spends_sleep (msecs : Nat) : Spends env (0, msecs) (pal_msleep msecs) := spends_perform _

theorem spends_resched : Spends env 0 pal_cond_resched := spends_perform _

theorem spends_set_ctx (f : motu424_ctx → motu424_ctx) : Spends env 0 (set_ctx f) :=
  AtMost.of_unchanged fun _ => rfl

theorem motu_write_spends (ctx : motu424_ctx) (bar : U8) (offset value : U32) :
    Spends env (1, 0) (motu_write ctx bar offset value) := by
  unfold motu_write
  split_ifs
  · exact spends_write _ _ _
  · exact spends_write _ _ _
  · exact spends_write _ _ _
  · exact (AtMost.pure ()).mono (by decide)

theorem motu_read_spends (ctx : motu424_ctx) (bar : U8) (offset : U32) :
    Spends env (1, 0) (motu_read ctx bar offset) := by
  unfold motu_read
  split_ifs
  · exact spends_read _ _
  · exact spends_read _ _
  · exact spends_read _ _
  · exact (AtMost.pure _).mono (by decide)

/-- A poll spends one access and one millisecond in each round. -/
theorem poll_reg_loop_spends (ctx : motu424_ctx) (bar : U8) (offset expected : U32) (rounds : Nat)
    (val : Option U32) : Spends env (rounds, rounds) (poll_reg_loop ctx bar offset expected rounds val) := by
  induction rounds generalizing val with
  | zero => exact AtMost.pure _
  | succ rounds ih =>
    have hround : ((rounds + 1, rounds + 1) : Spent) = (1, 0) + ((0, 1) + (rounds, rounds)) := by
      simp [Nat.add_comm]
    rw [poll_reg_loop, hround]
    refine (motu_read_spends ctx bar offset).bind fun val => AtMost.ite (fun _ => ?_) fun _ => ?_
    · exact (AtMost.pure _).mono (by simp)
    · exact (spends_sleep 1).bind fun _ => ih _

theorem motu424_poll_reg_spends (bar : U8) (offset expected : U32) (timeout_ms : Int) :
    Spends env (timeout_ms.toNat, timeout_ms.toNat) (motu424_poll_reg bar offset expected timeout_ms) := by
  refine AtMost.gets_bind fun ctx => ?_
  rw [← add_zero ((timeout_ms.toNat, timeout_ms.toNat) : Spent)]
  refine (poll_reg_loop_spends ctx bar offset expected _ _).bind fun result => ?_
  obtain ⟨found, val⟩ := result
  refine AtMost.ite (fun _ => AtMost.pure _) fun _ => ?_
  exact (spends_log _ _ _).bind fun _ => AtMost.pure _

theorem zero_dsp_ram_round_spends (ctx : motu424_ctx) (i : Nat) : Spends env (1, 0) (zero_dsp_ram_round ctx i) := by
  rw [← add_zero ((1, 0) : Spent)]
  exact (spends_write _ _ _).bind fun _ => AtMost.when le_rfl spends_resched

theorem sum_map_const {ι : Type} (cost : Spent) (is : List ι) :
    (is.map fun _ => cost).sum = (is.length * cost.1, is.length * cost.2) := by
  rw [List.map_const', List.sum_replicate]
  rfl

theorem motu424_zero_dsp_ram_spends : Spends env (65536, 0) motu424_zero_dsp_ram := by
  refine AtMost.gets_bind fun ctx => ?_
  have hloop := AtMost.forEach (@zero_dsp_ram_round_spends env ctx) (List.range 0x10000)
  rw [sum_map_const, List.length_range] at hloop
  exact ((spends_log _ _ _).bind fun _ => hloop).mono (by simp)

theorem motu424_dsp_kickstart_spends : Spends env (6, 500) motu424_dsp_kickstart := by
  refine AtMost.gets_bind fun ctx => ?_
  apply AtMost.mono
  · exact (spends_log _ _ _).bind fun _ => (spends_write _ _ _).bind fun _ => (spends_write _ _ _).bind fun _ =>
      (spends_write _ _ _).bind fun _ => (spends_sleep _).bind fun _ => (spends_read _ _).bind fun _ =>
      (spends_log _ _ _).bind fun _ => (spends_read _ _).bind fun _ => (spends_log _ _ _).bind fun _ =>
      (spends_read _ _).bind fun _ => spends_log _ _ _
  · decide

/-- A write that is made under a condition. -/
theorem spends_when_write {c : Prop} [Decidable c] {bar : Bar} (base : Iomem bar) (offset value : U32) :
    Spends env (1, 0) (when c (pal_write32 base offset value)) := AtMost.when (by decide) (spends_write _ _ _)

theorem spends_when_log {c : Prop} [Decidable c] (level : LogLevel) (fmt : String) (args : List LogArg) :
    Spends env 0 (when c (pal_log level fmt args)) := AtMost.when le_rfl (spends_log _ _ _)

theorem port_loop_status_check_spends (ctx : motu424_ctx) (count : Nat) :
    Spends env (6, 0) (port_loop_status_check ctx count) := by
  apply AtMost.mono
  · exact (spends_read _ _).bind fun _ => (spends_when_write _ _ _).bind fun _ => (spends_read _ _).bind fun _ =>
      (spends_read _ _).bind fun _ => (spends_when_write _ _ _).bind fun _ => (spends_when_write _ _ _).bind fun _ =>
      spends_log _ _ _
  · decide

/-- Every eighth round checks the status, too. -/
def port_loop_round_spent (port_iter : Nat) : Spent := if port_iter &&& 7 = 7 then (12, 0) else (6, 0)

theorem port_loop_round_spends (ctx : motu424_ctx) (port_iter : Nat) :
    Spends env (port_loop_round_spent port_iter) (port_loop_round ctx port_iter) := by
  have hcheck : Spends env (if port_iter &&& 7 = 7 then (6, 0) else 0)
      (when (port_iter &&& 7 = 7) (port_loop_status_check ctx (port_iter / 8 + 1))) := by
    by_cases heighth : port_iter &&& 7 = 7
    · rw [if_pos heighth, when, if_pos heighth]
      exact port_loop_status_check_spends ctx _
    · rw [if_neg heighth, when, if_neg heighth]
      exact AtMost.pure ()
  apply AtMost.mono
  · exact (spends_read _ _).bind fun _ => (spends_write _ _ _).bind fun _ => (spends_read _ _).bind fun _ =>
      (spends_write _ _ _).bind fun _ => (spends_read _ _).bind fun _ => (spends_when_log _ _ _).bind fun _ =>
      (spends_write _ _ _).bind fun _ => hcheck.bind fun _ => spends_resched
  · rw [port_loop_round_spent]
    split
    · decide
    · decide

theorem motu424_post_init_port_loop_spends : Spends env (216, 0) motu424_post_init_port_loop := by
  refine AtMost.gets_bind fun ctx => ?_
  apply AtMost.mono
  · exact (spends_log _ _ _).bind fun _ => (AtMost.forEach (port_loop_round_spends ctx) _).bind fun _ =>
      spends_log _ _ _
  · decide

theorem replay_entry_spends (ctx : motu424_ctx) (i : Nat) (entry : motu_init_entry) :
    Spends env (entry_spent entry) (replay_entry ctx i entry) := by
  rw [replay_entry, entry_spent]
  by_cases hpoll : entry.bar = MOTU_INIT_POLL_MARKER
  · rw [if_pos hpoll, if_pos hpoll, ← add_zero ((1000, 1000) : Spent)]
    exact (motu424_poll_reg_spends _ _ _ _).bind fun _ => AtMost.pure ()
  · rw [if_neg hpoll, if_neg hpoll, ← add_zero ((1, 0) : Spent)]
    exact (motu_write_spends ctx _ _ _).bind fun _ => AtMost.when le_rfl spends_resched

theorem replay_entries_spends (ctx : motu424_ctx) (i : Nat) (entries : List motu_init_entry) :
    Spends env (entries.map entry_spent).sum (replay_entries ctx i entries) := by
  induction entries generalizing i with
  | nil => exact AtMost.pure ()
  | cons entry entries ih =>
    rw [List.map_cons, List.sum_cons, replay_entries]
    exact (replay_entry_spends ctx i entry).bind fun _ => ih (i + 1)

theorem motu424_replay_sequence_spends (init_seq : Option (List U8)) :
    Spends env (blob_spent init_seq) (motu424_replay_sequence init_seq) := by
  refine AtMost.gets_bind fun ctx => AtMost.ite (fun _ => ?_) fun _ => ?_
  · apply AtMost.mono
    · exact (spends_log _ _ _).bind fun _ => AtMost.pure _
    · exact Prod.le_def.mpr ⟨Nat.zero_le _, Nat.zero_le _⟩
  · apply AtMost.mono
    · exact (spends_log _ _ _).bind fun _ => (replay_entries_spends ctx 0 _).bind fun _ =>
        (spends_log _ _ _).bind fun _ => AtMost.pure _
    · rw [blob_spent, zero_add, add_zero, add_zero]

theorem load_fpga_bits_spends (ctx : motu424_ctx) (byte : U8) (bits : List Nat) (val_prev : U32) :
    Spends env (3 * bits.length, 0) (load_fpga_bits ctx byte bits val_prev) := by
  induction bits generalizing val_prev with
  | nil => exact AtMost.pure _
  | cons bit bits ih =>
    apply AtMost.mono
    · exact (spends_write _ _ _).bind fun _ => (spends_write _ _ _).bind fun _ => (spends_write _ _ _).bind fun _ =>
        ih _
    · simp
      omega

theorem load_fpga_bytes_spends (ctx : motu424_ctx) (i : Nat) (bytes : List U8) (val_prev : U32) :
    Spends env (24 * bytes.length, 0) (load_fpga_bytes ctx i bytes val_prev) := by
  induction bytes generalizing i val_prev with
  | nil => exact AtMost.pure _
  | cons byte bytes ih =>
    apply AtMost.mono
    · exact (load_fpga_bits_spends ctx byte _ _).bind fun val => (AtMost.when le_rfl spends_resched).bind fun _ =>
        ih _ _
    · simp
      omega

theorem motu424_load_fpga_spends (fpga_fw : Option (List U8)) :
    Spends env (24 * fw_size fpga_fw + 7, 0) (motu424_load_fpga fpga_fw) := by
  refine AtMost.gets_bind fun ctx => AtMost.ite (fun _ => ?_) fun _ => ?_
  · exact (AtMost.pure _).mono (Prod.le_def.mpr ⟨Nat.zero_le _, Nat.zero_le _⟩)
  · apply AtMost.mono
    · exact (spends_log _ _ _).bind fun _ => (spends_write _ _ _).bind fun _ => (spends_write _ _ _).bind fun _ =>
        (spends_write _ _ _).bind fun _ => (spends_write _ _ _).bind fun _ =>
        (load_fpga_bytes_spends ctx 0 _ _).bind fun _ => (spends_write _ _ _).bind fun _ =>
        (spends_write _ _ _).bind fun _ => (spends_read _ _).bind fun _ => (spends_log _ _ _).bind fun _ =>
        (spends_when_log _ _ _).bind fun _ => (spends_log _ _ _).bind fun _ => AtMost.pure _
    · simp [fw_size]
      omega

theorem motu424_hw_init_spends : Spends env (67538, 2000) motu424_hw_init := by
  have hshadow (ctx : motu424_ctx) : Spends env (1, 0) (load_shadow ctx) := by
    refine AtMost.ite (fun _ => ?_) fun _ => ?_
    · apply AtMost.mono
      · exact (spends_read _ _).bind fun _ => spends_set_ctx _
      · decide
    · exact (spends_set_ctx _).mono (by decide)
  have hstatus (ctx : motu424_ctx) : Spends env (2001, 2000) (hw_init_status ctx) := by
    apply AtMost.mono
    · exact (motu424_poll_reg_spends _ _ _ 2000).bind fun _ => (spends_when_log _ _ _).bind fun _ =>
        (spends_read _ _).bind fun _ => (spends_log _ _ _).bind fun _ => AtMost.ite
          (fun _ => (spends_log _ _ _).bind fun _ => AtMost.pure _)
          fun _ => (spends_log _ _ _).bind fun _ => AtMost.pure _
    · decide
  apply AtMost.mono
  · exact motu424_zero_dsp_ram_spends.bind fun _ => AtMost.gets_bind fun ctx => (hshadow ctx).bind fun _ => hstatus ctx
  · decide

theorem full_init_boot_spends : Spends env (67760, 2500) full_init_boot := by
  apply AtMost.mono
  · exact motu424_dsp_kickstart_spends.bind fun _ => motu424_post_init_port_loop_spends.bind fun _ =>
      motu424_hw_init_spends
  · decide

theorem full_init_dsp_spends (init_seq : Option (List U8)) :
    Spends env (blob_spent init_seq + (133296, 2500)) (full_init_dsp init_seq) := by
  have hrest : Spends env (blob_spent init_seq + (67760, 2500)) (if fw_size init_seq > 0 then do
      let err ← motu424_replay_sequence init_seq
      if err ≠ 0 then do
        pal_log .err "Init replay failed\n" []
        pure err
      else full_init_boot
    else do
      pal_log .warn "No init sequence — skipping (warm boot only)\n" []
      full_init_boot) := by
    refine AtMost.ite (fun _ => ?_) fun _ => ?_
    · refine (motu424_replay_sequence_spends init_seq).bind fun err => AtMost.ite (fun _ => ?_) fun _ => ?_
      · apply AtMost.mono
        · exact (spends_log _ _ _).bind fun _ => AtMost.pure _
        · decide
      · exact full_init_boot_spends
    · apply AtMost.mono
      · exact (spends_log _ _ _).bind fun _ => full_init_boot_spends
      · rw [zero_add]
        exact le_add_of_nonneg_left (Prod.le_def.mpr ⟨Nat.zero_le _, Nat.zero_le _⟩)
  apply AtMost.mono
  · exact motu424_zero_dsp_ram_spends.bind fun _ => hrest
  · rw [add_left_comm]
    exact le_rfl

theorem full_init_spends_blob (fpga_fw init_seq : Option (List U8)) :
    Spends env ((24 * fw_size fpga_fw + 7, 0) + (blob_spent init_seq + (133296, 2500)))
      (motu424_full_init fpga_fw init_seq) := by
  refine AtMost.ite (fun _ => ?_) fun _ => ?_
  · refine (motu424_load_fpga_spends fpga_fw).bind fun err => AtMost.ite (fun _ => ?_) fun _ =>
      full_init_dsp_spends init_seq
    apply AtMost.mono
    · exact (spends_log _ _ _).bind fun _ => AtMost.pure _
    · exact Prod.le_def.mpr ⟨Nat.zero_le _, Nat.zero_le _⟩
  · apply AtMost.mono
    · exact (spends_log _ _ _).bind fun _ => full_init_dsp_spends init_seq
    · exact add_le_add_left (Prod.le_def.mpr ⟨Nat.zero_le _, Nat.zero_le _⟩) _

end spending

/-- Whatever the card answers, and whatever firmware files of these sizes hold, the
initialisation comes to an end within so many register accesses and so much sleep. -/
theorem motu424_full_init_spends (env : Env) (m : Machine) (fpga_fw init_seq : Option (List U8)) :
    ((motu424_full_init fpga_fw init_seq).exec env m).spent ≤
      m.spent + full_init_spent (fw_size fpga_fw) (fw_size init_seq) := by
  have hcost : (24 * fw_size fpga_fw + 7, 0) + (blob_spent init_seq + (133296, 2500)) ≤
      full_init_spent (fw_size fpga_fw) (fw_size init_seq) := by
    obtain ⟨haccesses, hmsecs⟩ := Prod.le_def.mp (blob_spent_le init_seq)
    refine Prod.le_def.mpr ⟨?_, ?_⟩
    · rw [full_init_spent, Prod.fst_add, Prod.fst_add]
      omega
    · rw [full_init_spent, Prod.snd_add, Prod.snd_add]
      omega
  exact (full_init_spends_blob fpga_fw init_seq).mono hcost m

end motu424
