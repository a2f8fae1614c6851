import Motu424.Init.Footprint

open Program LittleEndian ByteMemory

namespace motu424

/-- What one round of the zeroing loop does. -/
def zero_round_events (c : motu424_ctx) (i : Nat) : List Event :=
  .write .dsp c.iobase_dsp.addr (BitVec.ofNat 32 (i * 4)) 0 ::
    if i &&& 0xFFF = 0 then [.resched] else []

theorem exec_zero_dsp_ram_round (env : Env) (c : motu424_ctx) (i : Nat) (m : Machine) :
    (zero_dsp_ram_round c i).exec env m = m.emit (zero_round_events c i) := by
  by_cases hi : i &&& 0xFFF = 0 <;> simp [zero_dsp_ram_round, zero_round_events, hi]

theorem exec_motu424_zero_dsp_ram (env : Env) (m : Machine) :
    motu424_zero_dsp_ram.exec env m =
      m.emit (.log .info "Zeroing DSP RAM (64K words)\n" [] ::
        (List.range 0x10000).flatMap (zero_round_events m.ctx)) := by
  rw [motu424_zero_dsp_ram, exec_bind, exec_bind, exec_get_ctx, eval_get_ctx, exec_pal_log,
    exec_forEach_emit env _ fun i m' => exec_zero_dsp_ram_round env m.ctx i m', Machine.emit_emit,
    List.singleton_append]

/-- The stores of an event that stays within a footprint. -/
theorem stores_of_within {c : motu424_ctx} {W : Bar → U32 → U32 → Prop} {events : List Event}
    (hevents : ∀ e ∈ events, e.Within c W) {bar : Bar} {s : Nat × List (BitVec 8)}
    (hs : s ∈ stores bar events) :
    ∃ offset value, W bar offset value ∧ s = (offset.toNat, split 4 value.toNat) := by
  obtain ⟨e, he, hse⟩ := List.mem_flatMap.mp hs
  cases e with
  | write b base offset value =>
    obtain ⟨_, hW⟩ := hevents _ he
    cases base with
    | none => simp [Event.stores] at hse
    | some base =>
      by_cases hb : b = bar
      · subst hb
        exact ⟨offset, value, hW, by simpa [Event.stores] using hse⟩
      · simp [Event.stores, hb] at hse
  | _ => simp [Event.stores] at hse

/-- Two words on the word grid are the same word or apart. -/
theorem zero_store_same_or_apart {offset other value : U32} (haligned : offset.toNat % 4 = 0)
    (hother : zero_dsp_ram_writes .dsp other value) :
    (other.toNat, split 4 value.toNat) = (offset.toNat, split 4 (0 : U32).toNat) ∨
      Apart offset.toNat 4 other.toNat (split 4 value.toNat).length := by
  obtain ⟨_, rfl, i, hi, rfl⟩ := hother
  have hnat : (BitVec.ofNat 32 (i * 4)).toNat = i * 4 := by
    rw [BitVec.toNat_ofNat]
    omega
  rw [hnat, length_split]
  by_cases heq : offset.toNat = i * 4
  · left
    rw [heq]
  · right
    exact apart_of_aligned (Nat.dvd_of_mod_eq_zero haligned) (Dvd.intro_left i rfl) heq

/-- The zeroing clears every aligned word below 0x40000. -/
theorem motu424_zero_dsp_ram_clears (env : Env) (init : ByteMemory) (m : Machine)
    (hmapped : m.ctx.iobase_dsp ≠ .null) {offset : U32} (haligned : offset.toNat % 4 = 0)
    (hrange : offset.toNat < 0x40000) :
    bar_word init .dsp (motu424_zero_dsp_ram.exec env m).trace offset = 0 := by
  obtain ⟨base, hbase⟩ := Iomem.exists_addr hmapped
  have hzero := exec_motu424_zero_dsp_ram env m
  have hwrites : WritesOnly env m.ctx zero_dsp_ram_writes motu424_zero_dsp_ram :=
    motu424_zero_dsp_ram_writes
  obtain ⟨_, new, hnew, hwithin⟩ := hwrites.spec m (.refl m.ctx)
  have hsame := hnew
  rw [hzero, Machine.emit_trace] at hsame
  have hmem : .write .dsp (some base) offset 0 ∈ new := by
    rw [← List.append_cancel_left hsame]
    refine List.mem_cons_of_mem _ (List.mem_flatMap.mpr ⟨offset.toNat / 4, List.mem_range.mpr (by omega), ?_⟩)
    have hoffset : BitVec.ofNat 32 (offset.toNat / 4 * 4) = offset := by
      rw [Nat.div_mul_cancel (Nat.dvd_of_mod_eq_zero haligned), BitVec.ofNat_toNat, BitVec.setWidth_eq]
    simp [zero_round_events, hbase, hoffset]
  rw [hnew]
  refine bar_word_of_mem init m.trace hmem fun s hs => ?_
  obtain ⟨other, value, hother, rfl⟩ := stores_of_within hwithin hs
  exact zero_store_same_or_apart haligned hother

/-- A program that writes nothing leaves every word behind the BARs as it was. -/
theorem WritesOnly.bar_word_eq {env : Env} {c : motu424_ctx} {α : Type} {p : Pal α}
    (hp : WritesOnly env c (fun _ _ _ => False) p) {m : Machine} (hm : c.SameHw m.ctx)
    (init : ByteMemory) (bar : Bar) (offset : U32) :
    bar_word init bar (p.exec env m).trace offset = bar_word init bar m.trace offset := by
  obtain ⟨_, new, hnew, hwithin⟩ := Emits.spec hp m hm
  rw [hnew]
  apply bar_word_frame
  intro s hs
  obtain ⟨_, _, hfalse, _⟩ := stores_of_within hwithin hs
  exact hfalse.elim

/-- The rest of `motu424_hw_init` writes nothing after its zeroing. -/
theorem motu424_hw_init_clears (env : Env) (init : ByteMemory) (m : Machine)
    (hmapped : m.ctx.iobase_dsp ≠ .null) {offset : U32} (haligned : offset.toNat % 4 = 0)
    (hrange : offset.toNat < 0x40000) :
    bar_word init .dsp (motu424_hw_init.exec env m).trace offset = 0 := by
  have hcheck : WritesOnly env m.ctx (fun _ _ _ => False) hw_init_check := hw_init_check_writes
  have hsame : m.ctx.SameHw (motu424_zero_dsp_ram.exec env m).ctx := by
    rw [exec_motu424_zero_dsp_ram]
    exact .refl m.ctx
  rw [motu424_hw_init, exec_bind, hcheck.bar_word_eq hsame]
  exact motu424_zero_dsp_ram_clears env init m hmapped haligned hrange

end motu424
