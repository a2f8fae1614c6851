import Motu424.AnalyzeMixerTrace
import Motu424.Foundation.StableSort

open StableSort

namespace motu424.analyze_mixer_trace

/-- The offset of a word of the routing memory, which has 24 of them. -/
def matrix_word (j : Nat) : Nat := 0x8348 + 4 * j

/-- The writes to an offset of BAR0. -/
def writes_to (ops : List Op) (offset : Nat) : List Op :=
  ops.filter fun op => op.type = .write ∧ op.bar = 0 ∧ op.offset = offset

def last_value (ops : List Op) (offset : Nat) : Option Nat := (writes_to ops offset).getLast?.map Op.value

/-- The trace writes a word of the routing memory. -/
def Written (ops : List Op) (j : Nat) : Prop := writes_to ops (matrix_word j) ≠ []

/-- The table has a row with this channel for a slot. -/
def Shows (ops : List Op) (k ch : Nat) : Prop := .slot k ch ∈ print_routing_matrix ops

/-- Some slot from 24 to `k` holds the channel zero, which ends the table. -/
def Unused (ops : List Op) (k : Nat) : Prop :=
  ∃ i, 24 ≤ i ∧ i ≤ k ∧ ∃ value, last_value ops (matrix_word (i / 4)) = some value ∧ byte value (i % 4) = 0

/-- The number of writes to the routing matrix up to an offset. -/
def writes_up_to (ops : List Op) (offset : Nat) : Nat := (matrix_ops ops).countP fun op => op.offset ≤ offset

/-- For every slot whose word was written, the table shows the byte of the last value,
or it ends before the slot. -/
def Decoded (ops : List Op) : Prop :=
  ∀ k < 96, ∀ value, last_value ops (matrix_word (k / 4)) = some value →
    (∀ ch, Shows ops k ch → ch = byte value (k % 4)) ∧ (Unused ops k ∨ Shows ops k (byte value (k % 4)))

/-- Up to each word that was written there is one write for each word, and no word
that could end the table is left out. -/
def Aligned (ops : List Op) : Prop :=
  ∀ j < 24, Written ops j →
    writes_up_to ops (matrix_word j) = j + 1 ∧ ∀ i, 6 ≤ i → i < j → Written ops i

/-- The values in the order of the table. -/
def cells (ops : List Op) : List Nat := (sorted Op.offset (matrix_ops ops)).map Op.value

theorem channels_eq (ops : List Op) : channels ops = (cells ops).flatMap dword_channels :=
  (List.flatMap_map ..).symm

/-- Each value fills four slots. -/
theorem getElem?_dwords (values : List Nat) (k : Nat) :
    (values.flatMap dword_channels)[k]? = values[k / 4]?.map fun value => byte value (k % 4) := by
  induction values generalizing k with
  | nil => rfl
  | cons value values ih =>
    have hlength : (dword_channels value).length = 4 := rfl
    rw [List.flatMap_cons]
    by_cases hk : k < 4
    · rw [List.getElem?_append_left (by omega), Nat.div_eq_of_lt hk, Nat.mod_eq_of_lt hk, dword_channels,
        List.getElem?_map, List.getElem?_range hk]
      rfl
    · obtain ⟨m, rfl⟩ := Nat.exists_eq_add_of_le (Nat.not_lt.mp hk)
      rw [List.getElem?_append_right (by omega), hlength, Nat.add_sub_cancel_left, ih,
        Nat.add_div_left _ (by decide), Nat.add_mod_left, List.getElem?_cons_succ]

/-- The loop shows the slots before the first unused one. -/
theorem mem_print_slots_iff (i : Nat) (chs : List Nat) (k ch : Nat) : .slot k ch ∈ print_slots i chs ↔
    ∃ m, k = i + m ∧ chs[m]? = some ch ∧ ∀ n ≤ m, chs[n]? = some 0 → i + n < 24 := by
  induction chs generalizing i with
  | nil => simp [print_slots]
  | cons c chs ih =>
    rw [print_slots]
    by_cases hstop : c = 0 ∧ 24 ≤ i
    · rw [if_pos hstop]
      refine iff_of_false List.not_mem_nil ?_
      rintro ⟨m, _, _, hused⟩
      have := hused 0 (Nat.zero_le m) (by rw [List.getElem?_cons_zero, hstop.1])
      omega
    · rw [if_neg hstop, List.mem_cons, Print.slot.injEq, ih]
      constructor
      · rintro (⟨rfl, rfl⟩ | ⟨m, rfl, hch, hused⟩)
        · refine ⟨0, rfl, rfl, fun n hn hzero => ?_⟩
          rw [Nat.le_zero.mp hn, List.getElem?_cons_zero, Option.some.injEq] at hzero
          omega
        · refine ⟨m + 1, by omega, hch, fun n hn hzero => ?_⟩
          cases n with
          | zero =>
            rw [List.getElem?_cons_zero, Option.some.injEq] at hzero
            omega
          | succ n =>
            have := hused n (Nat.le_of_succ_le_succ hn) hzero
            omega
      · rintro ⟨m, rfl, hch, hused⟩
        cases m with
        | zero =>
          rw [List.getElem?_cons_zero, Option.some.injEq] at hch
          exact .inl ⟨rfl, hch.symm⟩
        | succ m =>
          refine .inr ⟨m, by omega, hch, fun n hn hzero => ?_⟩
          have := hused (n + 1) (Nat.succ_le_succ hn) hzero
          omega

theorem shows_iff (ops : List Op) (k ch : Nat) : Shows ops k ch ↔
    (channels ops)[k]? = some ch ∧ ∀ i ≤ k, (channels ops)[i]? = some 0 → i < 24 := by
  have hslots : Shows ops k ch ↔ .slot k ch ∈ print_slots 0 (channels ops) := by
    rw [Shows, print_routing_matrix]
    by_cases hnil : matrix_ops ops = []
    · rw [if_pos hnil, channels, hnil]
      exact iff_of_false (by simp) List.not_mem_nil
    · rw [if_neg hnil, List.mem_append, or_iff_right]
      simp [heading]
  rw [hslots, mem_print_slots_iff]
  simp only [Nat.zero_add]
  constructor
  · rintro ⟨_, rfl, hshows⟩
    exact hshows
  · exact fun hshows => ⟨k, rfl, hshows⟩

/-- The channel of a slot is a byte of the cell of its word. -/
theorem getElem?_channels (ops : List Op) (k : Nat) :
    (channels ops)[k]? = (cells ops)[k / 4]?.map fun value => byte value (k % 4) := by
  rw [channels_eq, getElem?_dwords]

/-- The write goes to the routing matrix. -/
def Op.InMatrix (op : Op) : Prop :=
  op.type = .write ∧ op.bar = 0 ∧ 0x8348 ≤ op.offset ∧ op.offset ≤ 0x83A4

instance (op : Op) : Decidable op.InMatrix := inferInstanceAs (Decidable (_ ∧ _))

/-- The writes to a word are among those to the matrix. -/
theorem filter_word {γ : Type} (op : γ → Op) (items : List γ) {j : Nat} (hj : j < 24) :
    ((items.filter fun c => (op c).InMatrix).filter fun c => (op c).offset = matrix_word j) =
      items.filter fun c => (op c).type = .write ∧ (op c).bar = 0 ∧ (op c).offset = matrix_word j := by
  rw [List.filter_filter]
  apply List.filter_congr
  intro c _
  rw [← Bool.decide_and, decide_eq_decide]
  unfold Op.InMatrix matrix_word
  constructor
  · rintro ⟨hoffset, hwrite, hbar, _⟩
    exact ⟨hwrite, hbar, hoffset⟩
  · rintro ⟨hwrite, hbar, hoffset⟩
    exact ⟨hoffset, hwrite, hbar, by omega, by omega⟩

theorem filter_matrix_ops (ops : List Op) {j : Nat} (hj : j < 24) :
    ((matrix_ops ops).filter fun op => op.offset = matrix_word j) = writes_to ops (matrix_word j) :=
  filter_word id ops hj

/-- The last value of a word stands in the cell of the last write up to it. -/
theorem getElem?_cells (ops : List Op) {j : Nat} (hj : j < 24) (hwritten : Written ops j) :
    (cells ops)[writes_up_to ops (matrix_word j) - 1]? = last_value ops (matrix_word j) := by
  rw [Written, ← filter_matrix_ops ops hj] at hwritten
  rw [cells, writes_up_to, List.getElem?_map, getElem?_last Op.offset (matrix_ops ops) hwritten,
    filter_matrix_ops ops hj]
  rfl

theorem written_of_last_value {ops : List Op} {j value : Nat}
    (hlast : last_value ops (matrix_word j) = some value) : Written ops j := by
  intro hnil
  rw [last_value, hnil] at hlast
  cases hlast

section aligned

variable {ops : List Op} (haligned : Aligned ops)
include haligned

/-- In an aligned trace the cell of a word has the number of the word. -/
theorem cell_of_aligned {j : Nat} (hj : j < 24) (hwritten : Written ops j) :
    (cells ops)[j]? = last_value ops (matrix_word j) := by
  have hcell := getElem?_cells ops hj hwritten
  rwa [(haligned j hj hwritten).1, Nat.add_sub_cancel] at hcell

theorem decoded_of_aligned : Decoded ops := by
  intro k hk value hlast
  have hwritten := written_of_last_value hlast
  have hchannel : (channels ops)[k]? = some (byte value (k % 4)) := by
    rw [getElem?_channels, cell_of_aligned haligned (by omega) hwritten, hlast, Option.map_some]
  constructor
  · intro ch hshows
    have hch := ((shows_iff ops k ch).mp hshows).1
    rw [hchannel, Option.some.injEq] at hch
    exact hch.symm
  · by_cases hused : ∀ i ≤ k, (channels ops)[i]? = some 0 → i < 24
    · exact .inr ((shows_iff ops k _).mpr ⟨hchannel, hused⟩)
    · left
      push Not at hused
      obtain ⟨i, hik, hzero, hi⟩ := hused
      -- the word of the slot that ends the table was written
      have hword : Written ops (i / 4) := by
        by_cases hsame : i / 4 = k / 4
        · rwa [hsame]
        · exact (haligned (k / 4) (by omega) hwritten).2 (i / 4) (by omega) (by omega)
      rw [getElem?_channels, cell_of_aligned haligned (by omega) hword] at hzero
      obtain ⟨value', hlast', hbyte⟩ := Option.map_eq_some_iff.mp hzero
      exact ⟨i, hi, hik, value', hlast', hbyte⟩

end aligned

end motu424.analyze_mixer_trace
