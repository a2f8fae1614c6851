import Motu424.Hw
import Motu424.AnalyzeMixerTrace.Routing

open StableSort

namespace motu424.analyze_mixer_trace

/-- A write with the value for its place in the trace. -/
def revalued (values : Nat → U32) (p : Op × Nat) : Op := { p.1 with value := (values p.2).toNat }

/-- The trace with other values. -/
def revalue (values : Nat → U32) (ops : List Op) : List Op := ops.zipIdx.map (revalued values)

theorem filter_revalue (values : Nat → U32) (ops : List Op) {q : Op → Bool}
    (hq : ∀ p, q (revalued values p) = q p.1) :
    (revalue values ops).filter q = (ops.zipIdx.filter fun p => q p.1).map (revalued values) := by
  rw [revalue, List.filter_map]
  congr 1
  exact List.filter_congr fun p _ => hq p

/-- The writes to the routing matrix, each with its place in the trace. -/
def matrix_places (ops : List Op) : List (Op × Nat) := ops.zipIdx.filter fun p => p.1.InMatrix

/-- These in the order of the table. -/
def table_places (ops : List Op) : List (Op × Nat) := sorted (fun p => p.1.offset) (matrix_places ops)

/-- The place of the last write to a word. -/
def last_place (ops : List Op) (j : Nat) : Option Nat :=
  ((ops.zipIdx.filter fun p => p.1.type = .write ∧ p.1.bar = 0 ∧ p.1.offset = matrix_word j).getLast?).map
    Prod.snd

section revalue

variable (values : Nat → U32) (ops : List Op)

theorem matrix_ops_revalue : matrix_ops (revalue values ops) = (matrix_places ops).map (revalued values) :=
  filter_revalue values ops fun _ => rfl

/-- The values go to the cells by their places. -/
theorem cells_revalue :
    cells (revalue values ops) = (table_places ops).map fun p => (values p.2).toNat := by
  have hsorted : (table_places ops).map (revalued values) = sorted Op.offset (matrix_ops (revalue values ops)) := by
    rw [matrix_ops_revalue]
    exact map_sorted Op.offset (revalued values) (matrix_places ops)
  rw [cells, ← hsorted, List.map_map]
  rfl

theorem last_value_revalue (j : Nat) : last_value (revalue values ops) (matrix_word j) =
    (last_place ops j).map fun i => (values i).toNat := by
  rw [last_value, writes_to, filter_revalue values ops (fun _ => rfl), List.getLast?_map, last_place,
    Option.map_map, Option.map_map]
  rfl

/-- Nothing but the values changes. -/
theorem filter_zipIdx (q : Op → Bool) : (ops.zipIdx.filter fun p => q p.1).map Prod.fst = ops.filter q := by
  have hops := congrArg (List.filter q) (List.zipIdx_map_fst 0 ops)
  rwa [List.filter_map] at hops

theorem countP_matrix_places (offset : Nat) :
    (matrix_places ops).countP (fun p => p.1.offset ≤ offset) = writes_up_to ops offset := by
  have hops : (matrix_places ops).map Prod.fst = matrix_ops ops := filter_zipIdx ops fun op => op.InMatrix
  rw [writes_up_to, ← hops, List.countP_map]
  rfl

theorem writes_up_to_revalue (offset : Nat) :
    writes_up_to (revalue values ops) offset = writes_up_to ops offset := by
  rw [writes_up_to, matrix_ops_revalue, List.countP_map, ← countP_matrix_places]
  rfl

theorem written_revalue (j : Nat) : Written (revalue values ops) j ↔ Written ops j := by
  rw [Written, Written, writes_to, filter_revalue values ops (fun _ => rfl), writes_to, ← filter_zipIdx,
    ne_eq, ne_eq, List.map_eq_nil_iff, List.map_eq_nil_iff]

theorem aligned_revalue : Aligned (revalue values ops) ↔ Aligned ops := by
  unfold Aligned
  simp only [writes_up_to_revalue, written_revalue]

end revalue

/-- The last write to a word stands behind all writes up to it. -/
theorem exists_last_place (ops : List Op) {j : Nat} (hj : j < 24) (hwritten : Written ops j) :
    ∃ p, last_place ops j = some p.2 ∧
      (table_places ops)[writes_up_to ops (matrix_word j) - 1]? = some p := by
  have hfilter : ((matrix_places ops).filter fun p => p.1.offset = matrix_word j) = ops.zipIdx.filter fun p =>
      p.1.type = .write ∧ p.1.bar = 0 ∧ p.1.offset = matrix_word j := filter_word Prod.fst ops.zipIdx hj
  have hplaces : ((matrix_places ops).filter fun p => p.1.offset = matrix_word j) ≠ [] := by
    rw [Written, writes_to, ← filter_zipIdx] at hwritten
    rw [hfilter]
    exact fun hnil => hwritten (List.map_eq_nil_iff.mpr hnil)
  have hlast := getElem?_last (fun p => p.1.offset) (matrix_places ops) hplaces
  rw [countP_matrix_places, List.getLast?_eq_some_getLast hplaces] at hlast
  refine ⟨_, ?_, hlast⟩
  rw [last_place, ← hfilter, List.getLast?_eq_some_getLast hplaces, Option.map_some]

/-- Each place occurs once in the table. -/
theorem place_unique {ops : List Op} {i j : Nat} {p q : Op × Nat} (hi : (table_places ops)[i]? = some p)
    (hj : (table_places ops)[j]? = some q) (hpq : p.2 = q.2) : i = j := by
  have hnodup : ((table_places ops).map Prod.snd).Nodup := by
    have hperm := (perm_sorted (fun p => p.1.offset) (matrix_places ops)).map Prod.snd
    apply hperm.nodup_iff.mpr
    apply (List.filter_sublist.map Prod.snd).nodup
    rw [List.zipIdx_map_snd]
    exact List.nodup_range'
  obtain ⟨hlength, _⟩ := List.getElem?_eq_some_iff.mp hi
  refine (List.getElem?_inj (by simpa using hlength) hnodup).mp ?_
  rw [List.getElem?_map, List.getElem?_map, hi, hj, Option.map_some, Option.map_some, hpq]

/-- Values that tell one write from all others. -/
def mark (i : Nat) (value : U32) : Nat → U32 := fun n => if n = i then value else 0x01010101

theorem byte_mark {i n : Nat} {value : U32} (hn : n ≠ i) {b : Nat} (hb : b < 4) :
    byte (mark i value n).toNat b = 1 := by
  have hbytes : ∀ b < 4, byte (0x01010101 : U32).toNat b = 1 := by decide
  rw [mark, if_neg hn]
  exact hbytes b hb

/-- The channels of a slot when one write is told from all others. -/
theorem getElem?_channels_mark (ops : List Op) (i : Nat) (value : U32) (k : Nat) :
    (channels (revalue (mark i value) ops))[k]? =
      (table_places ops)[k / 4]?.map fun p => byte (mark i value p.2).toNat (k % 4) := by
  rw [getElem?_channels, cells_revalue, List.getElem?_map, Option.map_map]
  rfl

theorem writes_up_to_pos {ops : List Op} {j : Nat} (hj : j < 24) (hwritten : Written ops j) :
    0 < writes_up_to ops (matrix_word j) := by
  obtain ⟨op, hop⟩ := List.exists_mem_of_ne_nil _ hwritten
  rw [← filter_matrix_ops ops hj, List.mem_filter, decide_eq_true_iff] at hop
  apply List.countP_pos_iff.mpr
  exact ⟨op, hop.1, by simpa using hop.2.le⟩

/-- A word that was written has the value of its last place. -/
theorem last_value_mark {ops : List Op} {i : Nat} {value : U32} {j n : Nat} (hlast : last_place ops j = some n) :
    last_value (revalue (mark i value) ops) (matrix_word j) = some (mark i value n).toNat := by
  rw [last_value_revalue, hlast, Option.map_some]

/-- Where the writes up to a word are too many or too few, another write stands in its
cell. -/
theorem not_decoded_of_count {ops : List Op} {j : Nat} (hj : j < 24) (hwritten : Written ops j)
    (hcount : writes_up_to ops (matrix_word j) ≠ j + 1) :
    ∃ values : Nat → U32, ¬ Decoded (revalue values ops) := by
  obtain ⟨p, hlast, hplace⟩ := exists_last_place ops hj hwritten
  refine ⟨mark p.2 0x02020202, fun hdecoded => ?_⟩
  have hmark : (mark p.2 0x02020202 p.2).toNat = 0x02020202 := by rw [mark, if_pos rfl]; rfl
  have hslot := hdecoded (4 * j) (by omega) 0x02020202 (by
    rw [Nat.mul_div_cancel_left j (by decide), last_value_mark hlast, hmark])
  rw [Nat.mul_mod_right] at hslot
  rcases hslot.2 with ⟨i, _, _, value, hvalue, hzero⟩ | hshows
  · -- no byte of the values is zero
    rw [last_value_revalue] at hvalue
    obtain ⟨n, _, rfl⟩ := Option.map_eq_some_iff.mp hvalue
    have hi : i % 4 < 4 := Nat.mod_lt i (by decide)
    by_cases hn : n = p.2
    · have hbytes : ∀ b < 4, byte 0x02020202 b ≠ 0 := by decide
      rw [hn, hmark] at hzero
      exact hbytes _ hi hzero
    · rw [byte_mark hn hi] at hzero
      cases hzero
  · have hchannel := ((shows_iff _ _ _).mp hshows).1
    rw [getElem?_channels_mark, Nat.mul_div_cancel_left j (by decide), Nat.mul_mod_right] at hchannel
    obtain ⟨q, hq, hbyte⟩ := Option.map_eq_some_iff.mp hchannel
    by_cases hqp : q.2 = p.2
    · have hsame := place_unique hq hplace hqp
      have hpos := writes_up_to_pos hj hwritten
      omega
    · rw [byte_mark hqp (by decide)] at hbyte
      exact absurd hbyte (by decide)

/-- Where a word that could end the table is left out, another write ends it. -/
theorem not_decoded_of_gap {ops : List Op}
    (hcount : ∀ j < 24, Written ops j → writes_up_to ops (matrix_word j) = j + 1) {i j : Nat} (hj : j < 24)
    (hwritten : Written ops j) (hi : 6 ≤ i) (hij : i < j) (hgap : ¬ Written ops i) :
    ∃ values : Nat → U32, ¬ Decoded (revalue values ops) := by
  have hplaces {j : Nat} (hj : j < 24) (hwritten : Written ops j) :
      ∃ p, last_place ops j = some p.2 ∧ (table_places ops)[j]? = some p := by
    obtain ⟨p, hlast, hplace⟩ := exists_last_place ops hj hwritten
    rw [hcount j hj hwritten, Nat.add_sub_cancel] at hplace
    exact ⟨p, hlast, hplace⟩
  obtain ⟨p, hlast, hplace⟩ := hplaces hj hwritten
  obtain ⟨q, hq⟩ : ∃ q, (table_places ops)[i]? = some q := by
    obtain ⟨hlength, _⟩ := List.getElem?_eq_some_iff.mp hplace
    exact ⟨_, List.getElem?_eq_getElem (hij.trans hlength)⟩
  have hpq : p.2 ≠ q.2 := by
    intro heq
    have := place_unique hplace hq heq
    omega
  have hmark : (mark q.2 0 q.2).toNat = 0 := by rw [mark, if_pos rfl]; rfl
  refine ⟨mark q.2 0, fun hdecoded => ?_⟩
  have hslot := hdecoded (4 * j) (by omega) (mark q.2 0 p.2).toNat (by
    rw [Nat.mul_div_cancel_left j (by decide), last_value_mark hlast])
  rcases hslot.2 with ⟨m, hm, hmj, value, hvalue, hzero⟩ | hshows
  · -- the words that were written hold no zero
    have hword := (written_revalue _ _ _).mp (written_of_last_value hvalue)
    obtain ⟨p', hlast', hplace'⟩ := hplaces (by omega) hword
    rw [last_value_mark hlast', Option.some.injEq] at hvalue
    by_cases hpq' : p'.2 = q.2
    · have hsame := place_unique hplace' hq hpq'
      rw [hsame] at hword
      exact hgap hword
    · rw [← hvalue, byte_mark hpq' (Nat.mod_lt m (by decide))] at hzero
      cases hzero
  · -- the cell of the word that is left out ends the table
    have hused := ((shows_iff _ _ _).mp hshows).2 (4 * i) (by omega)
    rw [getElem?_channels_mark, Nat.mul_div_cancel_left i (by decide), hq, Option.map_some, hmark] at hused
    have hend := hused (by rw [Nat.mul_mod_right]; rfl)
    omega

/-- The table is the routing memory when the trace is aligned, and only an aligned trace
has this table whatever values it writes. -/
theorem print_routing_matrix_decodes_iff (ops : List Op) :
    (Aligned ops → Decoded ops) ∧ ((∀ values : Nat → U32, Decoded (revalue values ops)) ↔ Aligned ops) := by
  refine ⟨decoded_of_aligned, fun hdecoded => ?_, fun haligned values => ?_⟩
  · have hcount (j : Nat) (hj : j < 24) (hwritten : Written ops j) :
        writes_up_to ops (matrix_word j) = j + 1 := by
      by_contra hcount
      obtain ⟨values, hnot⟩ := not_decoded_of_count hj hwritten hcount
      exact hnot (hdecoded values)
    refine fun j hj hwritten => ⟨hcount j hj hwritten, fun i hi hij => ?_⟩
    by_contra hgap
    obtain ⟨values, hnot⟩ := not_decoded_of_gap hcount hj hwritten hi hij hgap
    exact hnot (hdecoded values)
  · exact decoded_of_aligned ((aligned_revalue values ops).mpr haligned)

/-- The first word is written twice: the table still shows the old channels. -/
theorem rewritten_word_not_decoded :
    ¬ Decoded [⟨.write, "0000:06:01.0".toList, 0, 0x8348, 0x03020100, 4⟩,
      ⟨.write, "0000:06:01.0".toList, 0, 0x8348, 0x07060504, 4⟩] := by
  intro hdecoded
  have hslot := (hdecoded 0 (by decide) 0x07060504 (by decide)).1 0
  have hchannel := hslot ((shows_iff _ 0 0).mpr ⟨by decide, fun i hi _ => by omega⟩)
  exact absurd hchannel (by decide)

end motu424.analyze_mixer_trace
