import Motu424.Init.Footprint
import Motu424.Pal.Trace
import Motu424.ConvertGolden.Pack

open Program LittleEndian motu424.convert_golden

namespace motu424

theorem zeroExtend_toNat (b : U8) : (b.zeroExtend 32 : U32).toNat = b.toNat := by
  have hb : b.toNat < 2 ^ 8 := b.isLt
  rw [BitVec.zeroExtend_eq_setWidth, BitVec.toNat_setWidth, Nat.mod_eq_of_lt (by omega)]

/-- The engine reassembles the little-endian number of four bytes. -/
theorem le32_toNat (b0 b1 b2 b3 : U8) : (le32 b0 b1 b2 b3).toNat = combine [b0, b1, b2, b3] := by
  have h0 : b0.toNat < 2 ^ 8 := b0.isLt
  have h1 : b1.toNat < 2 ^ 8 := b1.isLt
  have h2 : b2.toNat < 2 ^ 8 := b2.isLt
  have h3 : b3.toNat < 2 ^ 8 := b3.isLt
  have e0 := zeroExtend_toNat b0
  have e1 := zeroExtend_toNat b1
  have e2 := zeroExtend_toNat b2
  have e3 := zeroExtend_toNat b3
  have s1 : (b0.zeroExtend 32 ||| b1.zeroExtend 32 <<< 8 : U32).toNat =
      b0.toNat + 2 ^ 8 * b1.toNat := by
    rw [toNat_or_shiftLeft (by omega) (by omega), e0, e1]
  have s2 : (b0.zeroExtend 32 ||| b1.zeroExtend 32 <<< 8 ||| b2.zeroExtend 32 <<< 16 : U32).toNat =
      b0.toNat + 2 ^ 8 * b1.toNat + 2 ^ 16 * b2.toNat := by
    rw [toNat_or_shiftLeft (by omega) (by omega), s1, e2]
  rw [le32, toNat_or_shiftLeft (by omega) (by omega), s2, e3]
  simp only [combine]
  omega

/-- An entry with a tag below 256 as the engine decodes it. -/
def engine_entry (entry : Entry) : motu_init_entry :=
  ⟨BitVec.ofNat 8 entry.1, BitVec.ofNat 32 entry.2.1, BitVec.ofNat 32 entry.2.2⟩

/-- An entry of the engine as the converter would have held it. -/
def golden_entry (entry : motu_init_entry) : Entry :=
  (entry.bar.toNat, entry.offset.toNat, entry.value.toNat)

theorem golden_entry_engine_entry {entry : Entry} (hfits : entry.Fits) :
    golden_entry (engine_entry entry) = entry := by
  obtain ⟨bar, offset, value⟩ := entry
  obtain ⟨hbar, hoffset, hvalue⟩ := hfits
  simp only [engine_entry, golden_entry, BitVec.toNat_ofNat]
  rw [Nat.mod_eq_of_lt hbar, Nat.mod_eq_of_lt hoffset, Nat.mod_eq_of_lt hvalue]

theorem golden_entry_fits (entry : motu_init_entry) : (golden_entry entry).Fits :=
  ⟨entry.bar.isLt, entry.offset.isLt, entry.value.isLt⟩

theorem le32_split {n : Nat} (hn : n < 2 ^ 32) :
    ∃ b0 b1 b2 b3, split 4 n = [b0, b1, b2, b3] ∧ le32 b0 b1 b2 b3 = BitVec.ofNat 32 n := by
  refine ⟨_, _, _, _, rfl, ?_⟩
  apply BitVec.eq_of_toNat_eq
  rw [le32_toNat, BitVec.toNat_ofNat, Nat.mod_eq_of_lt hn]
  exact combine_split_of_lt (k := 4) (by omega)

theorem split_le32 (b0 b1 b2 b3 : U8) : split 4 (le32 b0 b1 b2 b3).toNat = [b0, b1, b2, b3] := by
  rw [le32_toNat]
  exact split_combine [b0, b1, b2, b3]

/-- Decoding undoes one step of the encoding. -/
theorem init_entries_bytes_append {entry : Entry} (hfits : entry.Fits) (blob : List U8) :
    init_entries (entry.bytes ++ blob) = engine_entry entry :: init_entries blob := by
  obtain ⟨bar, offset, value⟩ := entry
  obtain ⟨_, hoffset, hvalue⟩ := hfits
  obtain ⟨o0, o1, o2, o3, hsplit, hle⟩ := le32_split hoffset
  obtain ⟨v0, v1, v2, v3, hsplit', hle'⟩ := le32_split hvalue
  rw [Entry.bytes, hsplit, hsplit']
  simp [init_entries, engine_entry, hle, hle']

/-- Decoding undoes the encoding. -/
theorem init_entries_write_blob {entries : List Entry} (hfits : ∀ entry ∈ entries, entry.Fits) :
    init_entries (entries.flatMap Entry.bytes) = entries.map engine_entry := by
  induction entries with
  | nil => rfl
  | cons entry entries ih =>
    have hrest := ih fun e he => hfits e (by simp [he])
    rw [List.flatMap_cons, init_entries_bytes_append (hfits entry (by simp)), hrest, List.map_cons]

theorem exists_nine_bytes {blob : List U8} (hlength : 9 ≤ blob.length) :
    ∃ bar o0 o1 o2 o3 v0 v1 v2 v3 rest,
      blob = bar :: o0 :: o1 :: o2 :: o3 :: v0 :: v1 :: v2 :: v3 :: rest := by
  match blob, hlength with
  | bar :: o0 :: o1 :: o2 :: o3 :: v0 :: v1 :: v2 :: v3 :: rest, _ =>
    exact ⟨bar, o0, o1, o2, o3, v0, v1, v2, v3, rest, rfl⟩

/-- Encoding undoes the decoding of a blob without a rest. -/
theorem bytes_init_entries (blob : List U8) (hlength : blob.length % 9 = 0) :
    ((init_entries blob).map golden_entry).flatMap Entry.bytes = blob := by
  induction blob using init_entries.induct with
  | case1 bar o0 o1 o2 o3 v0 v1 v2 v3 blob ih =>
    have hrest : blob.length % 9 = 0 := by
      simp only [List.length_cons] at hlength
      omega
    have hbytes : (golden_entry ⟨bar, le32 o0 o1 o2 o3, le32 v0 v1 v2 v3⟩).bytes =
        [bar, o0, o1, o2, o3, v0, v1, v2, v3] := by
      rw [golden_entry, Entry.bytes, split_le32, split_le32]
      simp
    rw [init_entries, List.map_cons, List.flatMap_cons, ih hrest, hbytes]
    rfl
  | case2 blob hshort =>
    have hempty : blob = [] := by
      by_contra hne
      have hpos : 0 < blob.length := List.length_pos_iff.mpr hne
      obtain ⟨bar, o0, o1, o2, o3, v0, v1, v2, v3, rest, hblob⟩ := exists_nine_bytes (show 9 ≤ blob.length by omega)
      exact hshort bar o0 o1 o2 o3 v0 v1 v2 v3 rest hblob
    rw [hempty]
    rfl

/-- A list of entries is what the engine decodes from its encoding. -/
theorem golden_entries_of_write_blob {entries : List Entry} {blob : List U8}
    (hblob : write_blob entries = .ok blob) : (init_entries blob).map golden_entry = entries := by
  have hfits := (write_blob_ok_iff entries).mp ⟨blob, hblob⟩
  rw [write_blob_of_fits hfits] at hblob
  cases hblob
  have hid : ∀ entry ∈ entries, (golden_entry ∘ engine_entry) entry = id entry := fun entry hentry =>
    golden_entry_engine_entry (hfits entry hentry)
  rw [init_entries_write_blob hfits, List.map_map, List.map_congr_left hid, List.map_id]

theorem write_blob_golden_entries {blob : List U8} (hlength : blob.length % 9 = 0) :
    write_blob ((init_entries blob).map golden_entry) = .ok blob := by
  have hfits : ∀ entry ∈ (init_entries blob).map golden_entry, entry.Fits := by
    intro entry hentry
    obtain ⟨e, _, rfl⟩ := List.mem_map.mp hentry
    exact golden_entry_fits e
  rw [write_blob_of_fits hfits, bytes_init_entries blob hlength]

/-- The register write an entry stands for, if its tag names a BAR. -/
def entry_write (c : motu424_ctx) (entry : motu_init_entry) : Option Event :=
  (tag_bar entry.bar).map fun bar =>
    .write bar (c.base bar) entry.offset (motu424_translate_dma c entry.value)

/-- What one round of the loop does for an entry that stands for a write. -/
def replay_round_events (i : Nat) (event : Event) : List Event :=
  event :: if i &&& 0x3FF = 0 then [.resched] else []

section run

variable (env : Env) (m : Machine) (c : motu424_ctx)

theorem tag_bar_eq_some {tag : U8} {bar : Bar} (htag : tag_bar tag = some bar) :
    (tag = PAL_BAR_DSP ∧ bar = .dsp) ∨ (tag = PAL_BAR_REG ∧ bar = .reg) ∨
      (tag = PAL_BAR_PORT ∧ bar = .port) := by
  rw [tag_bar] at htag
  split_ifs at htag with h0 h1 h2
  · exact .inl ⟨h0, (Option.some.inj htag).symm⟩
  · exact .inr (.inl ⟨h1, (Option.some.inj htag).symm⟩)
  · exact .inr (.inr ⟨h2, (Option.some.inj htag).symm⟩)

theorem exec_motu_write {tag : U8} {bar : Bar} (htag : tag_bar tag = some bar) (offset value : U32) :
    (motu_write c tag offset value).exec env m = m.emit [.write bar (c.base bar) offset value] := by
  rw [motu_write]
  rcases tag_bar_eq_some htag with ⟨rfl, rfl⟩ | ⟨rfl, rfl⟩ | ⟨rfl, rfl⟩
  · rw [if_pos rfl, exec_pal_write32]
    rfl
  · rw [if_neg (by decide), if_pos rfl, exec_pal_write32]
    rfl
  · rw [if_neg (by decide), if_neg (by decide), if_pos rfl, exec_pal_write32]
    rfl

/-- A poll marker names no BAR. -/
theorem tag_bar_poll_marker : tag_bar MOTU_INIT_POLL_MARKER = none := by decide

/-- One round of the loop makes the one access its entry stands for. -/
theorem exec_replay_entry (i : Nat) {entry : motu_init_entry} {event : Event}
    (hevent : entry_write c entry = some event) :
    (replay_entry c i entry).exec env m = m.emit (replay_round_events i event) := by
  obtain ⟨bar, htag, rfl⟩ := Option.map_eq_some_iff.mp hevent
  have hnopoll : entry.bar ≠ MOTU_INIT_POLL_MARKER := by
    intro hpoll
    rw [hpoll, tag_bar_poll_marker] at htag
    cases htag
  rw [replay_entry, if_neg hnopoll, exec_bind, exec_motu_write env m c htag, exec_when,
    replay_round_events]
  split_ifs with hi
  · rw [exec_pal_cond_resched, Machine.emit_emit]
    rfl
  · rfl

theorem entry_write_is_access {entry : motu_init_entry} {event : Event}
    (hevent : entry_write c entry = some event) : event.is_access = true := by
  obtain ⟨bar, _, rfl⟩ := Option.map_eq_some_iff.mp hevent
  rfl

/-- The loop makes the accesses its entries stand for, in their order and no other. -/
theorem exec_replay_entries (i : Nat) (entries : List motu_init_entry)
    (htags : ∀ entry ∈ entries, tag_bar entry.bar ≠ none) :
    ∃ new, (replay_entries c i entries).exec env m = m.emit new ∧
      (accesses new).map some = entries.map (entry_write c) := by
  induction entries generalizing i m with
  | nil => exact ⟨[], by simp [replay_entries], rfl⟩
  | cons entry entries ih =>
    obtain ⟨bar, hbar⟩ := Option.ne_none_iff_exists'.mp (htags entry (by simp))
    obtain ⟨event, hevent⟩ : ∃ event, entry_write c entry = some event := by
      rw [entry_write, hbar]
      exact ⟨_, rfl⟩
    obtain ⟨new, hrest, hnew⟩ := ih (m.emit (replay_round_events i event)) (i + 1) fun e he =>
      htags e (by simp [he])
    refine ⟨replay_round_events i event ++ new, ?_, ?_⟩
    · rw [replay_entries, exec_bind, exec_replay_entry env m c i hevent, hrest, Machine.emit_emit]
    · have haccess : accesses (replay_round_events i event) = [event] := by
        rw [replay_round_events, accesses, List.filter_cons_of_pos (entry_write_is_access c hevent)]
        split_ifs <;> rfl
      rw [accesses_append, haccess, List.map_append, hnew, List.map_singleton, List.map_cons, hevent,
        List.singleton_append]

end run

/-- A log line of the engine about the number of entries. -/
def replay_log (fmt : String) (blob : List U8) : Event :=
  .log .info fmt [.int (fw_size (some blob) / 9 : Nat)]

/-- The machine on which the loop over the entries of a blob starts. -/
def replay_start (m : Machine) (blob : List U8) : Machine :=
  m.emit [replay_log "Replaying %zu register writes\n" blob]

/-- A blob that consists of entries is accepted, and what happens is the loop
between two log lines. -/
theorem motu424_replay_sequence_accepts (env : Env) (m : Machine) {blob : List U8} (hblob : blob ≠ [])
    (hlength : blob.length % 9 = 0) :
    (motu424_replay_sequence (some blob)).eval env m = 0 ∧
    (motu424_replay_sequence (some blob)).exec env m =
      ((replay_entries m.ctx 0 (init_entries blob)).exec env (replay_start m blob)).emit
        [replay_log "Init sequence replay complete (%zu writes)\n" blob] := by
  have hpos : 0 < fw_size (some blob) := List.length_pos_iff.mpr hblob
  have haccept : ¬ (some blob = none ∨ fw_size (some blob) = 0 ∨ fw_size (some blob) % 9 ≠ 0) := by
    rintro (h | h | h)
    · cases h
    · omega
    · exact h hlength
  constructor
  · rw [motu424_replay_sequence, eval_bind, if_neg haccept]
    simp only [eval_bind, eval_pure]
  · rw [motu424_replay_sequence, exec_bind, if_neg haccept, exec_bind, exec_bind, exec_bind,
      exec_get_ctx, eval_get_ctx, exec_pal_log env m, Option.getD_some, exec_pal_log, exec_pure]
    rfl

/-- A good blob is replayed entry by entry. -/
theorem motu424_replay_sequence_accesses (env : Env) (m : Machine) {blob : List U8} (hblob : blob ≠ [])
    (hlength : blob.length % 9 = 0) (htags : ∀ entry ∈ init_entries blob, tag_bar entry.bar ≠ none) :
    (motu424_replay_sequence (some blob)).eval env m = 0 ∧
    ∃ new, (motu424_replay_sequence (some blob)).exec env m = m.emit new ∧
      (accesses new).map some = (init_entries blob).map (entry_write m.ctx) := by
  obtain ⟨hok, hexec⟩ := motu424_replay_sequence_accepts env m hblob hlength
  obtain ⟨new, hrun, hnew⟩ := exec_replay_entries env (replay_start m blob) m.ctx 0 (init_entries blob) htags
  refine ⟨hok, replay_log "Replaying %zu register writes\n" blob ::
    (new ++ [replay_log "Init sequence replay complete (%zu writes)\n" blob]), ?_, ?_⟩
  · rw [hexec, hrun, replay_start, Machine.emit_emit, Machine.emit_emit, List.singleton_append]
  · have hlogs : accesses (replay_log "Replaying %zu register writes\n" blob ::
        (new ++ [replay_log "Init sequence replay complete (%zu writes)\n" blob])) = accesses new := by
      rw [← List.singleton_append, accesses_append, accesses_append]
      exact List.append_nil _
    rw [hlogs, hnew]

/-- A blob that does not consist of entries is refused without an access. -/
theorem motu424_replay_sequence_refuses (env : Env) (m : Machine) {blob : List U8}
    (hblob : blob.length = 0 ∨ blob.length % 9 ≠ 0) :
    (motu424_replay_sequence (some blob)).eval env m = -1 ∧
    ∃ new, (motu424_replay_sequence (some blob)).exec env m = m.emit new ∧ accesses new = [] := by
  have hrefuse : some blob = none ∨ fw_size (some blob) = 0 ∨ fw_size (some blob) % 9 ≠ 0 := .inr hblob
  constructor
  · rw [motu424_replay_sequence, eval_bind, if_pos hrefuse, eval_bind, eval_pure]
  · refine ⟨[.log .err "invalid init sequence (%zu bytes)\n" [.int (fw_size (some blob))]], ?_, rfl⟩
    rw [motu424_replay_sequence, exec_bind, if_pos hrefuse, exec_bind, exec_pure, exec_pal_log, exec_get_ctx]

/-- An entry of a golden sequence: a tag that names a BAR and two 32-bit numbers. -/
def IsGolden (entry : Entry) : Prop := entry.1 ≤ 2 ∧ entry.2.1 < 2 ^ 32 ∧ entry.2.2 < 2 ^ 32

instance (entry : Entry) : Decidable (IsGolden entry) := inferInstanceAs (Decidable (_ ∧ _ ∧ _))

theorem IsGolden.fits {entry : Entry} (hentry : IsGolden entry) : entry.Fits :=
  ⟨by have := hentry.1; omega, hentry.2⟩

theorem IsGolden.tag {entry : Entry} (hentry : IsGolden entry) :
    tag_bar (engine_entry entry).bar ≠ none := by
  obtain ⟨bar, offset, value⟩ := entry
  have hbar : bar ≤ 2 := hentry.1
  have htags : ∀ bar ≤ 2, tag_bar (BitVec.ofNat 8 bar) ≠ none := by decide
  exact htags bar hbar

/-- The engine repeats what the converter wrote. -/
theorem replay_golden_entries (env : Env) (m : Machine) {entries : List Entry} (hne : entries ≠ [])
    (hgolden : ∀ entry ∈ entries, IsGolden entry) :
    ∃ blob, write_blob entries = .ok blob ∧
      (motu424_replay_sequence (some blob)).eval env m = 0 ∧
      ∃ new, (motu424_replay_sequence (some blob)).exec env m = m.emit new ∧
        (accesses new).map some = entries.map fun entry => entry_write m.ctx (engine_entry entry) := by
  have hfits : ∀ entry ∈ entries, entry.Fits := fun e he => (hgolden e he).fits
  have hblob := write_blob_of_fits hfits
  have hdecoded := init_entries_write_blob hfits
  have hlength := length_flatMap_bytes entries
  have hpos : 0 < entries.length := List.length_pos_iff.mpr hne
  have htags : ∀ entry ∈ init_entries (entries.flatMap Entry.bytes), tag_bar entry.bar ≠ none := by
    intro entry hentry
    rw [hdecoded] at hentry
    obtain ⟨e, he, rfl⟩ := List.mem_map.mp hentry
    exact (hgolden e he).tag
  have hnonempty : entries.flatMap Entry.bytes ≠ [] := List.length_pos_iff.mp (by omega)
  obtain ⟨hok, new, hexec, hnew⟩ := motu424_replay_sequence_accesses env m hnonempty (by omega) htags
  refine ⟨_, hblob, hok, new, hexec, ?_⟩
  rw [hnew, hdecoded, List.map_map]
  rfl

/-- The converter and the replay engine agree on the blob format. -/
theorem replay_agrees_with_converter (env : Env) (m : Machine) :
    (∀ entries : List Entry, entries ≠ [] → (∀ entry ∈ entries, IsGolden entry) →
      ∃ blob, write_blob entries = .ok blob ∧
        (motu424_replay_sequence (some blob)).eval env m = 0 ∧
        ∃ new, (motu424_replay_sequence (some blob)).exec env m = m.emit new ∧
          (accesses new).map some = entries.map fun entry => entry_write m.ctx (engine_entry entry)) ∧
    (∀ blob : List U8, blob ≠ [] → blob.length % 9 = 0 →
      write_blob ((init_entries blob).map golden_entry) = .ok blob ∧
      ∀ entries, write_blob entries = .ok blob → entries = (init_entries blob).map golden_entry) ∧
    (∀ blob : List U8, blob.length = 0 ∨ blob.length % 9 ≠ 0 →
      (motu424_replay_sequence (some blob)).eval env m = -1 ∧
      ∃ new, (motu424_replay_sequence (some blob)).exec env m = m.emit new ∧ accesses new = []) := by
  refine ⟨?_, ?_, ?_⟩
  · intro entries hne hgolden
    exact replay_golden_entries env m hne hgolden
  · intro blob _ hlength
    exact ⟨write_blob_golden_entries hlength, fun entries hblob =>
      (golden_entries_of_write_blob hblob).symm⟩
  · intro blob hblob
    exact motu424_replay_sequence_refuses env m hblob

/-- Two golden writes make a blob that the engine accepts and repeats. -/
theorem golden_pair_agrees :
    ∃ blob, write_blob [(0, 0x0, 0x7ec582a), (1, 0x8, 0x221)] = .ok blob ∧
      (motu424_replay_sequence (some blob)).eval .idle ⟨mapped_ctx, []⟩ = 0 ∧
      ∃ new, (motu424_replay_sequence (some blob)).exec .idle ⟨mapped_ctx, []⟩ =
          (⟨mapped_ctx, []⟩ : Machine).emit new ∧
        (accesses new).map some = [some (.write .dsp (some 0x1000) 0x0 0x7ec582a),
          some (.write .reg (some 0x2000) 0x8 0x221)] :=
  (replay_agrees_with_converter .idle ⟨mapped_ctx, []⟩).1 [(0, 0x0, 0x7ec582a), (1, 0x8, 0x221)]
    (by decide) (by decide)

end motu424
