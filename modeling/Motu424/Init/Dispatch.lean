import Motu424.Init.Replay
import Motu424.Foundation.Run

open Program Run

namespace motu424

/-- The tags of the entry format: the three BARs and the poll marker. -/
def KnownTag (tag : U8) : Prop :=
  tag ∈ [PAL_BAR_DSP, PAL_BAR_REG, PAL_BAR_PORT, MOTU_INIT_POLL_MARKER]

instance (tag : U8) : Decidable (KnownTag tag) := inferInstanceAs (Decidable (_ ∈ _))

theorem knownTag_iff {tag : U8} : KnownTag tag ↔ tag_bar tag ≠ none ∨ tag = MOTU_INIT_POLL_MARKER := by
  rw [KnownTag, tag_bar]
  simp only [List.mem_cons, List.not_mem_nil, or_false]
  split_ifs with h0 h1 h2 <;> simp [*]

/-- One round of the replay loop takes the driver from one state to the next. -/
def ReplayRound (env : Env) (c : motu424_ctx) (entry : motu_init_entry) (s t : Machine) : Prop :=
  ∃ i, t = (replay_entry c i entry).exec env s

/-- The replay of a blob works off its entries one after the other, each as the
relation says, between its two log lines. -/
def ReplaysInOrder (env : Env) (m : Machine) (blob : List U8)
    (R : motu_init_entry → Machine → Machine → Prop) : Prop :=
  ∃ done, InOrder R (init_entries blob) (replay_start m blob) done ∧
    (motu424_replay_sequence (some blob)).exec env m =
      done.emit [replay_log "Init sequence replay complete (%zu writes)\n" blob]

section order

variable (env : Env) (m : Machine)

theorem replay_entries_in_order (c : motu424_ctx) (i : Nat) (entries : List motu_init_entry) :
    InOrder (ReplayRound env c) entries m ((replay_entries c i entries).exec env m) := by
  induction entries generalizing i m with
  | nil => exact .nil m
  | cons entry entries ih => exact .cons ⟨i, rfl⟩ (ih _ (i + 1))

/-- A blob that is not refused for its length consists of entries. -/
theorem blob_of_not_refused {blob : List U8} (hgood : ¬ (blob.length = 0 ∨ blob.length % 9 ≠ 0)) :
    blob ≠ [] ∧ blob.length % 9 = 0 := by
  rw [not_or, not_not, List.length_eq_zero_iff] at hgood
  exact hgood

/-- An accepted blob is replayed in rounds. -/
theorem replays_in_order {blob : List U8} (hblob : blob ≠ []) (hlength : blob.length % 9 = 0) :
    ReplaysInOrder env m blob (ReplayRound env m.ctx) :=
  ⟨_, replay_entries_in_order env _ m.ctx 0 (init_entries blob),
    (motu424_replay_sequence_accepts env m hblob hlength).2⟩

theorem ReplaysInOrder.mono {env : Env} {m : Machine} {blob : List U8}
    {R R' : motu_init_entry → Machine → Machine → Prop} (horder : ReplaysInOrder env m blob R)
    (himp : ∀ entry ∈ init_entries blob, ∀ s t, R entry s t → R' entry s t) :
    ReplaysInOrder env m blob R' := by
  obtain ⟨done, hrun, hexec⟩ := horder
  exact ⟨done, hrun.mono himp, hexec⟩

end order

/-- The entry is executed: as one register write to the BAR its tag names and no
other register access, or as one poll. -/
def Executed (env : Env) (c : motu424_ctx) (entry : motu_init_entry) (s t : Machine) : Prop :=
  (∃ event quiet, entry_write c entry = some event ∧ accesses quiet = [] ∧ t = s.emit (event :: quiet)) ∨
  (entry.bar = MOTU_INIT_POLL_MARKER ∧
    t = (motu424_poll_reg PAL_BAR_DSP entry.offset (motu424_translate_dma c entry.value) 1000).exec env s)

/-- No entry of the blob is lost: when the replay succeeds every entry was executed,
and a blob with an unknown tag is refused. -/
def NothingDropped (env : Env) (m : Machine) (blob : List U8) : Prop :=
  ((motu424_replay_sequence (some blob)).eval env m = 0 →
    ReplaysInOrder env m blob (Executed env m.ctx)) ∧
  ((∃ entry ∈ init_entries blob, ¬ KnownTag entry.bar) →
    (motu424_replay_sequence (some blob)).eval env m ≠ 0)

section dispatch

variable {env : Env} {c : motu424_ctx} {entry : motu_init_entry} {s t : Machine}

/-- A round for an entry with a known tag executes it. -/
theorem ReplayRound.executed (hround : ReplayRound env c entry s t) (htag : KnownTag entry.bar) :
    Executed env c entry s t := by
  obtain ⟨i, rfl⟩ := hround
  rcases knownTag_iff.mp htag with hbar | hpoll
  · left
    obtain ⟨bar, hbar⟩ := Option.ne_none_iff_exists'.mp hbar
    obtain ⟨event, hevent⟩ : ∃ event, entry_write c entry = some event := by
      rw [entry_write, hbar]
      exact ⟨_, rfl⟩
    refine ⟨event, if i &&& 0x3FF = 0 then [.resched] else [], hevent, ?_, ?_⟩
    · split_ifs <;> rfl
    · exact exec_replay_entry env s c i hevent
  · right
    refine ⟨hpoll, ?_⟩
    rw [replay_entry, if_pos hpoll, exec_bind, exec_pure]

theorem Executed.known (hexec : Executed env c entry s t) : KnownTag entry.bar := by
  rw [knownTag_iff]
  rcases hexec with ⟨event, _, hevent, _⟩ | ⟨hpoll, _⟩
  · obtain ⟨bar, hbar, _⟩ := Option.map_eq_some_iff.mp hevent
    left
    rw [hbar]
    exact Option.some_ne_none bar
  · exact .inr hpoll

/-- A round for any other entry makes no register access at all. -/
theorem ReplayRound.dropped (hround : ReplayRound env c entry s t) (htag : ¬ KnownTag entry.bar) :
    ∃ quiet, accesses quiet = [] ∧ t = s.emit quiet := by
  obtain ⟨i, rfl⟩ := hround
  rw [knownTag_iff, not_or, not_not, tag_bar] at htag
  obtain ⟨hbar, hpoll⟩ := htag
  split_ifs at hbar with h0 h1 h2
  refine ⟨if i &&& 0x3FF = 0 then [.resched] else [], by split_ifs <;> rfl, ?_⟩
  rw [replay_entry, if_neg hpoll, motu_write, if_neg h0, if_neg h1, if_neg h2, exec_bind, exec_pure]
  exact exec_when_emit env s (exec_pal_cond_resched env s)

end dispatch

section every_entry

variable (env : Env) (m : Machine) {blob : List U8} (hblob : blob ≠ []) (hlength : blob.length % 9 = 0)
include hblob hlength

theorem replay_executes_iff :
    ((motu424_replay_sequence (some blob)).eval env m = 0 →
      ReplaysInOrder env m blob (Executed env m.ctx)) ↔
    ∀ entry ∈ init_entries blob, KnownTag entry.bar := by
  have hok := (motu424_replay_sequence_accepts env m hblob hlength).1
  constructor
  · intro hexecutes entry hentry
    obtain ⟨done, horder, _⟩ := hexecutes hok
    obtain ⟨s, t, hturn⟩ := horder.exists_turn hentry
    exact hturn.known
  · intro htags _
    apply (replays_in_order env m hblob hlength).mono
    intro entry hentry s t hround
    exact hround.executed (htags entry hentry)

theorem replay_refuses_iff :
    ((∃ entry ∈ init_entries blob, ¬ KnownTag entry.bar) →
      (motu424_replay_sequence (some blob)).eval env m ≠ 0) ↔
    ∀ entry ∈ init_entries blob, KnownTag entry.bar := by
  have hok := (motu424_replay_sequence_accepts env m hblob hlength).1
  constructor
  · intro hrefuses entry hentry
    by_contra htag
    exact hrefuses ⟨entry, hentry, htag⟩ hok
  · rintro htags ⟨entry, hentry, htag⟩
    exact absurd (htags entry hentry) htag

/-- The replay loses no entry exactly when every tag of the blob is known: an
unknown one falls through the dispatch and the blob is accepted all the same. -/
theorem nothing_dropped_iff :
    NothingDropped env m blob ↔ ∀ entry ∈ init_entries blob, KnownTag entry.bar := by
  rw [NothingDropped, replay_executes_iff env m hblob hlength, replay_refuses_iff env m hblob hlength,
    and_self_iff]

end every_entry

/-- A write and a poll of the sync status. -/
def write_then_poll : List U8 :=
  [0x01, 0x14, 0x00, 0x00, 0x00, 0x00, 0x04, 0x00, 0x00,
    0xFF, 0xd0, 0x70, 0x00, 0x00, 0x00, 0x00, 0x00, 0x00]

theorem write_then_poll_executed : NothingDropped .idle ⟨mapped_ctx, []⟩ write_then_poll ↔
    ∀ entry ∈ init_entries write_then_poll, KnownTag entry.bar :=
  nothing_dropped_iff .idle ⟨mapped_ctx, []⟩ (by decide) (by decide)

/-- One entry for BAR 3, which the card does not have. -/
def bar_3_entry : List U8 := [0x03, 0x14, 0x00, 0x00, 0x00, 0x00, 0x04, 0x00, 0x00]

/-- It is accepted, and lost. -/
theorem bar_3_entry_dropped :
    bar_3_entry ≠ [] ∧ bar_3_entry.length % 9 = 0 ∧
    (motu424_replay_sequence (some bar_3_entry)).eval .idle ⟨mapped_ctx, []⟩ = 0 ∧
    accesses ((motu424_replay_sequence (some bar_3_entry)).exec .idle ⟨mapped_ctx, []⟩).trace = [] ∧
    ¬ NothingDropped .idle ⟨mapped_ctx, []⟩ bar_3_entry := by
  have hok : (motu424_replay_sequence (some bar_3_entry)).eval .idle ⟨mapped_ctx, []⟩ = 0 := by decide
  have hunknown : ∃ entry ∈ init_entries bar_3_entry, ¬ KnownTag entry.bar := by decide
  exact ⟨by decide, by decide, hok, by decide, fun hkept => hkept.2 hunknown hok⟩

end motu424
