import Motu424.Init.Dispatch

open Program Run

namespace motu424

def Bar.size : Bar → Nat
  | .dsp => MOTU_BAR_DSP_SIZE
  | .reg => MOTU_BAR_REG_SIZE
  | .port => MOTU_BAR_PORT_SIZE

/-- The word at an offset is aligned and lies inside the BAR. -/
def Bar.Fits (bar : Bar) (offset : U32) : Prop :=
  offset.toNat % 4 = 0 ∧ offset.toNat + 4 ≤ bar.size

instance (bar : Bar) (offset : U32) : Decidable (bar.Fits offset) := inferInstanceAs (Decidable (_ ∧ _))

/-- A register access inside its BAR, or no register access. -/
def Event.InBar : Event → Prop
  | .read bar _ offset => bar.Fits offset
  | .write bar _ offset _ => bar.Fits offset
  | _ => True

/-- The BAR that an entry accesses. Polls go to BAR0. -/
def accessed_bar (tag : U8) : Option Bar :=
  if tag = MOTU_INIT_POLL_MARKER then some .dsp else tag_bar tag

/-- The entry accesses a word inside its BAR, or nothing. -/
def EntryFits (entry : motu_init_entry) : Prop :=
  ∀ bar ∈ accessed_bar entry.bar, bar.Fits entry.offset

instance (entry : motu_init_entry) : Decidable (EntryFits entry) :=
  inferInstanceAs (Decidable (∀ _ ∈ accessed_bar _, _))

/-- The replay of an accepted blob stays inside the BARs, and a blob with an entry
that does not is refused. -/
def ReplayStaysInside (env : Env) (m : Machine) (blob : List U8) : Prop :=
  ((motu424_replay_sequence (some blob)).eval env m = 0 →
    ∀ e ∈ ((motu424_replay_sequence (some blob)).exec env m).since m, e.InBar) ∧
  ((∃ entry ∈ init_entries blob, ¬ EntryFits entry) →
    (motu424_replay_sequence (some blob)).eval env m ≠ 0)

theorem in_bar_of_quiet {quiet : List Event} (hquiet : accesses quiet = []) : ∀ e ∈ quiet, e.InBar := by
  intro e he
  have hnone := List.filter_eq_nil_iff.mp hquiet e he
  cases e with
  | read bar base offset => exact absurd rfl hnone
  | write bar base offset value => exact absurd rfl hnone
  | _ => trivial

/-- A poll reads nothing but its word. -/
theorem poll_in_bar {env : Env} {offset : U32} (hfits : Bar.dsp.Fits offset) (expected : U32)
    (timeout_ms : Int) :
    Emits env (fun _ => True) Event.InBar (motu424_poll_reg PAL_BAR_DSP offset expected timeout_ms) := by
  apply motu424_poll_reg_emits
  · intro c _
    rw [motu_read, if_pos rfl]
    exact Emits.pal_read32 hfits
  · trivial
  · exact fun _ _ _ => trivial

/-- A round for an entry that fits stays inside the BARs. -/
theorem ReplayRound.in_bar {env : Env} {c : motu424_ctx} {entry : motu_init_entry} {s t : Machine}
    (hround : ReplayRound env c entry s t) (hfits : EntryFits entry) :
    ∃ new, t.trace = s.trace ++ new ∧ ∀ e ∈ new, e.InBar := by
  by_cases htag : KnownTag entry.bar
  · rcases hround.executed htag with ⟨event, quiet, hevent, hquiet, rfl⟩ | ⟨hpoll, rfl⟩
    · obtain ⟨bar, hbar, rfl⟩ := Option.map_eq_some_iff.mp hevent
      have hin : bar.Fits entry.offset := by
        apply hfits bar
        rw [accessed_bar, hbar]
        split_ifs with hpoll
        · rw [hpoll, tag_bar_poll_marker] at hbar
          cases hbar
        · rfl
      exact ⟨_, rfl, List.forall_mem_cons.mpr ⟨hin, in_bar_of_quiet hquiet⟩⟩
    · have hin : Bar.dsp.Fits entry.offset := by
        apply hfits .dsp
        rw [accessed_bar, if_pos hpoll]
        rfl
      exact (Emits.spec (poll_in_bar hin _ _) s trivial).2
  · obtain ⟨quiet, hquiet, rfl⟩ := hround.dropped htag
    exact ⟨quiet, rfl, in_bar_of_quiet hquiet⟩

/-- The rounds together do, when every entry fits. -/
theorem rounds_in_bar {env : Env} {c : motu424_ctx} {entries : List motu_init_entry} {s t : Machine}
    (horder : InOrder (ReplayRound env c) entries s t) (hfits : ∀ entry ∈ entries, EntryFits entry) :
    ∃ new, t.trace = s.trace ++ new ∧ ∀ e ∈ new, e.InBar := by
  induction horder with
  | nil s => exact ⟨[], by simp⟩
  | cons first rest ih =>
    obtain ⟨new, hnew, hin⟩ := first.in_bar (hfits _ (by simp))
    obtain ⟨more, hmore, hrest⟩ := ih fun entry hentry => hfits entry (by simp [hentry])
    refine ⟨new ++ more, by rw [hmore, hnew, List.append_assoc], ?_⟩
    exact List.forall_mem_append.mpr ⟨hin, hrest⟩

/-- An accepted blob whose entries all fit is replayed inside the BARs. -/
theorem replay_in_bar (env : Env) (m : Machine) {blob : List U8} (hblob : blob ≠ [])
    (hlength : blob.length % 9 = 0) (hfits : ∀ entry ∈ init_entries blob, EntryFits entry) :
    ∀ e ∈ ((motu424_replay_sequence (some blob)).exec env m).since m, e.InBar := by
  obtain ⟨done, horder, hexec⟩ := replays_in_order env m hblob hlength
  obtain ⟨new, hnew, hin⟩ := rounds_in_bar horder hfits
  have htrace : ((motu424_replay_sequence (some blob)).exec env m).trace = m.trace ++
      (replay_log "Replaying %zu register writes\n" blob :: new ++
        [replay_log "Init sequence replay complete (%zu writes)\n" blob]) := by
    rw [hexec, Machine.emit_trace, hnew, replay_start, Machine.emit_trace]
    simp only [List.append_assoc, List.cons_append, List.nil_append]
  rw [since_of_trace htrace]
  have hlogs : ∀ fmt, (replay_log fmt blob).InBar := fun _ => trivial
  exact List.forall_mem_append.mpr ⟨List.forall_mem_cons.mpr ⟨hlogs _, hin⟩,
    List.forall_mem_singleton.mpr (hlogs _)⟩

/-- Offsets are never looked at: the replay keeps to the BARs exactly for a blob
that is refused for its length, or whose entries all fit. -/
theorem replay_stays_inside_iff (env : Env) (m : Machine) (blob : List U8) :
    ReplayStaysInside env m blob ↔
      (blob.length = 0 ∨ blob.length % 9 ≠ 0) ∨ ∀ entry ∈ init_entries blob, EntryFits entry := by
  by_cases hrefused : blob.length = 0 ∨ blob.length % 9 ≠ 0
  · obtain ⟨heval, _⟩ := motu424_replay_sequence_refuses env m hrefused
    rw [ReplayStaysInside, heval]
    exact iff_of_true ⟨fun hok => absurd hok (by decide), fun _ => by decide⟩ (.inl hrefused)
  · obtain ⟨hblob, hlength⟩ := blob_of_not_refused hrefused
    have hok := (motu424_replay_sequence_accepts env m hblob hlength).1
    constructor
    · rintro ⟨_, hrefuses⟩
      right
      intro entry hentry
      by_contra hout
      exact hrefuses ⟨entry, hentry, hout⟩ hok
    · intro hcond
      have hfits := hcond.resolve_left hrefused
      refine ⟨fun _ => replay_in_bar env m hblob hlength hfits, ?_⟩
      rintro ⟨entry, hentry, hout⟩
      exact absurd (hfits entry hentry) hout

/-- One write to BAR2 behind its sixteen bytes. -/
def port_overrun_entry : List U8 := [0x02, 0x10, 0x00, 0x00, 0x00, 0x01, 0x00, 0x00, 0x00]

/-- It is accepted and written there. -/
theorem port_overrun_written :
    (motu424_replay_sequence (some port_overrun_entry)).eval .idle ⟨mapped_ctx, []⟩ = 0 ∧
    .write .port (some 0x3000) 0x10 0x1 ∈
      ((motu424_replay_sequence (some port_overrun_entry)).exec .idle ⟨mapped_ctx, []⟩).trace ∧
    ¬ ReplayStaysInside .idle ⟨mapped_ctx, []⟩ port_overrun_entry := by
  have hok : (motu424_replay_sequence (some port_overrun_entry)).eval .idle ⟨mapped_ctx, []⟩ = 0 := by
    decide
  have hout : ∃ entry ∈ init_entries port_overrun_entry, ¬ EntryFits entry := by decide
  exact ⟨hok, by decide, fun hinside => hinside.2 hout hok⟩

end motu424
