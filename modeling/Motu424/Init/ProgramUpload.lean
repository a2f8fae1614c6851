import Motu424.Init.Dispatch
import Motu424.Init.Translate

open Program Run

namespace motu424

/-- The part of BAR0 that holds the program of the DSP. -/
def DSP_PROGRAM_SIZE : Nat := 0x6000

/-- An entry that writes a word of the DSP program. -/
def IsProgramWord (entry : motu_init_entry) : Prop :=
  entry.bar = PAL_BAR_DSP ∧ entry.offset.toNat < DSP_PROGRAM_SIZE

instance (entry : motu_init_entry) : Decidable (IsProgramWord entry) := inferInstanceAs (Decidable (_ ∧ _))

/-- For a word of the DSP program, the one register access is the write of
`word entry.value`. -/
def WritesProgramWord (c : motu424_ctx) (word : U32 → U32) (entry : motu_init_entry) (s t : Machine) :
    Prop :=
  IsProgramWord entry → ∃ quiet, accesses quiet = [] ∧
    t = s.emit (.write .dsp c.iobase_dsp.addr entry.offset (word entry.value) :: quiet)

/-- The replay of a blob uploads the words of the DSP program in the order of its
entries, each changed as `word` says. -/
def UploadsProgram (env : Env) (m : Machine) (blob : List U8) (word : U32 → U32) : Prop :=
  ReplaysInOrder env m blob (WritesProgramWord m.ctx word)

/-- A value as it stands, or relocated when it matches one of the patterns of Windows
DMA addresses. -/
def uploaded_word (c : motu424_ctx) (val : U32) : U32 :=
  if MagicAddress val then motu424_translate_dma c val else val

/-- A blob that the replay engine accepts consists of entries. -/
theorem accepted_blob {env : Env} {m : Machine} {blob : List U8}
    (hok : (motu424_replay_sequence (some blob)).eval env m = 0) : blob ≠ [] ∧ blob.length % 9 = 0 := by
  apply blob_of_not_refused
  intro hbad
  rw [(motu424_replay_sequence_refuses env m hbad).1] at hok
  exact absurd hok (by decide)

/-- Only the patterns of Windows DMA addresses are translated. -/
theorem translate_of_not_magic (c : motu424_ctx) {val : U32} (hval : ¬ MagicAddress val) :
    motu424_translate_dma c val = val := by
  rw [MagicAddress, not_or, not_or, not_or, not_or] at hval
  obtain ⟨h1, h2, h3, h4, h5⟩ := hval
  rw [motu424_translate_dma]
  simp only [if_neg h1, if_neg h2, if_neg h3, if_neg h4, if_neg h5, ite_self]

/-- A program word is written like any other entry. -/
theorem ReplayRound.writes_program_word {env : Env} {c : motu424_ctx} {entry : motu_init_entry}
    {s t : Machine} (hround : ReplayRound env c entry s t) :
    WritesProgramWord c (motu424_translate_dma c) entry s t := by
  rintro ⟨hbar, _⟩
  have htag : KnownTag entry.bar := by
    rw [hbar]
    decide
  rcases hround.executed htag with ⟨event, quiet, hevent, hquiet, rfl⟩ | ⟨hpoll, _⟩
  · refine ⟨quiet, hquiet, ?_⟩
    rw [entry_write, hbar] at hevent
    cases hevent
    rfl
  · rw [hbar] at hpoll
    exact absurd hpoll (by decide)

/-- Program words are uploaded as they stand in the blob, except for values that match
a pattern: translation goes by the value, not by where it is written. -/
theorem program_words_uploaded (env : Env) (m : Machine) {blob : List U8}
    (hok : (motu424_replay_sequence (some blob)).eval env m = 0) :
    UploadsProgram env m blob (uploaded_word m.ctx) := by
  obtain ⟨hblob, hlength⟩ := accepted_blob hok
  apply (replays_in_order env m hblob hlength).mono
  intro entry _ s t hround hprogram
  obtain ⟨quiet, hquiet, hwrite⟩ := hround.writes_program_word hprogram
  refine ⟨quiet, hquiet, ?_⟩
  by_cases hmagic : MagicAddress entry.value
  · rw [hwrite, uploaded_word, if_pos hmagic]
  · rw [hwrite, uploaded_word, if_neg hmagic, translate_of_not_magic m.ctx hmagic]

/-- The machine of a driver with the 4 MB buffer of the idle outside. -/
def buffer_machine : Machine :=
  ⟨{ mapped_ctx with dma_buf := some 0x10000, dma_addr := 0x1000000, dma_size := MOTU_DMA_BUF_MAX }, []⟩

/-- The program word before the one at 0x259c in the golden sequence. -/
def plain_program_word : List U8 := [0x00, 0x98, 0x25, 0x00, 0x00, 0x58, 0x0a, 0x0c, 0x02]

theorem plain_program_word_uploaded :
    UploadsProgram .idle buffer_machine plain_program_word (uploaded_word buffer_machine.ctx) :=
  program_words_uploaded .idle buffer_machine (by decide)

/-- The program word at 0x259c with the value 0x109149b0, which lies in the first
window. -/
def magic_program_word : List U8 := [0x00, 0x9c, 0x25, 0x00, 0x00, 0xb0, 0x49, 0x91, 0x10]

/-- It is not uploaded as it stands, but as an address in the buffer. -/
theorem magic_program_word_relocated :
    (motu424_replay_sequence (some magic_program_word)).eval .idle buffer_machine = 0 ∧
    buffer_machine.ctx.dma_buf ≠ none ∧
    accesses ((motu424_replay_sequence (some magic_program_word)).exec .idle buffer_machine).trace =
      [.write .dsp (some 0x1000) 0x259c 0x010009b0] ∧
    ¬ UploadsProgram .idle buffer_machine magic_program_word id := by
  refine ⟨by decide, by decide, by decide, ?_⟩
  rintro ⟨done, horder, hexec⟩
  have hentries : init_entries magic_program_word = [⟨PAL_BAR_DSP, 0x259c, 0x109149b0⟩] := by decide
  rw [hentries, inOrder_cons_iff] at horder
  obtain ⟨t, hfirst, hrest⟩ := horder
  obtain ⟨quiet, _, rfl⟩ := hfirst (by decide)
  cases hrest
  have hwritten : .write .dsp (some 0x1000) 0x259c 0x109149b0 ∈
      ((motu424_replay_sequence (some magic_program_word)).exec .idle buffer_machine).trace := by
    rw [hexec]
    simp [buffer_machine, mapped_ctx, motu424_ctx.fresh]
  exact absurd hwritten (by decide)

end motu424
