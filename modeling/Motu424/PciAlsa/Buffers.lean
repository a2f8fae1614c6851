import Motu424.PciAlsa
import Motu424.Foundation.Confined
import Motu424.Foundation.Ledger

open Program Run Ledger

namespace motu424.pci_alsa

/-- A DMA buffer: where it is, its bus address and its size. -/
abbrev DmaBuf := Nat × U64 × U64

/-- What an event enters in the book of DMA buffers. -/
def PciEvent.entry : PciEvent → Option (Entry DmaBuf)
  | .dma_alloc_coherent size (some (vaddr, dma)) => some (.take (vaddr, dma, size))
  | .dma_free_coherent size vaddr dma => some (.give (vaddr, dma, size))
  | _ => none

/-- The book of the DMA buffers. -/
def dma_book (history : List PciEvent) : List (Entry DmaBuf) := history.filterMap PciEvent.entry

/-- What an event makes of the area of the stream and of its bytes. -/
def PciEvent.area (area : Option (Nat × Nat)) : PciEvent → Option (Nat × Nat)
  | .new_runtime => none
  | .free_pages => none
  | .malloc_pages _ (.error _) => none
  | .malloc_pages size (.ok vaddr) => some (vaddr, size)
  | _ => area

/-- The area of the stream after what was done. -/
def area_of (history : List PciEvent) : Option (Nat × Nat) := history.foldl PciEvent.area none

/-- After what was done before, the words and bytes that the event touches lie in
memory that the driver has. -/
def PciEvent.InLive (before : List PciEvent) : PciEvent → Prop
  | .store vaddr index _ =>
    ∃ dma size, 0 < held (dma_book before) (vaddr, dma, size) ∧ 4 * (index + 1) ≤ size.toNat
  | .memset vaddr _ size => ∃ dma, 0 < held (dma_book before) (vaddr, dma, size)
  | .load vaddr index => ∃ size, area_of before = some (vaddr, size) ∧ 4 * (index + 1) ≤ size
  | _ => True

/-- The DMA buffer that the driver believes it has. -/
def PciDriver.owned (d : PciDriver) : List DmaBuf :=
  match d.motu.shadow_buf with
  | none => []
  | some buf => [(buf, d.motu.shadow_buf_dma, d.motu.shadow_buf_size)]

/-- The event takes or gives no memory, and touches only what the driver believes
it has. -/
def PciEvent.Within (d : PciDriver) : PciEvent → Prop
  | .store vaddr index _ => d.motu.shadow_buf = some vaddr ∧ 4 * (index + 1) ≤ d.motu.shadow_buf_size.toNat
  | .load vaddr index => d.runtime.dma_area = some vaddr ∧ 4 * (index + 1) ≤ d.dma_bytes
  | .memset vaddr _ size => d.motu.shadow_buf = some vaddr ∧ size = d.motu.shadow_buf_size
  | .new_runtime => False
  | .malloc_pages _ _ => False
  | .free_pages => False
  | .dma_alloc_coherent _ _ => False
  | .dma_free_coherent _ _ _ => False
  | _ => True

/-- What the driver believes of its memory. -/
structure PciDriver.SameMemory (d d' : PciDriver) : Prop where
  buf : d'.motu.shadow_buf = d.motu.shadow_buf
  dma : d'.motu.shadow_buf_dma = d.motu.shadow_buf_dma
  size : d'.motu.shadow_buf_size = d.motu.shadow_buf_size
  runtime : d'.runtime = d.runtime
  bytes : d'.dma_bytes = d.dma_bytes

/-- The driver believes what its history says, and touched no other memory. -/
structure Accounts (d : PciDriver) : Prop where
  balance : Balance (dma_book d.history) d.owned
  area : area_of d.history = d.runtime.dma_area.map (·, d.dma_bytes)
  inside : Throughout PciEvent.InLive d.history

/-- A driver that has a DMA buffer has room in it for the frames of the runtime,
and the area of the stream holds them too. -/
structure Sound (d : PciDriver) : Prop extends Accounts d where
  room : d.motu.shadow_buf ≠ none → 392 * d.runtime.buffer_size.toNat ≤ d.motu.shadow_buf_size.toNat
  area_room : d.motu.shadow_buf ≠ none → d.runtime.dma_area ≠ none →
    8 * d.runtime.buffer_size.toNat ≤ d.dma_bytes

section book

variable (xs ys : List PciEvent)

theorem dma_book_append : dma_book (xs ++ ys) = dma_book xs ++ dma_book ys := List.filterMap_append

theorem area_of_concat (e : PciEvent) : area_of (xs ++ [e]) = e.area (area_of xs) := by
  rw [area_of, List.foldl_append]
  rfl

variable {xs ys} {d : PciDriver}

theorem PciEvent.Within.entry_eq {e : PciEvent} (he : e.Within d) : e.entry = none := by
  cases e with
  | dma_alloc_coherent => exact he.elim
  | dma_free_coherent => exact he.elim
  | _ => rfl

theorem PciEvent.Within.area_eq {e : PciEvent} (he : e.Within d) (area : Option (Nat × Nat)) : e.area area = area := by
  cases e with
  | new_runtime => exact he.elim
  | malloc_pages => exact he.elim
  | free_pages => exact he.elim
  | _ => rfl

/-- Working within the memory changes nothing in the books. -/
theorem dma_book_within (hys : ∀ e ∈ ys, e.Within d) : dma_book (xs ++ ys) = dma_book xs := by
  have hnone : dma_book ys = [] := List.filterMap_eq_nil_iff.mpr fun e he => (hys e he).entry_eq
  rw [dma_book_append, hnone, List.append_nil]

theorem area_of_within (hys : ∀ e ∈ ys, e.Within d) : area_of (xs ++ ys) = area_of xs := by
  induction ys using List.reverseRecOn with
  | nil => rw [List.append_nil]
  | append_singleton ys e ih =>
    rw [← List.append_assoc, area_of_concat, (hys e (by simp)).area_eq]
    exact ih fun e' he' => hys e' (List.mem_append_left _ he')

end book

section accounts

variable {d d' : PciDriver}

/-- What the driver believes it has is what its books say. -/
theorem Accounts.inLive (haccounts : Accounts d) {e : PciEvent} (he : e.Within d) : e.InLive d.history := by
  have hheld {vaddr : Nat} (hbuf : d.motu.shadow_buf = some vaddr) :
      0 < held (dma_book d.history) (vaddr, d.motu.shadow_buf_dma, d.motu.shadow_buf_size) := by
    apply haccounts.balance.held_pos
    rw [PciDriver.owned, hbuf]
    exact List.mem_singleton_self _
  cases e with
  | store vaddr index value => exact ⟨_, _, hheld he.1, he.2⟩
  | load vaddr index =>
    refine ⟨_, ?_, he.2⟩
    rw [haccounts.area, he.1]
    rfl
  | memset vaddr byte size =>
    refine ⟨d.motu.shadow_buf_dma, ?_⟩
    rw [he.2]
    exact hheld he.1
  | _ => exact trivial

theorem PciDriver.SameMemory.owned_eq (hsame : d.SameMemory d') : d'.owned = d.owned := by
  rw [PciDriver.owned, PciDriver.owned, hsame.buf, hsame.dma, hsame.size]

/-- Work within the memory keeps the accounts. -/
theorem Accounts.within (haccounts : Accounts d) (hsame : d.SameMemory d') {new : List PciEvent}
    (hnew : d'.history = d.history ++ new) (hwithin : ∀ e ∈ new, e.Within d) : Accounts d' where
  balance := by
    rw [hnew, dma_book_within hwithin, hsame.owned_eq]
    exact haccounts.balance
  area := by
    rw [hnew, area_of_within hwithin, hsame.runtime, hsame.bytes]
    exact haccounts.area
  inside := by
    rw [hnew]
    clear hnew
    induction new using List.reverseRecOn with
    | nil =>
      rw [List.append_nil]
      exact haccounts.inside
    | append_singleton new e ih =>
      have hbefore : ∀ e' ∈ new, e'.Within d := fun e' he' => hwithin e' (List.mem_append_left _ he')
      rw [← List.append_assoc, throughout_append_singleton]
      refine ⟨ih hbefore, ?_⟩
      have hlive := haccounts.inLive (hwithin e (by simp))
      cases e with
      | store vaddr index value => simpa only [PciEvent.InLive, dma_book_within hbefore] using hlive
      | memset vaddr byte size => simpa only [PciEvent.InLive, dma_book_within hbefore] using hlive
      | load vaddr index => simpa only [PciEvent.InLive, area_of_within hbefore] using hlive
      | _ => exact trivial

theorem Sound.within (hsound : Sound d) (hsame : d.SameMemory d') {new : List PciEvent}
    (hnew : d'.history = d.history ++ new) (hwithin : ∀ e ∈ new, e.Within d) : Sound d' where
  toAccounts := hsound.toAccounts.within hsame hnew hwithin
  room := by
    rw [hsame.buf, hsame.runtime, hsame.size]
    exact hsound.room
  area_room := by
    rw [hsame.buf, hsame.runtime, hsame.bytes]
    exact hsound.area_room

end accounts

section works

variable {α : Type} {env : PciEnv} {d d' : PciDriver}

theorem PciDriver.SameMemory.refl (d : PciDriver) : d.SameMemory d := ⟨rfl, rfl, rfl, rfl, rfl⟩

theorem PciDriver.SameMemory.trans {d'' : PciDriver} (hfirst : d.SameMemory d') (hsecond : d'.SameMemory d'') :
    d.SameMemory d'' where
  buf := hsecond.buf.trans hfirst.buf
  dma := hsecond.dma.trans hfirst.dma
  size := hsecond.size.trans hfirst.size
  runtime := hsecond.runtime.trans hfirst.runtime
  bytes := hsecond.bytes.trans hfirst.bytes

theorem PciDriver.SameMemory.within_iff (hsame : d.SameMemory d') (e : PciEvent) : e.Within d' ↔ e.Within d := by
  cases e <;> simp only [PciEvent.Within, hsame.buf, hsame.size, hsame.runtime, hsame.bytes]

/-- Work within the memory that the driver has. -/
def memory : Confinement PciDriver PciEvent where
  history := PciDriver.history
  same := PciDriver.SameMemory
  allowed := PciEvent.Within
  refl := PciDriver.SameMemory.refl
  trans := PciDriver.SameMemory.trans
  allowed_iff := PciDriver.SameMemory.within_iff

/-- Started in a state, the program works within the memory of the driver. -/
abbrev Works (env : PciEnv) (d : PciDriver) (p : PciAlsa α) : Prop := Confined memory env d p

theorem Works.perform {e : PciEvent} (he : e.Within d) : Works env d (perform e) :=
  Confined.update_event ⟨rfl, rfl, rfl, rfl, rfl⟩ rfl he

/-- The event touches no memory. -/
def PciEvent.Plain : PciEvent → Prop
  | .ioread32 _ => True
  | .iowrite32 _ _ => True
  | .spin_lock => True
  | .spin_unlock => True
  | .mod_timer _ => True
  | .timer_delete_sync _ => True
  | .period_elapsed _ _ => True
  | .dev_info _ _ => True
  | _ => False

/-- Work that touches no memory. -/
def registers : Confinement PciDriver PciEvent where
  history := PciDriver.history
  same := PciDriver.SameMemory
  allowed := fun _ e => e.Plain
  refl := PciDriver.SameMemory.refl
  trans := PciDriver.SameMemory.trans
  allowed_iff := fun _ _ => Iff.rfl

abbrev Plain (env : PciEnv) (d : PciDriver) (p : PciAlsa α) : Prop := Confined registers env d p

theorem Plain.works {p : PciAlsa α} (hp : Plain env d p) : Works env d p := by
  refine Confined.mono hp id rfl fun e he => ?_
  cases e with
  | ioread32 | iowrite32 | spin_lock | spin_unlock => exact trivial
  | mod_timer | timer_delete_sync | period_elapsed | dev_info => exact trivial
  | _ => exact he.elim

theorem Plain.perform {e : PciEvent} (he : e.Plain) : Plain env d (perform e) :=
  Confined.update_event ⟨rfl, rfl, rfl, rfl, rfl⟩ rfl he

theorem Plain.ioread32 (offset : U32) : Plain env d (ioread32 offset) :=
  Confined.bind (Confined.asks _) fun _ _ _ => Confined.bind (Plain.perform trivial) fun _ _ _ => Confined.pure _

theorem Plain.iowrite32 (value offset : U32) : Plain env d (iowrite32 value offset) := Plain.perform trivial

theorem Plain.mod_timer (msecs : Nat) : Plain env d (mod_timer msecs) :=
  Confined.bind (Plain.perform trivial) fun _ _ _ => Confined.update ⟨rfl, rfl, rfl, rfl, rfl⟩ rfl

theorem Plain.timer_delete_sync : Plain env d timer_delete_sync :=
  Confined.bind (Confined.asks _) fun _ _ _ => Confined.bind (Plain.perform trivial) fun _ _ _ =>
    Confined.bind (Confined.update ⟨rfl, rfl, rfl, rfl, rfl⟩ rfl) fun _ _ _ => Confined.pure _

theorem Accounts.works (haccounts : Accounts d) {p : PciAlsa α} (hp : Works env d p) : Accounts (p.exec env d) := by
  obtain ⟨hsame, _, hnew, hwithin⟩ := hp
  exact haccounts.within hsame hnew hwithin

theorem Sound.works (hsound : Sound d) {p : PciAlsa α} (hp : Works env d p) : Sound (p.exec env d) := by
  obtain ⟨hsame, _, hnew, hwithin⟩ := hp
  exact hsound.within hsame hnew hwithin

end works

section callbacks

variable {env : PciEnv} {d : PciDriver}

theorem snd_motu_close_plain : Plain env d snd_motu_close :=
  Confined.bind (Confined.update ⟨rfl, rfl, rfl, rfl, rfl⟩ rfl) fun _ _ _ => Confined.pure _

theorem snd_motu_pointer_plain : Plain env d snd_motu_pointer := by
  refine Confined.bind_gets (Confined.bind_gets (Confined.ite (fun _ => ?_) fun _ => Confined.pure _))
  exact Confined.bind (Confined.asks _) fun _ _ _ => Confined.pure _

theorem snd_motu_trigger_plain (cmd : snd_pcm_trigger) : Plain env d (snd_motu_trigger cmd) := by
  refine Confined.bind (Plain.perform trivial) fun _ d _ => ?_
  cases cmd with
  | start =>
    refine Confined.bind (Plain.ioread32 _) fun _ d _ => Confined.bind (Plain.iowrite32 _ _) fun _ d _ => ?_
    refine Confined.bind (Confined.asks _) fun _ d _ => ?_
    refine Confined.bind (Confined.update ⟨rfl, rfl, rfl, rfl, rfl⟩ rfl) fun _ d _ => ?_
    refine Confined.bind (Plain.mod_timer _) fun _ _ _ => ?_
    exact Confined.bind (Plain.perform trivial) fun _ _ _ => Confined.pure _
  | stop =>
    refine Confined.bind (Plain.ioread32 _) fun _ d _ => Confined.bind (Plain.iowrite32 _ _) fun _ d _ => ?_
    refine Confined.bind (Confined.update ⟨rfl, rfl, rfl, rfl, rfl⟩ rfl) fun _ d _ => ?_
    refine Confined.bind Plain.timer_delete_sync fun ends _ _ => Confined.ite (fun _ => ?_) fun _ => Confined.pure _
    exact Confined.bind (Plain.perform trivial) fun _ _ _ => Confined.pure _
  | _ => exact Confined.bind (Plain.perform trivial) fun _ _ _ => Confined.pure _

theorem snd_pcm_period_elapsed_plain (substream : Nat) : Plain env d (snd_pcm_period_elapsed substream) := by
  refine Confined.bind (Confined.asks _) fun answer d _ => Confined.bind (Plain.perform trivial) fun _ d _ => ?_
  cases answer with
  | unheard => exact Confined.pure _
  | updated => exact Confined.bind snd_motu_pointer_plain fun _ _ _ => Confined.pure _
  | stopped =>
    exact Confined.bind snd_motu_pointer_plain fun _ _ _ => Confined.bind (snd_motu_trigger_plain _) fun _ _ _ =>
      Confined.pure _

theorem log_tick_plain : Plain env d log_tick :=
  Confined.bind (Plain.ioread32 _) fun _ _ _ => Confined.bind (Plain.ioread32 _) fun _ _ _ =>
    Confined.bind (Plain.ioread32 _) fun _ _ _ => Confined.bind (Plain.ioread32 _) fun _ _ _ => Plain.perform trivial

theorem expire_plain : Plain env d expire := by
  refine Confined.bind (Confined.gets _) fun _ d _ => Confined.when fun _ => ?_
  refine Confined.bind (Confined.update ⟨rfl, rfl, rfl, rfl, rfl⟩ rfl) fun _ d _ => Confined.bind_gets ?_
  cases d.motu.playback_substream with
  | none => exact Confined.pure _
  | some substream =>
    refine Confined.when fun _ => Confined.bind (Confined.gets _) fun _ d _ => ?_
    refine Confined.bind (Confined.update ⟨rfl, rfl, rfl, rfl, rfl⟩ rfl) fun _ d _ => ?_
    refine Confined.bind (Confined.when fun _ => log_tick_plain) fun _ d _ => ?_
    exact Confined.bind (snd_pcm_period_elapsed_plain _) fun _ _ _ => Confined.when fun _ => Plain.mod_timer _

theorem snd_motu_interrupt_plain : Plain env d snd_motu_interrupt := by
  refine Confined.bind (Plain.ioread32 _) fun _ d _ => Confined.ite (fun _ => Confined.pure _) fun _ => ?_
  refine Confined.bind (Plain.perform trivial) fun _ d _ => Confined.bind (Plain.iowrite32 _ _) fun _ d _ => ?_
  refine Confined.bind_gets ?_
  cases d.motu.playback_substream with
  | none => exact Confined.pure (some irqreturn_t.irq_handled)
  | some substream =>
    refine Confined.ite (fun _ => ?_) fun _ => Confined.pure _
    exact Confined.bind (snd_pcm_period_elapsed_plain _) fun _ _ _ => Confined.pure _

theorem prepare_frame_works {buf frame_idx : Nat} (hbuf : d.motu.shadow_buf = some buf)
    (hroom : 392 * (frame_idx + 1) ≤ d.motu.shadow_buf_size.toNat) : Works env d (prepare_frame buf frame_idx) := by
  have hstore {ch : Nat} (hch : ch < 98) (value : U32) {d' : PciDriver} (hsame : d.SameMemory d') :
      Works env d' (perform (.store buf (frame_idx * 98 + ch) value)) :=
    Works.perform ⟨hsame.buf.trans hbuf, by rw [hsame.size]; omega⟩
  refine Confined.bind (hstore (by omega) _ (.refl d)) fun _ d₁ h₁ => ?_
  refine Confined.bind (hstore (by omega) _ h₁) fun _ d₂ h₂ => Confined.forEach fun ch hch d' hsame => ?_
  have hbound := List.mem_range'_1.mp hch
  exact hstore (by omega) _ ((h₁.trans h₂).trans hsame)

theorem snd_motu_prepare_works (hsound : Sound d) : Works env d snd_motu_prepare := by
  refine Confined.bind_gets (Confined.bind_gets ?_)
  have hregisters (d' : PciDriver) : Plain env d' (do
      iowrite32 0 0x10
      iowrite32 (d.runtime.period_size.truncate 32 * 392) 0x14
      if d.motu.sg_table ≠ none then iowrite32 (d.motu.sg_table_dma.truncate 32) MOTU_REG_DMA_BASE
      else iowrite32 0 MOTU_REG_DMA_BASE
      pure (0 : Int)) := by
    refine Confined.bind (Plain.iowrite32 _ _) fun _ _ _ => Confined.bind (Plain.iowrite32 _ _) fun _ _ _ => ?_
    refine Confined.ite (fun _ => ?_) fun _ => ?_
    · exact Confined.bind (Plain.iowrite32 _ _) fun _ _ _ => Confined.pure _
    · exact Confined.bind (Plain.iowrite32 _ _) fun _ _ _ => Confined.pure _
  cases hbuf : d.motu.shadow_buf with
  | none => exact (hregisters d).works
  | some buf =>
    have hroom := hsound.room (by rw [hbuf]; exact Option.some_ne_none buf)
    refine Confined.bind (Confined.forEach fun i hi d' hsame => ?_) fun _ d' _ => (hregisters d').works
    have hlt := List.mem_range.mp hi
    exact prepare_frame_works (hsame.buf.trans hbuf) (by rw [hsame.size]; omega)

theorem ack_frame_works {area buf i : Nat} (hbuf : d.motu.shadow_buf = some buf)
    (harea : d.runtime.dma_area = some area) (hroom : 392 * (i + 1) ≤ d.motu.shadow_buf_size.toNat)
    (hbytes : 8 * (i + 1) ≤ d.dma_bytes) : Works env d (ack_frame area buf i) := by
  have hload {ch : Nat} (hch : ch < 2) {d' : PciDriver} (hsame : d.SameMemory d') :
      Works env d' (perform (.load area (i * 2 + ch))) :=
    Works.perform ⟨by rw [hsame.runtime]; exact harea, by rw [hsame.bytes]; omega⟩
  have hstore {ch : Nat} (hch : ch < 98) (value : U32) {d' : PciDriver} (hsame : d.SameMemory d') :
      Works env d' (perform (.store buf (i * 98 + ch) value)) :=
    Works.perform ⟨hsame.buf.trans hbuf, by rw [hsame.size]; omega⟩
  refine Confined.bind (Confined.asks _) fun _ d₁ h₁ => Confined.bind (hload (by omega) h₁) fun _ d₂ h₂ => ?_
  have h := h₁.trans h₂
  refine Confined.bind (Confined.asks _) fun _ d₃ h₃ => Confined.bind (hload (by omega) (h.trans h₃)) fun _ d₄ h₄ => ?_
  refine Confined.bind (hstore (by omega) _ ((h.trans h₃).trans h₄)) fun _ d₅ h₅ => ?_
  exact hstore (by omega) _ (((h.trans h₃).trans h₄).trans h₅)

theorem snd_motu_ack_works (hsound : Sound d) : Works env d snd_motu_ack := by
  refine Confined.bind_gets (Confined.bind_gets ?_)
  cases hbuf : d.motu.shadow_buf with
  | none => exact Confined.pure _
  | some buf =>
    cases harea : d.runtime.dma_area with
    | none => exact Confined.pure _
    | some area =>
      have hbuf' : d.motu.shadow_buf ≠ none := by rw [hbuf]; exact Option.some_ne_none buf
      have hroom := hsound.room hbuf'
      have hbytes := hsound.area_room hbuf' (by rw [harea]; exact Option.some_ne_none area)
      refine Confined.bind (Confined.forEach fun i hi d' hsame => ?_) fun _ _ _ => Confined.pure _
      have hlt := List.mem_range.mp hi
      refine ack_frame_works (hsame.buf.trans hbuf) (by rw [hsame.runtime]; exact harea) ?_ ?_
      · rw [hsame.size]
        omega
      · rw [hsame.bytes]
        omega

end callbacks

section memory

variable {env : PciEnv} {d d' : PciDriver}

/-- One more event, and what the driver makes of it. -/
theorem Accounts.concat (haccounts : Accounts d) {e : PciEvent} (hhistory : d'.history = d.history ++ [e])
    (hlive : e.InLive d.history) (hbalance : Balance (dma_book d.history ++ dma_book [e]) d'.owned)
    (harea : e.area (area_of d.history) = d'.runtime.dma_area.map (·, d'.dma_bytes)) : Accounts d' where
  balance := by
    rw [hhistory, dma_book_append]
    exact hbalance
  area := by
    rw [hhistory, area_of_concat]
    exact harea
  inside := by
    rw [hhistory, throughout_append_singleton]
    exact ⟨haccounts.inside, hlive⟩

/-- An event that the book of DMA buffers does not show. -/
theorem Accounts.concat_area (haccounts : Accounts d) {e : PciEvent} (hhistory : d'.history = d.history ++ [e])
    (hlive : e.InLive d.history) (hentry : e.entry = none) (howned : d'.owned = d.owned)
    (harea : e.area (area_of d.history) = d'.runtime.dma_area.map (·, d'.dma_bytes)) : Accounts d' := by
  refine haccounts.concat hhistory hlive ?_ harea
  have hbook : dma_book [e] = [] := List.filterMap_cons_none hentry
  rw [hbook, List.append_nil, howned]
  exact haccounts.balance

/-- After the pages were asked for there are that many bytes, or no area. -/
theorem Accounts.malloc_pages (haccounts : Accounts d) (size : Nat) :
    Ends env d (fun ret d' => Accounts d' ∧ d'.motu = d.motu ∧ d'.runtime = { d.runtime with
        dma_area := d'.runtime.dma_area } ∧
      match ret with
      | .error _ => d'.runtime.dma_area = none
      | .ok () => d'.dma_bytes = size) (snd_pcm_lib_malloc_pages size) := by
  rw [snd_pcm_lib_malloc_pages]
  refine Ends.bind (Ends.bind ?_)
  rw [eval_asks, exec_asks, exec_perform]
  cases env.malloc_pages d.history size with
  | error err =>
    refine Ends.bind (Ends.pure ⟨?_, rfl, rfl, rfl⟩)
    exact haccounts.concat_area rfl trivial rfl rfl rfl
  | ok area =>
    refine Ends.bind (Ends.pure ⟨?_, rfl, rfl, rfl⟩)
    exact haccounts.concat_area rfl trivial rfl rfl rfl

theorem Accounts.free_pages (haccounts : Accounts d) : Accounts (snd_pcm_lib_free_pages.exec env d) :=
  haccounts.concat_area rfl trivial rfl rfl rfl

/-- The driver gives back the buffer that it has. -/
theorem Accounts.dma_free (haccounts : Accounts d) {buf : Nat} (hbuf : d.motu.shadow_buf = some buf)
    (hhistory : d'.history =
      d.history ++ [.dma_free_coherent d.motu.shadow_buf_size buf d.motu.shadow_buf_dma])
    (hnone : d'.motu.shadow_buf = none) (hruntime : d'.runtime = d.runtime) (hbytes : d'.dma_bytes = d.dma_bytes) :
    Accounts d' := by
  refine haccounts.concat hhistory trivial ?_ ?_
  · have howned : d.owned = [(buf, d.motu.shadow_buf_dma, d.motu.shadow_buf_size)] := by rw [PciDriver.owned, hbuf]
    have hgone : d'.owned = [] := by rw [PciDriver.owned, hnone]
    have hbalance := haccounts.balance
    rw [howned] at hbalance
    rw [hgone]
    exact hbalance.give
  · rw [hruntime, hbytes]
    exact haccounts.area

/-- A buffer that is kept is large enough. -/
theorem Accounts.drop_small_buf (haccounts : Accounts d) (hw_bytes : U32) :
    Ends env d (fun _ d' => Accounts d' ∧ d'.runtime = d.runtime ∧ d'.dma_bytes = d.dma_bytes ∧
      (d'.motu.shadow_buf ≠ none → hw_bytes.toNat ≤ d'.motu.shadow_buf_size.toNat)) (drop_small_buf hw_bytes) := by
  rw [pci_alsa.drop_small_buf]
  refine Ends.bind ?_
  rw [eval_get_motu, exec_get_motu]
  cases hbuf : d.motu.shadow_buf with
  | none => exact Ends.pure ⟨haccounts, rfl, rfl, fun hsome => absurd hbuf hsome⟩
  | some buf =>
    refine Ends.ite (fun _ => ?_) fun hlarge => Ends.pure ⟨haccounts, rfl, rfl, fun _ => ?_⟩
    · exact ⟨haccounts.dma_free hbuf rfl rfl rfl rfl, rfl, rfl, fun hsome => absurd rfl hsome⟩
    · rw [BitVec.not_lt, BitVec.le_def, BitVec.toNat_setWidth] at hlarge
      omega

/-- Unless it fails there is a buffer, of the size that was asked for if it is new. -/
theorem Accounts.take_buf (haccounts : Accounts d) {hw_bytes : U32}
    (hlarge : d.motu.shadow_buf ≠ none → hw_bytes.toNat ≤ d.motu.shadow_buf_size.toNat) :
    Ends env d (fun ret d' => Accounts d' ∧ d'.runtime = d.runtime ∧ d'.dma_bytes = d.dma_bytes ∧
      (d'.motu.shadow_buf ≠ none → 0 ≤ ret ∧ hw_bytes.toNat ≤ d'.motu.shadow_buf_size.toNat)) (take_buf hw_bytes) := by
  rw [pci_alsa.take_buf]
  refine Ends.bind ?_
  rw [eval_get_motu, exec_get_motu]
  cases hbuf : d.motu.shadow_buf with
  | some buf =>
    refine Ends.pure ⟨haccounts, rfl, rfl, fun hsome => ⟨Int.le_refl 0, hlarge hsome⟩⟩
  | none =>
    have howned : d.owned = [] := by rw [PciDriver.owned, hbuf]
    have hbalance := haccounts.balance
    rw [howned] at hbalance
    have hsize : (hw_bytes.zeroExtend 64).toNat = hw_bytes.toNat := by
      rw [BitVec.toNat_setWidth]
      omega
    refine Ends.bind (Ends.bind ?_)
    rw [eval_dma_alloc_coherent, exec_dma_alloc_coherent, exec_set_motu]
    cases halloc : env.dma_alloc_coherent d.history (hw_bytes.zeroExtend 64) with
    | none =>
      refine Ends.pure ⟨?_, rfl, rfl, fun hsome => absurd hbuf hsome⟩
      refine haccounts.concat_area rfl trivial rfl ?_ haccounts.area
      rw [howned, PciDriver.owned]
      simp only [PciDriver.emit_motu, hbuf]
    | some result =>
      obtain ⟨buf, dma⟩ := result
      refine Ends.bind (Ends.bind (Ends.pure ⟨?_, rfl, rfl, fun _ => ⟨Int.le_refl 0, Nat.le_of_eq hsize.symm⟩⟩))
      apply Accounts.works
      · exact haccounts.concat rfl trivial (hbalance.take _) haccounts.area
      · exact Works.perform ⟨rfl, rfl⟩

end memory

section runs

variable {env : PciEnv} {d : PciDriver}

theorem admitted_buffer_bytes (params : snd_pcm_hw_params) :
    params_buffer_bytes params = 8 * params.config.buffer_size.toNat ∧ params.config.buffer_size.toNat ≤ 4096 := by
  obtain ⟨hlow, hhigh⟩ := params.admitted.channels
  have hchannels : params.config.channels = 2 := Nat.le_antisymm hhigh hlow
  have hbits : params.config.frame_bits = 64 := by
    rw [snd_pcm_runtime.frame_bits, hchannels]
    cases params.config.format
    rfl
  have hbytes := params.admitted.buffer_bytes
  have hmax : snd_motu_playback_hw.buffer_bytes_max = 32768 := rfl
  rw [frames_to_bytes, hbits, hmax] at hbytes
  rw [params_buffer_bytes, frames_to_bytes, hbits]
  omega

/-- The product does not overflow. -/
theorem hw_bytes_toNat (params : snd_pcm_hw_params) :
    (params_buffer_size params * 392).toNat = 392 * params.config.buffer_size.toNat := by
  obtain ⟨_, hframes⟩ := admitted_buffer_bytes params
  have hfactor : (392 : U32).toNat = 392 := rfl
  rw [params_buffer_size, BitVec.toNat_mul, BitVec.toNat_setWidth, hfactor]
  omega

theorem snd_motu_hw_params_ends (hsound : Sound d) (params : snd_pcm_hw_params) :
    Ends env d (fun ret d' => Accounts d' ∧ (ret < 0 → Sound d') ∧ (d'.motu.shadow_buf ≠ none → 0 ≤ ret →
      392 * params.config.buffer_size.toNat ≤ d'.motu.shadow_buf_size.toNat ∧
      8 * params.config.buffer_size.toNat = d'.dma_bytes)) (snd_motu_hw_params params) := by
  rw [snd_motu_hw_params]
  refine Ends.bind ?_
  obtain ⟨haccounts, hmotu, hruntime, hret⟩ :=
    @Accounts.malloc_pages env d hsound.toAccounts (params_buffer_bytes params)
  generalize (snd_pcm_lib_malloc_pages (params_buffer_bytes params)).eval env d = ret at hret
  generalize (snd_pcm_lib_malloc_pages (params_buffer_bytes params)).exec env d = d₁ at haccounts hmotu hruntime hret
  cases ret with
  | error err =>
    have hnegative := err.negative
    refine Ends.pure ⟨haccounts, fun _ => ⟨haccounts, ?_, fun _ harea => absurd hret harea⟩, fun _ hle => ?_⟩
    · rw [hmotu, hruntime]
      exact hsound.room
    · omega
  | ok _ =>
    refine Ends.bind ?_
    obtain ⟨haccounts₂, hruntime₂, hbytes₂, hlarge⟩ :=
      @Accounts.drop_small_buf env d₁ haccounts (params_buffer_size params * 392)
    obtain ⟨haccounts₃, hruntime₃, hbytes₃, htaken⟩ := @Accounts.take_buf env _ haccounts₂ _ hlarge
    rw [hw_bytes_toNat] at htaken
    refine ⟨haccounts₃, fun hneg => ⟨haccounts₃, fun hsome => ?_, fun hsome => ?_⟩, fun hsome _ => ?_⟩
    · have hpos := (htaken hsome).1
      omega
    · have hpos := (htaken hsome).1
      omega
    · refine ⟨(htaken hsome).2, ?_⟩
      rw [hbytes₃, hbytes₂, hret, (admitted_buffer_bytes params).1]

theorem Sound.core_hw_params (hsound : Sound d) (params : snd_pcm_hw_params) :
    Sound ((core_hw_params params).exec env d) := by
  obtain ⟨haccounts, hfailed, hroom⟩ := @snd_motu_hw_params_ends env d hsound params
  rw [pci_alsa.core_hw_params, exec_bind, exec_bind, exec_when, exec_pure]
  by_cases hret : 0 ≤ (snd_motu_hw_params params).eval env d
  · rw [if_pos hret]
    refine ⟨⟨haccounts.balance, haccounts.area, haccounts.inside⟩, fun hsome => ?_, fun hsome _ => ?_⟩
    · exact (hroom hsome hret).1
    · exact Nat.le_of_eq (hroom hsome hret).2
  · rw [if_neg hret]
    exact hfailed (by omega)

theorem Sound.hw_free (hsound : Sound d) :
    Sound (snd_motu_hw_free.exec env d) ∧ (snd_motu_hw_free.exec env d).motu.shadow_buf = none := by
  rw [snd_motu_hw_free, exec_bind, exec_get_motu, eval_get_motu]
  cases hbuf : d.motu.shadow_buf with
  | none =>
    refine ⟨⟨hsound.toAccounts.free_pages, fun hsome => absurd hbuf hsome, fun hsome => absurd hbuf hsome⟩, hbuf⟩
  | some buf =>
    refine ⟨⟨Accounts.free_pages (hsound.toAccounts.dma_free hbuf rfl rfl rfl rfl), ?_, ?_⟩, rfl⟩
    · exact fun hsome => absurd rfl hsome
    · exact fun hsome => absurd rfl hsome

theorem Sound.core_open (hsound : Sound d) (substream : Nat) : Sound ((core_open substream).exec env d) where
  toAccounts := hsound.toAccounts.concat_area (show _ = _ ++ [PciEvent.new_runtime] from rfl) trivial rfl rfl rfl
  room := fun _ => Nat.zero_le _
  area_room := fun _ _ => Nat.zero_le _

theorem Sound.step (hsound : Sound d) (call : PciCall) : Sound (pci_step env d call) := by
  have hworks {α : Type} {p : PciAlsa α} (hp : Works env d p) : Sound ((p >>= fun _ => pure ()).exec env d) :=
    hsound.works (hp.bind fun _ _ _ => Confined.pure ())
  cases call with
  | pcm_open substream => exact @Sound.core_open env d hsound substream
  | pcm_close => exact hworks snd_motu_close_plain.works
  | hw_params params => exact @Sound.core_hw_params env d hsound params
  | hw_free => exact (@Sound.hw_free env d hsound).1
  | prepare => exact hworks (snd_motu_prepare_works hsound)
  | trigger cmd => exact hworks (snd_motu_trigger_plain cmd).works
  | pointer => exact hworks snd_motu_pointer_plain.works
  | ack => exact hworks (snd_motu_ack_works hsound)
  | timer => exact hsound.works expire_plain.works
  | interrupt => exact hworks snd_motu_interrupt_plain.works

theorem probed_sound : Sound .probed where
  balance := Balance.nil
  area := rfl
  inside := throughout_nil
  room := fun hsome => absurd rfl hsome
  area_room := fun hsome => absurd rfl hsome

theorem run_sound (env : PciEnv) (calls : List PciCall) : Sound (run (pci_step env) .probed calls) :=
  run_invariant (fun _ call hsound => hsound.step call) probed_sound

end runs

/-- Whatever the sound core and the machine ask of the driver, in any order, it gives back the DMA buffers it has
taken with the addresses and the sizes they were taken with, touches words and bytes of memory that it has only,
and has no DMA buffer after a `hw_free`. -/
theorem buffers_respected (env : PciEnv) (calls : List PciCall) :
    Balance (dma_book (run (pci_step env) .probed calls).history) (run (pci_step env) .probed calls).owned ∧
    Throughout PciEvent.InLive (run (pci_step env) .probed calls).history ∧
    Balance (dma_book (run (pci_step env) .probed (calls ++ [.hw_free])).history) [] := by
  have hsound := run_sound env calls
  refine ⟨hsound.balance, hsound.inside, ?_⟩
  obtain ⟨hfreed, hnone⟩ := @Sound.hw_free env _ hsound
  have hbalance := hfreed.balance
  rw [PciDriver.owned, hnone] at hbalance
  rw [run_append_singleton]
  exact hbalance

end motu424.pci_alsa
