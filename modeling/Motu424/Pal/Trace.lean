import Motu424.Pal
import Motu424.Foundation.ByteMemory

open LittleEndian ByteMemory

namespace motu424

/-- The bytes an event puts into the memory behind a BAR. A write through NULL
reaches no BAR. -/
def Event.stores (bar : Bar) : Event → List (Nat × List (BitVec 8))
  | .write b (some _) offset value =>
    if b = bar then [(offset.toNat, split 4 value.toNat)] else []
  | _ => []

def stores (bar : Bar) (trace : List Event) : List (Nat × List (BitVec 8)) :=
  trace.flatMap (Event.stores bar)

/-- A BAR that keeps what is written to it, after a trace. -/
def bar_memory (init : ByteMemory) (bar : Bar) (trace : List Event) : ByteMemory :=
  init.storeAll (stores bar trace)

/-- The 32-bit word at an offset of such a BAR. -/
def bar_word (init : ByteMemory) (bar : Bar) (trace : List Event) (offset : U32) : U32 :=
  BitVec.ofNat 32 ((bar_memory init bar trace).word offset.toNat 4)

/-- The device reads a register back as the memory behind its BAR holds it. The
other registers of the BAR may read as they like. -/
def Env.Keeps (env : Env) (init : ByteMemory) (bar : Bar) (offset : U32) : Prop :=
  ∀ trace, env.read32 trace bar offset = bar_word init bar trace offset

def Event.is_access : Event → Bool
  | .read _ _ _ => true
  | .write _ _ _ _ => true
  | _ => false

/-- The register reads and writes of a trace. -/
def accesses (trace : List Event) : List Event := trace.filter Event.is_access

/-- No register of any BAR is written. -/
def WritesNothing (trace : List Event) : Prop :=
  ∀ bar base offset value, .write bar base offset value ∉ trace

/-- The word of the DMA buffer that an event reads or writes. -/
def Event.dma_word : Event → Option Nat
  | .load (.dma _) index => some index
  | .store (.dma _) index _ => some index
  | _ => none

/-- The words of the DMA buffer that a trace touches, in order. -/
def dma_words (trace : List Event) : List Nat := trace.filterMap Event.dma_word

/-- What a machine has done since an earlier one. -/
def Machine.since (m before : Machine) : List Event := m.trace.drop before.trace.length

/-- A register access through a pointer that is not NULL, or no register access. -/
def Event.Mapped : Event → Prop
  | .read _ base _ => base ≠ none
  | .write _ base _ _ => base ≠ none
  | _ => True

section simp_set

variable (bar : Bar) (xs ys : List Event) (e : Event)

@[simp] theorem stores_nil : stores bar [] = [] := (rfl)

@[simp] theorem stores_append : stores bar (xs ++ ys) = stores bar xs ++ stores bar ys :=
  List.flatMap_append

@[simp] theorem stores_cons : stores bar (e :: xs) = e.stores bar ++ stores bar xs := (rfl)

@[simp] theorem accesses_nil : accesses [] = [] := (rfl)

@[simp] theorem accesses_append : accesses (xs ++ ys) = accesses xs ++ accesses ys :=
  List.filter_append ..

@[simp] theorem dma_words_append : dma_words (xs ++ ys) = dma_words xs ++ dma_words ys :=
  List.filterMap_append

@[simp] theorem since_emit (m : Machine) (events : List Event) :
    (m.emit events).since m = events := by
  rw [Machine.since, Machine.emit_trace, List.drop_left]

theorem since_of_trace {m before : Machine} {new : List Event} (hnew : m.trace = before.trace ++ new) :
    m.since before = new := by
  rw [Machine.since, hnew, List.drop_left]

end simp_set

/-- A loop whose rounds touch known words of the DMA buffer touches them in the
order of the rounds. -/
theorem exec_forEach_dma_words {ι : Type} {env : Env} {body : ι → Pal Unit} {words : ι → List Nat}
    (hbody : ∀ i m, ∃ new, (body i).exec env m = m.emit new ∧ dma_words new = words i)
    (is : List ι) (m : Machine) :
    ∃ new, (Program.forEach is body).exec env m = m.emit new ∧ dma_words new = is.flatMap words := by
  induction is generalizing m with
  | nil => exact ⟨[], by simp, rfl⟩
  | cons i is ih =>
    obtain ⟨first, hfirst, hwords⟩ := hbody i m
    obtain ⟨rest, hrest, hmore⟩ := ih (m.emit first)
    refine ⟨first ++ rest, ?_, ?_⟩
    · rw [Program.exec_forEach_cons, hfirst, hrest, Machine.emit_emit]
    · rw [dma_words_append, hwords, hmore, List.flatMap_cons]

/-- A write is what its BAR holds at that offset as long as no later write of
the trace overlaps it. -/
theorem bar_word_last_write (init : ByteMemory) {bar : Bar} (before : List Event) (base : Nat)
    (offset value : U32) {later : List Event}
    (hlater : ∀ s ∈ stores bar later, Apart offset.toNat 4 s.1 s.2.length) :
    bar_word init bar (before ++ .write bar (some base) offset value :: later) offset = value := by
  have hvalue : value.toNat < 256 ^ 4 := by simpa using value.isLt
  have hlast := word_storeAll_last init (stores bar before) hvalue hlater
  have hstores : stores bar (before ++ .write bar (some base) offset value :: later) =
      stores bar before ++ (offset.toNat, split 4 value.toNat) :: stores bar later := by
    simp [Event.stores]
  rw [bar_word, bar_memory, hstores, hlast, BitVec.ofNat_toNat, BitVec.setWidth_eq]

/-- When every write of a trace that overlaps a word writes the same value to
it, and there is one, the word holds that value. -/
theorem bar_word_of_mem (init : ByteMemory) {bar : Bar} (before : List Event) {base : Nat}
    {offset value : U32} {new : List Event} (hmem : .write bar (some base) offset value ∈ new)
    (hall : ∀ s ∈ stores bar new,
      s = (offset.toNat, split 4 value.toNat) ∨ Apart offset.toNat 4 s.1 s.2.length) :
    bar_word init bar (before ++ new) offset = value := by
  have hvalue : value.toNat < 256 ^ 4 := by simpa using value.isLt
  have hstore : (offset.toNat, split 4 value.toNat) ∈ stores bar new :=
    List.mem_flatMap.mpr ⟨_, hmem, by simp [Event.stores]⟩
  have hword := word_storeAll_of_mem (init.storeAll (stores bar before)) hvalue hstore hall
  rw [bar_word, bar_memory, stores_append, storeAll_append, hword, BitVec.ofNat_toNat,
    BitVec.setWidth_eq]

/-- Writes that do not overlap a word leave it as it was. -/
theorem bar_word_frame (init : ByteMemory) {bar : Bar} (before : List Event) {offset : U32}
    {later : List Event}
    (hlater : ∀ s ∈ stores bar later, Apart offset.toNat 4 s.1 s.2.length) :
    bar_word init bar (before ++ later) offset = bar_word init bar before offset := by
  have hframe := word_storeAll_apart (init.storeAll (stores bar before)) hlater
  rw [bar_word, bar_word, bar_memory, bar_memory, stores_append, storeAll_append, hframe]

end motu424
