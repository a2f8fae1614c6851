import Motu424.Hw
import Motu424.Foundation.LittleEndian

open LittleEndian

namespace motu424.convert_golden

/-- A register write as the converter holds it: bar, offset and value, as Python
integers that a decimal or hexadecimal literal gave. -/
abbrev Entry := Nat × Nat × Nat

/-- The exception of `struct.pack` for a number that its format cannot hold. -/
inductive StructError where
  | ubyte_out_of_range
  | uint_out_of_range
  deriving DecidableEq, Repr

/-- `struct.pack('<BII', bar, offset, value)` -/
def pack : Entry → Except StructError (List U8)
  | (bar, offset, value) =>
    if 256 ≤ bar then .error .ubyte_out_of_range
    else if 2 ^ 32 ≤ offset ∨ 2 ^ 32 ≤ value then .error .uint_out_of_range
    else .ok (BitVec.ofNat 8 bar :: split 4 offset ++ split 4 value)

/-- The loop that writes the binary blob. -/
def write_blob : List Entry → Except StructError (List U8)
  | [] => .ok []
  | entry :: entries => do
    let bytes ← pack entry
    let blob ← write_blob entries
    pure (bytes ++ blob)

/-- The numbers fit the fields of an entry. -/
def Entry.Fits : Entry → Prop
  | (bar, offset, value) => bar < 256 ∧ offset < 2 ^ 32 ∧ value < 2 ^ 32

instance (entry : Entry) : Decidable entry.Fits := inferInstanceAs (Decidable (_ ∧ _ ∧ _))

/-- The nine bytes of an entry. -/
def Entry.bytes : Entry → List U8
  | (bar, offset, value) => BitVec.ofNat 8 bar :: split 4 offset ++ split 4 value

theorem length_bytes (entry : Entry) : entry.bytes.length = 9 := by
  simp [Entry.bytes]

theorem length_flatMap_bytes (entries : List Entry) :
    (entries.flatMap Entry.bytes).length = 9 * entries.length := by
  induction entries with
  | nil => rfl
  | cons entry entries ih =>
    rw [List.flatMap_cons, List.length_append, length_bytes, ih, List.length_cons]
    omega

theorem pack_of_fits {entry : Entry} (hfits : entry.Fits) : pack entry = .ok entry.bytes := by
  obtain ⟨bar, offset, value⟩ := entry
  obtain ⟨hbar, hoffset, hvalue⟩ := hfits
  rw [pack, if_neg (by omega), if_neg (by omega), Entry.bytes]

theorem pack_not_fits {entry : Entry} (hfits : ¬ entry.Fits) : ∃ err, pack entry = .error err := by
  obtain ⟨bar, offset, value⟩ := entry
  by_cases hbar : 256 ≤ bar
  · exact ⟨_, by rw [pack, if_pos hbar]⟩
  · have hlarge : 2 ^ 32 ≤ offset ∨ 2 ^ 32 ≤ value := by
      by_contra hsmall
      exact hfits ⟨by omega, by omega, by omega⟩
    exact ⟨_, by rw [pack, if_neg hbar, if_pos hlarge]⟩

/-- The blob of a list of entries that all fit. -/
theorem write_blob_of_fits {entries : List Entry} (hfits : ∀ entry ∈ entries, entry.Fits) :
    write_blob entries = .ok (entries.flatMap Entry.bytes) := by
  induction entries with
  | nil => rfl
  | cons entry entries ih =>
    have hrest := ih fun e he => hfits e (by simp [he])
    rw [write_blob, pack_of_fits (hfits entry (by simp)), hrest, List.flatMap_cons]
    rfl

/-- The converter fails as soon as one entry does not fit. -/
theorem write_blob_ok_iff (entries : List Entry) :
    (∃ blob, write_blob entries = .ok blob) ↔ ∀ entry ∈ entries, entry.Fits := by
  constructor
  · rintro ⟨blob, hblob⟩
    induction entries generalizing blob with
    | nil => simp
    | cons entry entries ih =>
      by_cases hfits : entry.Fits
      · rw [write_blob, pack_of_fits hfits] at hblob
        cases hrest : write_blob entries with
        | ok rest => simpa [hfits] using ih rest hrest
        | error err =>
          rw [hrest] at hblob
          cases hblob
      · obtain ⟨err, herr⟩ := pack_not_fits hfits
        rw [write_blob, herr] at hblob
        cases hblob
  · intro hfits
    exact ⟨_, write_blob_of_fits hfits⟩

end motu424.convert_golden
