import Mathlib.Data.List.Chain
import Mathlib.Tactic.Common

namespace Serial

/-- The levels of the two wires after a write. -/
structure Line where
  clock : Bool
  data : Bool
  deriving DecidableEq, Repr

/-- The second write raises the clock. -/
def Rising (a b : Line) : Prop := a.clock = false ∧ b.clock = true

instance (a b : Line) : Decidable (Rising a b) := inferInstanceAs (Decidable (_ ∧ _))

/-- The rising edges of a sequence of writes, each with the write before it. -/
def edges : List Line → List (Line × Line)
  | a :: b :: lines => if Rising a b then (a, b) :: edges (b :: lines) else edges (b :: lines)
  | _ => []

/-- What a receiver that samples at the rising edges sees. -/
def sampled (lines : List Line) : List Bool := (edges lines).map (·.2.data)

/-- The data of every edge is on the line one write before it. -/
def SetUp (lines : List Line) : Prop := ∀ e ∈ edges lines, e.1.clock = false ∧ e.1.data = e.2.data

/-- The data changes only between writes with the clock low. -/
def Steady (lines : List Line) : Prop :=
  lines.IsChain fun a b => a.clock = true ∨ b.clock = true → a.data = b.data

/-- Three writes for each bit: the data of the bit before, the new data, the clock. -/
def upload : Bool → List Bool → List Line
  | _, [] => []
  | prev, bit :: bits => ⟨false, prev⟩ :: ⟨false, bit⟩ :: ⟨true, bit⟩ :: upload bit bits

/-- Uploads in pieces, each with the last bit of the piece before it. -/
theorem upload_append (prev : Bool) (xs ys : List Bool) :
    upload prev (xs ++ ys) = upload prev xs ++ upload (xs.getLastD prev) ys := by
  induction xs generalizing prev with
  | nil => rfl
  | cons x xs ih => rw [List.cons_append, upload, upload, ih, List.getLastD_cons]; rfl

/-- One edge for each bit. -/
theorem edges_upload (first : Line) (bits : List Bool) :
    edges (first :: upload first.data bits) = bits.map fun bit => (⟨false, bit⟩, ⟨true, bit⟩) := by
  induction bits generalizing first with
  | nil => rfl
  | cons bit bits ih =>
    have hrest := ih ⟨true, bit⟩
    rw [List.map_cons, ← hrest]
    simp [upload, edges, Rising]

theorem sampled_upload (first : Line) (bits : List Bool) :
    sampled (first :: upload first.data bits) = bits := by
  rw [sampled, edges_upload, List.map_map]
  exact List.map_id bits

theorem setUp_upload (first : Line) (bits : List Bool) : SetUp (first :: upload first.data bits) := by
  intro e he
  rw [edges_upload] at he
  obtain ⟨bit, _, rfl⟩ := List.mem_map.mp he
  exact ⟨rfl, rfl⟩

theorem steady_upload (first : Line) (bits : List Bool) : Steady (first :: upload first.data bits) := by
  induction bits generalizing first with
  | nil => exact List.isChain_singleton _
  | cons bit bits ih =>
    have hrest := ih ⟨true, bit⟩
    rw [Steady] at hrest ⊢
    rw [upload, List.isChain_cons_cons, List.isChain_cons_cons, List.isChain_cons_cons]
    exact ⟨fun _ => rfl, fun hhigh => absurd hhigh (by simp), fun _ => rfl, hrest⟩

/-- Three writes for each bit: the new data with the clock low, high, and low again. -/
def pulses (bits : List Bool) : List Line :=
  bits.flatMap fun bit => [⟨false, bit⟩, ⟨true, bit⟩, ⟨false, bit⟩]

theorem pulses_append (xs ys : List Bool) : pulses (xs ++ ys) = pulses xs ++ pulses ys :=
  List.flatMap_append

/-- One edge for each bit, whatever was on the wires before. -/
theorem edges_pulses (first : Line) (bits : List Bool) :
    edges (first :: pulses bits) = bits.map fun bit => (⟨false, bit⟩, ⟨true, bit⟩) := by
  induction bits generalizing first with
  | nil => rfl
  | cons bit bits ih =>
    have hrest := ih ⟨false, bit⟩
    rw [List.map_cons, ← hrest]
    simp [pulses, edges, Rising]

theorem sampled_pulses (first : Line) (bits : List Bool) : sampled (first :: pulses bits) = bits := by
  rw [sampled, edges_pulses, List.map_map]
  exact List.map_id bits

/-- Three writes for each bit: the new data twice with the clock low, then the clock. -/
def strobes (bits : List Bool) : List Line :=
  bits.flatMap fun bit => [⟨false, bit⟩, ⟨false, bit⟩, ⟨true, bit⟩]

theorem edges_strobes (first : Line) (bits : List Bool) :
    edges (first :: strobes bits) = bits.map fun bit => (⟨false, bit⟩, ⟨true, bit⟩) := by
  induction bits generalizing first with
  | nil => rfl
  | cons bit bits ih =>
    have hrest := ih ⟨true, bit⟩
    rw [List.map_cons, ← hrest]
    simp [strobes, edges, Rising]

theorem sampled_strobes (first : Line) (bits : List Bool) : sampled (first :: strobes bits) = bits := by
  rw [sampled, edges_strobes, List.map_map]
  exact List.map_id bits

end Serial
