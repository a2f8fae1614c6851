import Mathlib.Data.List.Induction
import Mathlib.Tactic.Common

namespace Run

variable {σ τ ι : Type} (step : σ → ι → σ)

/-- The state after a sequence of operations. -/
def run (s : σ) (ops : List ι) : σ := ops.foldl step s

/-- A statement about every step of a run: the operations before it, the state
it starts in and its own operation. -/
def Along (s : σ) (ops : List ι) (P : List ι → σ → ι → Prop) : Prop :=
  ∀ pre op post, ops = pre ++ op :: post → P pre (run step s pre) op

variable {step} {s : σ} {ops : List ι}

@[simp] theorem run_nil : run step s [] = s := rfl

@[simp] theorem run_cons (op : ι) : run step s (op :: ops) = run step (step s op) ops := rfl

theorem run_append (ops' : List ι) : run step s (ops ++ ops') = run step (run step s ops) ops' :=
  List.foldl_append

@[simp] theorem run_append_singleton (op : ι) :
    run step s (ops ++ [op]) = step (run step s ops) op := by
  simp [run]

theorem along_nil (P : List ι → σ → ι → Prop) : Along step s [] P := by
  intro pre op post hops
  cases pre <;> cases hops

/-- The last step of a run, and the run before it. -/
theorem along_append_singleton (P : List ι → σ → ι → Prop) (op : ι) :
    Along step s (ops ++ [op]) P ↔ Along step s ops P ∧ P ops (run step s ops) op := by
  constructor
  · intro halong
    constructor
    · intro pre op' post hops
      apply halong pre op' (post ++ [op])
      rw [hops, List.append_assoc, List.cons_append]
    · exact halong ops op [] rfl
  · rintro ⟨halong, hlast⟩ pre op' post hops
    rcases List.eq_nil_or_concat post with rfl | ⟨post', last, rfl⟩
    · obtain ⟨rfl, hop⟩ := List.append_inj' hops rfl
      cases hop
      exact hlast
    · rw [List.concat_eq_append, ← List.cons_append, ← List.append_assoc] at hops
      obtain ⟨hpre, _⟩ := List.append_inj' hops rfl
      exact halong pre op' post' hpre

/-- An invariant of every step is an invariant of runs. -/
theorem run_invariant {I : σ → Prop} (hstep : ∀ s op, I s → I (step s op)) (hs : I s) :
    I (run step s ops) := by
  induction ops using List.reverseRecOn with
  | nil => exact hs
  | append_singleton ops op ih =>
    rw [run_append_singleton]
    exact hstep _ op ih

/-- An invariant that every step keeps under a condition holds throughout the
runs whose steps all meet the condition. -/
theorem guarded_invariant {I : σ → Prop} {C : List ι → σ → ι → Prop}
    (hstep : ∀ pre s op, I s → C pre s op → I (step s op)) (hs : I s)
    (hguard : Along step s ops C) :
    Along step s ops (fun _ s' _ => I s') ∧ I (run step s ops) := by
  induction ops using List.reverseRecOn with
  | nil => exact ⟨along_nil _, hs⟩
  | append_singleton ops op ih =>
    obtain ⟨hbefore, hlast⟩ := (along_append_singleton C op).mp hguard
    obtain ⟨hall, hend⟩ := ih hbefore
    refine ⟨(along_append_singleton _ op).mpr ⟨hall, hend⟩, ?_⟩
    rw [run_append_singleton]
    exact hstep ops _ op hend hlast

/-- Where a property of a step amounts to a condition on it in every state with
the invariant, and the condition keeps the invariant, the property holds of
every step of a run exactly when the condition does. -/
theorem along_iff {I : σ → Prop} {P C : List ι → σ → ι → Prop}
    (hiff : ∀ pre s op, I s → (P pre s op ↔ C pre s op))
    (hstep : ∀ pre s op, I s → C pre s op → I (step s op)) (hs : I s) :
    Along step s ops P ↔ Along step s ops C := by
  induction ops using List.reverseRecOn with
  | nil => exact iff_of_true (along_nil P) (along_nil C)
  | append_singleton ops op ih =>
    rw [along_append_singleton, along_append_singleton, ih]
    constructor
    · rintro ⟨hC, hP⟩
      exact ⟨hC, (hiff _ _ _ (guarded_invariant hstep hs hC).2).mp hP⟩
    · rintro ⟨hC, hlast⟩
      exact ⟨hC, (hiff _ _ _ (guarded_invariant hstep hs hC).2).mpr hlast⟩

/-- A statement about the operations alone is one about each of them. -/
theorem along_ops_iff {P : ι → Prop} : Along step s ops (fun _ _ op => P op) ↔ ∀ op ∈ ops, P op := by
  constructor
  · intro halong op hop
    obtain ⟨pre, post, hops⟩ := List.append_of_mem hop
    exact halong pre op post hops
  · intro hall pre op post hops
    apply hall
    rw [hops]
    simp

/-- A step-wise simulation carries over to runs. -/
theorem run_simulates {abs : σ → τ} {step' : τ → ι → τ} {I : σ → Prop}
    (hstep : ∀ s op, I s → I (step s op) ∧ abs (step s op) = step' (abs s) op) (hs : I s) :
    I (run step s ops) ∧ abs (run step s ops) = run step' (abs s) ops := by
  induction ops using List.reverseRecOn with
  | nil => exact ⟨hs, rfl⟩
  | append_singleton ops op ih =>
    obtain ⟨hI, habs⟩ := ih
    obtain ⟨hI', habs'⟩ := hstep _ op hI
    rw [run_append_singleton, run_append_singleton, ← habs]
    exact ⟨hI', habs'⟩

section notes

variable (step) {κ : Type} (note : σ → ι → κ)

/-- What an observer notes at each step of a run. -/
def notes : σ → List ι → List κ
  | _, [] => []
  | s, op :: ops => note s op :: notes (step s op) ops

variable {step note}

/-- Where each step does to what is seen of the state what was noted at it, a run does
what was noted along it. -/
theorem run_notes {abs : σ → τ} {step' : τ → κ → τ}
    (hstep : ∀ s op, abs (step s op) = step' (abs s) (note s op)) :
    abs (run step s ops) = run step' (abs s) (notes step note s ops) := by
  induction ops generalizing s with
  | nil => rfl
  | cons op ops ih => rw [run_cons, notes, run_cons, ih, hstep]

end notes

/-- Each item of the list takes the system from one state to the next as the
relation says. -/
inductive InOrder (R : ι → σ → σ → Prop) : List ι → σ → σ → Prop where
  | nil (s : σ) : InOrder R [] s s
  | cons {op : ι} {ops : List ι} {s t u : σ} (first : R op s t) (rest : InOrder R ops t u) :
      InOrder R (op :: ops) s u

section in_order

variable {R R' : ι → σ → σ → Prop} {t : σ}

theorem inOrder_cons_iff {op : ι} : InOrder R (op :: ops) s t ↔ ∃ u, R op s u ∧ InOrder R ops u t := by
  constructor
  · rintro (_ | ⟨first, rest⟩)
    exact ⟨_, first, rest⟩
  · rintro ⟨u, first, rest⟩
    exact .cons first rest

theorem InOrder.concat {op : ι} (horder : InOrder R ops s t) {u : σ} (hlast : R op t u) :
    InOrder R (ops ++ [op]) s u := by
  induction horder with
  | nil s => exact .cons hlast (.nil u)
  | cons first _ ih => exact .cons first (ih hlast)

theorem InOrder.mono (horder : InOrder R ops s t)
    (himp : ∀ op ∈ ops, ∀ s t, R op s t → R' op s t) : InOrder R' ops s t := by
  induction horder with
  | nil s => exact .nil s
  | cons first rest ih =>
    exact .cons (himp _ (by simp) _ _ first) (ih fun op hop => himp op (by simp [hop]))

/-- Every item had its turn. -/
theorem InOrder.exists_turn (horder : InOrder R ops s t) {op : ι} (hop : op ∈ ops) :
    ∃ s t, R op s t := by
  induction horder with
  | nil s => cases hop
  | cons first rest ih =>
    rcases List.mem_cons.mp hop with rfl | hrest
    · exact ⟨_, _, first⟩
    · exact ih hrest

end in_order

/-- A statement about every item of a history and the items before it. -/
def Throughout (P : List ι → ι → Prop) (items : List ι) : Prop :=
  ∀ pre item post, items = pre ++ item :: post → P pre item

section throughout

variable {P : List ι → ι → Prop} {items : List ι}

theorem throughout_nil : Throughout P [] := by
  intro pre item post hsplit
  cases pre <;> cases hsplit

/-- What was said of a history stays true of it, whatever follows. -/
theorem throughout_append_singleton {item : ι} :
    Throughout P (items ++ [item]) ↔ Throughout P items ∧ P items item := by
  constructor
  · intro hall
    constructor
    · intro pre op post hsplit
      apply hall pre op (post ++ [item])
      rw [hsplit, List.append_assoc, List.cons_append]
    · exact hall items item [] rfl
  · rintro ⟨hall, hlast⟩ pre op post hsplit
    rcases List.eq_nil_or_concat post with rfl | ⟨post', last, rfl⟩
    · obtain ⟨rfl, hop⟩ := List.append_inj' hsplit rfl
      cases hop
      exact hlast
    · rw [List.concat_eq_append, ← List.cons_append, ← List.append_assoc] at hsplit
      exact hall pre op post' (List.append_inj' hsplit rfl).1

/-- Items of which the statement holds whatever went before. -/
theorem Throughout.append {more : List ι} (hall : Throughout P items) (hmore : ∀ item ∈ more, ∀ pre, P pre item) :
    Throughout P (items ++ more) := by
  induction more using List.reverseRecOn with
  | nil => rwa [List.append_nil]
  | append_singleton more item ih =>
    rw [← List.append_assoc, throughout_append_singleton]
    exact ⟨ih fun op hop => hmore op (List.mem_append_left _ hop), hmore item (by simp) _⟩

end throughout

end Run
