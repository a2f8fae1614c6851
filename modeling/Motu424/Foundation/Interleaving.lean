import Motu424.Foundation.Program
import Motu424.Foundation.Run
import Mathlib.Logic.Function.Basic

open Program Run

/-- What a processor has still to do: accesses to the shared state, each of them
one step, and the taking and the dropping of the one lock. -/
inductive Code (ρ σ α : Type) where
  | ret (a : α)
  | act (update : ρ → σ → σ) (next : ρ → σ → Code ρ σ α)
  | lock (k : Code ρ σ α)
  | unlock (k : Code ρ σ α)

namespace Code

variable {ρ σ α β ι υ : Type}

/-- A program that is one step, and what it goes on with. -/
def step (p : Program ρ σ β) (k : β → Code ρ σ α) : Code ρ σ α := act p.exec fun env s => k (p.eval env s)

/-- A loop, and what it goes on with. -/
def forEach : List ι → (ι → Code ρ σ α → Code ρ σ α) → Code ρ σ α → Code ρ σ α
  | [], _, k => k
  | i :: is, body, k => body i (forEach is body k)

/-- The program that the code is when its processor is left alone, by what the
taking and the dropping of the lock do. -/
def program (take drop : Program ρ σ Unit) : Code ρ σ α → Program ρ σ α
  | ret a => pure a
  | act update next => fun env s => (next env s).program take drop env (update env s)
  | lock k => take >>= fun _ => k.program take drop
  | unlock k => drop >>= fun _ => k.program take drop

section program

variable (take drop : Program ρ σ Unit)

theorem program_unlock (k : Code ρ σ α) :
    (unlock k).program take drop = drop >>= fun _ => k.program take drop := (rfl)

/-- A loop whose rounds are programs of their own is the loop of these programs. -/
theorem program_forEach {body : ι → Code ρ σ α → Code ρ σ α} {round : ι → Program ρ σ Unit}
    (hbody : ∀ i k, (body i k).program take drop = round i >>= fun _ => k.program take drop)
    (is : List ι) (k : Code ρ σ α) :
    (forEach is body k).program take drop = Program.forEach is round >>= fun _ => k.program take drop := by
  induction is with
  | nil => rfl
  | cons i is ih =>
    rw [forEach, hbody, ih]
    rfl

end program

section guarded

variable (env : ρ) (view : σ → υ)

/-- The code has no more to do with the part of the state, nor with the lock. -/
def Settled : Code ρ σ α → Prop
  | ret _ => True
  | act update next => ∀ s, view (update env s) = view s ∧ Settled (next env s)
  | lock _ => False
  | unlock _ => False

/-- The code holds the lock, and drops it when it has brought the part of the state
to a good one. -/
def InSection (good : υ → Prop) : Code ρ σ α → υ → Prop
  | ret _, _ => False
  | act update next, v => ∀ s, view s = v → InSection good (next env s) (view (update env s))
  | lock _, _ => False
  | unlock k, v => good v ∧ Settled env view k

/-- The code changes the part of the state as the relation says, in one section
under the lock, if it changes it at all. -/
def Guarded (effect : υ → υ → Prop) : Code ρ σ α → Prop
  | ret _ => ∀ v, effect v v
  | act update next => ∀ s, view (update env s) = view s ∧ Guarded effect (next env s)
  | lock k => ∀ v, InSection env view (effect v) k v
  | unlock _ => False

variable {env view} {effect : υ → υ → Prop} {good : υ → Prop}

theorem Settled.step {p : Program ρ σ β} {k : β → Code ρ σ α} (hp : ∀ s, view (p.exec env s) = view s)
    (hk : ∀ b, Settled env view (k b)) : Settled env view (step p k) := fun s => ⟨hp s, hk _⟩

theorem Guarded.step {p : Program ρ σ β} {k : β → Code ρ σ α} (hp : ∀ s, view (p.exec env s) = view s)
    (hk : ∀ b, Guarded env view effect (k b)) : Guarded env view effect (step p k) := fun s => ⟨hp s, hk _⟩

/-- A loop whose rounds leave the part of the state alone. -/
theorem Guarded.forEach {body : ι → Code ρ σ α → Code ρ σ α}
    (hbody : ∀ i k, Guarded env view effect k → Guarded env view effect (body i k)) (is : List ι)
    {k : Code ρ σ α} (hk : Guarded env view effect k) : Guarded env view effect (forEach is body k) := by
  induction is with
  | nil => exact hk
  | cons i is ih => exact hbody i _ ih

/-- A step in the section that leaves the part of the state alone. -/
theorem InSection.step_quiet {p : Program ρ σ β} {k : β → Code ρ σ α} {v : υ}
    (hp : ∀ s, view (p.exec env s) = view s) (hk : ∀ b, InSection env view good (k b) v) :
    InSection env view good (step p k) v := by
  intro s hs
  rw [hp s, hs]
  exact hk _

/-- A step in the section that finds the state as it is there. -/
theorem InSection.step {p : Program ρ σ β} {k : β → Code ρ σ α} {v w : υ}
    (hp : ∀ s, view s = v → view (p.exec env s) = w ∧ InSection env view good (k (p.eval env s)) w) :
    InSection env view good (step p k) v := by
  intro s hs
  obtain ⟨hw, hk⟩ := hp s hs
  change InSection env view good (k (p.eval env s)) (view (p.exec env s))
  rw [hw]
  exact hk

section alone

variable {take drop : Program ρ σ Unit} {c : Code ρ σ α}

theorem Settled.exec (hc : c.Settled env view) (s : σ) : view ((c.program take drop).exec env s) = view s := by
  induction c generalizing s with
  | ret a => rfl
  | act update next ih =>
    obtain ⟨hview, hnext⟩ := hc s
    exact (ih env s hnext _).trans hview
  | lock k => exact hc.elim
  | unlock k => exact hc.elim

variable (hdrop : ∀ s, view (drop.exec env s) = view s)
include hdrop

theorem InSection.exec {v : υ} (hc : c.InSection env view good v) {s : σ} (hs : view s = v) :
    good (view ((c.program take drop).exec env s)) := by
  induction c generalizing v s with
  | ret a => exact hc.elim
  | act update next ih => exact ih env s (hc s hs) rfl
  | lock k => exact hc.elim
  | unlock k =>
    obtain ⟨hgood, hsettled⟩ := hc
    have hview : view ((k.program take drop).exec env (drop.exec env s)) = v :=
      (hsettled.exec _).trans ((hdrop s).trans hs)
    rw [program_unlock, exec_bind, hview]
    exact hgood

/-- The effect of a run without others is the effect that the code is guarded by. -/
theorem Guarded.exec (htake : ∀ s, view (take.exec env s) = view s) (hc : c.Guarded env view effect) (s : σ) :
    effect (view s) (view ((c.program take drop).exec env s)) := by
  induction c generalizing s with
  | ret a => exact hc _
  | act update next ih =>
    obtain ⟨hview, hnext⟩ := hc s
    have hrest := ih env s hnext (update env s)
    rw [hview] at hrest
    exact hrest
  | lock k => exact (hc (view s)).exec hdrop (htake s)
  | unlock k => exact hc.elim

end alone

end guarded

end Code

namespace Interleaving

/-- A processor: the code that it runs, and the operations that it has not begun. -/
structure Processor (ρ σ α ι : Type) where
  running : Option (Code ρ σ α)
  pending : List ι

/-- Processors on one shared state, and the one among them that holds the lock. -/
structure System (θ ρ σ α ι : Type) where
  shared : σ
  holder : Option θ
  processors : θ → Processor ρ σ α ι

variable {θ ρ σ α ι υ : Type} [DecidableEq θ]

def System.put (S : System θ ρ σ α ι) (i : θ) (running : Option (Code ρ σ α)) (pending : List ι) :
    System θ ρ σ α ι :=
  { S with processors := Function.update S.processors i ⟨running, pending⟩ }

/-- All processors have their operations before them. -/
def System.start (s : σ) (programs : θ → List ι) : System θ ρ σ α ι := ⟨s, none, fun i => ⟨none, programs i⟩⟩

/-- The processor has no more to do. -/
def System.Finished (S : System θ ρ σ α ι) (i : θ) : Prop :=
  (S.processors i).running = none ∧ (S.processors i).pending = []

section advance

variable (env : ρ) (take drop : Program ρ σ Unit) (code : ι → Code ρ σ α)

/-- A processor goes on by one step. One that wants a lock that is held spins. -/
def advance (S : System θ ρ σ α ι) (i : θ) : System θ ρ σ α ι :=
  match (S.processors i).running, (S.processors i).pending with
  | none, [] => S
  | none, op :: ops => S.put i (some (code op)) ops
  | some (.ret _), ops => S.put i none ops
  | some (.act update next), ops =>
    { S.put i (some (next env S.shared)) ops with shared := update env S.shared }
  | some (.lock k), ops =>
    if S.holder = none then
      { S.put i (some k) ops with shared := take.exec env S.shared, holder := some i }
    else S
  | some (.unlock k), ops =>
    { S.put i (some k) ops with shared := drop.exec env S.shared, holder := none }

end advance

/-- The operations of one processor in an order of all of them. -/
def own (order : List (θ × ι)) (i : θ) : List ι := (order.filter fun e => e.1 = i).map Prod.snd

theorem own_append_self (order : List (θ × ι)) (i : θ) (op : ι) :
    own (order ++ [(i, op)]) i = own order i ++ [op] := by
  simp [own]

theorem own_append_other (order : List (θ × ι)) {i j : θ} (op : ι) (hij : i ≠ j) :
    own (order ++ [(i, op)]) j = own order j := by
  simp [own, hij]

section serial

variable (env : ρ) (view : σ → υ) (effect : ι → υ → υ → Prop)

/-- Where a processor stands, with what is left of its operations after those that
have had their effect: `v` is what these have made of the part of the state, and `w`
is what it is now. -/
inductive Place (v w : υ) (held : Prop) : List ι → Processor ρ σ α ι → Prop where
  | idle {ops : List ι} (hfree : ¬ held) : Place v w held ops ⟨none, ops⟩
  | before {op : ι} {ops : List ι} {c : Code ρ σ α} (hfree : ¬ held) (hc : c.Guarded env view (effect op)) :
      Place v w held (op :: ops) ⟨some c, ops⟩
  | inside {op : ι} {ops : List ι} {c : Code ρ σ α} (hheld : held) (hc : c.InSection env view (effect op v) w) :
      Place v w held (op :: ops) ⟨some c, ops⟩
  | after {ops : List ι} {c : Code ρ σ α} (hfree : ¬ held) (hc : c.Settled env view) :
      Place v w held ops ⟨some c, ops⟩

/-- The operations that have had their effect, in order, and where each processor
stands. -/
structure Serial (v₀ : υ) (programs : θ → List ι) (S : System θ ρ σ α ι) (order : List (θ × ι)) (v : υ) : Prop where
  effects : InOrder (fun e : θ × ι => effect e.2) order v₀ v
  free : S.holder = none → view S.shared = v
  place : ∀ i, ∃ todo, programs i = own order i ++ todo ∧
    Place env view effect v (view S.shared) (S.holder = some i) todo (S.processors i)

variable {env view effect} {take drop : Program ρ σ Unit} {code : ι → Code ρ σ α}
  {v₀ v w v' w' : υ} {held held' : Prop} {programs : θ → List ι} {S : System θ ρ σ α ι}
  {order : List (θ × ι)} {todo : List ι} {p : Processor ρ σ α ι}

/-- A processor without the lock does not care for the part of the state. -/
theorem Place.of_not_held (hplace : Place env view effect v w held todo p) (hfree : ¬ held) (hfree' : ¬ held') :
    Place env view effect v' w' held' todo p := by
  cases hplace with
  | idle => exact .idle hfree'
  | before _ hc => exact .before hfree' hc
  | inside hheld => exact absurd hheld hfree
  | after _ hc => exact .after hfree' hc

/-- One processor has changed, and with it the state or the holder of the lock. The
others may go on as before if these are as they were, or if none of them holds the lock. -/
theorem Serial.of_update (hserial : Serial env view effect v₀ programs S order v) {i : θ} {s' : σ} {h' : Option θ}
    {order' : List (θ × ι)} (heffects : InOrder (fun e : θ × ι => effect e.2) order' v₀ v')
    (hfree : h' = none → view s' = v') (hown : ∀ j ≠ i, own order' j = own order j)
    (hothers : (v' = v ∧ view s' = view S.shared ∧ h' = S.holder) ∨ ∀ j ≠ i, S.holder ≠ some j ∧ h' ≠ some j)
    (hplace : programs i = own order' i ++ todo ∧ Place env view effect v' (view s') (h' = some i) todo p) :
    Serial env view effect v₀ programs ⟨s', h', Function.update S.processors i p⟩ order' v' := by
  refine ⟨heffects, hfree, fun j => ?_⟩
  change ∃ todo, programs j = own order' j ++ todo ∧
    Place env view effect v' (view s') (h' = some j) todo (Function.update S.processors i p j)
  by_cases hj : j = i
  · subst hj
    rw [Function.update_self]
    exact ⟨todo, hplace⟩
  · obtain ⟨todo', hprogram, hplace'⟩ := hserial.place j
    rw [Function.update_of_ne hj, hown j hj]
    refine ⟨todo', hprogram, ?_⟩
    rcases hothers with ⟨rfl, hview, rfl⟩ | hothers
    · rw [hview]
      exact hplace'
    · exact hplace'.of_not_held (hothers j hj).1 (hothers j hj).2

section step

variable (hserial : Serial env view effect v₀ programs S order v)
  (hcode : ∀ op, (code op).Guarded env view (effect op))
  (htake : ∀ s, view (take.exec env s) = view s) (hdrop : ∀ s, view (drop.exec env s) = view s)
include hserial hcode htake hdrop

/-- Whatever step a processor takes, the operations have had their effect in an order. -/
theorem Serial.advance (i : θ) : ∃ order' v',
    Serial env view effect v₀ programs (Interleaving.advance env take drop code S i) order' v' := by
  obtain ⟨todo, hprogram, hplace⟩ := hserial.place i
  obtain ⟨heffects, hfree, _⟩ := id hserial
  have hown : ∀ j ≠ i, own order j = own order j := fun _ _ => rfl
  rw [Interleaving.advance]
  cases hp : S.processors i with
  | mk running pending =>
    rw [hp] at hplace
    cases hplace with
    | idle hi =>
      cases todo with
      | nil => exact ⟨order, v, hserial⟩
      | cons op ops =>
        have hplace : Place env view effect v (view S.shared) (S.holder = some i) (op :: ops) ⟨some (code op), ops⟩ :=
          .before hi (hcode op)
        exact ⟨order, v, hserial.of_update heffects hfree hown (.inl ⟨rfl, rfl, rfl⟩) ⟨hprogram, hplace⟩⟩
    | @before op pending c hi hc =>
      cases c with
      | ret a =>
        -- an operation that needs no lock has its effect, which is none, at its end
        have hlast : InOrder (fun e : θ × ι => effect e.2) (order ++ [(i, op)]) v₀ v := heffects.concat (hc v)
        have hown : ∀ j ≠ i, own (order ++ [(i, op)]) j = own order j :=
          fun j hj => own_append_other order op (Ne.symm hj)
        have hprogram : programs i = own (order ++ [(i, op)]) i ++ pending := by
          rw [own_append_self, List.append_assoc]
          exact hprogram
        exact ⟨_, v, hserial.of_update hlast hfree hown (.inl ⟨rfl, rfl, rfl⟩) ⟨hprogram, .idle hi⟩⟩
      | act update next =>
        obtain ⟨hview, hnext⟩ := hc S.shared
        have hfree : S.holder = none → view (update env S.shared) = v := fun h => hview.trans (hfree h)
        exact ⟨order, v, hserial.of_update heffects hfree hown (.inl ⟨rfl, hview, rfl⟩) ⟨hprogram, .before hi hnext⟩⟩
      | lock k =>
        dsimp only
        by_cases hholder : S.holder = none
        · have hview : view (take.exec env S.shared) = v := (htake _).trans (hfree hholder)
          have hothers : ∀ j ≠ i, S.holder ≠ some j ∧ some i ≠ some j := by
            intro j hj
            rw [hholder]
            exact ⟨Option.some_ne_none j |>.symm, fun h => hj (Option.some.inj h).symm⟩
          have hplace : Place env view effect v (view (take.exec env S.shared)) (some i = some i) (op :: pending)
              ⟨some k, pending⟩ := .inside rfl (hview ▸ hc v)
          rw [if_pos hholder]
          exact ⟨order, v, hserial.of_update heffects (fun h => absurd h (Option.some_ne_none i)) hown (.inr hothers)
            ⟨hprogram, hplace⟩⟩
        · rw [if_neg hholder]
          exact ⟨order, v, hserial⟩
      | unlock k => exact hc.elim
    | @inside op pending c hi hc =>
      have hothers : ∀ h' : Option θ, (h' = S.holder ∨ h' = none) → ∀ j ≠ i, S.holder ≠ some j ∧ h' ≠ some j := by
        intro h' hh' j hj
        have hheld : S.holder ≠ some j := fun h => hj (Option.some.inj (h.symm.trans hi))
        rcases hh' with rfl | rfl
        · exact ⟨hheld, hheld⟩
        · exact ⟨hheld, (Option.some_ne_none j).symm⟩
      cases c with
      | ret a => exact hc.elim
      | act update next =>
        have hheld : S.holder = none → view (update env S.shared) = v := by
          intro h
          rw [hi] at h
          cases h
        exact ⟨order, v, hserial.of_update heffects hheld hown (.inr (hothers _ (.inl rfl)))
          ⟨hprogram, .inside hi (hc _ rfl)⟩⟩
      | lock k => exact hc.elim
      | unlock k =>
        -- the effect of the operation is complete
        obtain ⟨heffect, hsettled⟩ := hc
        have hlast : InOrder (fun e : θ × ι => effect e.2) (order ++ [(i, op)]) v₀ (view S.shared) :=
          heffects.concat heffect
        have hown : ∀ j ≠ i, own (order ++ [(i, op)]) j = own order j :=
          fun j hj => own_append_other order op (Ne.symm hj)
        have hprogram : programs i = own (order ++ [(i, op)]) i ++ pending := by
          rw [own_append_self, List.append_assoc]
          exact hprogram
        have hfree : ¬ (none : Option θ) = some i := (Option.some_ne_none i).symm
        exact ⟨_, _, hserial.of_update hlast (fun _ => hdrop _) hown (.inr (hothers _ (.inr rfl)))
          ⟨hprogram, .after hfree hsettled⟩⟩
    | @after pending c hi hc =>
      cases c with
      | ret a =>
        exact ⟨order, v, hserial.of_update heffects hfree hown (.inl ⟨rfl, rfl, rfl⟩) ⟨hprogram, .idle hi⟩⟩
      | act update next =>
        obtain ⟨hview, hnext⟩ := hc S.shared
        have hfree : S.holder = none → view (update env S.shared) = v := fun h => hview.trans (hfree h)
        exact ⟨order, v, hserial.of_update heffects hfree hown (.inl ⟨rfl, hview, rfl⟩) ⟨hprogram, .after hi hnext⟩⟩
      | lock k => exact hc.elim
      | unlock k => exact hc.elim

end step

/-- Whatever the schedule, the operations have had their effect in an order that keeps
the order of each processor. -/
theorem serial_run (hcode : ∀ op, (code op).Guarded env view (effect op))
    (htake : ∀ s, view (take.exec env s) = view s) (hdrop : ∀ s, view (drop.exec env s) = view s) (s : σ)
    (programs : θ → List ι) (schedule : List θ) : ∃ order v, Serial env view effect (view s) programs
      (run (Interleaving.advance env take drop code) (.start s programs) schedule) order v := by
  have hstart : Serial env view effect (view s) programs (System.start s programs : System θ ρ σ α ι) [] (view s) :=
    ⟨.nil _, fun _ => rfl, fun i => ⟨programs i, rfl, .idle (Option.some_ne_none i).symm⟩⟩
  apply @run_invariant _ _ (Interleaving.advance env take drop code) _ schedule
    (fun S => ∃ order v, Serial env view effect (view s) programs S order v) _ ⟨_, _, hstart⟩
  rintro S i ⟨order, v, hserial⟩
  exact hserial.advance hcode htake hdrop i

/-- A processor that has finished has had the effect of all its operations. -/
theorem Serial.own_of_finished (hserial : Serial env view effect v₀ programs S order v) {i : θ}
    (hfinished : S.Finished i) : own order i = programs i := by
  obtain ⟨todo, hprogram, hplace⟩ := hserial.place i
  obtain ⟨hrunning, hpending⟩ := hfinished
  have hp : S.processors i = ⟨none, []⟩ := congrArg₂ Processor.mk hrunning hpending
  rw [hp] at hplace
  cases hplace
  rw [hprogram, List.append_nil]

theorem Serial.own_prefix (hserial : Serial env view effect v₀ programs S order v) (i : θ) :
    own order i <+: programs i := by
  obtain ⟨todo, hprogram, _⟩ := hserial.place i
  exact ⟨todo, hprogram.symm⟩

/-- A processor in its section drops the lock within finitely many steps of its own. -/
theorem drops_of_inSection {c : Code ρ σ α} {good : υ → Prop} {i : θ}
    (hc : c.InSection env view good (view S.shared)) (hrunning : (S.processors i).running = some c) :
    ∃ n, (run (Interleaving.advance env take drop code) S (List.replicate n i)).holder = none := by
  induction c generalizing S with
  | ret a => exact hc.elim
  | act update next ih =>
    have hstep : Interleaving.advance env take drop code S i =
        { S.put i (some (next env S.shared)) (S.processors i).pending with shared := update env S.shared } := by
      rw [Interleaving.advance, hrunning]
    obtain ⟨n, hn⟩ := @ih env S.shared (Interleaving.advance env take drop code S i)
      (by rw [hstep]; exact hc _ rfl) (by simp [hstep, System.put])
    exact ⟨n + 1, hn⟩
  | lock k => exact hc.elim
  | unlock k =>
    refine ⟨1, ?_⟩
    rw [List.replicate_one, run_cons, run_nil, Interleaving.advance, hrunning]

theorem Serial.drops (hserial : Serial env view effect v₀ programs S order v) {i : θ} (hheld : S.holder = some i) :
    ∃ n, (run (Interleaving.advance env take drop code) S (List.replicate n i)).holder = none := by
  obtain ⟨todo, _, hplace⟩ := hserial.place i
  cases hp : S.processors i with
  | mk running pending =>
    rw [hp] at hplace
    cases hplace with
    | idle hfree => exact absurd hheld hfree
    | before hfree => exact absurd hheld hfree
    | inside _ hc => exact drops_of_inSection hc (congrArg Processor.running hp)
    | after hfree => exact absurd hheld hfree

end serial

end Interleaving
