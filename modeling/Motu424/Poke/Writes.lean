import Motu424.Poke
import Motu424.Pal.Trace

open Program

namespace motu424.poke

/-- The number by which the tools name a BAR. -/
def bar_number : Bar → Int
  | .dsp => 0
  | .reg => 1
  | .port => 2

def reg_write : Event → Option RegWrite
  | .write bar _ offset value => some ⟨bar_number bar, offset, value⟩
  | _ => none

/-- The register writes of the shared code, in order. -/
def reg_writes (trace : List Event) : List RegWrite := trace.filterMap reg_write

@[simp] theorem reg_writes_append (xs ys : List Event) :
    reg_writes (xs ++ ys) = reg_writes xs ++ reg_writes ys :=
  List.filterMap_append

/-- Whatever the outsides answer, both programs write the same registers. -/
def WritesAlike {α β : Type} (p : Pal α) (q : Tool β) : Prop :=
  ∀ env m tenv history, ∃ new new', (p.exec env m).trace = m.trace ++ new ∧
    q.exec tenv history = history ++ new' ∧ tool_writes new' = reg_writes new

/-- They also return the same value. -/
structure SameWrites {α : Type} (p : Pal α) (q : Tool α) : Prop where
  value : ∀ env m tenv history, q.eval tenv history = p.eval env m
  writes : WritesAlike p q

/-- Shared code that writes no register. -/
def Quiet {α : Type} (p : Pal α) : Prop :=
  ∀ env m, ∃ new, (p.exec env m).trace = m.trace ++ new ∧ reg_writes new = []

/-- Whatever the driver answers, the writes that the tool asks for have this
property. -/
def Asks (Q : List RegWrite → Prop) {α : Type} (q : Tool α) : Prop :=
  ∀ env history, ∃ new, q.exec env history = history ++ new ∧ Q (tool_writes new)

/-- A tool that asks for no write. -/
abbrev QuietTool {α : Type} (q : Tool α) : Prop := Asks (· = []) q

section rules

variable {α β γ δ : Type}

theorem WritesAlike.bind {p : Pal α} {q : Tool α} {f : α → Pal β} {g : α → Tool γ}
    (h : SameWrites p q) (hf : ∀ a, WritesAlike (f a) (g a)) : WritesAlike (p >>= f) (q >>= g) := by
  intro env m tenv history
  obtain ⟨xs, xs', hxs, hxs', hsame⟩ := h.writes env m tenv history
  obtain ⟨ys, ys', hys, hys', hrest⟩ := hf (p.eval env m) env (p.exec env m) tenv (q.exec tenv history)
  refine ⟨xs ++ ys, xs' ++ ys', ?_, ?_, ?_⟩
  · rw [exec_bind, hys, hxs, List.append_assoc]
  · rw [exec_bind, h.value env m tenv history, hys', hxs', List.append_assoc]
  · rw [tool_writes_append, reg_writes_append, hsame, hrest]

theorem SameWrites.pure (a : α) : SameWrites (pure a) (pure a) where
  value := fun _ _ _ _ => rfl
  writes := fun _ _ _ _ => ⟨[], [], (List.append_nil _).symm, (List.append_nil _).symm, rfl⟩

theorem SameWrites.bind {p : Pal α} {q : Tool α} {f : α → Pal β} {g : α → Tool β}
    (h : SameWrites p q) (hf : ∀ a, SameWrites (f a) (g a)) : SameWrites (p >>= f) (q >>= g) where
  value := by
    intro env m tenv history
    rw [eval_bind, eval_bind, h.value env m tenv history]
    exact (hf _).value env _ tenv _
  writes := WritesAlike.bind h fun a => (hf a).writes

theorem SameWrites.write {bar : Bar} (base : Iomem bar) (offset value : U32) :
    SameWrites (pal_write32 base offset value) (write_reg (bar_number bar) offset value) where
  value := fun _ _ _ _ => rfl
  writes := by
    intro env m tenv history
    obtain ⟨new, hnew, hwrites⟩ := exec_write_reg tenv history (bar_number bar) offset value
    exact ⟨_, new, rfl, hnew, hwrites⟩

theorem WritesAlike.quiet_left {p : Pal α} {f : α → Pal β} {q : Tool γ} (hp : Quiet p)
    (h : ∀ a, WritesAlike (f a) q) : WritesAlike (p >>= f) q := by
  intro env m tenv history
  obtain ⟨first, hfirst, hquiet⟩ := hp env m
  obtain ⟨new, new', hnew, hnew', hsame⟩ := h (p.eval env m) env (p.exec env m) tenv history
  refine ⟨first ++ new, new', ?_, hnew', ?_⟩
  · rw [exec_bind, hnew, hfirst, List.append_assoc]
  · rw [reg_writes_append, hquiet, hsame, List.nil_append]

theorem WritesAlike.quiet_right {p : Pal α} {q : Tool β} {g : β → Tool γ} (hq : QuietTool q)
    (h : ∀ b, WritesAlike p (g b)) : WritesAlike p (q >>= g) := by
  intro env m tenv history
  obtain ⟨first, hfirst, hquiet⟩ := hq tenv history
  obtain ⟨new, new', hnew, hnew', hsame⟩ := h (q.eval tenv history) env m tenv (q.exec tenv history)
  refine ⟨new, first ++ new', hnew, ?_, ?_⟩
  · rw [exec_bind, hnew', hfirst, List.append_assoc]
  · rw [tool_writes_append, hquiet, hsame, List.nil_append]

theorem WritesAlike.quiet {p : Pal α} {q : Tool β} (hp : Quiet p) (hq : QuietTool q) : WritesAlike p q := by
  intro env m tenv history
  obtain ⟨new, hnew, hquiet⟩ := hp env m
  obtain ⟨new', hnew', hquiet'⟩ := hq tenv history
  exact ⟨new, new', hnew, hnew', by rw [hquiet, hquiet']⟩

theorem Quiet.pure (a : α) : Quiet (pure a) := fun _ _ => ⟨[], (List.append_nil _).symm, rfl⟩

theorem Quiet.get_ctx : Quiet get_ctx := fun _ _ => ⟨[], (List.append_nil _).symm, rfl⟩

theorem Quiet.bind {p : Pal α} {f : α → Pal β} (hp : Quiet p) (hf : ∀ a, Quiet (f a)) :
    Quiet (p >>= f) := by
  intro env m
  obtain ⟨xs, hxs, hquiet⟩ := hp env m
  obtain ⟨ys, hys, hquiet'⟩ := hf (p.eval env m) env (p.exec env m)
  refine ⟨xs ++ ys, ?_, by rw [reg_writes_append, hquiet, hquiet', List.append_nil]⟩
  rw [exec_bind, hys, hxs, List.append_assoc]

theorem Quiet.perform {e : Event} (he : reg_write e = none) : Quiet (perform e) :=
  fun _ _ => ⟨[e], rfl, by rw [reg_writes, List.filterMap_cons, he]; rfl⟩

theorem Quiet.read {bar : Bar} (base : Iomem bar) (offset : U32) : Quiet (pal_read32 base offset) :=
  fun _ _ => ⟨[.read bar base.addr offset], rfl, rfl⟩

theorem Quiet.when {c : Prop} [Decidable c] {p : Pal Unit} (hp : Quiet p) : Quiet (when c p) := by
  unfold Program.when
  split
  · exact hp
  · exact Quiet.pure ()

section asks

variable {Q R S : List RegWrite → Prop} {q : Tool α} {g : α → Tool β}

theorem Asks.pure (a : α) (hnil : Q []) : Asks Q (pure a : Tool α) :=
  fun _ _ => ⟨[], (List.append_nil _).symm, hnil⟩

theorem Asks.bind (hq : Asks Q q) (hg : ∀ a, Asks R (g a)) (hS : ∀ xs ys, Q xs → R ys → S (xs ++ ys)) :
    Asks S (q >>= g) := by
  intro env history
  obtain ⟨first, hfirst, hxs⟩ := hq env history
  obtain ⟨rest, hrest, hys⟩ := hg (q.eval env history) env (q.exec env history)
  refine ⟨first ++ rest, ?_, ?_⟩
  · rw [exec_bind, hrest, hfirst, List.append_assoc]
  · rw [tool_writes_append]
    exact hS _ _ hxs hys

theorem Asks.quiet_then (hq : QuietTool q) (hg : ∀ a, Asks R (g a)) : Asks R (q >>= g) := by
  refine hq.bind hg fun xs ys hxs hys => ?_
  rw [hxs, List.nil_append]
  exact hys

/-- A tool that starts with one write. -/
theorem Asks.write_then {w : RegWrite} (hq : Asks (· = [w]) q) (hg : ∀ a, Asks R (g a))
    (hS : ∀ ys, R ys → S (w :: ys)) : Asks S (q >>= g) := by
  refine hq.bind hg fun xs ys hxs hys => ?_
  rw [hxs, List.singleton_append]
  exact hS ys hys

theorem Asks.printf (fmt : String) (args : List LogArg) : QuietTool (printf fmt args) :=
  fun _ _ => ⟨[.printf fmt args], rfl, rfl⟩

theorem Asks.write_reg (bar : Int) (offset value : U32) :
    Asks (· = [⟨bar, offset, value⟩]) (write_reg bar offset value) :=
  fun env history => exec_write_reg env history bar offset value

theorem Asks.fix_bitbang_write_reg (bar : Int) (offset value : U32) :
    Asks (· = [⟨bar, offset, value⟩]) (fix_bitbang.write_reg bar offset value) :=
  fun _ _ => ⟨_, rfl, rfl⟩

end asks

end rules

end motu424.poke
