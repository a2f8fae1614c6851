import Motu424.Pal.Trace

open Program

namespace motu424

/-- The pointer a context holds for a BAR. -/
def motu424_ctx.base (ctx : motu424_ctx) : Bar → Option Nat
  | .dsp => ctx.iobase_dsp.addr
  | .reg => ctx.iobase_reg.addr
  | .port => ctx.iobase_port.addr

/-- A machine that has a good context and has appended only good events to a
given trace. -/
def Machine.Extends (K : motu424_ctx → Prop) (P : Event → Prop) (before : List Event)
    (m : Machine) : Prop :=
  K m.ctx ∧ ∃ new, m.trace = before ++ new ∧ ∀ e ∈ new, P e

/-- Whatever the program does, it keeps `K` of the context and appends only
events with `P` to the trace. -/
def Emits (env : Env) (K : motu424_ctx → Prop) (P : Event → Prop) {α : Type} (p : Pal α) : Prop :=
  ∀ before, Preserves env (Machine.Extends K P before) p

section rules

variable {env : Env} {K : motu424_ctx → Prop} {P Q : Event → Prop} {α β ι : Type}

theorem Emits.spec {p : Pal α} (hp : Emits env K P p) (m : Machine) (hm : K m.ctx) :
    K (p.exec env m).ctx ∧
      ∃ new, (p.exec env m).trace = m.trace ++ new ∧ ∀ e ∈ new, P e :=
  hp m.trace m ⟨hm, [], by simp⟩

theorem Emits.of_spec {p : Pal α} (hp : ∀ m, K m.ctx → K (p.exec env m).ctx ∧
    ∃ new, (p.exec env m).trace = m.trace ++ new ∧ ∀ e ∈ new, P e) : Emits env K P p := by
  rintro before m ⟨hm, new, htrace, hnew⟩
  obtain ⟨hctx, more, hmore, hgood⟩ := hp m hm
  refine ⟨hctx, new ++ more, ?_, ?_⟩
  · rw [hmore, htrace, List.append_assoc]
  · intro e he
    rcases List.mem_append.mp he with h | h
    · exact hnew e h
    · exact hgood e h

theorem Emits.mono {p : Pal α} (hp : Emits env K P p) (hPQ : ∀ e, P e → Q e) :
    Emits env K Q p := by
  apply Emits.of_spec
  intro m hm
  obtain ⟨hctx, new, htrace, hnew⟩ := hp.spec m hm
  exact ⟨hctx, new, htrace, fun e he => hPQ e (hnew e he)⟩

theorem Emits.pure (a : α) : Emits env K P (pure a : Pal α) := fun _ => Preserves.pure a

theorem Emits.bind {p : Pal α} {f : α → Pal β} (hp : Emits env K P p)
    (hf : ∀ a, Emits env K P (f a)) : Emits env K P (p >>= f) :=
  fun before => (hp before).bind fun a => hf a before

theorem Emits.ite {c : Prop} [Decidable c] {p q : Pal α} (hp : c → Emits env K P p)
    (hq : ¬ c → Emits env K P q) : Emits env K P (if c then p else q) :=
  fun before => Preserves.ite (fun hc => hp hc before) (fun hc => hq hc before)

theorem Emits.when {c : Prop} [Decidable c] {p : Pal Unit} (hp : c → Emits env K P p) :
    Emits env K P (when c p) :=
  Emits.ite hp fun _ => Emits.pure ()

theorem Emits.forEach {body : ι → Pal Unit} {is : List ι} (hbody : ∀ i ∈ is, Emits env K P (body i)) :
    Emits env K P (forEach is body) :=
  fun before => Preserves.forEach fun i hi => hbody i hi before

/-- A program that starts by reading the context may use that it is good. -/
theorem Emits.get_ctx {f : motu424_ctx → Pal α} (hf : ∀ c, K c → Emits env K P (f c)) :
    Emits env K P (get_ctx >>= f) :=
  fun before => Preserves.bind_gets _ fun m hm => hf m.ctx hm.1 before m hm

theorem Emits.set_ctx {f : motu424_ctx → motu424_ctx} (hf : ∀ c, K c → K (f c)) :
    Emits env K P (set_ctx f) :=
  fun _ m hm => ⟨hf m.ctx hm.1, hm.2⟩

theorem Emits.perform {e : Event} (he : P e) : Emits env K P (perform e) :=
  Emits.of_spec fun m hm => ⟨hm, [e], rfl, by simpa using he⟩

/-- Logging is no access. -/
theorem Emits.pal_log {level : LogLevel} {fmt : String} {args : List LogArg} :
    Emits env K Event.Mapped (pal_log level fmt args) := Emits.perform trivial

theorem Emits.pal_write32 {bar : Bar} {base : Iomem bar} {offset value : U32}
    (he : P (.write bar base.addr offset value)) :
    Emits env K P (pal_write32 base offset value) := Emits.perform he

theorem Emits.pal_read32 {bar : Bar} {base : Iomem bar} {offset : U32}
    (he : P (.read bar base.addr offset)) : Emits env K P (pal_read32 base offset) :=
  Emits.of_spec fun m hm => ⟨hm, [.read bar base.addr offset], rfl, by simpa using he⟩

end rules

/-- Whatever the program does, it keeps `K` of the context and only appends to
the trace. -/
abbrev Appends (env : Env) (K : motu424_ctx → Prop) {α : Type} (p : Pal α) : Prop :=
  Emits env K (fun _ => True) p

/-- Started on a good context, the program keeps it good and performs the event. -/
def Reaches (env : Env) (K : motu424_ctx → Prop) (e : Event) {α : Type} (p : Pal α) : Prop :=
  ∀ m, K m.ctx → K (p.exec env m).ctx ∧ ∃ new, (p.exec env m).trace = m.trace ++ new ∧ e ∈ new

section reaches

variable {env : Env} {K : motu424_ctx → Prop} {P : Event → Prop} {e : Event} {α β : Type}

theorem Emits.appends {p : Pal α} (hp : Emits env K P p) : Appends env K p :=
  hp.mono fun _ _ => trivial

theorem Reaches.pal_write32 {bar : Bar} {base : Iomem bar} {offset value : U32}
    (he : e = .write bar base.addr offset value) : Reaches env K e (pal_write32 base offset value) :=
  fun _ hm => ⟨hm, [e], by rw [he]; rfl, by simp⟩

theorem Reaches.get_ctx {f : motu424_ctx → Pal α} (hf : ∀ c, K c → Reaches env K e (f c)) :
    Reaches env K e (get_ctx >>= f) := fun m hm => hf m.ctx hm m hm

/-- The event is performed by the first part. -/
theorem Reaches.bind_left {p : Pal α} {f : α → Pal β} (hp : Reaches env K e p)
    (hf : ∀ a, Appends env K (f a)) : Reaches env K e (p >>= f) := by
  intro m hm
  obtain ⟨hctx, new, hnew, he⟩ := hp m hm
  obtain ⟨hctx', more, hmore, _⟩ := (hf (p.eval env m)).spec (p.exec env m) hctx
  refine ⟨hctx', new ++ more, ?_, List.mem_append_left more he⟩
  rw [exec_bind, hmore, hnew, List.append_assoc]

/-- The event is performed by the second part. -/
theorem Reaches.bind_right {p : Pal α} {f : α → Pal β} (hp : Emits env K P p)
    (hf : ∀ a, Reaches env K e (f a)) : Reaches env K e (p >>= f) := by
  intro m hm
  obtain ⟨hctx, new, hnew, _⟩ := hp.spec m hm
  obtain ⟨hctx', more, hmore, he⟩ := hf (p.eval env m) (p.exec env m) hctx
  refine ⟨hctx', new ++ more, ?_, List.mem_append_right new he⟩
  rw [exec_bind, hmore, hnew, List.append_assoc]

end reaches

end motu424
