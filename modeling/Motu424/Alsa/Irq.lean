import Motu424.Alsa.Shadow

open Program

namespace motu424

inductive irqreturn_t where
  | irq_none
  | irq_handled
  deriving DecidableEq, Repr

/-- The callback of the sound core, by the substream it is told about. -/
def snd_pcm_period_elapsed (substream : Nat) : Pal Unit := perform (.period_elapsed substream)

/-- Tell the core about a substream that is open. -/
def notify_open : Option Nat → Pal Unit
  | none => pure ()
  | some substream => snd_pcm_period_elapsed substream

def motu424_irq_handler : Alsa Unit := do
  let motu ← Program.gets id
  let status ← shared (pal_read32 motu.machine.ctx.iobase_reg MOTU_REG_INT_STATUS)
  if status &&& MOTU_INT_PERIOD_ELAPSED = 0 then pure ()
  else do
    shared (pal_write32 motu.machine.ctx.iobase_reg MOTU_REG_INT_ACK status)
    shared (notify_open motu.playback_substream)
    shared (notify_open motu.capture_substream)

/-- The routine that `pal_irq_request` registers, with the handler stored in the
device. -/
def pal_linux_irq (irq_handler : Option (Alsa Unit)) : Alsa irqreturn_t := do
  match irq_handler with
  | none => pure ()
  | some handler => handler
  pure .irq_handled

/-- The interrupt line of the card as the driver has registered it. -/
def registered_irq : Alsa irqreturn_t := pal_linux_irq (some motu424_irq_handler)

section results

variable (env : Env) (motu : motu424_linux)

/-- The interrupt status that the routine finds. -/
def irq_status : U32 := env.read32 motu.machine.trace .reg MOTU_REG_INT_STATUS

/-- The card raised the interrupt. -/
def Raised : Prop := irq_status env motu &&& MOTU_INT_PERIOD_ELAPSED ≠ 0

instance : Decidable (Raised env motu) := inferInstanceAs (Decidable (_ ≠ _))

/-- One notice for each open substream. -/
def period_notices : List Event :=
  (motu.playback_substream.toList ++ motu.capture_substream.toList).map .period_elapsed

/-- The answer to an interrupt of the card: the acknowledgement, with the status
read, and the notices. -/
def irq_answer : List Event :=
  .write .reg motu.machine.ctx.iobase_reg.addr MOTU_REG_INT_ACK (irq_status env motu) :: period_notices motu

/-- All that is to be done at an interrupt of the line. -/
def irq_events : List Event :=
  .read .reg motu.machine.ctx.iobase_reg.addr MOTU_REG_INT_STATUS ::
    if Raised env motu then irq_answer env motu else []

/-- The interrupt is claimed exactly when the card raised it, and then and only
then it is answered. -/
structure ClaimsOwnIrq : Prop where
  claimed : registered_irq.eval env motu = .irq_handled ↔ Raised env motu
  effects : (registered_irq.exec env motu).machine.since motu.machine = irq_events env motu

theorem exec_notify_open (substream : Option Nat) (m : Machine) :
    (notify_open substream).exec env m = m.emit (substream.toList.map .period_elapsed) := by
  cases substream with
  | none => simp [notify_open]
  | some substream => rfl

theorem exec_registered_irq :
    registered_irq.exec env motu =
      { motu with machine := motu.machine.emit (irq_events env motu) } := by
  change motu424_irq_handler.exec env motu = _
  rw [motu424_irq_handler, exec_bind, exec_bind, exec_gets, eval_gets, irq_events]
  change (if irq_status env motu &&& MOTU_INT_PERIOD_ELAPSED = 0 then _ else _ : Alsa Unit).exec env _ = _
  by_cases hraised : Raised env motu
  · rw [if_neg hraised, if_pos hraised]
    simp [shared, exec_notify_open, irq_answer, period_notices]
    rfl
  · rw [if_pos (not_not.mp hraised), if_neg hraised]
    rfl

/-- The routine answers an interrupt as it should, but claims every one. -/
theorem claims_own_irq_iff : ClaimsOwnIrq env motu ↔ Raised env motu := by
  have hclaims : registered_irq.eval env motu = .irq_handled := rfl
  constructor
  · intro hown
    exact hown.claimed.mp hclaims
  · intro hraised
    constructor
    · exact iff_of_true hclaims hraised
    · rw [exec_registered_irq]
      exact since_emit _ _

end results

/-- The line is shared: this interrupt is another device's. -/
theorem foreign_irq_claimed :
    ¬ Raised .idle (no_streams ⟨mapped_ctx, []⟩) ∧
      registered_irq.eval .idle (no_streams ⟨mapped_ctx, []⟩) = .irq_handled ∧
      ¬ ClaimsOwnIrq .idle (no_streams ⟨mapped_ctx, []⟩) := by
  have hforeign : ¬ Raised .idle (no_streams ⟨mapped_ctx, []⟩) := by decide
  have hclaims : registered_irq.eval .idle (no_streams ⟨mapped_ctx, []⟩) = .irq_handled := rfl
  exact ⟨hforeign, hclaims, fun hown => hforeign (hown.claimed.mp hclaims)⟩

end motu424
