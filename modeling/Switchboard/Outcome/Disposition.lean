import Switchboard.Outcome
import Switchboard.Notice

/-!
# What follows from an outcome

What the user sees of a command's end, whether operators hear of it, and whether
the use still counts against the cooldown.
-/

namespace Switchboard

/-- How much attention the log gives to an end. -/
inductive Severity where
  | debug
  | info
  | error
deriving DecidableEq, Repr

/-- The consequences of a command's end. -/
structure Disposition where
  notice : Option String := none
  reportOperator : Bool := false
  keepCooldown : Bool := true
  severity : Severity := .debug
deriving DecidableEq, Repr

def Outcome.disposition : Outcome → Disposition
  | .ok () => {}
  | .error .exit => {}
  | .error .timeout => { notice := some Notice.noLongerWaiting }
  | .error .resourceGone => { notice := some Notice.watchedGone }
  | .error .interrupted =>
    { notice := some Notice.commandKilled, severity := .info }
  | .error .cancelled =>
    { notice := some Notice.commandCancelled, keepCooldown := false }
  | .error (.failure text counts) =>
    { notice := some text, keepCooldown := counts, severity := .info }
  | .error (.internal _) =>
    { notice := some Notice.internalFault
      reportOperator := true
      keepCooldown := false
      severity := .error }

end Switchboard
