import Switchboard.Proofs.Bot.HeldSubscriptions
import Switchboard.Proofs.Bot.Routing

/-!
# How an event is received

The checks of the router, in their order: the first one that fails decides the
answer.  For each answer `Reception` says what has become of the bot, which is
the bot once the event has been offered, with at most one more task.
-/

namespace Switchboard.World

/-- A message of the owner of its room is a word with arguments, and the bot
can speak where it was sent. -/
structure Addressed (event : Event) (word arguments : String) (chat : Chat)
    (world : World) : Prop where
  owner : world.territory.fleet.isOwner event.shred event.room = true
  kind : event.kind = .message
  parsed : Message.parse? world.config.commands.commandPrefix event.bodyText =
    some (word, arguments)
  speaks : (world.territory.fleet.ownerOf event.room).bind
    (world.gateway.chat? · event.room) = some chat

/-- The event has been offered to the subscriptions. -/
def offered (event : Event) (world : World) : World := (world.dispatch event).2

/-- Whether a use is admitted, and the cooldowns once it has been asked. -/
def admission (command : CommandDef) (origin : Origin) (world : World) :
    Admission × Cooldowns :=
  match command.cooldown with
  | none => (.uncounted, world.cooldowns)
  | some cooldown =>
    world.cooldowns.acquire world.agenda.now cooldown.bucket
      (cooldown.keyFor origin)

/-- What becomes of an event, one case for each way out of the router. -/
inductive Reception (event : Event) (world : World) : Routed × World → Prop
    where
  | foreign :
      world.territory.fleet.isOwner event.shred event.room = false →
      Reception event world (.notOwner, world)
  | heard :
      world.territory.fleet.isOwner event.shred event.room = true →
      (event.kind = .message → Message.parse?
        world.config.commands.commandPrefix event.bodyText = none) →
      Reception event world (.ignored, world.offered event)
  | mute :
      world.territory.fleet.isOwner event.shred event.room = true →
      (world.territory.fleet.ownerOf event.room).bind
        (world.gateway.chat? · event.room) = none →
      Reception event world (.noShred, world.offered event)
  | unknown {word arguments : String} {chat : Chat} :
      Addressed event word arguments chat world →
      world.commands.find? word = none →
      Reception event world
        (.unknown, (world.offered event).tell chat Notice.unknownCommand)
  | denied {word arguments : String} {chat : Chat}
      {entry : CatalogueEntry Handler} :
      Addressed event word arguments chat world →
      world.commands.find? word = some entry →
      entry.definition.adminOnly = true →
      world.config.system.isAdmin event.actor = false →
      Reception event world
        (.adminOnly, (world.offered event).tell chat Notice.authDenied)
  | limited {word arguments : String} {chat : Chat}
      {entry : CatalogueEntry Handler} {remaining : Nat}
      {cooldowns : Cooldowns} :
      Addressed event word arguments chat world →
      Reaches event entry world →
      world.admission entry.definition event.origin =
        (.limited remaining, cooldowns) →
      Reception event world (.ratelimited remaining,
        ({ world.offered event with cooldowns } : World).tell chat
          (Notice.ratelimited (Duration.ofMillis remaining)))
  | free {word arguments : String} {chat : Chat}
      {entry : CatalogueEntry Handler} {cooldowns : Cooldowns} :
      Addressed event word arguments chat world →
      Reaches event entry world →
      world.admission entry.definition event.origin =
        (.uncounted, cooldowns) →
      Reception event world
        (({ world.offered event with cooldowns } : World).launchCommand entry
          event arguments chat none)
  | counted {word arguments : String} {chat : Chat}
      {entry : CatalogueEntry Handler} {reservation : Reservation}
      {cooldowns : Cooldowns} :
      Addressed event word arguments chat world →
      Reaches event entry world →
      world.admission entry.definition event.origin =
        (.reserved reservation, cooldowns) →
      Reception event world
        (({ world.offered event with cooldowns } : World).launchCommand entry
          event arguments chat (some reservation))
  | broken {word arguments : String} {chat : Chat}
      {entry : CatalogueEntry Handler} {cooldowns : Cooldowns} :
      Addressed event word arguments chat world →
      Reaches event entry world →
      world.admission entry.definition event.origin = (.beyond, cooldowns) →
      Reception event world
        (.panicked, { world.offered event with cooldowns })

section

variable {event : Event} {word arguments : String} {chat : Chat}
  {entry : CatalogueEntry Handler} {world : World}

theorem Addressed.reaches
    (addressed : Addressed event word arguments chat world)
    (found : world.commands.find? word = some entry)
    (permitted : entry.definition.adminOnly = true →
      world.config.system.isAdmin event.actor = true) :
    Reaches event entry world where
  owner := addressed.owner
  kind := addressed.kind
  command := ⟨word, arguments, addressed.parsed, found⟩
  speaks := ⟨chat, addressed.speaks⟩
  permitted := permitted

theorem acquire_eq (command : CommandDef) (origin : Origin) (world : World) :
    world.acquire command origin = ((world.admission command origin).1,
      { world with cooldowns := (world.admission command origin).2 }) := by
  unfold acquire admission
  cases command.cooldown <;> rfl

theorem invoke_reception {agenda : Agenda} {waiter : Waiter}
    (addressed : Addressed event word arguments chat world)
    (found : world.commands.find? word = some entry)
    (heard : world.offered event = { world with agenda, waiter })
    (now : agenda.now = world.agenda.now) :
    Reception event world
      ((world.offered event).invoke entry event arguments chat) := by
  have config : (world.offered event).config = world.config := by rw [heard]
  have same : (world.offered event).admission entry.definition event.origin =
      world.admission entry.definition event.origin := by
    rw [heard, admission, admission, now]
  unfold invoke
  rw [config, acquire_eq, same]
  split
  · rename_i refused
    simp only [Bool.and_eq_true, Bool.not_eq_true'] at refused
    exact .denied addressed found refused.1 refused.2
  · rename_i permitted
    have reaches : Reaches event entry world := by
      apply addressed.reaches found
      intro adminOnly
      simpa [adminOnly] using permitted
    generalize asked : world.admission entry.definition event.origin = result
    obtain ⟨answer, cooldowns⟩ := result
    cases answer with
    | limited remaining => exact .limited addressed reaches asked
    | uncounted => exact .free addressed reaches asked
    | reserved reservation => exact .counted addressed reaches asked
    | beyond => exact .broken addressed reaches asked

theorem route_reception {agenda : Agenda} {waiter : Waiter}
    (owner : world.territory.fleet.isOwner event.shred event.room = true)
    (kind : event.kind = .message)
    (heard : world.offered event = { world with agenda, waiter })
    (now : agenda.now = world.agenda.now) :
    Reception event world ((world.offered event).route event) := by
  have config : (world.offered event).config = world.config := by rw [heard]
  have territory : (world.offered event).territory = world.territory := by
    rw [heard]
  have commands : (world.offered event).commands = world.commands := by
    rw [heard]
  unfold route gateway
  rw [config, territory, commands]
  cases parsed : Message.parse? world.config.commands.commandPrefix
      event.bodyText with
  | none => exact .heard owner fun _ => parsed
  | some pair =>
      obtain ⟨word, arguments⟩ := pair
      dsimp only
      cases speaks : (world.territory.fleet.ownerOf event.room).bind
          (world.territory.gateway.chat? · event.room) with
      | none => exact .mute owner speaks
      | some chat =>
          have addressed : Addressed event word arguments chat world :=
            ⟨owner, kind, parsed, speaks⟩
          dsimp only
          cases found : world.commands.find? word with
          | none => exact .unknown addressed found
          | some entry => exact invoke_reception addressed found heard now

theorem receive_reception (event : Event) (world : World) :
    Reception event world (world.receive event) := by
  cases owner : world.territory.fleet.isOwner event.shred event.room with
  | false =>
      have refused : world.receive event = (.notOwner, world) := by
        simp [receive, owner]
      exact refused ▸ .foreign owner
  | true =>
      obtain ⟨agenda, waiter, rest, now⟩ := dispatch_rest event world
      have heard : world.offered event = { world with agenda, waiter } := rest
      by_cases kind : event.kind = .message
      · have routed : world.receive event =
            (world.offered event).route event := by
          simp [receive, owner, kind, offered]
        rw [routed]
        exact route_reception owner kind heard now
      · have ignored : world.receive event =
            (.ignored, world.offered event) := by
          unfold receive
          rw [owner]
          cases other : event.kind with
          | message => exact absurd other kind
          | _ => rfl
        exact ignored ▸ .heard owner fun message => absurd message kind

end

end Switchboard.World
