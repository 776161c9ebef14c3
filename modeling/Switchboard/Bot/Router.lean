import Switchboard.Bot.Turn
import Switchboard.Message

/-!
# Routing events

An event counts when the owner of its room delivers it. It is offered to the
subscriptions; a message that invokes a command then becomes a process once the
checks for privilege and cooldown pass. Routing takes no time: notices and
commands run as tasks.
-/

namespace Switchboard

inductive Routed where
  /-- Another identity owns the room. -/
  | notOwner
  | ignored
  /-- Nobody can speak in the room. -/
  | noShred
  | unknown
  | adminOnly
  | ratelimited (remaining : Nat)
  | launched (pid : Pid)
  /-- The call has broken off with a panic: the cooldown of the command would
  end past the horizon of the clock. -/
  | panicked
deriving DecidableEq, Repr

namespace World

/-- Launches a process whose body is built when it first gets the floor. -/
def launch (command : CommandDef) (event : Event) (chat : Chat)
    (body : Except PanicPayload (Program Unit)) (aftermath : Option Aftermath)
    (world : World) :
    Pid × World :=
  let process :=
    { command, origin := event.origin, startedAt := world.wallClock,
      task := world.tasks.length }
  let (pid, processes) := world.processes.add process
  let task :=
    { pid, invocation := event, chat, stage := .unbuilt body, aftermath }
  (pid, { world with processes }.spawn (.process task))

def invocationOf (pid : Pid) (event : Event) (arguments : String)
    (world : World) : Invocation where
  pid := pid
  event := event
  arguments := arguments
  isAdmin := world.config.system.isAdmin event.actor
  commandPrefix := world.config.commands.commandPrefix
  askTimeout := millisOfSeconds world.config.commands.askTimeout
  confirmTimeout := millisOfSeconds world.config.commands.confirmTimeout
  livenessPoll := millisOfSeconds world.config.commands.livenessPoll
  commands := world.commands.definitions

/-- Tells the room something in a task of its own. -/
def tell (chat : Chat) (text : String) (world : World) : World :=
  world.spawn (.notice (.fresh chat text))

def acquire (command : CommandDef) (origin : Origin) (world : World) :
    Admission × World :=
  match command.cooldown with
  | none => (.uncounted, world)
  | some cooldown =>
    let (admission, cooldowns) :=
      world.cooldowns.acquire world.agenda.now cooldown.bucket
        (cooldown.keyFor origin)
    (admission, { world with cooldowns })

def launchCommand (entry : CatalogueEntry Handler) (event : Event)
    (arguments : String) (chat : Chat) (reservation : Option Reservation)
    (world : World) : Routed × World :=
  let invocation :=
    world.invocationOf world.processes.all.length event arguments
  let (pid, world) :=
    world.launch entry.definition event chat (.ok (entry.handler invocation))
      (some { chat, reservation })
  (.launched pid, world)

/-- A message that invokes a known command: it is checked and launched. -/
def invoke (entry : CatalogueEntry Handler) (event : Event) (arguments : String)
    (chat : Chat) (world : World) : Routed × World :=
  if entry.definition.adminOnly && !world.config.system.isAdmin event.actor then
    (.adminOnly, world.tell chat Notice.authDenied)
  else
    match world.acquire entry.definition event.origin with
    | (.limited remaining, world) =>
      (.ratelimited remaining,
        world.tell chat (Notice.ratelimited (Duration.ofMillis remaining)))
    | (.uncounted, world) => world.launchCommand entry event arguments chat none
    | (.reserved reservation, world) =>
      world.launchCommand entry event arguments chat (some reservation)
    | (.beyond, world) => (.panicked, world)

/-- A message of the owner of its room. -/
def route (event : Event) (world : World) : Routed × World :=
  match Message.parse? world.config.commands.commandPrefix event.bodyText with
  | none => (.ignored, world)
  | some (word, arguments) =>
    match (world.territory.fleet.ownerOf event.room).bind
        (world.gateway.chat? · event.room) with
    | none => (.noShred, world)
    | some chat =>
      match world.commands.find? word with
      | none => (.unknown, world.tell chat Notice.unknownCommand)
      | some entry => world.invoke entry event arguments chat

def receive (event : Event) (world : World) : Routed × World :=
  if !world.territory.fleet.isOwner event.shred event.room
    then (.notOwner, world)
  else
    let (_, world) := world.dispatch event
    match event.kind with
    | .message => world.route event
    | _ => (.ignored, world)

/-- A bot with the given settings and commands, overrides applied and buckets
declared, on a host whose clock can tell no moment past the horizon. -/
def start (config : Config) (commands : Catalogue Handler) (horizon : Nat) :
    World :=
  let commands := commands.overrideAll config.commands.overrides
  { config, commands, cooldowns := commands.cooldowns horizon }

def register (name : String) (world : World) : ShredId × World :=
  let (shred, fleet) := world.territory.fleet.register
  (shred, (world.modifyFleet fun _ => fleet).modifyGateway fun gateway =>
    gateway.connect name)

def report (shred : ShredId) (rooms : List String) (world : World) :
    List String × World :=
  let (contested, fleet) := world.territory.fleet.report shred rooms
  (contested, world.modifyFleet fun _ => fleet)

def joined (shred : ShredId) (room : String) (world : World) : Bool × World :=
  let (clash, fleet) := world.territory.fleet.joined shred room
  (clash, world.modifyFleet fun _ => fleet)

def left (shred : ShredId) (room : String) (world : World) : World :=
  world.modifyFleet fun fleet => fleet.left shred room

def disconnected (shred : ShredId) (world : World) : World :=
  world.modifyFleet fun fleet => fleet.disconnected shred

def checkCooldown (bucket key : String) (world : World) : Option Nat × World :=
  let (remaining, cooldowns) :=
    world.cooldowns.check world.agenda.now bucket key
  (remaining, { world with cooldowns })

end World

end Switchboard
