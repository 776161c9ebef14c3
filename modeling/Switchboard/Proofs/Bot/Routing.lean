import Switchboard.Proofs.Bot.Stages
import Switchboard.Proofs.Cooldown

/-!
# How far a message gets

A message gets as far as the check of its cooldown when the owner of the room
delivers it, the bot can speak there, the command is known and the actor may
use it.  What follows then depends on the cooldown alone; nothing is launched
for any other event.
-/

namespace Switchboard.World

/-- A message invokes a command and gets as far as the check of its
cooldown. -/
structure Reaches (event : Event) (entry : CatalogueEntry Handler)
    (world : World) : Prop where
  owner : world.territory.fleet.isOwner event.shred event.room = true
  kind : event.kind = .message
  command : ∃ word arguments,
    Message.parse? world.config.commands.commandPrefix event.bodyText =
        some (word, arguments) ∧
      world.commands.find? word = some entry
  speaks : ∃ chat, (world.territory.fleet.ownerOf event.room).bind
    (world.gateway.chat? · event.room) = some chat
  permitted : entry.definition.adminOnly = true →
    world.config.system.isAdmin event.actor = true

/-- A cooldown that starts now would end past the horizon of the clock. -/
def Endless (cooldown : Cooldown) (world : World) : Prop :=
  ∃ window, world.cooldowns.window? cooldown.bucket = some window ∧
    world.cooldowns.horizon < world.agenda.now + window

/-- The cooldown is checked, and the command is launched or refused. -/
def launchOrRefuse (entry : CatalogueEntry Handler) (event : Event)
    (arguments : String) (chat : Chat) (world : World) : Routed × World :=
  match world.acquire entry.definition event.origin with
  | (.limited remaining, world) =>
    (.ratelimited remaining,
      world.tell chat (Notice.ratelimited (Duration.ofMillis remaining)))
  | (.uncounted, world) => world.launchCommand entry event arguments chat none
  | (.reserved reservation, world) =>
    world.launchCommand entry event arguments chat (some reservation)
  | (.beyond, world) => (.panicked, world)

section

variable {event : Event} {entry other : CatalogueEntry Handler}
  {arguments : String} {chat : Chat} {world : World}

theorem Reaches.unique (reaches : Reaches event entry world)
    (alike : Reaches event other world) : entry = other := by
  obtain ⟨word, arguments, parsed, found⟩ := reaches.command
  obtain ⟨word', arguments', parsed', found'⟩ := alike.command
  cases parsed.symm.trans parsed'
  exact Option.some.inj (found.symm.trans found')

theorem Reaches.mem (reaches : Reaches event entry world) :
    entry ∈ world.commands.entries := by
  obtain ⟨word, _, _, found⟩ := reaches.command
  obtain ⟨position, _, here⟩ := Option.bind_eq_some_iff.mp found
  exact List.mem_of_getElem? here

theorem exists_reaches (word arguments : String) (chat : Chat)
    {limit : Option Cooldown}
    (owner : world.territory.fleet.isOwner event.shred event.room = true)
    (kind : event.kind = .message)
    (parsed : Message.parse? world.config.commands.commandPrefix
      event.bodyText = some (word, arguments))
    (speaks : (world.territory.fleet.ownerOf event.room).bind
      (world.gateway.chat? · event.room) = some chat)
    (known : (world.commands.find? word).map (fun entry =>
      (entry.definition.cooldown, entry.definition.adminOnly)) =
        some (limit, false)) :
    ∃ entry, Reaches event entry world ∧ entry.definition.cooldown = limit := by
  obtain ⟨entry, found, same⟩ := Option.map_eq_some_iff.mp known
  have everybody : entry.definition.adminOnly = false := congrArg Prod.snd same
  refine ⟨entry, ⟨owner, kind, ⟨word, arguments, parsed, found⟩,
    ⟨chat, speaks⟩, fun admin => ?_⟩, congrArg Prod.fst same⟩
  cases everybody.symm.trans admin

theorem invoke_of_permitted
    (permitted : entry.definition.adminOnly = true →
      world.config.system.isAdmin event.actor = true) :
    world.invoke entry event arguments chat =
      world.launchOrRefuse entry event arguments chat := by
  unfold invoke
  rw [if_neg]
  · rfl
  · intro refused
    simp only [Bool.and_eq_true, Bool.not_eq_true'] at refused
    rw [permitted refused.1] at refused
    cases refused.2

theorem dispatch_rest (event : Event) (world : World) :
    ∃ agenda waiter, (world.dispatch event).2 =
        { world with agenda, waiter } ∧ agenda.now = world.agenda.now := by
  have wakes : ∀ (ids : List SubscriptionId) (world : World),
      ∃ agenda, ids.foldl (fun world id => world.wakeWatchers id) world =
        { world with agenda } := by
    intro ids
    induction ids with
    | nil => exact fun world => ⟨world.agenda, rfl⟩
    | cons id rest induction =>
        intro world
        obtain ⟨agenda, woken⟩ := induction (world.wakeWatchers id)
        exact ⟨agenda, woken⟩
  have frame : Frame 0 (fun _ => False) world (world.dispatch event).2 :=
    .dispatch event
  obtain ⟨agenda, woken⟩ := wakes (world.waiter.dispatch event).1
    { world with waiter := (world.waiter.dispatch event).2 }
  have whole : (world.dispatch event).2 =
      { world with agenda, waiter := (world.waiter.dispatch event).2 } := woken
  refine ⟨agenda, _, whole, ?_⟩
  rw [← frame.agenda.now, whole]

theorem receive_of_reaches (reaches : Reaches event entry world) :
    ∃ (agenda : Agenda) (waiter : Waiter) (arguments : String) (chat : Chat),
      agenda.now = world.agenda.now ∧
        world.receive event =
          ({ world with agenda, waiter } : World).launchOrRefuse entry event
            arguments chat := by
  obtain ⟨agenda, waiter, offered, now⟩ := dispatch_rest event world
  obtain ⟨word, arguments, parsed, found⟩ := reaches.command
  obtain ⟨chat, speaks⟩ := reaches.speaks
  refine ⟨agenda, waiter, arguments, chat, now,
    Eq.trans ?_ (invoke_of_permitted (by exact reaches.permitted))⟩
  unfold receive
  simp only [reaches.owner, reaches.kind, offered, Bool.not_true,
    Bool.false_eq_true, if_false]
  unfold route
  simp only [parsed, found]
  have heard : (world.territory.fleet.ownerOf event.room).bind
      (({ world with agenda, waiter } : World).gateway.chat? · event.room) =
        some chat := speaks
  rw [heard]

theorem receive_of_not_reaches
    (fails : ∀ entry, ¬Reaches event entry world) :
    (∀ pid, (world.receive event).1 ≠ .launched pid) ∧
      Steady world (world.receive event).2 ∧
      ((world.receive event).2.tasks = world.tasks ∨ ∃ stage,
        (world.receive event).2.tasks = world.tasks ++ [.notice stage]) := by
  obtain ⟨agenda, waiter, offered, now⟩ := dispatch_rest event world
  have steady : Steady world { world with agenda, waiter } := ⟨rfl, now, rfl⟩
  unfold receive
  split
  · exact ⟨by simp, .refl world, .inl rfl⟩
  · rename_i owner
    simp only [Bool.not_eq_true, Bool.not_eq_false'] at owner
    dsimp only
    rw [offered]
    split
    · rename_i kind
      unfold route
      dsimp only
      split
      · exact ⟨by simp, steady, .inl rfl⟩
      · rename_i word arguments parsed
        split
        · exact ⟨by simp, steady, .inl rfl⟩
        · rename_i chat speaks
          split
          · exact ⟨by simp, steady.trans ⟨rfl, (Agenda.Extends.wake _ _).now,
              rfl⟩, .inr ⟨_, rfl⟩⟩
          · rename_i entry found
            unfold invoke
            split
            · exact ⟨by simp, steady.trans ⟨rfl,
                (Agenda.Extends.wake _ _).now, rfl⟩, .inr ⟨_, rfl⟩⟩
            · rename_i permitted
              refine absurd ?_ (fails entry)
              refine ⟨owner, kind, ⟨word, arguments, parsed, found⟩,
                ⟨chat, speaks⟩, fun adminOnly => ?_⟩
              simpa [adminOnly] using permitted
    · exact ⟨by simp, steady, .inl rfl⟩

theorem launchCommand_eq (entry : CatalogueEntry Handler) (event : Event)
    (arguments : String) (chat : Chat) (reservation : Option Reservation)
    (world : World) :
    ∃ task : ProcessTask,
      (world.launchCommand entry event arguments chat reservation).1 =
          .launched task.pid ∧
        (world.launchCommand entry event arguments chat
          reservation).2.tasks = world.tasks ++ [.process task] ∧
        task.pid = world.processes.all.length ∧
        task.reservation? = reservation ∧
        Steady world (world.launchCommand entry event arguments chat
          reservation).2 :=
  ⟨_, rfl, rfl, rfl, rfl, rfl, (Agenda.Extends.wake _ _).now, rfl⟩

theorem receive_of_free (reaches : Reaches event entry world)
    (free : entry.definition.cooldown = none) :
    ∃ task : ProcessTask,
      (world.receive event).1 = .launched task.pid ∧
        (world.receive event).2.tasks = world.tasks ++ [.process task] ∧
        task.pid = world.processes.all.length ∧ task.reservation? = none ∧
        Steady world (world.receive event).2 := by
  obtain ⟨agenda, waiter, arguments, chat, now, received⟩ :=
    receive_of_reaches reaches
  have launches :
      ({ world with agenda, waiter } : World).launchOrRefuse entry event
          arguments chat =
        ({ world with agenda, waiter } : World).launchCommand entry event
          arguments chat none := by
    unfold launchOrRefuse acquire
    rw [free]
  obtain ⟨task, launched, tasks, pid, reserved, steady⟩ := launchCommand_eq
    entry event arguments chat none { world with agenda, waiter }
  have offered : Steady world { world with agenda, waiter } :=
    ⟨rfl, now, rfl⟩
  rw [received, launches]
  exact ⟨task, launched, tasks, pid, reserved, offered.trans steady⟩

variable {cooldown : Cooldown} {moment window : Nat}

theorem receive_of_running (reaches : Reaches event entry world)
    (uses : entry.definition.cooldown = some cooldown)
    (running : world.cooldowns.ends? world.agenda.now cooldown.bucket
      (cooldown.keyFor event.origin) = some moment) :
    (world.receive event).1 = .ratelimited (moment - world.agenda.now) ∧
      (∃ stage, (world.receive event).2.tasks =
        world.tasks ++ [.notice stage]) ∧
      (world.receive event).2.commands = world.commands ∧
      (world.receive event).2.agenda.now = world.agenda.now ∧
      (world.receive event).2.cooldowns.horizon = world.cooldowns.horizon ∧
      (∀ name, (world.receive event).2.cooldowns.window? name =
        world.cooldowns.window? name) ∧
      ∀ name key, (world.receive event).2.cooldowns.ends?
          world.agenda.now name key =
        world.cooldowns.ends? world.agenda.now name key := by
  obtain ⟨agenda, waiter, arguments, chat, now, received⟩ :=
    receive_of_reaches reaches
  obtain ⟨answer, windows, ends⟩ := Cooldowns.acquire_of_running running
  have horizon := world.cooldowns.horizon_acquire world.agenda.now
    cooldown.bucket (cooldown.keyFor event.origin)
  rw [received]
  unfold launchOrRefuse acquire
  rw [uses]
  simp only [now]
  generalize world.cooldowns.acquire world.agenda.now cooldown.bucket
    (cooldown.keyFor event.origin) = result at answer windows ends horizon
  obtain ⟨admission, cooldowns⟩ := result
  cases answer
  exact ⟨rfl, ⟨_, rfl⟩, rfl, (Agenda.Extends.wake _ _).now.trans now,
    horizon, windows, ends⟩

theorem receive_of_beyond (reaches : Reaches event entry world)
    (uses : entry.definition.cooldown = some cooldown)
    (declared : world.cooldowns.window? cooldown.bucket = some window)
    (idle : world.cooldowns.ends? world.agenda.now cooldown.bucket
      (cooldown.keyFor event.origin) = none)
    (beyond : world.cooldowns.horizon < world.agenda.now + window) :
    (world.receive event).1 = .panicked ∧
      (world.receive event).2.tasks = world.tasks ∧
      (world.receive event).2.commands = world.commands ∧
      (world.receive event).2.agenda.now = world.agenda.now ∧
      (world.receive event).2.cooldowns.horizon = world.cooldowns.horizon ∧
      (∀ name, (world.receive event).2.cooldowns.window? name =
        world.cooldowns.window? name) ∧
      ∀ name key, (world.receive event).2.cooldowns.ends?
          world.agenda.now name key =
        world.cooldowns.ends? world.agenda.now name key := by
  obtain ⟨agenda, waiter, arguments, chat, now, received⟩ :=
    receive_of_reaches reaches
  obtain ⟨answer, windows, ends⟩ :=
    Cooldowns.acquire_of_beyond declared idle beyond
  have horizon := world.cooldowns.horizon_acquire world.agenda.now
    cooldown.bucket (cooldown.keyFor event.origin)
  rw [received]
  unfold launchOrRefuse acquire
  rw [uses]
  simp only [now]
  generalize world.cooldowns.acquire world.agenda.now cooldown.bucket
    (cooldown.keyFor event.origin) = result at answer windows ends horizon
  obtain ⟨admission, cooldowns⟩ := result
  cases answer
  exact ⟨rfl, rfl, rfl, now, horizon, windows, ends⟩

/-- While no cooldown of its key is running a command is launched, and its
cooldown starts. -/
theorem receive_of_idle (reaches : Reaches event entry world)
    (uses : entry.definition.cooldown = some cooldown)
    (declared : world.cooldowns.window? cooldown.bucket = some window)
    (idle : world.cooldowns.ends? world.agenda.now cooldown.bucket
      (cooldown.keyFor event.origin) = none)
    (within : world.agenda.now + window ≤ world.cooldowns.horizon) :
    ∃ task : ProcessTask,
      (world.receive event).1 = .launched task.pid ∧
        (world.receive event).2.tasks = world.tasks ++ [.process task] ∧
        task.pid = world.processes.all.length ∧
        task.reservation? = some
          { bucket := cooldown.bucket, key := cooldown.keyFor event.origin
            expires := world.agenda.now + window } ∧
        (world.receive event).2.commands = world.commands ∧
        (world.receive event).2.agenda.now = world.agenda.now ∧
        (world.receive event).2.cooldowns.horizon =
          world.cooldowns.horizon ∧
        (∀ name, (world.receive event).2.cooldowns.window? name =
          world.cooldowns.window? name) ∧
        ∀ name key, (world.receive event).2.cooldowns.ends?
            world.agenda.now name key =
          if name = cooldown.bucket ∧ key = cooldown.keyFor event.origin
            then (some (world.agenda.now + window)).filter
              (world.agenda.now < ·)
            else world.cooldowns.ends? world.agenda.now name key := by
  obtain ⟨agenda, waiter, arguments, chat, now, received⟩ :=
    receive_of_reaches reaches
  obtain ⟨answer, windows, ends⟩ :=
    Cooldowns.acquire_of_idle declared idle within
  have horizon := world.cooldowns.horizon_acquire world.agenda.now
    cooldown.bucket (cooldown.keyFor event.origin)
  rw [received]
  unfold launchOrRefuse acquire
  rw [uses]
  simp only [now]
  generalize world.cooldowns.acquire world.agenda.now cooldown.bucket
    (cooldown.keyFor event.origin) = result at answer windows ends horizon
  obtain ⟨admission, cooldowns⟩ := result
  cases answer
  obtain ⟨task, launched, tasks, pid, reserved, steady⟩ := launchCommand_eq
    entry event arguments chat
      (some ⟨cooldown.bucket, cooldown.keyFor event.origin,
        world.agenda.now + window⟩)
      { world with agenda, waiter, cooldowns }
  refine ⟨task, launched, tasks, pid, reserved, steady.commands,
    steady.now.trans now, ?_, fun name => ?_, fun name key => ?_⟩
  · exact (congrArg Cooldowns.horizon steady.cooldowns).trans horizon
  · exact (congrArg (Cooldowns.window? name) steady.cooldowns).trans
      (windows name)
  · exact (congrArg (Cooldowns.ends? world.agenda.now name key)
      steady.cooldowns).trans (ends name key)

end

end Switchboard.World
