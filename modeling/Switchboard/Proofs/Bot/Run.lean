import Switchboard.Bot.Router
import Switchboard.Proofs.Agenda
import Switchboard.Proofs.Fleet.Territory
import Switchboard.Proofs.Run

/-!
# Runs of the bot

A run is any sequence of small steps of the tasks, of moments in time, and of
occurrences from outside: events, kills, launches, looks at cooldowns, and
changes of the fleet and of the gateway.  What comes from outside can come at
any moment, also in the middle of a task's turn.
-/

namespace Switchboard

/-- Something that happens to a bot. -/
inductive Occurrence where
  /-- The task with the floor takes a small step, or the first in line gets
  the floor. -/
  | work
  /-- Time goes on, and the alarms of the moment reached ring. -/
  | pass (span : Nat)
  | wallClock (moment : Nat)
  | receive (event : Event)
  /-- An event is offered to the subscriptions only. -/
  | dispatch (event : Event)
  /-- A process is launched without a router. -/
  | launch (command : CommandDef) (event : Event) (chat : Chat)
      (body : Except PanicPayload (Program Unit))
  | interrupt (pid : Pid)
  | interruptHeld (pid : Pid)
  | lift (pid : Pid)
  | liftHeld (pid : Pid)
  | checkCooldown (bucket key : String)
  | register (name : String)
  | fleet (change : FleetChange)
  | connection (shred : ShredId) (change : Connection → Connection)
  | chat (chat : Chat) (change : ChatState → ChatState)

namespace World

/-- The bot after something has happened. -/
def happen (occurrence : Occurrence) (world : World) : World :=
  match occurrence with
  | .work => (Machine.step world).getD world
  | .pass span => Machine.ring (world.agenda.now + span) world
  | .wallClock moment => { world with wallClock := moment }
  | .receive event => (world.receive event).2
  | .dispatch event => (world.dispatch event).2
  | .launch command event chat body =>
    (world.launch command event chat body none).2
  | .interrupt pid => (world.interrupt pid).2
  | .interruptHeld pid => (world.interruptHeld pid).2
  | .lift pid => (world.lift pid).2
  | .liftHeld pid => (world.liftHeld pid).2
  | .checkCooldown bucket key => (world.checkCooldown bucket key).2
  | .register name => (world.register name).2
  | .fleet change => world.modifyFleet change.apply
  | .connection shred change =>
    world.modifyGateway (·.modifyConnection shred change)
  | .chat chat change => world.modifyGateway (·.modifyChat chat change)

theorem step_of_floor {world : World} {task : TaskId}
    (floor : world.agenda.floor = some task) :
    Machine.step world = some (world.work task) :=
  Machine.step_of_floor floor

/-- The task has just been taken out of the line and given the floor. -/
def giveFloor (task : TaskId) (rest : List TaskId) (world : World) : World :=
  { world with
    agenda := { world.agenda with ready := rest, floor := some task } }

theorem step_of_ready {world : World} {task : TaskId} {rest : List TaskId}
    (floor : world.agenda.floor = none)
    (ready : world.agenda.ready = task :: rest) :
    Machine.step world = some ((world.giveFloor task rest).enter task) :=
  Machine.step_of_ready floor ready

theorem step_of_idle {world : World} (floor : world.agenda.floor = none)
    (ready : world.agenda.ready = []) : Machine.step world = none :=
  Machine.step_of_idle floor ready

theorem step_eq_none_iff {world : World} :
    Machine.step world = none ↔
      world.agenda.floor = none ∧ world.agenda.ready = [] :=
  Machine.step_eq_none_iff

theorem happen_work_of_floor {world : World} {task : TaskId}
    (floor : world.agenda.floor = some task) :
    world.happen .work = world.work task := by
  rw [happen, step_of_floor floor, Option.getD_some]

theorem happen_work_of_ready {world : World} {task : TaskId}
    {rest : List TaskId} (floor : world.agenda.floor = none)
    (ready : world.agenda.ready = task :: rest) :
    world.happen .work = (world.giveFloor task rest).enter task := by
  rw [happen, step_of_ready floor ready, Option.getD_some]

theorem happen_work_of_idle {world : World}
    (floor : world.agenda.floor = none) (ready : world.agenda.ready = []) :
    world.happen .work = world := by
  rw [happen, step_of_idle floor ready, Option.getD_none]

/-- The task whose turn it is. -/
def mover? (world : World) : Option TaskId :=
  world.agenda.floor <|> world.agenda.ready.head?

theorem turn_cases {world : World} {position : TaskId}
    (mover : world.mover? = some position) :
    (world.agenda.floor = some position ∧
      world.happen .work = world.work position) ∨
      (world.agenda.floor = none ∧ ∃ rest,
        world.happen .work =
          (world.giveFloor position rest).enter position) := by
  cases floor : world.agenda.floor with
  | some other =>
      have same : other = position := by
        simpa [mover?, floor] using mover
      subst same
      exact .inl ⟨rfl, happen_work_of_floor floor⟩
  | none =>
      cases ready : world.agenda.ready with
      | nil => simp [mover?, floor, ready] at mover
      | cons other rest =>
          have same : other = position := by
            simpa [mover?, floor, ready] using mover
          subst same
          exact .inr ⟨rfl, rest, happen_work_of_ready floor ready⟩

theorem mover?_of_floor {world : World} {position : TaskId}
    (floor : world.agenda.floor = some position) :
    world.mover? = some position := by
  simp [mover?, floor]

end World

/-- Something that happened, and the bot before it. -/
abbrev Episode := Happening Occurrence World

namespace Episode

def after (episode : Episode) : World :=
  episode.before.happen episode.occurrence

/-- The task that took a small step or got the floor. -/
def mover? (episode : Episode) : Option TaskId :=
  match episode.occurrence with
  | .work => episode.before.mover?
  | _ => none

theorem mover?_eq_some {world : World} {occurrence : Occurrence}
    {position : TaskId}
    (mover : mover? ⟨world, occurrence⟩ = some position) :
    occurrence = .work ∧ world.mover? = some position := by
  cases occurrence with
  | work => exact ⟨rfl, mover⟩
  | _ => cases mover

end Episode

namespace World

/-- The bot after a sequence of occurrences. -/
abbrev happenAll (occurrences : List Occurrence) (world : World) : World :=
  Switchboard.happenAll happen occurrences world

/-- What happens in the course of a sequence of occurrences. -/
abbrev history (occurrences : List Occurrence) (world : World) :
    List Episode :=
  Switchboard.history happen occurrences world

/-- How a bot can go on, with all that happened on the way. -/
abbrev Run (start : World) : List Episode → World → Prop :=
  Switchboard.Run happen start

namespace Run

theorem of_fuel (fuel : Nat) (world : World) :
    ∃ episodes, Run world episodes (Machine.run fuel world) := by
  induction fuel generalizing world with
  | zero => exact ⟨[], .start⟩
  | succ fuel induction =>
      rw [Machine.run]
      cases stepped : Machine.step world with
      | none => exact ⟨[], .start⟩
      | some next =>
          have happens : world.happen .work = next := by
            simp [happen, stepped]
          obtain ⟨episodes, rest⟩ := induction next
          have first : Run world [⟨world, .work⟩] next := by
            rw [← happens]
            exact .single _
          exact ⟨_, first.trans rest⟩

theorem of_settle (world : World) :
    ∃ episodes, Run world episodes (Machine.settle world) :=
  of_fuel _ world

theorem of_ring (world : World) (span : Nat) :
    ∃ episodes, Run world episodes (Machine.ring
      ((Machine.agenda world).now + span) world) := by
  have passes : Run world [⟨world, .pass span⟩] (world.happen (.pass span)) :=
    .single _
  exact ⟨_, passes⟩

theorem of_elapse (span : Nat) (world : World) :
    ∃ episodes, Run world episodes (Machine.elapse span world) := by
  induction span using Nat.strongRecOn generalizing world with
  | _ span induction =>
      obtain ⟨settling, settled⟩ := of_settle world
      rw [Machine.elapse]
      split
      · rename_i wait next
        split
        · rename_i bounds
          obtain ⟨ringing, rung⟩ := of_ring (Machine.settle world) wait
          obtain ⟨rest, elapsed⟩ :=
            induction (span - wait) (by omega)
              (Machine.ring ((Machine.agenda (Machine.settle world)).now +
                wait) (Machine.settle world))
          exact ⟨_, (settled.trans rung).trans elapsed⟩
        · obtain ⟨ringing, rung⟩ := of_ring (Machine.settle world) span
          exact ⟨_, settled.trans rung⟩
      · obtain ⟨ringing, rung⟩ := of_ring (Machine.settle world) span
        exact ⟨_, settled.trans rung⟩

end Run

end World

end Switchboard
