/-!
# The agenda of a cooperative machine

A machine holds a clock and tasks that take turns. A task that may have
something to do stands in line; it gets the floor when all tasks before it have
had theirs, and keeps it until it has to wait. Time stands still while tasks
work and moves only from one alarm to the next.

`Machine.step` is one small step, `Machine.settle` runs until every task waits,
and `Machine.elapse` lets time pass.

The clock of a host can tell moments up to a horizon only. It is assumed that
alarms lie within it: that every deadline, every tick of a poll and every end of
a delay is a moment that the clock can tell. For the ends of cooldowns nothing
is assumed (`Cooldowns.horizon`).
-/

namespace Switchboard

/-- A task, by its place in the order in which tasks were started. -/
abbrev TaskId := Nat

/-- A moment at which a task is to be woken. Alarms of one moment ring in the
order of `serial`. -/
structure Alarm where
  due : Nat
  serial : Nat
deriving DecidableEq, Repr

/-- The clock, in milliseconds, and who has the floor. -/
structure Agenda where
  now : Nat := 0
  /-- The serial number of the next alarm. -/
  serial : Nat := 0
  /-- Tasks in line for the floor. -/
  ready : List TaskId := []
  floor : Option TaskId := none
deriving DecidableEq, Repr

namespace Agenda

/-- Puts a task in line unless it stands there already. -/
def wake (task : TaskId) (agenda : Agenda) : Agenda :=
  if task ∈ agenda.ready then agenda
    else { agenda with ready := agenda.ready ++ [task] }

def wakeAll (tasks : List TaskId) (agenda : Agenda) : Agenda :=
  tasks.foldl (fun agenda task => agenda.wake task) agenda

def yieldFloor (agenda : Agenda) : Agenda := { agenda with floor := none }

def alarmIn (delay : Nat) (agenda : Agenda) : Alarm where
  due := agenda.now + delay
  serial := agenda.serial

/-- The agenda once an alarm has been set. -/
def countAlarm (agenda : Agenda) : Agenda :=
  { agenda with serial := agenda.serial + 1 }

def isDue (alarm : Alarm) (agenda : Agenda) : Bool := alarm.due ≤ agenda.now

end Agenda

/-- A machine whose tasks take turns. -/
class Machine (σ : Type) where
  agenda : σ → Agenda
  setAgenda : Agenda → σ → σ
  /-- The alarms that the tasks have set, with the task that each one wakes. -/
  alarms : σ → List (Alarm × TaskId)
  /-- A task has just been given the floor. -/
  enter : TaskId → σ → σ
  work : TaskId → σ → σ

namespace Machine

variable {σ : Type} [Machine σ]

/-- One small step: the task with the floor works, or the next one in line gets
the floor. There is none when every task waits. -/
def step (state : σ) : Option σ :=
  let agenda := Machine.agenda state
  match agenda.floor with
  | some task => some (work task state)
  | none =>
    match agenda.ready with
    | [] => none
    | task :: rest =>
      some (enter task
        (setAgenda { agenda with ready := rest, floor := some task } state))

/-- Runs at most `fuel` small steps. -/
def run (fuel : Nat) (state : σ) : σ :=
  match fuel with
  | 0 => state
  | fuel + 1 =>
    match step state with
    | none => state
    | some next => run fuel next

def settleLimit : Nat := 1000000000

/-- Runs until every task waits. -/
def settle (state : σ) : σ := run settleLimit state

def untilNext (state : σ) : Option Nat :=
  let now := (Machine.agenda state).now
  (((alarms state).map (·.1.due - now)).filter (0 < ·)).min?

/-- The tasks to wake at a moment, in the order in which their alarms were
set. -/
def dueTasks (moment : Nat) (state : σ) : List TaskId :=
  let due := (alarms state).filter (·.1.due = moment)
  (due.mergeSort fun a b => a.1.serial ≤ b.1.serial).map (·.2)

/-- The clock reaches a moment, and the alarms of that moment ring. -/
def ring (moment : Nat) (state : σ) : σ :=
  setAgenda ({ Machine.agenda state with now := moment }.wakeAll
    (dueTasks moment state)) state

/-- Settles and then lets the given time pass, stopping at every alarm on the
way. -/
def elapse (span : Nat) (state : σ) : σ :=
  let settled := settle state
  match untilNext settled with
  | some wait =>
    if 0 < wait ∧ wait ≤ span then
      elapse (span - wait) (ring ((Machine.agenda settled).now + wait) settled)
    else ring ((Machine.agenda settled).now + span) settled
  | none => ring ((Machine.agenda settled).now + span) settled
termination_by span
decreasing_by omega

end Machine

end Switchboard
