import Switchboard.Fleet
import Switchboard.Gateway

/-!
# Resolving clashes

Makes every contested room converge on its lowest contender: all others leave,
one after the other. Runs are serialised by a lock that is handed over in the
order of asking. A run plans with the rooms that are contested when it gets the
lock. A failed leave keeps the membership, so that the next run tries again.
-/

namespace Switchboard

structure Resolution where
  room : String
  keeper : ShredId
  left : List ShredId := []
  failed : List (ShredId × String) := []
deriving DecidableEq, Repr

/-- A lock, its holder, and who is in line for it. -/
structure Lock where
  holder : Option TaskId := none
  line : List TaskId := []
deriving DecidableEq, Repr

namespace Lock

/-- Asks for the lock: it is granted at once when it is free. -/
def request (task : TaskId) (lock : Lock) : Bool × Lock :=
  match lock.holder with
  | none => (true, { lock with holder := some task })
  | some _ => (false, { lock with line := lock.line ++ [task] })

/-- Hands the lock to the first in line, who is to be woken. -/
def release (lock : Lock) : Option TaskId × Lock :=
  match lock.line with
  | [] => (none, { lock with holder := none })
  | next :: rest => (some next, { holder := some next, line := rest })

/-- A task lets go of the lock, or of its place in line. -/
def withdraw (task : TaskId) (lock : Lock) : Option TaskId × Lock :=
  if lock.holder = some task then lock.release
  else (none, { lock with line := lock.line.filter (· ≠ task) })

end Lock

/-- What clash resolution works on. -/
structure Territory where
  fleet : Fleet := {}
  gateway : Gateway := {}
  lock : Lock := {}
deriving DecidableEq, Repr

/-- Where a run stands. `finished` are the rooms done, `rest` those still to do,
with all their contenders; `losers` are those that still have to leave the room
at work. -/
inductive Resolving where
  | fresh
  | queued
  | nextRoom (finished : List Resolution) (rest : List (String × List ShredId))
  | nextLoser (finished : List Resolution) (rest : List (String × List ShredId))
      (current : Resolution) (losers : List ShredId)
  | leaving (finished : List Resolution) (rest : List (String × List ShredId))
      (current : Resolution) (losers : List ShredId)
      (loser : ShredId) (failure : Option String) (answer : Alarm)
deriving DecidableEq, Repr

inductive ResolveMove where
  /-- It has to wait where it stands. -/
  | wait
  | go (next : Resolving)
  | done (resolutions : List Resolution)
deriving DecidableEq, Repr

structure ResolveStep where
  agenda : Agenda
  territory : Territory
  acts : List Act := []
  move : ResolveMove

namespace Resolving

/-- Starts to work with the rooms contested now. -/
def plan (territory : Territory) : Resolving :=
  .nextRoom [] territory.fleet.contestedRooms

def alarms : Resolving → List Alarm
  | .leaving _ _ _ _ _ _ answer => [answer]
  | _ => []

/-- A leave has ended: the run notes whether the identity is gone. -/
def settleLeave (current : Resolution) (loser : ShredId)
    (failure : Option String) (territory : Territory) :
    Resolution × Territory :=
  match failure with
  | none =>
    ({ current with left := current.left ++ [loser] },
      { territory with fleet := territory.fleet.left loser current.room })
  | some reason =>
    ({ current with failed := current.failed ++ [(loser, reason)] }, territory)

/-- One small step of the run of a task. -/
def step (task : TaskId) (agenda : Agenda) (territory : Territory) :
    Resolving → ResolveStep
  | .fresh =>
    let (granted, lock) := territory.lock.request task
    let territory := { territory with lock }
    { agenda, territory,
      move := .go (if granted then plan territory else .queued) }
  | .queued =>
    { agenda, territory
      move :=
        if territory.lock.holder = some task then .go (plan territory)
          else .wait }
  | .nextRoom finished [] =>
    let (next, lock) := territory.lock.release
    { agenda := agenda.wakeAll next.toList
      territory := { territory with lock }
      move := .done finished }
  | .nextRoom finished ((_, []) :: rest) =>
    { agenda, territory, move := .go (.nextRoom finished rest) }
  | .nextRoom finished ((room, keeper :: losers) :: rest) =>
    { agenda, territory,
      move := .go (.nextLoser finished rest { room, keeper } losers) }
  | .nextLoser finished rest current [] =>
    { agenda, territory, move := .go (.nextRoom (finished ++ [current]) rest) }
  | .nextLoser finished rest current (loser :: losers) =>
    match territory.gateway.connections[loser]? with
    | none =>
      { agenda, territory,
        move := .go (.nextLoser finished rest current losers) }
    | some connection =>
      let failure := connection.leaveFailure.reason? current.room
      let answer := agenda.alarmIn connection.leaveDelay
      { agenda := agenda.countAlarm
        territory
        move :=
          .go (.leaving finished rest current losers loser failure answer) }
  | .leaving finished rest current losers loser failure answer =>
    if agenda.isDue answer then
      let (resolution, after) := settleLeave current loser failure territory
      let act :=
        .leave (territory.gateway.name loser) current.room failure.isSome
      { agenda
        territory := after
        acts := [act]
        move := .go (.nextLoser finished rest resolution losers) }
    else { agenda, territory, move := .wait }

/-- A run is given up where it stands: it lets go of the lock. -/
def abandon (task : TaskId) (agenda : Agenda) (territory : Territory) :
    Agenda × Territory :=
  let (next, lock) := territory.lock.withdraw task
  (agenda.wakeAll next.toList, { territory with lock })

end Resolving

end Switchboard
