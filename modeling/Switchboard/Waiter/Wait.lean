import Switchboard.Agenda
import Switchboard.Waiter

/-!
# Waiting on a subscription

A wait ends with the first matching event, by its interrupt, at its deadline, or
when a probe finds that the watched resource is gone. While it listens, an
interrupt goes before an event or the deadline, and these go before a probe that
is due. While a probe runs, nothing else is looked at; a match that arrived
meanwhile goes before what the probe found.
-/

namespace Switchboard

/-- Why a probe was made. -/
inductive ProbeReason where
  | tick
  | deadline
deriving DecidableEq, Repr

/-- What a wait is doing. -/
inductive WaitPhase where
  | listening
  /-- A probe has been started and gives its answer at `answer`. -/
  | probing (reason : ProbeReason) (answer : Alarm)
deriving DecidableEq, Repr

/-- The probing of a wait: whether there is a probe at all, and how often it is
made meanwhile. -/
structure Liveness where
  period : Option Nat := none
deriving DecidableEq, Repr

namespace Liveness

/-- The period; a period of zero polls never. -/
def period? (liveness : Option Liveness) : Option Nat :=
  (liveness.bind Liveness.period).filter (0 < ·)

end Liveness

structure Wait where
  subscription : SubscriptionId
  deadline : Option Alarm
  liveness : Option Liveness
  /-- When the next probe is due. -/
  tick : Option Alarm
  phase : WaitPhase := .listening
deriving DecidableEq, Repr

/-- What a wait does with its turn. -/
inductive WaitMove where
  | ended (result : Except WaitError Event)
  | probe (reason : ProbeReason)
  | idle

namespace Wait

/-- Starts a wait now. A timeout of zero is none. -/
def start (subscription : SubscriptionId) (timeout : Option Nat)
    (liveness : Option Liveness) (agenda : Agenda) : Wait × Agenda :=
  let deadline := (timeout.filter (0 < ·)).map agenda.alarmIn
  let agenda := agenda.countAlarm
  let tick := (Liveness.period? liveness).map agenda.alarmIn
  ({ subscription, deadline, liveness, tick }, agenda.countAlarm)

def alarms (wait : Wait) : List Alarm :=
  match wait.phase with
  | .listening => wait.deadline.toList ++ wait.tick.toList
  | .probing _ answer => [answer]

/-- A matching event that has arrived, as a result. -/
def lateMatch (handoff : Handoff Event) : Option Event × Handoff Event :=
  match handoff.tryReceive with
  | (some (.ok event), after) => (some event, after)
  | (_, after) => (none, after)

def listen (agenda : Agenda) (interrupted : Bool) (handoff : Handoff Event)
    (wait : Wait) : WaitMove × Handoff Event :=
  if interrupted then (.ended (.error .interrupted), handoff)
  else
    match handoff.receive (wait.deadline.any agenda.isDue) with
    | (some (.ok event), after) => (.ended (.ok event), after)
    | (some (.error .timeout), after) =>
      if wait.liveness.isSome then (.probe .deadline, after)
      else (.ended (.error .timeout), after)
    | (some (.error _), after) => (.ended (.error .timeout), after)
    | (none, after) =>
      if wait.tick.any agenda.isDue then (.probe .tick, after)
        else (.idle, after)

/-- The wait once it has started a probe that answers at `answer`. After a tick
the next one is due a period later. -/
def probing (reason : ProbeReason) (answer : Alarm) (agenda : Agenda)
    (wait : Wait) : Wait :=
  match reason with
  | .tick =>
    { wait with
      phase := .probing .tick answer
      tick := (Liveness.period? wait.liveness).map agenda.alarmIn }
  | .deadline => { wait with phase := .probing .deadline answer }

/-- What the answer of a probe means: the end of the wait, or nothing. -/
def probed (reason : ProbeReason) (alive : Bool) (handoff : Handoff Event) :
    Option (Except WaitError Event) × Handoff Event :=
  match reason with
  | .tick =>
    if alive then (none, handoff)
    else
      match lateMatch handoff with
      | (some event, after) => (some (.ok event), after)
      | (none, after) => (some (.error .resourceGone), after)
  | .deadline =>
    match lateMatch handoff with
    | (some event, after) => (some (.ok event), after)
    | (none, after) =>
      (some (.error (if alive then .timeout else .resourceGone)), after)

end Wait

end Switchboard
