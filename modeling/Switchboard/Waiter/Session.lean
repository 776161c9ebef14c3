import Switchboard.Table
import Switchboard.Waiter.Wait

/-!
# Waits on one waiter

A machine of one waiter, the waits that run on its subscriptions, and named
flags that say whether a watched resource is alive. A probe takes a fixed time
and then reads its flag.
-/

namespace Switchboard

/-- What a wait watches: a flag, how often, and how long one look takes. -/
structure Watch where
  flag : String
  period : Option Nat
  delay : Nat
deriving DecidableEq, Repr

inductive WaitStage where
  /-- Subscribed; nobody waits yet. -/
  | subscribed
  /-- Started, and not yet given the floor. -/
  | fresh (timeout : Option Nat)
  | active (wait : Wait)
  | ended
deriving DecidableEq, Repr

/-- A named subscription with its wait and its interrupt. -/
structure SessionWait where
  name : String
  subscription : SubscriptionId
  stage : WaitStage := .subscribed
  watch : Option Watch := none
  interrupted : Bool := false
  /-- The interrupt can no longer be fired. -/
  disarmed : Bool := false
  /-- The wait has been dropped and is removed when it next gets the floor. -/
  dropped : Bool := false
deriving DecidableEq, Repr

structure WaitEnd where
  moment : Nat
  name : String
  result : Except WaitError Event

structure ProbeAnswer where
  moment : Nat
  flag : String
  alive : Bool
deriving DecidableEq, Repr

structure Session where
  agenda : Agenda := {}
  waiter : Waiter := {}
  waits : List SessionWait := []
  /-- The flags that have been set; any other flag is alive. -/
  flags : Table String Bool := []
  ended : List WaitEnd := []
  probes : List ProbeAnswer := []

namespace SessionWait

def alarms (entry : SessionWait) : List Alarm :=
  match entry.stage with
  | .active wait => wait.alarms
  | _ => []

/-- Somebody waits, so that changes of the subscription are to be looked at. -/
def isActive (entry : SessionWait) : Bool :=
  match entry.stage with
  | .active _ => true
  | _ => false

def liveness (entry : SessionWait) : Option Liveness :=
  entry.watch.map fun watch => { period := watch.period }

end SessionWait

namespace Session

/-- The flag says that the resource is there. -/
def alive (flag : String) (session : Session) : Bool :=
  (session.flags.find? flag).getD true

def modifyWait (task : TaskId) (change : SessionWait → SessionWait)
    (session : Session) : Session :=
  { session with waits := session.waits.modify task change }

def setStage (task : TaskId) (stage : WaitStage) (session : Session) :
    Session :=
  session.modifyWait task fun entry => { entry with stage }

def yieldFloor (session : Session) : Session :=
  { session with agenda := session.agenda.yieldFloor }

def setHandoff (id : SubscriptionId) (handoff : Handoff Event)
    (session : Session) : Session :=
  { session with waiter := session.waiter.setHandoff id handoff }

/-- Ends a wait with a result; its subscription goes off the register. -/
def finish (task : TaskId) (entry : SessionWait)
    (result : Except WaitError Event) (session : Session) : Session :=
  let ending := { moment := session.agenda.now, name := entry.name, result }
  { session.setStage task .ended with
    waiter := session.waiter.unsubscribe entry.subscription
    ended := session.ended ++ [ending] }.yieldFloor

def discard (task : TaskId) (entry : SessionWait) (session : Session) :
    Session :=
  { session.setStage task .ended with
    waiter := session.waiter.unsubscribe entry.subscription }.yieldFloor

/-- One small step of a wait that has started. -/
def advance (task : TaskId) (entry : SessionWait) (wait : Wait)
    (session : Session) : Session :=
  let handoff := session.waiter.handoff wait.subscription
  match wait.phase with
  | .listening =>
    match wait.listen session.agenda entry.interrupted handoff with
    | (.ended result, after) =>
      (session.setHandoff wait.subscription after).finish task entry result
    | (.probe reason, after) =>
      let answer :=
        session.agenda.alarmIn ((entry.watch.map Watch.delay).getD 0)
      let agenda := session.agenda.countAlarm
      let wait := wait.probing reason answer agenda
      { (session.setHandoff wait.subscription after).setStage task
        (.active wait) with
        agenda := agenda.countAlarm }
    | (.idle, after) => (session.setHandoff wait.subscription after).yieldFloor
  | .probing reason answer =>
    if session.agenda.isDue answer then
      let flag := (entry.watch.map Watch.flag).getD ""
      let alive := session.alive flag
      let found := { moment := session.agenda.now, flag, alive }
      let session := { session with probes := session.probes ++ [found] }
      match Wait.probed reason alive handoff with
      | (some result, after) =>
        (session.setHandoff wait.subscription after).finish task entry result
      | (none, after) =>
        (session.setHandoff wait.subscription after).setStage task
          (.active { wait with phase := .listening })
    else session.yieldFloor

def work (task : TaskId) (session : Session) : Session :=
  match session.waits[task]? with
  | none => session.yieldFloor
  | some entry =>
    match entry.stage with
    | .subscribed | .ended => session.yieldFloor
    | .fresh timeout =>
      if entry.dropped then session.discard task entry
      else
        let (wait, agenda) :=
          Wait.start entry.subscription timeout entry.liveness session.agenda
        { session with agenda }.setStage task (.active wait)
    | .active wait =>
      if entry.dropped then session.discard task entry
        else session.advance task entry wait

instance : Machine Session where
  agenda := Session.agenda
  setAgenda agenda session := { session with agenda }
  alarms session :=
    session.waits.zipIdx.flatMap fun (entry, task) => entry.alarms.map (·, task)
  enter _ session := session
  work := work

def wake (task : TaskId) (session : Session) : Session :=
  { session with agenda := session.agenda.wake task }

def watcher? (id : SubscriptionId) (session : Session) : Option TaskId :=
  session.waits.findIdx? fun entry => entry.subscription = id && entry.isActive

def wakeWatcher (id : SubscriptionId) (session : Session) : Session :=
  match session.watcher? id with
  | some task => session.wake task
  | none => session

/-- The subscription of that name, the latest where there are several. -/
def locate? (name : String) (session : Session) : Option TaskId :=
  (session.waits.zipIdx.filter (·.1.name = name)).getLast?.map (·.2)

def subscribe (name : String) (kind : EventKind) (predicate : Event → Bool)
    (session : Session) : SubscriptionId × Session :=
  let (subscription, waiter) := session.waiter.subscribe kind predicate
  (subscription, { session with
    waiter, waits := session.waits ++ [{ name, subscription }] })

def startWait (name : String) (timeout : Option Nat) (watch : Option Watch)
    (session : Session) : Session :=
  match session.locate? name with
  | none => session
  | some task =>
    match (session.waits[task]?).map SessionWait.stage with
    | some .subscribed =>
      (session.modifyWait task fun entry =>
        { entry with stage := .fresh timeout, watch }).wake task
    | _ => session

/-- Offers an event; answers how many subscriptions took it. -/
def dispatch (event : Event) (session : Session) : Nat × Session :=
  let (resolved, waiter) := session.waiter.dispatch event
  (resolved.length,
    resolved.foldl (fun session id => session.wakeWatcher id)
      { session with waiter })

def lift (name : String) (session : Session) : Session :=
  match (session.locate? name).bind (session.waits[·]?) with
  | none => session
  | some entry =>
    { session with
      waiter := session.waiter.lift entry.subscription }.wakeWatcher
        entry.subscription

/-- Fires the interrupt of a subscription, unless it has been disarmed. -/
def interrupt (name : String) (session : Session) : Session :=
  match session.locate? name with
  | none => session
  | some task =>
    match session.waits[task]? with
    | none => session
    | some entry =>
      if entry.disarmed then session
      else
        (session.modifyWait task fun entry =>
          { entry with interrupted := true }).wakeWatcher
          entry.subscription

def disarm (name : String) (session : Session) : Session :=
  match session.locate? name with
  | none => session
  | some task => session.modifyWait task fun entry =>
    { entry with disarmed := true }

def drop (name : String) (session : Session) : Session :=
  match session.locate? name with
  | none => session
  | some task =>
    match session.waits[task]? with
    | none => session
    | some entry =>
      match entry.stage with
      | .subscribed =>
        { session.setStage task .ended with
          waiter := session.waiter.unsubscribe entry.subscription }
      | .fresh _ | .active _ =>
        (session.modifyWait task fun entry =>
          { entry with dropped := true }).wake task
      | .ended => session

def setFlag (flag : String) (alive : Bool) (session : Session) : Session :=
  { session with flags := session.flags.write flag alive }

end Session

end Switchboard
