import Switchboard.Config
import Switchboard.Fleet.Sweeps
import Switchboard.Outcome.Disposition
import Switchboard.Program
import Switchboard.Waiter.Wait

/-!
# The state of the bot

Everything that the bot keeps while it runs: its registries, its tasks with the
point at which each one stands, and a record of what was done. The changes that
tasks make to it are built from the small operations below.
-/

namespace Switchboard

/-- A message or notice on its way, and whether it will fail. -/
structure Sending where
  chat : Chat
  text : String
  failure : Option String
  answer : Alarm
deriving DecidableEq, Repr

/-- A question to the invoking actor. The subscription is made before the prompt
is sent. -/
inductive Asking where
  | prompting (subscription : SubscriptionId) (timeout : Option Nat)
    (sending : Sending)
  | waiting (wait : Wait)
deriving DecidableEq, Repr

/-- The deadline of a confirmation, and how often its prompt is looked at. -/
structure ConfirmTerms where
  timeout : Option Nat
  poll : Option Nat
deriving DecidableEq, Repr

/-- A confirmation. Its answer and the deletion of its prompt are subscribed to
when the prompt has been sent; then the two reactions are added; then either
ends it. Where a reaction cannot be added it asks for a text until the text says
yes or no. -/
inductive Confirming where
  | prompting (terms : ConfirmTerms) (sending : Sending)
  | reacting (terms : ConfirmTerms) (prompt : String)
    (reaction deletion : SubscriptionId)
      (second : Bool) (failure : Option String) (answer : Alarm)
  | racing (prompt : String) (reaction deletion : Wait) (deletionTurn : Bool)
  | asking (terms : ConfirmTerms) (asking : Asking)
deriving DecidableEq, Repr

/-- The point at which a body stands, and how it goes on from there. -/
inductive Activity where
  | running (program : Program Unit)
  | sleeping (answer : Alarm) (next : Program Unit)
  | replying (sending : Sending)
    (next : Except CommandError String → Program Unit)
  | notifying (sending : Sending)
    (next : Except CommandError Unit → Program Unit)
  | waiting (wait : Wait) (next : Except WaitError Event → Program Unit)
  | asking (asking : Asking) (next : Except CommandError Event → Program Unit)
  | confirming (confirming : Confirming)
    (next : Except CommandError Bool → Program Unit)
  | resolving (resolving : Resolving) (next : List Resolution → Program Unit)

inductive Stage where
  /-- Launched; building the body may panic. -/
  | unbuilt (body : Except PanicPayload (Program Unit))
  | body (activity : Activity)
  /-- The process is no longer registered, and its outcome is to be dealt
  with. -/
  | closing (outcome : Outcome)
  /-- The user is being told. -/
  | announcing (outcome : Outcome) (sending : Sending)
  /-- The operators are being told. -/
  | reporting (sending : Sending)
  | over

/-- What follows the end of a process: the room is told, and the use may be
given back. -/
structure Aftermath where
  chat : Chat
  reservation : Option Reservation
deriving DecidableEq, Repr

structure ProcessTask where
  pid : Pid
  invocation : Event
  chat : Chat
  stage : Stage
  aftermath : Option Aftermath

/-- Where a notice stands that has a task of its own. -/
inductive NoticeStage where
  | fresh (chat : Chat) (text : String)
  | sending (sending : Sending)
  | over
deriving DecidableEq, Repr

inductive Task where
  | process (task : ProcessTask)
  | notice (stage : NoticeStage)

structure ProcessEnd where
  moment : Nat
  pid : Pid
  outcome : Outcome

structure World where
  agenda : Agenda := {}
  /-- The wall clock, in milliseconds. It is shown to users and moves on its
  own. -/
  wallClock : Nat := 0
  config : Config
  commands : Catalogue Handler := {}
  waiter : Waiter := {}
  processes : ProcessTable := {}
  cooldowns : Cooldowns
  territory : Territory := {}
  tasks : List Task := []
  /-- What tasks did to the gateway, latest last. -/
  deeds : List Deed := []
  ends : List ProcessEnd := []

namespace Asking

/-- The subscription that is being waited on. -/
def watched : Asking → List SubscriptionId
  | .prompting .. => []
  | .waiting wait => [wait.subscription]

def alarms : Asking → List Alarm
  | .prompting _ _ sending => [sending.answer]
  | .waiting wait => wait.alarms

end Asking

namespace Confirming

def watched : Confirming → List SubscriptionId
  | .prompting .. => []
  | .reacting .. => []
  | .racing _ reaction deletion _ =>
    [reaction.subscription, deletion.subscription]
  | .asking _ question => question.watched

def alarms : Confirming → List Alarm
  | .prompting _ sending => [sending.answer]
  | .reacting _ _ _ _ _ _ answer => [answer]
  | .racing _ reaction deletion _ => reaction.alarms ++ deletion.alarms
  | .asking _ question => question.alarms

end Confirming

namespace Activity

def watched : Activity → List SubscriptionId
  | .waiting wait _ => [wait.subscription]
  | .asking question _ => question.watched
  | .confirming confirmation _ => confirmation.watched
  | _ => []

def alarms : Activity → List Alarm
  | .running _ => []
  | .sleeping answer _ => [answer]
  | .replying sending _ => [sending.answer]
  | .notifying sending _ => [sending.answer]
  | .waiting wait _ => wait.alarms
  | .asking question _ => question.alarms
  | .confirming confirmation _ => confirmation.alarms
  | .resolving run _ => run.alarms

end Activity

namespace Task

def watched : Task → List SubscriptionId
  | .process { stage := .body activity, .. } => activity.watched
  | _ => []

def alarms : Task → List Alarm
  | .process { stage := .body activity, .. } => activity.alarms
  | .process { stage := .announcing _ sending, .. } => [sending.answer]
  | .process { stage := .reporting sending, .. } => [sending.answer]
  | .notice (.sending sending) => [sending.answer]
  | _ => []

end Task

namespace World

def yieldFloor (world : World) : World :=
  { world with agenda := world.agenda.yieldFloor }

def wake (task : TaskId) (world : World) : World :=
  { world with agenda := world.agenda.wake task }

def spawn (task : Task) (world : World) : World :=
  { world with tasks := world.tasks ++ [task] }.wake world.tasks.length

def setAlarm (delay : Nat) (world : World) : Alarm × World :=
  (world.agenda.alarmIn delay, { world with agenda := world.agenda.countAlarm })

def isDue (alarm : Alarm) (world : World) : Bool := world.agenda.isDue alarm

def wakeWatchers (id : SubscriptionId) (world : World) : World :=
  { world with
    agenda :=
      world.agenda.wakeAll (world.tasks.zipIdx.filterMap fun (task, position) =>
      if id ∈ task.watched then some position else none) }

def gateway (world : World) : Gateway := world.territory.gateway

def modifyGateway (change : Gateway → Gateway) (world : World) : World :=
  { world with
    territory := { world.territory with
      gateway := change world.territory.gateway } }

def modifyFleet (change : Fleet → Fleet) (world : World) : World :=
  { world with
    territory := { world.territory with
      fleet := change world.territory.fleet } }

/-- Notes something that a task did to the gateway. -/
def note (task : TaskId) (act : Act) (world : World) : World :=
  { world with
    deeds := world.deeds ++ [{ moment := world.agenda.now, task, act }] }

def startMessage (task : TaskId) (chat : Chat) (text : String) (world : World) :
    Sending × World :=
  let state := world.gateway.chatState chat
  let failure := state.sendFailure
  let act := .send (world.gateway.name chat.shred) chat.room text failure.isSome
  let (answer, world) := (world.note task act).setAlarm state.sendDelay
  ({ chat, text, failure, answer }, world)

def startNotice (task : TaskId) (chat : Chat) (text : String) (world : World) :
    Sending × World :=
  let state := world.gateway.chatState chat
  let failure := state.noticeFailure
  let act :=
    .notice (world.gateway.name chat.shred) chat.room text failure.isSome
  let (answer, world) := (world.note task act).setAlarm state.sendDelay
  ({ chat, text, failure, answer }, world)

/-- A message has been sent, or has failed; answers its name. -/
def finishMessage (sending : Sending) (world : World) :
    Except CommandError String × World :=
  match sending.failure with
  | some reason => (.error (.chat reason), world)
  | none =>
    let (name, gateway) := world.gateway.nameMessage sending.chat sending.text
    (.ok name, world.modifyGateway fun _ => gateway)

def finishNotice (sending : Sending) : Except CommandError Unit :=
  match sending.failure with
  | some reason => .error (.chat reason)
  | none => .ok ()

/-- Starts to add a reaction; answers whether it will fail, and when it will be
done. -/
def startReaction (task : TaskId) (chat : Chat) (message key : String)
    (world : World) : Option String × Alarm × World :=
  let state := world.gateway.chatState chat
  let failure := state.reactFailures.find? key
  let act :=
    .react (world.gateway.name chat.shred) chat.room message key failure.isSome
  let (answer, world) := (world.note task act).setAlarm state.reactDelay
  (failure, answer, world)

def setTyping (task : TaskId) (chat : Chat) (active : Bool) (world : World) :
    World :=
  let failed := (world.gateway.chatState chat).typingFailure.isSome
  world.note task
    (.typing (world.gateway.name chat.shred) chat.room active failed)

/-- Looks whether a message is still there. -/
def lookFor (task : TaskId) (chat : Chat) (message : String) (world : World) :
    Bool × World :=
  let found := !(world.gateway.chatState chat).deleted.contains message
  (found, world.note task
    (.looked (world.gateway.name chat.shred) chat.room message found))

def subscribe (kind : EventKind) (predicate : Event → Bool) (world : World) :
    SubscriptionId × World :=
  let (id, waiter) := world.waiter.subscribe kind predicate
  (id, { world with waiter })

def unsubscribe (id : SubscriptionId) (world : World) : World :=
  { world with waiter := world.waiter.unsubscribe id }

def setHandoff (id : SubscriptionId) (handoff : Handoff Event) (world : World) :
    World :=
  { world with waiter := world.waiter.setHandoff id handoff }

def modifyProcess (pid : Pid) (change : Process → Process) (world : World) :
    World :=
  { world with processes := world.processes.modify pid change }

def enterWait (pid : Pid) (deadline : Option SubscriptionId) (world : World) :
    World :=
  world.modifyProcess pid (Process.enterWait deadline)

def leaveWait (pid : Pid) (deadline : Option SubscriptionId) (world : World) :
    World :=
  world.modifyProcess pid (Process.leaveWait deadline)

/-- Closes an open wait and takes its subscription off the register. -/
def closeWait (pid : Pid) (id : SubscriptionId) (world : World) : World :=
  (world.unsubscribe id).leaveWait pid (some id)

def startWait (id : SubscriptionId) (timeout : Option Nat)
    (liveness : Option Liveness) (world : World) : Wait × World :=
  let (wait, agenda) := Wait.start id timeout liveness world.agenda
  (wait, { world with agenda })

def isKilled (pid : Pid) (world : World) : Bool :=
  ((world.processes.all[pid]?).map Process.killed).getD false

/-- Offers an event to the subscriptions; answers how many took it. -/
def dispatch (event : Event) (world : World) : Nat × World :=
  let (resolved, waiter) := world.waiter.dispatch event
  (resolved.length,
    resolved.foldl (fun world id => world.wakeWatchers id)
      { world with waiter })

/-- Kills a process that is held, registered or not; says whether it was
running. -/
def interruptHeld (pid : Pid) (world : World) : Bool × World :=
  match world.processes.all[pid]? with
  | none => (false, world)
  | some process =>
    let (accepted, killed) := process.interrupt
    if accepted then
      (true, (world.modifyProcess pid fun _ => killed).wake process.task)
    else (false, world)

/-- Kills a registered process; says whether it was running. -/
def interrupt (pid : Pid) (world : World) : Bool × World :=
  if pid ∈ world.processes.live then world.interruptHeld pid else (false, world)

def liftAll (ids : List SubscriptionId) (world : World) : World :=
  ids.foldl (fun world id =>
    { world with waiter := world.waiter.lift id }.wakeWatchers id) world

/-- Lifts the deadlines of the open waits of a process that is held; answers how
many there are. -/
def liftHeld (pid : Pid) (world : World) : Nat × World :=
  match world.processes.all[pid]? with
  | none => (0, world)
  | some process => (process.deadlines.length, world.liftAll process.deadlines)

/-- Lifts the deadlines of a registered process; answers how many there are. -/
def lift (pid : Pid) (world : World) : Option Nat × World :=
  if pid ∈ world.processes.live then
    let (count, world) := world.liftHeld pid
    (some count, world)
  else (none, world)

/-- Kills the listed processes in order; answers those that were running, and
the others. -/
def interruptEach : List Pid → World → (List Pid × List Pid) × World
  | [], world => (([], []), world)
  | pid :: rest, world =>
    let (accepted, world) := world.interrupt pid
    let ((killed, missing), world) := interruptEach rest world
    (if accepted then (pid :: killed, missing)
      else (killed, pid :: missing), world)

/-- Lifts the deadlines of the listed processes in order; answers those that had
any, and the others. -/
def liftEach : List Pid → World → (List Pid × List Pid) × World
  | [], world => (([], []), world)
  | pid :: rest, world =>
    let (count, world) := world.lift pid
    let ((kept, idle), world) := liftEach rest world
    (if 0 < count.getD 0 then (pid :: kept, idle)
      else (kept, pid :: idle), world)

def processViews (world : World) : List ProcessView :=
  world.processes.list.map fun (pid, process) =>
    { pid
      command := process.command.name
      origin := process.origin
      phase := process.phase
      hasPayload := process.payload.isSome
      age := world.wallClock - process.startedAt }

def shredViews (world : World) : List ShredView :=
  world.gateway.connections.zipIdx.map fun (connection, id) =>
    { id
      name := connection.name
      connected := connection.connected
      rooms := (world.territory.fleet.roomsOf id).length }

end World

end Switchboard
