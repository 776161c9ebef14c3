import Switchboard.Bot.World

/-!
# What bodies do with their turn

One small step of each activity: of a wait, a question, a confirmation, a clash
resolution, and of a program. A step either ends the activity with its result,
leads on, or finds that there is nothing to do until somebody wakes the task.
-/

namespace Switchboard

inductive Progress (α β : Type) where
  | blocked (here : α)
  | go (next : α)
  | done (result : β)

/-- Who takes the step: the task, its process, the chat it speaks in, and the
event that invoked it. -/
structure Actor where
  task : TaskId
  pid : Pid
  chat : Chat
  invocation : Event

namespace World

/-- One small step of a wait. `watched` is the message that it probes. -/
def stepWait (actor : Actor) (watched : String) (wait : Wait) (world : World) :
    Progress Wait (Except WaitError Event) × World :=
  let handoff := world.waiter.handoff wait.subscription
  match wait.phase with
  | .listening =>
    match wait.listen world.agenda (world.isKilled actor.pid) handoff with
    | (.ended result, after) =>
      (.done result, world.setHandoff wait.subscription after)
    | (.probe reason, after) =>
      let delay := (world.gateway.chatState actor.chat).existsDelay
      let (answer, world) :=
        (world.setHandoff wait.subscription after).setAlarm delay
      let wait := wait.probing reason answer world.agenda
      (.go wait, { world with agenda := world.agenda.countAlarm })
    | (.idle, after) =>
      (.blocked wait, world.setHandoff wait.subscription after)
  | .probing reason answer =>
    if world.isDue answer then
      let (found, world) := world.lookFor actor.task actor.chat watched
      match Wait.probed reason found handoff with
      | (some result, after) =>
        (.done result, world.setHandoff wait.subscription after)
      | (none, after) =>
        (.go { wait with phase := .listening },
          world.setHandoff wait.subscription after)
    else (.blocked wait, world)

/-- Subscribes and starts to wait at once, with an open wait of the process. -/
def startWaiting (actor : Actor) (kind : EventKind) (predicate : Event → Bool)
    (timeout : Option Nat) (world : World) : Wait × World :=
  let (id, world) := world.subscribe kind predicate
  (world.enterWait actor.pid (some id)).startWait id timeout none

/-- One small step of a wait that the process shows as open. -/
def stepOpenWait (actor : Actor) (watched : String) (wait : Wait)
    (world : World) : Progress Wait (Except WaitError Event) × World :=
  match world.stepWait actor watched wait with
  | (.done result, world) =>
    (.done result, world.closeWait actor.pid wait.subscription)
  | (progress, world) => (progress, world)

/-- A message of the invoking actor in the invoking channel, other than the
invocation itself. -/
def isAnswer (invocation event : Event) : Bool :=
  event.actor == invocation.actor && event.channel == invocation.channel
    && event.messageId? != invocation.messageId?

/-- Subscribes to the answer and starts to send the prompt. -/
def startAsking (actor : Actor) (prompt : String) (timeout : Option Nat)
    (world : World) : Asking × World :=
  let (id, world) := world.subscribe .message (isAnswer actor.invocation)
  let (sending, world) := world.startMessage actor.task actor.chat prompt
  (.prompting id timeout sending, world)

def stepAsking (actor : Actor) (asking : Asking) (world : World) :
    Progress Asking (Except CommandError Event) × World :=
  match asking with
  | .prompting id timeout sending =>
    if world.isDue sending.answer then
      match world.finishMessage sending with
      | (.error error, world) => (.done (.error error), world.unsubscribe id)
      | (.ok _, world) =>
        let (wait, world) :=
          (world.enterWait actor.pid (some id)).startWait id timeout none
        (.go (.waiting wait), world)
    else (.blocked asking, world)
  | .waiting wait =>
    match world.stepOpenWait actor "" wait with
    | (.done result, world) =>
      (.done (result.mapError CommandError.ofWait), world)
    | (.go wait, world) => (.go (.waiting wait), world)
    | (.blocked wait, world) => (.blocked (.waiting wait), world)

/-- A reaction to the prompt, by the invoking actor, that accepts or refuses. -/
def isVerdict (invocation : Event) (prompt : String) (event : Event) : Bool :=
  event.actor == invocation.actor
    && event.reaction?.any fun (target, key) =>
      target == prompt && (key == Notice.confirmYes || key == Notice.confirmNo)

def accepts (event : Event) : Bool :=
  event.reaction?.any (·.2 == Notice.confirmYes)

def parseYesNo? (text : String) : Option Bool :=
  let word := Text.lowercase (Text.trim text)
  if word ∈ ["y", "yes", "ok", Notice.confirmYes] then some true
  else if word ∈ ["n", "no", Notice.confirmNo] then some false
  else none

/-- Asks for a text where reactions cannot be added. -/
def startFallback (actor : Actor) (terms : ConfirmTerms) (world : World) :
    Confirming × World :=
  let (asking, world) :=
    world.startAsking actor Notice.confirmTextFallback terms.timeout
  (.asking terms asking, world)

/-- Both subscriptions of a confirmation go off the register. -/
def dropBoth (reaction deletion : SubscriptionId) (world : World) : World :=
  (world.unsubscribe reaction).unsubscribe deletion

def stepConfirming (actor : Actor) (confirming : Confirming) (world : World) :
    Progress Confirming (Except CommandError Bool) × World :=
  match confirming with
  | .prompting terms sending =>
    if world.isDue sending.answer then
      match world.finishMessage sending with
      | (.error error, world) => (.done (.error error), world)
      | (.ok prompt, world) =>
        let (deletion, world) :=
          world.subscribe .deletion fun event => event.deleted? == some prompt
        let (reaction, world) :=
          world.subscribe .reaction (isVerdict actor.invocation prompt)
        let (failure, answer, world) :=
          world.startReaction actor.task actor.chat prompt Notice.confirmYes
        (.go (.reacting terms prompt reaction deletion false failure answer),
          world)
    else (.blocked confirming, world)
  | .reacting terms prompt reaction deletion second failure answer =>
    if world.isDue answer then
      if failure.isSome then
        let (next, world) :=
          (world.dropBoth reaction deletion).startFallback actor terms
        (.go next, world)
      else if second then
        let liveness := some { period := terms.poll }
        let (reaction, world) :=
          (world.enterWait actor.pid (some reaction)).startWait reaction
            terms.timeout liveness
        let (deletion, world) := world.startWait deletion none none
        (.go (.racing prompt reaction deletion false), world)
      else
        let (failure, answer, world) :=
          world.startReaction actor.task actor.chat prompt Notice.confirmNo
        (.go (.reacting terms prompt reaction deletion true failure answer),
          world)
    else (.blocked confirming, world)
  | .racing prompt reaction deletion false =>
    match world.stepOpenWait actor prompt reaction with
    | (.done result, world) =>
      (.done ((result.map accepts).mapError CommandError.ofWait),
        world.unsubscribe deletion.subscription)
    | (.go reaction, world) =>
      (.go (.racing prompt reaction deletion false), world)
    | (.blocked reaction, world) =>
      (.go (.racing prompt reaction deletion true), world)
  | .racing prompt reaction deletion true =>
    match world.stepWait actor prompt deletion with
    | (.done result, world) =>
      let error :=
        match result with
        | .ok _ => .resourceGone
        | .error error => .ofWait error
      (.done (.error error),
        (world.closeWait actor.pid reaction.subscription).unsubscribe
          deletion.subscription)
    | (.go deletion, world) =>
      (.go (.racing prompt reaction deletion true), world)
    | (.blocked deletion, world) =>
      (.blocked (.racing prompt reaction deletion false), world)
  | .asking terms asking =>
    match world.stepAsking actor asking with
    | (.done (.error error), world) => (.done (.error error), world)
    | (.done (.ok event), world) =>
      match parseYesNo? event.bodyText with
      | some yes => (.done (.ok yes), world)
      | none =>
        let (next, world) := world.startFallback actor terms
        (.go next, world)
    | (.go asking, world) => (.go (.asking terms asking), world)
    | (.blocked asking, world) => (.blocked (.asking terms asking), world)

def stepResolving (actor : Actor) (resolving : Resolving) (world : World) :
    Progress Resolving (List Resolution) × World :=
  let result := resolving.step actor.task world.agenda world.territory
  let world :=
    { world with agenda := result.agenda, territory := result.territory }
  let world :=
    result.acts.foldl (fun world act => world.note actor.task act) world
  match result.move with
  | .wait => (.blocked resolving, world)
  | .go next => (.go next, world)
  | .done resolutions => (.done resolutions, world)

/-- Opens a guard: a subscription that nothing matches, as an open wait. -/
def enterGuard (pid : Pid) (world : World) : World :=
  let (id, world) := world.subscribe .message fun _ => false
  (world.enterWait pid (some id)).modifyProcess pid fun process =>
    { process with guards := id :: process.guards }

def leaveGuard (pid : Pid) (world : World) : World :=
  match (world.processes.all[pid]?).bind (·.guards.head?) with
  | none => world
  | some id =>
    (world.closeWait pid id).modifyProcess pid fun process =>
      { process with guards := process.guards.tail }

/-- Opens a mark of waiting. -/
def enterMark (pid : Pid) (world : World) : World :=
  (world.enterWait pid none).modifyProcess pid fun process =>
    { process with marks := process.marks + 1 }

def leaveMark (pid : Pid) (world : World) : World :=
  match (world.processes.all[pid]?).map Process.marks with
  | some (marks + 1) =>
    (world.leaveWait pid none).modifyProcess pid fun process =>
      { process with marks }
  | _ => world

/-- Does what a call asks for, or starts to. -/
def perform (actor : Actor) (world : World) :
    (call : Call) → (call.Reply → Program Unit) → Activity × World
  | .reply text, next =>
    let (sending, world) := world.startMessage actor.task actor.chat text
    (.replying sending next, world)
  | .notify text, next =>
    let (sending, world) := world.startNotice actor.task actor.chat text
    (.notifying sending next, world)
  | .typing active, next =>
    (.running (next ()), world.setTyping actor.task actor.chat active)
  | .setPayload payload, next =>
    (.running (next ()), world.modifyProcess actor.pid fun process =>
      { process with payload := some payload })
  | .sleep millis, next =>
    let (answer, world) := world.setAlarm millis
    (.sleeping answer (next ()), world)
  | .wait kind predicate timeout, next =>
    let (wait, world) := world.startWaiting actor kind predicate timeout
    (.waiting wait next, world)
  | .ask prompt timeout, next =>
    let (asking, world) := world.startAsking actor prompt timeout
    (.asking asking next, world)
  | .confirm prompt timeout poll, next =>
    let (sending, world) := world.startMessage actor.task actor.chat prompt
    (.confirming (.prompting { timeout, poll } sending) next, world)
  | .resolveClashes, next => (.resolving .fresh next, world)
  | .enterGuard, next => (.running (next ()), world.enterGuard actor.pid)
  | .leaveGuard, next => (.running (next ()), world.leaveGuard actor.pid)
  | .enterMark, next => (.running (next ()), world.enterMark actor.pid)
  | .leaveMark, next => (.running (next ()), world.leaveMark actor.pid)
  | .interruptSelf, next =>
    (.running (next ()), (world.interruptHeld actor.pid).2)
  | .interruptAll pids, next =>
    let (answer, world) := world.interruptEach pids
    (.running (next answer), world)
  | .liftAll pids, next =>
    let (answer, world) := world.liftEach pids
    (.running (next answer), world)
  | .listProcesses, next => (.running (next world.processViews), world)
  | .listShreds, next => (.running (next world.shredViews), world)
  | .countContested, next =>
    (.running (next world.territory.fleet.contestedRooms.length), world)

def stepActivity (actor : Actor) (activity : Activity) (world : World) :
    Progress Activity Outcome × World :=
  match activity with
  | .running (.result ()) => (.done (.ok ()), world)
  | .running (.fail error) => (.done (.error error), world)
  | .running (.panic payload) => (.done (.error payload.toError), world)
  | .running (.call call next) =>
    let (activity, world) := world.perform actor call next
    (.go activity, world)
  | .sleeping answer next =>
    (if world.isDue answer then .go (.running next)
      else .blocked activity, world)
  | .replying sending next =>
    if world.isDue sending.answer then
      let (reply, world) := world.finishMessage sending
      (.go (.running (next reply)), world)
    else (.blocked activity, world)
  | .notifying sending next =>
    (if world.isDue sending.answer then
        .go (.running (next (finishNotice sending)))
      else .blocked activity, world)
  | .waiting wait next =>
    match world.stepOpenWait actor "" wait with
    | (.done result, world) => (.go (.running (next result)), world)
    | (.go wait, world) => (.go (.waiting wait next), world)
    | (.blocked wait, world) => (.blocked (.waiting wait next), world)
  | .asking asking next =>
    match world.stepAsking actor asking with
    | (.done result, world) => (.go (.running (next result)), world)
    | (.go asking, world) => (.go (.asking asking next), world)
    | (.blocked asking, world) => (.blocked (.asking asking next), world)
  | .confirming confirming next =>
    match world.stepConfirming actor confirming with
    | (.done result, world) => (.go (.running (next result)), world)
    | (.go confirming, world) => (.go (.confirming confirming next), world)
    | (.blocked confirming, world) =>
      (.blocked (.confirming confirming next), world)
  | .resolving resolving next =>
    match world.stepResolving actor resolving with
    | (.done result, world) => (.go (.running (next result)), world)
    | (.go resolving, world) => (.go (.resolving resolving next), world)
    | (.blocked resolving, world) =>
      (.blocked (.resolving resolving next), world)

def abandonAsking (pid : Pid) (asking : Asking) (world : World) : World :=
  match asking with
  | .prompting id _ _ => world.unsubscribe id
  | .waiting wait => world.closeWait pid wait.subscription

def abandonConfirming (pid : Pid) (confirming : Confirming) (world : World) :
    World :=
  match confirming with
  | .prompting .. => world
  | .reacting _ _ reaction deletion _ _ _ => world.dropBoth reaction deletion
  | .racing _ reaction deletion _ =>
    (world.closeWait pid reaction.subscription).unsubscribe
      deletion.subscription
  | .asking _ asking => world.abandonAsking pid asking

/-- A body is given up where it stands: what it holds is let go. -/
def abandon (actor : Actor) (activity : Activity) (world : World) : World :=
  match activity with
  | .waiting wait _ => world.closeWait actor.pid wait.subscription
  | .asking asking _ => world.abandonAsking actor.pid asking
  | .confirming confirming _ => world.abandonConfirming actor.pid confirming
  | .resolving _ _ =>
    let (agenda, territory) :=
      Resolving.abandon actor.task world.agenda world.territory
    { world with agenda, territory }
  | _ => world

end World

end Switchboard
