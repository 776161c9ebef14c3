import Switchboard.Proofs.Bot.BodyOperations

/-!
# The steps of bodies

What a body holds is determined by the point at which it stands.  Every step
of an activity works on the holdings of the point it starts from and leaves
those of the point it leads to; an activity that ends or is given up leaves
nothing.
-/

namespace Switchboard

namespace Progress

variable {α β : Type}

/-- What is held after a step: at the point that it leads to, or at the
end. -/
def holdings (here : α → Holdings) (ended : Holdings) :
    Progress α β → Holdings
  | .blocked point => here point
  | .go point => here point
  | .done _ => ended

/-- The point that a step leads to has a property. -/
def All (property : α → Prop) : Progress α β → Prop
  | .blocked point => property point
  | .go point => property point
  | .done _ => True

end Progress

/-- A wait that its process shows as open, on top of other holdings. -/
def Wait.holdings (rest : Holdings) (wait : Wait) : Holdings :=
  ⟨wait.subscription :: rest.held, wait.subscription :: rest.opened⟩

def Asking.holdings : Asking → Holdings
  | .prompting id _ _ => ⟨[id], []⟩
  | .waiting wait => wait.holdings {}

def Confirming.holdings : Confirming → Holdings
  | .prompting _ _ => {}
  | .reacting _ _ reaction deletion _ _ _ => ⟨[reaction, deletion], []⟩
  | .racing _ reaction deletion _ =>
    reaction.holdings ⟨[deletion.subscription], []⟩
  | .asking _ question => question.holdings

def Activity.holdings : Activity → Holdings
  | .waiting wait _ => wait.holdings {}
  | .asking question _ => question.holdings
  | .confirming confirmation _ => confirmation.holdings
  | _ => {}

theorem Resolving.step_agenda (task : TaskId) (agenda : Agenda)
    (territory : Territory) (resolving : Resolving) :
    agenda.Extends (resolving.step task agenda territory).agenda := by
  cases resolving with
  | fresh | queued => exact .refl agenda
  | nextRoom finished rest =>
      match rest with
      | [] =>
          exact .wakeAll _ agenda
      | (room, []) :: rest => exact .refl agenda
      | (room, keeper :: losers) :: rest => exact .refl agenda
  | nextLoser finished rest current losers =>
      cases losers with
      | nil => exact .refl agenda
      | cons loser losers =>
          simp only [step]
          split
          · exact .refl agenda
          · exact ⟨rfl, rfl, List.prefix_refl _⟩
  | leaving finished rest current losers loser failure answer =>
      simp only [step]
      split <;> exact .refl agenda

namespace World

variable {actor : Actor} {holdings : Holdings} {world : World}

theorem stepWait_subscription (actor : Actor) (watched : String)
    (wait : Wait) (world : World) :
    (world.stepWait actor watched wait).1.All
      (·.subscription = wait.subscription) := by
  unfold stepWait
  dsimp only
  split
  · split
    · trivial
    · rename_i reason _ _
      cases reason <;> rfl
    · rfl
  · split
    · split
      · trivial
      · rfl
    · rfl

namespace Works

theorem stepWait (watched : String) (wait : Wait) :
    Works actor holdings world holdings
      (world.stepWait actor watched wait).2 := by
  unfold World.stepWait
  dsimp only
  split
  · split
    · exact setHandoff _ _
    · exact ((setHandoff _ _).trans (setAlarm _)).trans
        (of_spared (.of_agenda ⟨rfl, rfl, List.prefix_refl _⟩) rfl)
    · exact setHandoff _ _
  · split
    · split
      · exact (lookFor actor.chat watched).trans (setHandoff _ _)
      · exact (lookFor actor.chat watched).trans (setHandoff _ _)
    · exact refl world

theorem stepOpenWait (watched : String) (wait : Wait) (rest : Holdings) :
    Works actor (wait.holdings rest) world
      ((world.stepOpenWait actor watched wait).1.holdings
        (Wait.holdings rest) rest)
      (world.stepOpenWait actor watched wait).2 := by
  have works : Works actor (wait.holdings rest) world (wait.holdings rest)
      (world.stepWait actor watched wait).2 := stepWait watched wait
  have same := stepWait_subscription actor watched wait world
  unfold World.stepOpenWait
  generalize world.stepWait actor watched wait = result at works same
  obtain ⟨progress, after⟩ := result
  cases progress with
  | blocked point =>
      have kept : point.holdings rest = wait.holdings rest := by
        rw [Wait.holdings, Wait.holdings, same]
      exact kept ▸ works
  | go point =>
      have kept : point.holdings rest = wait.holdings rest := by
        rw [Wait.holdings, Wait.holdings, same]
      exact kept ▸ works
  | done result => exact works.trans closeWait

theorem startWaiting (kind : EventKind) (predicate : Event → Bool)
    (timeout : Option Nat) :
    Works actor {} world
      ((world.startWaiting actor kind predicate timeout).1.holdings {})
      (world.startWaiting actor kind predicate timeout).2 :=
  (subscribe kind predicate).trans
    (openWait (List.Sublist.refl _) timeout none)

theorem startAsking (prompt : String) (timeout : Option Nat) :
    Works actor {} world
      (world.startAsking actor prompt timeout).1.holdings
      (world.startAsking actor prompt timeout).2 :=
  (subscribe .message (isAnswer actor.invocation)).trans
    (startMessage actor.chat prompt)

theorem stepAsking (asking : Asking) :
    Works actor asking.holdings world
      ((world.stepAsking actor asking).1.holdings Asking.holdings {})
      (world.stepAsking actor asking).2 := by
  unfold World.stepAsking
  cases asking with
  | prompting id timeout sending =>
      dsimp only
      split
      · have sent : Works actor ⟨[id], []⟩ world ⟨[id], []⟩
            (world.finishMessage sending).2 := finishMessage sending
        generalize world.finishMessage sending = result at sent
        obtain ⟨answer, after⟩ := result
        cases answer with
        | error error =>
            exact sent.trans (unsubscribe (List.Sublist.refl _))
        | ok name =>
            exact sent.trans (openWait (List.Sublist.refl _) timeout none)
      · exact refl world
  | waiting wait =>
      have works : Works actor (wait.holdings {}) world _ _ :=
        stepOpenWait "" wait {}
      dsimp only
      generalize world.stepOpenWait actor "" wait = result at works
      obtain ⟨progress, after⟩ := result
      cases progress <;> exact works

theorem startFallback (terms : ConfirmTerms) :
    Works actor {} world (world.startFallback actor terms).1.holdings
      (world.startFallback actor terms).2 :=
  startAsking Notice.confirmTextFallback terms.timeout

theorem stepConfirming (confirming : Confirming) :
    Works actor confirming.holdings world
      ((world.stepConfirming actor confirming).1.holdings
        Confirming.holdings {})
      (world.stepConfirming actor confirming).2 := by
  unfold World.stepConfirming
  cases confirming with
  | prompting terms sending =>
      dsimp only
      split
      · have sent : Works actor {} world {}
            (world.finishMessage sending).2 := finishMessage sending
        generalize world.finishMessage sending = result at sent
        obtain ⟨answer, after⟩ := result
        cases answer with
        | error error => exact sent
        | ok prompt =>
            exact ((sent.trans (subscribe .deletion _)).trans
              (subscribe .reaction _)).trans
                (startReaction actor.chat prompt Notice.confirmYes)
      · exact refl world
  | reacting terms prompt reaction deletion second failure answer =>
      dsimp only
      split
      · split
        · exact dropBoth.trans (startFallback terms)
        · split
          · exact (openWait (List.nil_sublist _) terms.timeout _).trans
              (startWait deletion none none)
          · exact startReaction actor.chat prompt Notice.confirmNo
      · exact refl world
  | racing prompt reaction deletion deletionTurn =>
      cases deletionTurn with
      | false =>
          have works : Works actor
              (reaction.holdings ⟨[deletion.subscription], []⟩) world _ _ :=
            stepOpenWait prompt reaction ⟨[deletion.subscription], []⟩
          dsimp only
          generalize world.stepOpenWait actor prompt reaction = result
            at works
          obtain ⟨progress, after⟩ := result
          cases progress with
          | blocked point => exact works
          | go point => exact works
          | done result =>
              exact works.trans (unsubscribe (List.Sublist.refl _))
      | true =>
          have works : Works actor
              (reaction.holdings ⟨[deletion.subscription], []⟩) world
              (reaction.holdings ⟨[deletion.subscription], []⟩)
              (world.stepWait actor prompt deletion).2 :=
            stepWait prompt deletion
          have same := stepWait_subscription actor prompt deletion world
          dsimp only
          generalize world.stepWait actor prompt deletion = result
            at works same
          obtain ⟨progress, after⟩ := result
          cases progress with
          | blocked point =>
              have kept : point.subscription = deletion.subscription := same
              change Works actor _ world
                (reaction.holdings ⟨[point.subscription], []⟩) after
              rw [kept]
              exact works
          | go point =>
              have kept : point.subscription = deletion.subscription := same
              change Works actor _ world
                (reaction.holdings ⟨[point.subscription], []⟩) after
              rw [kept]
              exact works
          | done result =>
              exact (works.trans closeWait).trans
                (unsubscribe (List.Sublist.refl _))
  | asking terms asking =>
      have works : Works actor asking.holdings world _ _ :=
        stepAsking asking
      dsimp only
      generalize world.stepAsking actor asking = result at works
      obtain ⟨progress, after⟩ := result
      cases progress with
      | blocked point => exact works
      | go point => exact works
      | done answer =>
          cases answer with
          | error error => exact works
          | ok event =>
              dsimp only
              split
              · exact works
              · exact works.trans (startFallback terms)

theorem note_all (task : TaskId) (acts : List Act) (world : World) :
    Frame task (fun _ => False) world
        (acts.foldl (fun world act => world.note task act) world) ∧
      (acts.foldl (fun world act => world.note task act) world).waiter =
        world.waiter := by
  induction acts generalizing world with
  | nil => exact ⟨.refl world, rfl⟩
  | cons act rest induction =>
      obtain ⟨frame, waiter⟩ := induction (world.note task act)
      exact ⟨(Frame.note act).trans frame, waiter⟩

theorem stepResolving (resolving : Resolving) :
    Works actor holdings world holdings
      (world.stepResolving actor resolving).2 := by
  unfold World.stepResolving
  dsimp only
  have agenda := resolving.step_agenda actor.task world.agenda
    world.territory
  generalize resolving.step actor.task world.agenda world.territory = result
    at agenda
  have stepped : Frame actor.task (fun _ => False) world
      { world with agenda := result.agenda, territory := result.territory } :=
    (Frame.of_agenda agenda).trans .of_territory
  obtain ⟨noted, waiter⟩ := note_all actor.task result.acts
    { world with agenda := result.agenda, territory := result.territory }
  have works : Works actor holdings world holdings _ :=
    of_spared (stepped.trans noted) (congrArg Waiter.register waiter)
  split <;> exact works

theorem perform (call : Call) (next : call.Reply → Program Unit) :
    Works actor {} world (world.perform actor call next).1.holdings
      (world.perform actor call next).2 := by
  cases call with
  | reply text => exact startMessage actor.chat text
  | notify text => exact startNotice actor.chat text
  | typing active => exact setTyping actor.chat active
  | setPayload payload =>
      exact modifyProcess (fun _ => ⟨rfl, rfl, rfl, rfl, .inl ⟨rfl, rfl⟩⟩)
        (fun _ => rfl) fun _ _ _ _ books =>
          books.of_same rfl rfl rfl rfl (Nat.le_refl _) fun _ => .inl
  | sleep millis => exact setAlarm millis
  | wait kind predicate timeout => exact startWaiting kind predicate timeout
  | ask prompt timeout => exact startAsking prompt timeout
  | confirm prompt timeout poll => exact startMessage actor.chat prompt
  | enterGuard => exact enterGuard
  | leaveGuard => exact leaveGuard
  | enterMark => exact enterMark
  | leaveMark => exact leaveMark
  | interruptSelf => exact interruptHeld actor.pid
  | interruptAll pids => exact interruptEach pids
  | liftAll pids => exact liftEach pids
  | resolveClashes | listProcesses | listShreds | countContested =>
      exact refl world

/-- Every step of a body works on what the body holds. -/
theorem stepActivity (actor : Actor) (activity : Activity)
    (world : World) :
    Works actor activity.holdings world
      ((world.stepActivity actor activity).1.holdings Activity.holdings {})
      (world.stepActivity actor activity).2 := by
  unfold World.stepActivity
  cases activity with
  | running program =>
      cases program with
      | result value => exact refl world
      | fail error => exact refl world
      | panic payload => exact refl world
      | call call next => exact perform call next
  | sleeping answer next =>
      dsimp only
      split <;> exact refl world
  | replying sending next =>
      dsimp only
      split
      · exact finishMessage sending
      · exact refl world
  | notifying sending next =>
      dsimp only
      split <;> exact refl world
  | waiting wait next =>
      have works : Works actor (wait.holdings {}) world _ _ :=
        stepOpenWait "" wait {}
      dsimp only
      generalize world.stepOpenWait actor "" wait = result at works
      obtain ⟨progress, after⟩ := result
      cases progress <;> exact works
  | asking asking next =>
      have works : Works actor asking.holdings world _ _ := stepAsking asking
      dsimp only
      generalize world.stepAsking actor asking = result at works
      obtain ⟨progress, after⟩ := result
      cases progress <;> exact works
  | confirming confirming next =>
      have works : Works actor confirming.holdings world _ _ :=
        stepConfirming confirming
      dsimp only
      generalize world.stepConfirming actor confirming = result at works
      obtain ⟨progress, after⟩ := result
      cases progress <;> exact works
  | resolving resolving next =>
      have works : Works actor {} world {} _ := stepResolving resolving
      dsimp only
      generalize world.stepResolving actor resolving = result at works
      obtain ⟨progress, after⟩ := result
      cases progress <;> exact works

theorem abandonAsking (asking : Asking) :
    Works actor asking.holdings world {}
      (world.abandonAsking actor.pid asking) := by
  cases asking with
  | prompting id timeout sending =>
      exact unsubscribe (List.Sublist.refl _)
  | waiting wait => exact closeWait

theorem abandonConfirming (confirming : Confirming) :
    Works actor confirming.holdings world {}
      (world.abandonConfirming actor.pid confirming) := by
  cases confirming with
  | prompting terms sending => exact refl world
  | reacting terms prompt reaction deletion second failure answer =>
      exact dropBoth
  | racing prompt reaction deletion deletionTurn =>
      exact closeWait.trans (unsubscribe (List.Sublist.refl _))
  | asking terms asking => exact abandonAsking asking

theorem abandon (actor : Actor) (activity : Activity) (world : World) :
    Works actor activity.holdings world {}
      (world.abandon actor activity) := by
  cases activity with
  | waiting wait next => exact closeWait
  | asking asking next => exact abandonAsking asking
  | confirming confirming next => exact abandonConfirming confirming
  | resolving resolving next =>
      have frame : Frame actor.task (fun _ => False) world
          { world with
            agenda := (Resolving.abandon actor.task world.agenda
              world.territory).1 } :=
        .of_agenda (.wakeAll _ _)
      exact of_spared (frame.trans .of_territory) rfl
  | running program | sleeping answer next | replying sending next
  | notifying sending next => exact refl world

end Works

end World

end Switchboard
