import Switchboard.Proofs.Bot.Awaiting

/-!
# The steps of a question

A question is put when its prompt starts to be sent; its subscription is made
before that.  When the prompt has been sent it waits with its deadline, and it
ends with the first answer, at the deadline, or by a kill.  A body puts its
questions itself, or a confirmation does where reactions cannot be added.
-/

namespace Switchboard

deriving instance DecidableEq for Actor

/-- The question of a body that has put one. -/
def Activity.question? : Activity → Option Asking
  | .asking question _ => some question
  | .confirming (.asking _ question) _ => some question
  | _ => none

def Asking.subscription : Asking → SubscriptionId
  | .prompting id _ _ => id
  | .waiting wait => wait.subscription

/-- What a question asks for: messages that answer an invocation. -/
def answersTo (invocation : Event) : Wish where
  kind := .message
  predicate := World.isAnswer invocation

/-- The wait of a question whose prompt had been sent at some moment. -/
def Wait.ofQuestion (id : SubscriptionId) (timeout : Option Nat)
    (sent serial : Nat) : Wait where
  subscription := id
  deadline := (timeout.filter (0 < ·)).map fun span => ⟨sent + span, serial⟩
  liveness := none
  tick := none

/-- What has become of a question: its prompt is being sent, or it has been
sent and the question waits for its answer. -/
inductive Asking.Since (id : SubscriptionId) (timeout : Option Nat)
    (sending : Sending) : Asking → Prop where
  | prompting : Since id timeout sending (.prompting id timeout sending)
  | waiting (sent serial : Nat) : sending.failure = none →
      sending.answer.due ≤ sent →
      Since id timeout sending (.waiting (.ofQuestion id timeout sent serial))

/-- A question that has nothing to do: its prompt has not been sent yet, or no
answer has come and no deadline has passed that holds. -/
inductive Asking.Rests (world : World) : Asking → Prop where
  | prompting (id : SubscriptionId) (timeout : Option Nat)
      (sending : Sending) : world.agenda.now < sending.answer.due →
      Rests world (.prompting id timeout sending)
  | waiting (wait : Wait) :
      (world.waiter.handoff wait.subscription).slot = .empty →
      wait.expired world.agenda (world.waiter.handoff wait.subscription) =
        false →
      Rests world (.waiting wait)

/-- How a question ends: its prompt has failed, or it has been sent and the
process has been killed, an answer has come, or a deadline has passed that
holds. -/
inductive Asking.Ends (killed : Bool) (world : World) :
    Asking → Except CommandError Event → Prop where
  | fails (id : SubscriptionId) (timeout : Option Nat) (sending : Sending)
      (reason : String) : sending.failure = some reason →
      Ends killed world (.prompting id timeout sending)
        (.error (.chat reason))
  | interrupted (wait : Wait) : killed = true →
      Ends killed world (.waiting wait) (.error .interrupted)
  | answered (wait : Wait) (event : Event) :
      (world.waiter.handoff wait.subscription).slot = .value event →
      Ends killed world (.waiting wait) (.ok event)
  | expired (wait : Wait) :
      (world.waiter.handoff wait.subscription).slot = .empty →
      wait.expired world.agenda (world.waiter.handoff wait.subscription) =
        true →
      Ends killed world (.waiting wait) (.error .timeout)

/-- One small step of a question. -/
inductive AskStep (killed : Bool) (world : World) :
    Asking → Progress Asking (Except CommandError Event) × World → Prop where
  | rests {question : Asking} : question.Rests world →
      AskStep killed world question (.blocked question, world)
  | sent {id : SubscriptionId} {timeout : Option Nat} {sending : Sending}
      {after : World} (serial : Nat) : sending.failure = none →
      sending.answer.due ≤ world.agenda.now →
      AskStep killed world (.prompting id timeout sending)
        (.go (.waiting (.ofQuestion id timeout world.agenda.now serial)),
          after)
  | ends {question : Asking} {result : Except CommandError Event}
      {after : World} : question.Ends killed world result →
      ¬after.waiter.Registers question.subscription →
      AskStep killed world question (.done result, after)

theorem Asking.Since.subscription {id : SubscriptionId}
    {timeout : Option Nat} {sending : Sending} {question : Asking}
    (since : question.Since id timeout sending) :
    question.subscription = id := by
  cases since <;> rfl

theorem Activity.held_of_question {activity : Activity} {question : Asking}
    (put : activity.question? = some question) :
    activity.vigil.held = [question.subscription] := by
  unfold question? at put
  split at put
  · cases put
    cases question <;> rfl
  · cases put
    cases question <;> rfl
  · cases put

/-- How a step of a body that has put a question follows from the step of
the question.  Where the question ends the body may put another one, with a
subscription of its own. -/
inductive Relays : Progress Asking (Except CommandError Event) × World →
    Progress Activity Outcome × World → Prop where
  | rests {question : Asking} {next : Activity} {middle : World} :
      next.question? = some question →
      Relays (.blocked question, middle) (.blocked next, middle)
  | goesOn {question : Asking} {next : Activity} {middle : World} :
      next.question? = some question →
      Relays (.go question, middle) (.go next, middle)
  | ends {result : Except CommandError Event} {next : Activity}
      {middle after : World} : middle.waiter.Grows after.waiter →
      (∀ id ∈ next.vigil.held, middle.waiter.handoffs.length ≤ id) →
      Relays (.done result, middle) (.go next, after)

namespace World

/-- The question that the body of a task has put, and who has put it. -/
def asking? (position : TaskId) (world : World) : Option (Actor × Asking) :=
  do
    let (task, activity) ← world.activity? position
    let question ← activity.question?
    return (actorOf position task, question)

/-- The result with which the question of a task ends in the next small
step. -/
def reply? (position : TaskId) (world : World) :
    Option (Except CommandError Event) :=
  if world.agenda.floor = some position then
    (world.asking? position).bind fun (actor, question) =>
      (world.stepAsking actor question).1.result?
  else none

/-- A question is over: its subscription is off the register, and the body of
its task does not hold it any more. -/
structure Ceased (position : TaskId) (id : SubscriptionId) (world : World) :
    Prop where
  unlisted : ¬world.waiter.Registers id
  unheld : id ∉ (world.vigil position).held

/-- A question has just been put: its subscription has been made, and its
prompt is being sent. -/
structure Puts (actor : Actor) (now : Nat) (question : Asking)
    (after : World) : Prop where
  subscribed : ∃ waiter : Waiter, waiter.Sound ∧
    question.subscription = waiter.handoffs.length ∧ after.waiter =
      (waiter.subscribe .message (isAnswer actor.invocation)).2
  sending : ∀ id timeout sending, question = .prompting id timeout sending →
    now ≤ sending.answer.due

/-- What the turn of a task comes to whose body has put a question. -/
inductive QuestionTurn (position : TaskId) (actor : Actor)
    (question : Asking) (world after : World) : Prop where
  | enters : world.reply? position = none →
      after.asking? position = some (actor, question) →
      after.agenda.floor = some position →
      QuestionTurn position actor question world after
  | rests : world.reply? position = none → question.Rests world →
      after.asking? position = some (actor, question) →
      after.waiter = world.waiter →
      QuestionTurn position actor question world after
  | sent (id : SubscriptionId) (timeout : Option Nat) (sending : Sending)
      (serial : Nat) : world.reply? position = none →
      question = .prompting id timeout sending →
      sending.failure = none → sending.answer.due ≤ world.agenda.now →
      after.asking? position = some (actor,
        .waiting (.ofQuestion id timeout world.agenda.now serial)) →
      after.agenda.floor = some position →
      QuestionTurn position actor question world after
  | replies (result : Except CommandError Event) :
      world.reply? position = some result →
      question.Ends (world.isKilled actor.pid) world result →
      Ceased position question.subscription after →
      QuestionTurn position actor question world after
  | givenUp : world.reply? position = none →
      world.isKilled actor.pid = true →
      Ceased position question.subscription after →
      QuestionTurn position actor question world after

section

variable {world after : World} {id : SubscriptionId} {timeout : Option Nat}
  {sending : Sending} {actor : Actor} {question : Asking}
  {position : TaskId} {task : ProcessTask} {activity : Activity}

theorem expired_ofQuestion (id : SubscriptionId) (sent serial : Nat)
    (agenda : Agenda) (handoff : Handoff Event) :
    (Wait.ofQuestion id timeout sent serial).expired agenda handoff = true ↔
      handoff.lifted = false ∧ ∃ span, timeout = some span ∧ 0 < span ∧
        sent + span ≤ agenda.now := by
  unfold Wait.expired Wait.ofQuestion Agenda.isDue
  rw [Bool.and_eq_true, and_comm]
  cases timeout with
  | none => simp
  | some span =>
      by_cases positive : 0 < span <;>
        simp [positive, Option.filter_some]

/-- The wait of a question takes no probe, so it ends with its turn or goes
back to sleep. -/
theorem stepWait_ofQuestion (watched : String) (sent serial : Nat)
    {content : Option Event}
    (holds : (world.waiter.handoff id).slot = .holding content) :
    (Asking.Rests world (.waiting (.ofQuestion id timeout sent serial)) ∧
      world.stepWait actor watched (.ofQuestion id timeout sent serial) =
        (.blocked (.ofQuestion id timeout sent serial), world)) ∨
    ∃ result after, world.stepWait actor watched
        (.ofQuestion id timeout sent serial) = (.done result, after) ∧
      Asking.Ends (world.isKilled actor.pid) world
        (.waiting (.ofQuestion id timeout sent serial))
        (result.mapError CommandError.ofWait) := by
  generalize waits : Wait.ofQuestion id timeout sent serial = wait
  have own : wait.subscription = id := waits ▸ rfl
  have listening : wait.phase = .listening := waits ▸ rfl
  have lifeless : wait.liveness = none := waits ▸ rfl
  have untimed : wait.tick = none := waits ▸ rfl
  subst own
  have same : world.setHandoff wait.subscription
      (world.waiter.handoff wait.subscription) = world := by
    rw [setHandoff, Waiter.setHandoff_handoff]
  unfold stepWait
  simp only [listening]
  cases killed : world.isKilled actor.pid with
  | true =>
      rw [Wait.listen_of_interrupted]
      exact .inr ⟨_, _, rfl, .interrupted wait rfl⟩
  | false =>
      cases content with
      | some event =>
          rw [Wait.listen_of_value holds]
          exact .inr ⟨_, _, rfl, .answered wait event holds⟩
      | none =>
          cases passed : wait.expired world.agenda
              (world.waiter.handoff wait.subscription) with
          | true =>
              rw [Wait.listen_of_expired holds passed, lifeless]
              exact .inr ⟨_, _, rfl, .expired wait holds passed⟩
          | false =>
              have patient : wait.probes world.agenda = false := by
                rw [Wait.probes, untimed]
                rfl
              rw [Wait.listen_of_empty holds passed, patient]
              exact .inl ⟨.waiting wait holds passed, by simp [same]⟩

theorem stepAsking_step (actor : Actor) {content : Option Event}
    (since : question.Since id timeout sending)
    (holds : (world.waiter.handoff id).slot = .holding content) :
    AskStep (world.isKilled actor.pid) world question
      (world.stepAsking actor question) := by
  have gone : ∀ waiter : Waiter, ¬(waiter.unsubscribe id).Registers id :=
    fun waiter listed =>
      ((waiter.registers_unsubscribe id id).mp listed).2 rfl
  cases since with
  | prompting =>
      unfold stepAsking
      dsimp only
      by_cases due : sending.answer.due ≤ world.agenda.now
      · have rings : world.isDue sending.answer = true := by
          simpa [isDue, Agenda.isDue] using due
        rw [if_pos rings]
        unfold finishMessage
        cases failure : sending.failure with
        | some reason => exact .ends (.fails _ _ _ reason failure) (gone _)
        | none => exact .sent _ failure due
      · have sleeps : ¬world.isDue sending.answer = true := by
          simpa [isDue, Agenda.isDue] using due
        rw [if_neg sleeps]
        exact .rests (.prompting _ _ _ (Nat.lt_of_not_le due))
  | waiting sent serial works passed =>
      unfold stepAsking stepOpenWait
      dsimp only
      obtain ⟨rests, stays⟩ | ⟨result, after, ended, ends⟩ :=
        @stepWait_ofQuestion world id timeout actor "" sent serial _ holds
      · rw [stays]
        exact .rests rests
      · rw [ended]
        exact .ends ends (gone _)

theorem stepActivity_relays (actor : Actor) (world : World)
    (put : activity.question? = some question) :
    Relays (world.stepAsking actor question)
      (world.stepActivity actor activity) := by
  unfold Activity.question? at put
  split at put
  · cases put
    unfold stepActivity
    dsimp only
    generalize world.stepAsking actor question = result
    obtain ⟨progress, middle⟩ := result
    cases progress with
    | blocked next => exact .rests rfl
    | go next => exact .goesOn rfl
    | done result => exact .ends (.refl _) nofun
  · cases put
    unfold stepActivity stepConfirming
    dsimp only
    generalize world.stepAsking actor question = result
    obtain ⟨progress, middle⟩ := result
    cases progress with
    | blocked next => exact .rests rfl
    | go next => exact .goesOn rfl
    | done result =>
        cases result with
        | error error => exact .ends (.refl _) nofun
        | ok event =>
            dsimp only
            cases parseYesNo? event.bodyText with
            | some yes => exact .ends (.refl _) nofun
            | none =>
                refine .ends (Waiter.grows_subscribe _ _ _) fun id held => ?_
                exact Nat.le_of_eq (List.mem_singleton.mp held).symm
  · cases put

theorem unlisted_abandon (put : activity.question? = some question) :
    ¬(world.abandon actor activity).waiter.Registers
      question.subscription := by
  have gone : ∀ id, ¬(world.waiter.unsubscribe id).Registers id :=
    fun id listed =>
      ((world.waiter.registers_unsubscribe id id).mp listed).2 rfl
  unfold Activity.question? at put
  split at put
  · cases put
    cases question <;> exact gone _
  · cases put
    cases question <;> exact gone _
  · cases put

theorem asking?_eq_some (asks : world.asking? position =
    some (actor, question)) :
    ∃ task activity, world.activity? position = some (task, activity) ∧
      actorOf position task = actor ∧ activity.question? = some question := by
  obtain ⟨⟨task, activity⟩, stands, rest⟩ := Option.bind_eq_some_iff.mp asks
  obtain ⟨_, put, same⟩ := Option.bind_eq_some_iff.mp rest
  cases same
  exact ⟨task, activity, stands, rfl, put⟩

theorem asking?_of_activity
    (stands : world.activity? position = some (task, activity))
    (put : activity.question? = some question) :
    world.asking? position = some (actorOf position task, question) := by
  simp [asking?, stands, put]

theorem held_of_asking
    (asks : world.asking? position = some (actor, question)) :
    (world.vigil position).held = [question.subscription] := by
  obtain ⟨task, activity, stands, _, put⟩ := asking?_eq_some asks
  rw [vigil_of_activity stands]
  exact Activity.held_of_question put

theorem Ceased.conclude (known : position < world.tasks.length)
    (unlisted : ¬world.waiter.Registers id)
    (below : id < world.waiter.handoffs.length) (outcome : Outcome) :
    Ceased position id (world.conclude position task outcome) where
  unlisted := by
    have frame : Frame position (· = task.pid) world
        (world.releaseGuards task.pid) := .releaseGuards rfl
    intro listed
    rcases frame.waiter.registers id listed with before | fresh
    · exact unlisted before
    · exact Nat.not_lt_of_le fresh.1 below
  unheld := by
    have found : (world.conclude position task outcome).tasks[position]? =
        some (.process { task with stage := .closing outcome }) := by
      rw [(concludes position task outcome world).tasks]
      exact List.getElem?_set_self known
    rw [vigil_of_found found]
    exact List.not_mem_nil

/-- The turn of a task whose body has put a question. -/
theorem Stride.question_turn
    (stride : Stride position task activity world after)
    (stands : world.activity? position = some (task, activity))
    (put : activity.question? = some question)
    (since : question.Since id timeout sending)
    (clean : (world.vigil position).Clean world.waiter) :
    QuestionTurn position (actorOf position task) question world after := by
  have known := (List.getElem?_eq_some_iff.mp
    (activity?_eq_some stands).1).1
  have asks := asking?_of_activity stands put
  obtain rfl := since.subscription
  have held : question.subscription ∈ (world.vigil position).held := by
    rw [held_of_asking asks]
    exact List.mem_cons_self
  have below := clean.below _ held
  obtain ⟨content, holds⟩ := clean.slots _ held
  have relays := stepActivity_relays (actorOf position task) world put
  have works := Works.stepActivity (actorOf position task) activity world
  have asked := @Works.stepAsking (actorOf position task) world question
  have step := stepAsking_step (actorOf position task) since holds
  have reply : world.agenda.floor = some position →
      world.reply? position =
        (world.stepAsking (actorOf position task) question).1.result? := by
    intro floor
    simp [reply?, floor, asks]
  have quiet : world.agenda.floor = none → world.reply? position = none := by
    intro floor
    simp [reply?, floor]
  generalize world.stepAsking (actorOf position task) question = result
    at relays step asked reply
  cases stride with
  | @steps next middle floor stepped =>
      rw [stepped] at relays works
      have stays := activity?_stepped stands next
      rw [stepped] at stays
      have still : (middle.setStage position task
          (.body next)).agenda.floor = some position :=
        works.frame.agenda.floor.trans floor
      cases relays with
      | goesOn goes =>
          have asksThen := asking?_of_activity stays goes
          cases step with
          | sent serial works due =>
              exact .sent _ _ _ serial (reply floor) rfl works due asksThen
                still
      | @ends result _ asked _ grows fresh =>
          cases step with
          | ends ends unlisted =>
              have belowThen := Nat.lt_of_lt_of_le below
                asked.frame.waiter.handoffs
              refine .replies result (reply floor) ends ⟨?_, ?_⟩
              · intro listed
                rcases grows.registers _ listed with before | fresh
                · exact unlisted before
                · exact Nat.not_lt_of_le fresh.1 belowThen
              · rw [vigil_of_activity stays]
                exact fun held =>
                  Nat.not_lt_of_le (fresh _ held) belowThen
  | @rests next middle floor stepped =>
      rw [stepped] at relays
      have stays := activity?_stepped stands next
      rw [stepped] at stays
      cases relays with
      | rests goes =>
          have asksThen := asking?_of_activity stays goes
          cases step with
          | rests rests => exact .rests (reply floor) rests asksThen rfl
  | ends floor ending =>
      cases activity with
      | running program => cases put
      | _ => cases ending
  | @enters rest floor alive => exact .enters (quiet floor) asks rfl
  | @givenUp rest floor killed =>
      have abandoned := Works.abandon (actorOf position task) activity
        (world.giveFloor position rest)
      refine .givenUp (quiet floor) killed
        (.conclude (abandoned.frame.tasks ▸ known) ?_
          (Nat.lt_of_lt_of_le below abandoned.frame.waiter.handoffs) _)
      exact unlisted_abandon put

theorem puts_startAsking (actor : Actor) (sound : world.waiter.Sound)
    (prompt : String) (timeout : Option Nat) :
    Puts actor world.agenda.now (world.startAsking actor prompt timeout).1
      (world.startAsking actor prompt timeout).2 where
  subscribed := ⟨world.waiter, sound, rfl, rfl⟩
  sending := by
    rintro id timeout sending same
    cases same
    exact Nat.le_add_right _ _

theorem stepAsking_go {next : Asking}
    (step : (world.stepAsking actor question).1 = .go next) :
    ∃ wait, next = .waiting wait := by
  unfold stepAsking at step
  cases question with
  | prompting id timeout sending =>
      dsimp only at step
      split at step
      · split at step
        · cases step
        · cases step
          exact ⟨_, rfl⟩
      · cases step
  | waiting wait =>
      dsimp only at step
      split at step
      · cases step
      · cases step
        exact ⟨_, rfl⟩
      · cases step

theorem stepAsking_blocked (step : (world.stepAsking actor question).1 =
      .blocked (.prompting id timeout sending)) :
    question = .prompting id timeout sending := by
  unfold stepAsking at step
  cases question with
  | prompting own span prompt =>
      dsimp only at step
      split at step
      · split at step <;> cases step
      · cases step
        rfl
  | waiting wait =>
      dsimp only at step
      split at step <;> cases step

theorem now_stepAsking (actor : Actor) (question : Asking) (world : World) :
    (world.stepAsking actor question).2.agenda.now = world.agenda.now :=
  (Works.stepAsking question).frame.agenda.now

end

end World

end Switchboard
