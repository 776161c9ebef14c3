import Switchboard.Proofs.Bot.Lifespan
import Switchboard.Proofs.Bot.Punctual

/-!
# What a question is answered with

A question that a body puts ends with the first message that answers it and
that is offered after it was put, also while its prompt is still being sent.
Without one it times out when its deadline passes, reckoned from the end of the
prompt, and never if there is none or it has been lifted.  Nothing else that
happens makes a difference, but for a kill.
-/

namespace Switchboard.World

/-- A task has a question open whose subscription is the given one. -/
def HasQuestion (position : TaskId) (id : SubscriptionId) (world : World) :
    Prop :=
  ∃ actor question, world.asking? position = some (actor, question) ∧
    question.subscription = id

theorem HasQuestion.held {position : TaskId}
    {id : SubscriptionId} {world : World}
    (has : HasQuestion position id world) :
    id ∈ (world.vigil position).held := by
  obtain ⟨actor, question, asks, rfl⟩ := has
  rw [held_of_asking asks]
  exact List.mem_singleton_self _

theorem HasQuestion.of_asking? {position : TaskId} {id : SubscriptionId}
    {world : World} (asks : (world.asking? position).map (·.2.subscription) =
      some id) : HasQuestion position id world := by
  obtain ⟨⟨actor, question⟩, found, same⟩ := Option.map_eq_some_iff.mp asks
  exact ⟨actor, question, found, same⟩

/-- A question that was put in the course of a run and is still open.  `call`
is the step in which it was put. -/
structure OpenQuestion where
  config : Config
  commands : Catalogue Handler
  horizon : Nat
  past : List Episode
  call : Episode
  later : List Episode
  world : World
  position : TaskId
  actor : Actor
  id : SubscriptionId
  timeout : Option Nat
  sending : Sending
  run : Run (World.start config commands horizon) past call.before
  asks : Asks position actor id timeout sending call
  goesOn : Run call.after later world
  isOpen : HasQuestion position id world

namespace OpenQuestion

/-- What the question asks for. -/
def wish (question : OpenQuestion) : Wish := answersTo question.actor.invocation

/-- The first message that answers the question. -/
def answer? (question : OpenQuestion) : Option Event :=
  firstOffer? question.wish question.later

/-- The moment at which the prompt is sent. -/
def sent (question : OpenQuestion) : Nat := question.sending.answer.due

/-- The deadline, reckoned from the end of the prompt.  A timeout of zero is
none. -/
def deadline? (question : OpenQuestion) : Option Nat :=
  (question.timeout.filter (0 < ·)).map (question.sent + ·)

/-- The process has been killed. -/
def killed (question : OpenQuestion) : Bool :=
  question.world.isKilled question.actor.pid

/-- The deadline has been lifted. -/
def lifted (question : OpenQuestion) : Bool :=
  (question.world.waiter.handoff question.id).lifted

def now (question : OpenQuestion) : Nat := question.world.agenda.now

/-- Time has gone on promptly since the question was put. -/
def Prompt (question : OpenQuestion) : Prop :=
  ∀ episode ∈ question.later, episode.Prompt

instance (question : OpenQuestion) : Decidable question.Prompt :=
  inferInstanceAs (Decidable (∀ episode ∈ question.later, episode.Prompt))

/-- The result with which the question ends if its task takes its next step
now. -/
def reply? (question : OpenQuestion) : Option (Except CommandError Event) :=
  question.world.reply? question.position

/-- The result with which a question ends. -/
inductive Result (question : OpenQuestion) : Except CommandError Event → Prop
    where
  | failed (reason : String) : question.sending.failure = some reason →
      Result question (.error (.internal { text := reason }))
  | interrupted : question.sending.failure = none → question.killed = true →
      Result question (.error .interrupted)
  | answered (event : Event) : question.sending.failure = none →
      question.answer? = some event → Result question (.ok event)
  | expired (deadline : Nat) : question.sending.failure = none →
      question.answer? = none → question.lifted = false →
      question.deadline? = some deadline → deadline ≤ question.now →
      (question.Prompt → question.now = deadline) →
      Result question (.error .timeout)

/-- The question has reason to be open: its prompt is being sent, or no answer
has come and no deadline has passed that holds. -/
inductive Pending (question : OpenQuestion) : Prop where
  | prompting : question.now < question.sent → Pending question
  | waiting : question.sending.failure = none → question.answer? = none →
      (question.lifted = false → ∀ deadline,
        question.deadline? = some deadline → question.now < deadline) →
      Pending question

/-- After what happens the question is over, and its subscription is off the
register for good. -/
def OverAfter (question : OpenQuestion) (occurrence : Occurrence) : Prop :=
  ∀ (rest : List Episode) (last : World),
    Run (question.world.happen occurrence) rest last →
      ¬HasQuestion question.position question.id last ∧
        ¬last.waiter.Registers question.id

/-- The answers to the question with their moments, reckoned from the call, in
the course of everything that happened since and of what happens then. -/
def timeline (question : OpenQuestion) (rest : List Episode) :
    List (Nat × Event) :=
  (offers question.wish (question.later ++ rest)).map fun (moment, event) =>
    (moment - question.call.before.agenda.now, event)

/-- How long it takes to send the prompt. -/
def delay (question : OpenQuestion) : Nat :=
  question.sent - question.call.before.agenda.now

/-- Two questions are put alike, and the same answers come to them after the
same time.  Of an answer that comes at the very moment of the deadline both
have heard when they end, or none has. -/
structure Alike (one two : OpenQuestion) (restOne restTwo : List Episode) :
    Prop where
  wish : one.wish = two.wish
  timeout : one.timeout = two.timeout
  failure : one.sending.failure = two.sending.failure
  delay : one.delay = two.delay
  timeline : one.timeline restOne = two.timeline restTwo
  tie : ∀ event span, one.timeout = some span → 0 < span →
    (one.timeline restOne).head? = some (one.delay + span, event) →
      (one.answer?.isSome ↔ two.answer?.isSome)

/-- Neither has the process been killed nor the deadline been lifted. -/
structure Undisturbed (question : OpenQuestion) : Prop where
  spared : question.killed = false
  unlifted : question.lifted = false

variable {question one two : OpenQuestion} {occurrence : Occurrence}
  {result : Except CommandError Event} {restOne restTwo : List Episode}
  {lastOne lastTwo : World}

theorem ranAfter (question : OpenQuestion) :
    Run (World.start question.config question.commands question.horizon)
      (question.past ++ [question.call]) question.call.after :=
  .next question.call.occurrence question.run

theorem ran (question : OpenQuestion) :
    Run (World.start question.config question.commands question.horizon)
      (question.past ++ [question.call] ++ question.later) question.world :=
  question.ranAfter.trans question.goesOn

theorem begun (question : OpenQuestion) :
    Asked question.position question.actor question.id question.timeout
      question.sending [] question.call.after :=
  question.asks.asked question.run.watchful question.run.guarded.sound

theorem asked (question : OpenQuestion) :
    Asked question.position question.actor question.id question.timeout
      question.sending question.later question.world :=
  question.begun.run question.ranAfter question.goesOn question.isOpen.held

theorem punctual (question : OpenQuestion) (prompt : question.Prompt) :
    Punctual question.position question.actor question.id question.timeout
      question.sending question.world :=
  .run question.ranAfter question.begun
    (.of_asks question.asks question.run.orderly question.run.watchful
      question.run.guarded.sound)
    question.goesOn prompt question.isOpen.held

theorem ends (replies : question.reply? = some result) :
    ∃ asking, question.world.asking? question.position =
        some (question.actor, asking) ∧
      asking.Since question.id question.timeout question.sending ∧
      asking.Ends question.killed question.world result ∧
      Ceased question.position question.id (question.world.happen .work) := by
  have mover : question.world.mover? = some question.position := by
    unfold reply? World.reply? at replies
    split at replies
    · rename_i floor
      exact mover?_of_floor floor
    · cases replies
  have reply : question.world.reply? question.position = some result := replies
  obtain ⟨asking, asks, begun, turn⟩ :=
    question.asked.turn question.ran.watchful mover
  cases turn with
  | replies other same ends ceased =>
      cases reply.symm.trans same
      exact ⟨asking, asks, begun, ends, begun.subscription ▸ ceased⟩
  | enters quiet | rests quiet | sent _ _ _ _ quiet | givenUp quiet =>
      cases reply.symm.trans quiet

theorem now_le_deadline {deadline : Nat} (prompt : question.Prompt)
    (unlifted : question.lifted = false)
    (due : question.deadline? = some deadline) : question.now ≤ deadline := by
  obtain ⟨asking, _, timely, _⟩ := (question.punctual prompt).stands
  obtain ⟨span, bounded, rfl⟩ := Option.map_eq_some_iff.mp due
  obtain ⟨bounded, positive⟩ := Option.filter_eq_some_iff.mp bounded
  cases timely with
  | prompting early => exact Nat.le_trans early (Nat.le_add_right _ _)
  | waiting serial bound =>
      exact bound unlifted span bounded (by simpa using positive)

theorem result_of_reply (replies : question.reply? = some result) :
    question.Result result := by
  obtain ⟨asking, _, begun, ends, _⟩ := question.ends replies
  cases ends with
  | fails _ _ _ reason failure =>
      cases begun
      exact .failed reason failure
  | interrupted wait killed =>
      cases begun with
      | waiting _ _ works => exact .interrupted works killed
  | answered wait event holds =>
      cases begun with
      | waiting _ _ works =>
          exact .answered event works
            (question.asked.awaits.first_of_value holds)
  | expired wait empty passed =>
      cases begun with
      | waiting sent serial works late =>
          obtain ⟨unlifted, span, bounded, positive, due⟩ :=
            (expired_ofQuestion _ _ _ _ _).mp passed
          have deadline : question.deadline? = some (question.sent + span) := by
            simp [deadline?, bounded, positive, Option.filter_some]
          have reached : question.sent + span ≤ question.now :=
            Nat.le_trans (Nat.add_le_add_right late span) due
          exact .expired _ works (question.asked.awaits.none_of_empty empty)
            unlifted deadline reached fun prompt =>
              Nat.le_antisymm (now_le_deadline prompt unlifted deadline) reached

theorem overAfter_of_ceased
    (ceased : Ceased question.position question.id
      (question.world.happen occurrence)) : question.OverAfter occurrence := by
  intro rest last goesOn
  have reached : Run _ _ _ := question.ran.trans (.single occurrence)
  have below : question.id <
      (question.world.happen occurrence).waiter.handoffs.length :=
    Nat.lt_of_lt_of_le
      ((question.ran.watchful.clean question.position).below _
        question.asked.awaits.held)
      (question.ran.orderly.grows occurrence).handoffs
  refine ⟨fun has => ?_, reached.unlisted goesOn below ceased.unlisted⟩
  exact ceased.unheld (reached.held_earlier goesOn below has.held)

theorem stays_open (question : OpenQuestion) (occurrence : Occurrence) :
    HasQuestion question.position question.id
        (question.world.happen occurrence) ∨
      occurrence = .work ∧ question.OverAfter .work ∧
        ((∃ result, question.reply? = some result) ∨
          question.killed = true) := by
  rcases question.asked.happen question.ran.guarded question.ran.orderly
      question.ran.watchful occurrence with still | ⟨mover, reason, ceased⟩
  · obtain ⟨asking, asks, begun⟩ := still.stands
    exact .inl ⟨_, asking, asks, begun.subscription⟩
  · obtain ⟨rfl, _⟩ := Episode.mover?_eq_some mover
    exact .inr ⟨rfl, overAfter_of_ceased ceased, reason⟩

theorem pending_of_settled (nobody : question.world.mover? = none)
    (prompt : question.Prompt) : question.Pending := by
  obtain ⟨asking, asks, timely, attended⟩ := (question.punctual prompt).stands
  have rests : asking.Rests question.world := by
    by_contra restless
    exact not_attended nobody (attended restless)
  obtain ⟨_, there, begun⟩ := question.asked.stands
  cases asks.symm.trans there
  cases rests with
  | prompting _ _ _ early =>
      cases timely
      exact .prompting early
  | waiting wait empty patient =>
      have works : question.sending.failure = none := by
        cases begun
        assumption
      cases timely with
      | waiting serial =>
          refine .waiting works (question.asked.awaits.none_of_empty empty) ?_
          intro unlifted deadline due
          obtain ⟨span, bounded, rfl⟩ := Option.map_eq_some_iff.mp due
          obtain ⟨bounded, positive⟩ := Option.filter_eq_some_iff.mp bounded
          apply Nat.lt_of_not_le
          intro passed
          have expires := (expired_ofQuestion question.id _ serial _ _).mpr
            ⟨unlifted, span, bounded, by simpa using positive, passed⟩
          exact Bool.false_ne_true (patient.symm.trans expires)

theorem spared_of_settled (nobody : question.world.mover? = none) :
    question.killed = false := by
  obtain ⟨asking, asks, _⟩ := question.asked.stands
  obtain ⟨task, activity, stands, own, _⟩ := asking?_eq_some asks
  obtain ⟨found, stage⟩ := activity?_eq_some stands
  obtain ⟨process, here, _, agrees⟩ :=
    question.ran.orderly.tasks _ task found
  have live : task.pid ∈ question.world.processes.live := by
    rw [Agrees, stage] at agrees
    exact agrees.1.live
  have idle : question.world.agenda.ready = [] := by
    have both : question.world.agenda.floor = none ∧
        question.world.agenda.ready = [] := by
      simpa [mover?] using nobody
    exact both.2
  have runs :=
    question.ran.orderly.isRunning_of_ready_eq_nil idle here live
  have alive : question.world.isKilled task.pid = false := by
    cases killed : question.world.isKilled task.pid with
    | false => rfl
    | true => exact absurd runs (question.ran.orderly.not_isRunning killed)
  rw [killed, ← own]
  exact alive

theorem moments {moment : Nat} {event : Event}
    (answer : (moment, event) ∈ offers question.wish question.later) :
    question.call.after.agenda.now ≤ moment ∧ moment ≤ question.now :=
  question.ranAfter.moments question.goesOn answer

theorem call_le_sent (question : OpenQuestion) :
    question.call.before.agenda.now ≤ question.sent :=
  (question.asks.starts question.run.watchful
    question.run.guarded.sound).1.sending _ _ _ rfl

theorem timeline_of_answer {event : Event}
    (answer : question.answer? = some event) (rest : List Episode) :
    ∃ moment, (question.timeline rest).head? =
        some (moment - question.call.before.agenda.now, event) ∧
      (moment, event) ∈ offers question.wish question.later := by
  obtain ⟨⟨moment, found⟩, head, rfl⟩ := Option.map_eq_some_iff.mp answer
  refine ⟨moment, ?_, List.mem_of_mem_head? head⟩
  rw [timeline, offers_append, List.head?_map, List.head?_append, head]
  rfl

theorem timeline_of_none (nothing : question.answer? = none)
    {rest : List Episode} {moment : Nat} {event : Event}
    (head : (question.timeline rest).head? = some (moment, event)) :
    ∃ later, moment = later - question.call.before.agenda.now ∧
      (later, event) ∈ offers question.wish rest := by
  have none : offers question.wish question.later = [] := by
    simpa [answer?, firstOffer?] using nothing
  rw [timeline, offers_append, none, List.nil_append, List.head?_map] at head
  obtain ⟨⟨later, found⟩, first, same⟩ := Option.map_eq_some_iff.mp head
  cases same
  exact ⟨later, rfl, List.mem_of_mem_head? first⟩

theorem deadline_of_timeout {span : Nat}
    (bounded : question.timeout = some span)
    (positive : 0 < span) :
    question.deadline? = some (question.sent + span) := by
  simp [deadline?, bounded, positive, Option.filter_some]

theorem timeout_of_deadline {deadline : Nat}
    (due : question.deadline? = some deadline) :
    ∃ span, question.timeout = some span ∧ 0 < span ∧
      deadline = question.sent + span := by
  obtain ⟨span, bounded, rfl⟩ := Option.map_eq_some_iff.mp due
  obtain ⟨bounded, positive⟩ := Option.filter_eq_some_iff.mp bounded
  exact ⟨span, bounded, by simpa using positive, rfl⟩

theorem Alike.symm (alike : Alike one two restOne restTwo) :
    Alike two one restTwo restOne where
  wish := alike.wish.symm
  timeout := alike.timeout.symm
  failure := alike.failure.symm
  delay := alike.delay.symm
  timeline := alike.timeline.symm
  tie := by
    intro event span bounded positive head
    rw [← alike.timeline, ← alike.delay] at head
    exact (alike.tie event span (alike.timeout.trans bounded) positive
      head).symm

theorem Alike.answered {event : Event} {deadline : Nat}
    (alike : Alike one two restOne restTwo)
    (goesOn : Run two.world restTwo lastTwo) (prompt : one.Prompt)
    (unlifted : one.lifted = false) (answer : one.answer? = some event)
    (due : two.deadline? = some deadline) (passed : deadline ≤ two.now) :
    two.answer? ≠ none := by
  intro nothing
  obtain ⟨span, bounded, positive, rfl⟩ := timeout_of_deadline due
  have boundedOne := alike.timeout.trans bounded
  obtain ⟨moment, head, offer⟩ := timeline_of_answer answer restOne
  have early := now_le_deadline prompt unlifted
    (deadline_of_timeout boundedOne positive)
  have inTime := (moments offer).2
  obtain ⟨later, same, offerThen⟩ :=
    timeline_of_none nothing (alike.timeline ▸ head)
  have late := (two.ran.moments goesOn offerThen).1
  have tied : moment - one.call.before.agenda.now = one.delay + span := by
    have callOne := one.call_le_sent
    have callTwo := two.call_le_sent
    have delays := alike.delay
    have reached : two.sent + span ≤ later := Nat.le_trans passed late
    unfold OpenQuestion.delay at delays ⊢
    omega
  have both := alike.tie event span boundedOne positive (tied ▸ head)
  rw [answer, nothing] at both
  exact Bool.false_ne_true (both.mp rfl)

/-- Questions that are put alike and hear the same answers in time end
alike. -/
theorem Alike.result_eq {resultTwo : Except CommandError Event}
    (alike : Alike one two restOne restTwo)
    (goesOnOne : Run one.world restOne lastOne)
    (goesOnTwo : Run two.world restTwo lastTwo)
    (promptOne : one.Prompt) (promptTwo : two.Prompt)
    (calmOne : one.Undisturbed) (calmTwo : two.Undisturbed)
    (repliesOne : one.reply? = some result)
    (repliesTwo : two.reply? = some resultTwo) : result = resultTwo := by
  have failure := alike.failure
  cases result_of_reply repliesOne with
  | failed reason fails =>
      cases result_of_reply repliesTwo with
      | failed other failsToo =>
          rw [fails, failsToo] at failure
          cases failure
          rfl
      | interrupted works | answered _ works | expired _ works =>
          rw [fails, works] at failure
          cases failure
  | interrupted _ killed => cases calmOne.spared.symm.trans killed
  | answered event works answer =>
      cases result_of_reply repliesTwo with
      | failed reason fails =>
          rw [works, fails] at failure
          cases failure
      | interrupted _ killed => cases calmTwo.spared.symm.trans killed
      | answered other _ answerToo =>
          obtain ⟨_, head, _⟩ := timeline_of_answer answer restOne
          obtain ⟨_, headToo, _⟩ := timeline_of_answer answerToo restTwo
          rw [alike.timeline, headToo] at head
          have same := congrArg Prod.snd (Option.some.inj head)
          exact congrArg Except.ok same.symm
      | expired _ _ nothing _ due passed _ =>
          exact absurd nothing (alike.answered goesOnTwo promptOne
            calmOne.unlifted answer due passed)
  | expired _ works nothing _ due passed _ =>
      cases result_of_reply repliesTwo with
      | failed reason fails =>
          rw [works, fails] at failure
          cases failure
      | interrupted _ killed => cases calmTwo.spared.symm.trans killed
      | answered _ _ answer =>
          exact absurd nothing (alike.symm.answered goesOnOne promptTwo
            calmTwo.unlifted answer due passed)
      | expired => rfl

/-- A question ends with the first message that answers it and that was offered
after it was put; if none was it times out when its deadline passes, and not
without one or with one that has been lifted.  Only a kill interrupts it.  If
its prompt fails that is what it ends with.  Then it is off the register for
good.  It stays open until it ends or its process is killed, and when time goes
on promptly it is open only for a reason whenever everybody waits.  What else
happens makes no difference: questions that hear the same answers after the
same time end alike. -/
theorem ask_result (question : OpenQuestion) :
    (∀ result, question.reply? = some result →
      question.Result result ∧ question.OverAfter .work) ∧
    (∀ occurrence,
      HasQuestion question.position question.id
          (question.world.happen occurrence) ∨
        occurrence = .work ∧ question.OverAfter .work ∧
          ((∃ result, question.reply? = some result) ∨
            question.killed = true)) ∧
    (question.world.mover? = none →
      question.killed = false ∧ (question.Prompt → question.Pending)) ∧
    ∀ (other : OpenQuestion) (rest restOther : List Episode)
      (last lastOther : World) (result resultOther : Except CommandError Event),
      Alike question other rest restOther →
      Run question.world rest last → Run other.world restOther lastOther →
      question.Prompt → other.Prompt →
      question.Undisturbed → other.Undisturbed →
      question.reply? = some result → other.reply? = some resultOther →
      result = resultOther := by
  refine ⟨fun result replies => ?_, question.stays_open, fun nobody => ?_, ?_⟩
  · obtain ⟨_, _, _, _, ceased⟩ := ends replies
    exact ⟨result_of_reply replies, overAfter_of_ceased ceased⟩
  · exact ⟨spared_of_settled nobody, pending_of_settled nobody⟩
  · intro other rest restOther last lastOther result resultOther alike goesOn
      goesOnOther prompt promptOther calm calmOther replies repliesOther
    exact alike.result_eq goesOn goesOnOther prompt promptOther calm calmOther
      replies repliesOther

end OpenQuestion

/-- A command that asks who is there. -/
def curiousCommands : Catalogue Handler :=
  Catalogue.register { name := "knock", description := "Asks who is there." }
    (fun invocation => discard (invocation.ask "who?")) {}

/-- A question has a second. -/
def curiousConfig : Config where
  accounts := []
  commands := { askTimeout := 1 }

/-- The command is about to ask.  Sending takes a tenth of a second. -/
def curiousBot : World :=
  (start curiousConfig curiousCommands hostHorizon).happenAll
    [.register "keeper", .fleet (.joined 0 "lobby"),
      .chat ⟨0, "lobby"⟩ fun state => { state with sendDelay := 100 },
      .receive ⟨0, "user", "lobby", "lobby", .message "first" ".knock"⟩, .work]

def curiousAnswer : Event :=
  ⟨0, "user", "lobby", "lobby", .message "third" "me"⟩

/-- Others speak, and the invocation is delivered once more; the answer comes
while the prompt is being sent. -/
def noisyOccurrences : List Occurrence :=
  [.receive ⟨0, "other", "lobby", "lobby", .message "second" "nobody"⟩,
    .receive ⟨0, "user", "lobby", "lobby", .reaction "first" "y"⟩,
    .receive curiousAnswer,
    .dispatch ⟨0, "user", "lobby", "lobby", .message "first" ".knock"⟩,
    .work, .pass 100, .work, .work]

/-- Nothing but the answer comes. -/
def quietOccurrences : List Occurrence :=
  [.receive curiousAnswer, .work, .pass 100, .work, .work]

def curiousQuestion (occurrences : List Occurrence)
    (isOpen : HasQuestion 0 0
      ((curiousBot.happen .work).happenAll occurrences)) : OpenQuestion where
  config := curiousConfig
  commands := curiousCommands
  horizon := hostHorizon
  past := _
  call := ⟨curiousBot, .work⟩
  later := (curiousBot.happen .work).history occurrences
  world := (curiousBot.happen .work).happenAll occurrences
  position := 0
  actor := ⟨0, 0, ⟨0, "lobby"⟩,
    ⟨0, "user", "lobby", "lobby", .message "first" ".knock"⟩⟩
  id := 0
  timeout := some 1000
  sending := ⟨⟨0, "lobby"⟩, "who?", none, ⟨100, 0⟩⟩
  run := .of_occurrences _ _
  asks := ⟨by decide +kernel, by decide +kernel, by decide +kernel⟩
  goesOn := .of_occurrences _ _
  isOpen := isOpen

def noisyQuestion : OpenQuestion :=
  curiousQuestion noisyOccurrences (.of_asking? (by decide +kernel))

def quietQuestion : OpenQuestion :=
  curiousQuestion quietOccurrences (.of_asking? (by decide +kernel))

/-- Among all else that happens and without it the question ends alike. -/
theorem curiousBot_is_answered :
    noisyQuestion.answer? = some curiousAnswer ∧
      noisyQuestion.reply? = some (.ok curiousAnswer) ∧
      quietQuestion.reply? = noisyQuestion.reply? ∧
      noisyQuestion.OverAfter .work := by
  have heard : noisyQuestion.answer? = some curiousAnswer := by decide +kernel
  have answered : quietQuestion.reply? = some (.ok curiousAnswer) := by
    decide +kernel
  have replies : noisyQuestion.reply?.isSome = true := by decide +kernel
  obtain ⟨result, replies⟩ := Option.isSome_iff_exists.mp replies
  have alike : noisyQuestion.Alike quietQuestion [] [] :=
    { wish := rfl, timeout := rfl, failure := rfl, delay := rfl
      timeline := by decide +kernel
      tie := fun _ _ _ _ _ => by
        rw [heard]
        exact iff_of_true rfl (by decide +kernel) }
  have same : result = .ok curiousAnswer :=
    (OpenQuestion.ask_result noisyQuestion).2.2.2 quietQuestion [] [] _ _
      result _ alike .start .start (by decide +kernel) (by decide +kernel)
      ⟨by decide +kernel, by decide +kernel⟩
      ⟨by decide +kernel, by decide +kernel⟩ replies answered
  have ceased := ((OpenQuestion.ask_result noisyQuestion).1 result replies).2
  exact ⟨heard, same ▸ replies, answered.trans (same ▸ replies).symm, ceased⟩

end Switchboard.World
