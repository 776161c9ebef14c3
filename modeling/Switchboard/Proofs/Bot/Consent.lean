import Switchboard.Proofs.Bot.Question

/-!
# The steps of a confirmation

A confirmation sends its prompt, subscribes to the verdict on it, adds two
reactions of its own, and then waits for the verdict.  Where a reaction cannot
be added it puts a question, and another one as long as the answers are
unclear.
-/

namespace Switchboard

/-- What a confirmation asks for: verdicts on its prompt. -/
def verdictOn (invocation : Event) (prompt : String) : Wish where
  kind := .reaction
  predicate := World.isVerdict invocation prompt

namespace World

/-- The confirmation that the body of a task is at, and who asks for it. -/
def confirming? (position : TaskId) (world : World) :
    Option (Actor × Confirming) := do
  let (task, activity) ← world.activity? position
  match activity with
  | .confirming confirming _ => return (actorOf position task, confirming)
  | _ => none

/-- The result with which the confirmation of a task ends in the next small
step. -/
def verdict? (position : TaskId) (world : World) :
    Option (Except CommandError Bool) :=
  if world.agenda.floor = some position then
    (world.confirming? position).bind fun (actor, confirming) =>
      (world.stepConfirming actor confirming).1.result?
  else none

/-- Starting to add a reaction, which fails or not. -/
def reactDeed (actor : Actor) (prompt key : String) (failed : Bool)
    (world : World) : Deed where
  moment := world.agenda.now
  task := actor.task
  act := .react (world.gateway.name actor.chat.shred) actor.chat.room prompt
    key failed

/-- One small step of a confirmation that goes on, or that is decided. -/
inductive ConfirmStep (actor : Actor) (world : World) : Confirming →
    Progress Confirming (Except CommandError Bool) × World → Prop where
  | fails {confirming : Confirming} {error : CommandError} {after : World} :
      ConfirmStep actor world confirming (.done (.error error), after)
  | rests {confirming : Confirming} :
      ConfirmStep actor world confirming (.blocked confirming, world)
  | sent {terms : ConfirmTerms} {sending : Sending} {prompt : String}
      {reaction deletion : SubscriptionId} {failure : Option String}
      {answer : Alarm} {waiter : Waiter} {middle after : World} :
      (world.finishMessage sending).1 = .ok prompt →
      (world.waiter.Sound → waiter.Sound) →
      reaction = waiter.handoffs.length →
      after.waiter =
        (waiter.subscribe .reaction (isVerdict actor.invocation prompt)).2 →
      after.deeds = world.deeds ++ [middle.reactDeed actor prompt
        Notice.confirmYes failure.isSome] →
      ConfirmStep actor world (.prompting terms sending)
        (.go (.reacting terms prompt reaction deletion false failure answer),
          after)
  | second {terms : ConfirmTerms} {prompt : String}
      {reaction deletion : SubscriptionId} {failure : Option String}
      {answer ring : Alarm} {middle after : World} :
      world.isDue answer = true →
      after.deeds = world.deeds ++ [middle.reactDeed actor prompt
        Notice.confirmNo failure.isSome] →
      ConfirmStep actor world
        (.reacting terms prompt reaction deletion false none answer)
        (.go (.reacting terms prompt reaction deletion true failure ring),
          after)
  | falls {terms : ConfirmTerms} {prompt reason : String}
      {reaction deletion id : SubscriptionId} {second : Bool} {answer : Alarm}
      {sending : Sending} {after : World} :
      world.isDue answer = true →
      sending.text = Notice.confirmTextFallback →
      (world.waiter.Sound → Puts actor world.agenda.now
        (.prompting id terms.timeout sending) after) →
      ConfirmStep actor world
        (.reacting terms prompt reaction deletion second (some reason) answer)
        (.go (.asking terms (.prompting id terms.timeout sending)), after)
  | opens {terms : ConfirmTerms} {prompt : String}
      {reaction deletion : SubscriptionId} {answer : Alarm}
      {verdict gone : Wait} {after : World} :
      world.isDue answer = true →
      verdict.subscription = reaction → after.deeds = world.deeds →
      ConfirmStep actor world
        (.reacting terms prompt reaction deletion true none answer)
        (.go (.racing prompt verdict gone false), after)
  | races {prompt : String} {verdict gone later : Wait} {turn : Bool}
      {next : Confirming} {result : Progress Confirming _ × World} :
      result.1.next? = some next →
      (∃ gone turn, next = .racing prompt later gone turn) →
      later.subscription = verdict.subscription →
      ConfirmStep actor world (.racing prompt verdict gone turn) result
  | reacted {prompt : String} {verdict gone : Wait} {event : Event}
      {after : World} :
      (world.waiter.handoff verdict.subscription).slot = .value event →
      ConfirmStep actor world (.racing prompt verdict gone false)
        (.done (.ok (accepts event)), after)
  | asks {terms : ConfirmTerms} {question next : Asking} {after : World} :
      (world.stepAsking actor question).1 = .go next →
      ConfirmStep actor world (.asking terms question)
        (.go (.asking terms next), after)
  | waits {terms : ConfirmTerms} {question next : Asking} {after : World} :
      (world.stepAsking actor question).1 = .blocked next →
      ConfirmStep actor world (.asking terms question)
        (.blocked (.asking terms next), after)
  | asksAgain {terms : ConfirmTerms} {question : Asking} {event : Event}
      {id : SubscriptionId} {sending : Sending} {after : World} :
      (world.stepAsking actor question).1 = .done (.ok event) →
      parseYesNo? event.bodyText = none →
      sending.text = Notice.confirmTextFallback →
      (world.waiter.Sound → Puts actor world.agenda.now
        (.prompting id terms.timeout sending) after) →
      ConfirmStep actor world (.asking terms question)
        (.go (.asking terms (.prompting id terms.timeout sending)), after)
  | answered {terms : ConfirmTerms} {question : Asking} {event : Event}
      {yes : Bool} {after : World} :
      (world.stepAsking actor question).1 = .done (.ok event) →
      parseYesNo? event.bodyText = some yes →
      ConfirmStep actor world (.asking terms question) (.done (.ok yes), after)

/-- What the turn of a task comes to whose body is at a confirmation: it ends,
it is given up, its task has just got the floor, or it takes a step. -/
inductive ConfirmTurn (position : TaskId) (actor : Actor)
    (confirming : Confirming) (world after : World) : Prop where
  | ends (result : Except CommandError Bool) :
      world.verdict? position = some result →
      after.confirming? position = none → (after.vigil position).held = [] →
      ConfirmTurn position actor confirming world after
  | givenUp : world.isKilled actor.pid = true →
      after.confirming? position = none → (after.vigil position).held = [] →
      ConfirmTurn position actor confirming world after
  | enters : world.agenda.floor = none → after.agenda.floor = some position →
      after.confirming? position = some (actor, confirming) →
      after.waiter = world.waiter → after.deeds = world.deeds →
      ConfirmTurn position actor confirming world after
  | steps {next : Confirming}
      {result : Progress Confirming (Except CommandError Bool) × World} :
      world.agenda.floor = some position →
      world.stepConfirming actor confirming = result →
      result.1.next? = some next →
      (result.1 = .go next → after.agenda.floor = some position) →
      after.confirming? position = some (actor, next) →
      after.waiter = result.2.waiter → after.deeds = result.2.deeds →
      ConfirmTurn position actor confirming world after

section

variable {world after : World} {actor : Actor} {question next : Asking}
  {confirming : Confirming} {position : TaskId} {task : ProcessTask}
  {activity : Activity} {made : TaskId → SubscriptionId → Prop}
  {occurrence : Occurrence}

theorem stepAsking_subscription
    (goesOn : (world.stepAsking actor question).1.next? = some next) :
    next.subscription = question.subscription := by
  unfold stepAsking at goesOn
  cases question with
  | prompting id timeout sending =>
      dsimp only at goesOn
      split at goesOn
      · split at goesOn <;> cases goesOn
        rfl
      · cases goesOn
        rfl
  | waiting wait =>
      have same := stepWait_subscription actor "" wait world
      dsimp only [stepOpenWait] at goesOn
      generalize world.stepWait actor "" wait = result at same goesOn
      obtain ⟨progress, middle⟩ := result
      cases progress <;> cases goesOn <;> exact same

theorem value_of_stepWait {watched : String} {wait : Wait} {event : Event}
    {content : Option Event}
    (holds : (world.waiter.handoff wait.subscription).slot = .holding content)
    (received : (world.stepWait actor watched wait).1 = .done (.ok event)) :
    (world.waiter.handoff wait.subscription).slot = .value event := by
  obtain ⟨handoff, step, _⟩ := stepWait_step actor watched wait holds
  rw [received] at step
  cases step with
  | received _ value => exact value

/-- Every step of a confirmation is one of these. -/
theorem stepConfirming_step (actor : Actor)
    (clean : confirming.vigil.Clean world.waiter) :
    ConfirmStep actor world confirming
      (world.stepConfirming actor confirming) := by
  cases confirming with
  | prompting terms sending =>
      unfold stepConfirming
      dsimp only
      split
      · have same := waiter_finishMessage sending world
        have deeds : (world.finishMessage sending).2.deeds = world.deeds := by
          unfold finishMessage
          split <;> rfl
        generalize finished : world.finishMessage sending = result
          at same deeds
        obtain ⟨answer, middle⟩ := result
        cases answer with
        | error error => exact .fails
        | ok prompt =>
            refine .sent (congrArg Prod.fst finished) (fun sound => ?_) rfl rfl
              (congrArg (· ++ _) deeds)
            exact (same ▸ sound).subscribe _ _
      · exact .rests
  | reacting terms prompt reaction deletion second failure answer =>
      unfold stepConfirming
      dsimp only
      split
      · rename_i due
        cases failure with
        | some reason =>
            refine .falls due rfl fun sound => ?_
            have dropped : (world.dropBoth reaction deletion).waiter.Sound :=
              (sound.unsubscribe reaction).unsubscribe deletion
            exact puts_startAsking actor dropped _ _
        | none =>
            cases second with
            | true => exact .opens due rfl rfl
            | false => exact .second due rfl
      · exact .rests
  | racing prompt verdict gone turn =>
      unfold stepConfirming
      cases turn with
      | false =>
          have member : verdict.subscription ∈
              (Confirming.racing prompt verdict gone false).vigil.held :=
            List.mem_cons_self
          obtain ⟨content, holds⟩ := clean.slots _ member
          have received := fun event =>
            @value_of_stepWait world actor prompt verdict event content holds
          have same := stepWait_subscription actor prompt verdict world
          dsimp only [stepOpenWait]
          generalize world.stepWait actor prompt verdict = result
            at received same
          obtain ⟨progress, middle⟩ := result
          cases progress with
          | blocked later => exact .races rfl ⟨_, _, rfl⟩ same
          | go later => exact .races rfl ⟨_, _, rfl⟩ same
          | done result =>
              cases result with
              | error error => exact .fails
              | ok event => exact .reacted (received event rfl)
      | true =>
          dsimp only
          generalize world.stepWait actor prompt gone = result
          obtain ⟨progress, middle⟩ := result
          cases progress with
          | blocked later => exact .races rfl ⟨_, _, rfl⟩ rfl
          | go later => exact .races rfl ⟨_, _, rfl⟩ rfl
          | done result => exact .fails
  | asking terms question =>
      have moves := moves_stepAsking actor False question clean
      have now := now_stepAsking actor question world
      have step : ∀ result, world.stepAsking actor question = result →
          ConfirmStep actor world (.asking terms question)
            (world.stepConfirming actor (.asking terms question)) := by
        rintro ⟨progress, middle⟩ asked
        rw [asked] at moves now
        unfold stepConfirming
        dsimp only
        rw [asked]
        cases progress with
        | blocked next => exact .waits (congrArg Prod.fst asked)
        | go next => exact .asks (congrArg Prod.fst asked)
        | done result =>
            cases result with
            | error error => exact .fails
            | ok event =>
                dsimp only
                cases parsed : parseYesNo? event.bodyText with
                | some yes =>
                    exact .answered (congrArg Prod.fst asked) parsed
                | none =>
                    refine .asksAgain (congrArg Prod.fst asked) parsed rfl
                      fun sound => ?_
                    have puts := puts_startAsking actor (moves.sound sound)
                      Notice.confirmTextFallback terms.timeout
                    exact now ▸ puts
      exact step _ rfl

theorem confirming?_eq_some
    (confirms : world.confirming? position = some (actor, confirming)) :
    ∃ task next, world.activity? position =
        some (task, .confirming confirming next) ∧
      actorOf position task = actor := by
  obtain ⟨⟨task, activity⟩, stands, rest⟩ :=
    Option.bind_eq_some_iff.mp confirms
  dsimp only at rest
  split at rest
  · cases rest
    exact ⟨task, _, stands, rfl⟩
  · cases rest

theorem confirming?_of_activity
    {next : Except CommandError Bool → Program Unit}
    (stands : world.activity? position =
      some (task, .confirming confirming next)) :
    world.confirming? position = some (actorOf position task, confirming) := by
  simp [confirming?, stands]

theorem step_of_verdict? {result : Except CommandError Bool}
    (returns : world.verdict? position = some result) :
    ∃ actor confirming, world.confirming? position = some (actor, confirming) ∧
      (world.stepConfirming actor confirming).1 = .done result := by
  unfold verdict? at returns
  split at returns
  · obtain ⟨⟨actor, confirming⟩, confirms, ends⟩ :=
      Option.bind_eq_some_iff.mp returns
    refine ⟨actor, confirming, confirms, ?_⟩
    dsimp only at ends
    generalize (world.stepConfirming actor confirming).1 = progress at ends
    cases progress with
    | done other => exact congrArg _ (Option.some.inj ends)
    | go next | blocked next => cases ends
  · cases returns

theorem confirming?_of_running {program : Program Unit}
    (stands : world.activity? position = some (task, .running program)) :
    world.confirming? position = none := by
  simp [confirming?, stands]

theorem confirming?_of_none (nowhere : world.activity? position = none) :
    world.confirming? position = none := by
  simp [confirming?, nowhere]

theorem vigil_of_confirming
    (confirms : world.confirming? position = some (actor, confirming)) :
    world.vigil position = confirming.vigil := by
  obtain ⟨task, next, stands, _⟩ := confirming?_eq_some confirms
  exact vigil_of_activity stands

theorem asking?_of_confirming {terms : ConfirmTerms}
    (confirms : world.confirming? position =
      some (actor, .asking terms question)) :
    world.asking? position = some (actor, question) := by
  obtain ⟨task, next, stands, rfl⟩ := confirming?_eq_some confirms
  exact asking?_of_activity stands rfl

theorem Orderly.confirming?_elsewhere (orderly : Orderly made world)
    (confirms : world.confirming? position = some (actor, confirming))
    (elsewhere : Episode.mover? ⟨world, occurrence⟩ ≠ some position) :
    (world.happen occurrence).confirming? position =
        some (actor, confirming) ∧
      (world.happen occurrence).deedsOf position = world.deedsOf position := by
  obtain ⟨task, next, stands, _⟩ := confirming?_eq_some confirms
  have beside := orderly.beside (activity?_eq_some stands).1 occurrence
    elsewhere
  refine ⟨?_, beside.deeds⟩
  rw [← confirms, confirming?, confirming?, activity?, activity?, beside.task]

theorem vigil_of_nowhere (nowhere : world.activity? position = none) :
    (world.vigil position).held = [] := by
  unfold vigil
  cases found : world.tasks[position]? with
  | none => rfl
  | some task =>
      cases task with
      | notice stage => rfl
      | process task =>
          cases stage : task.stage with
          | body activity =>
              cases nowhere.symm.trans (activity?_of_stage found stage)
          | _ => simp [Task.vigil, Stage.vigil, stage]

/-- The turn of a task whose body is at a confirmation. -/
theorem confirm_turn
    (confirms : world.confirming? position = some (actor, confirming))
    (mover : world.mover? = some position) :
    ConfirmTurn position actor confirming world (world.happen .work) := by
  obtain ⟨task, rest, stands, rfl⟩ := confirming?_eq_some confirms
  have turn := stride stands mover
  have works := Works.stepActivity (actorOf position task)
    (.confirming confirming rest) world
  generalize world.happen .work = later at turn
  cases turn with
  | @steps next middle floor stepped =>
      have stays := activity?_stepped stands next
      rw [stepped] at stays works
      have still : (middle.setStage position task
          (.body next)).agenda.floor = some position :=
        works.frame.agenda.floor.trans floor
      unfold stepActivity at stepped
      dsimp only at stepped
      generalize confirmed : world.stepConfirming (actorOf position task)
        confirming = result at stepped
      obtain ⟨progress, after⟩ := result
      cases progress with
      | blocked point => cases stepped
      | done result =>
          cases stepped
          have verdict : world.verdict? position = some result := by
            rw [verdict?, if_pos floor, confirms, Option.bind_some]
            exact congrArg (·.1.result?) confirmed
          refine .ends result verdict (confirming?_of_running stays) ?_
          rw [vigil_of_activity stays]
          rfl
      | go point =>
          cases stepped
          have confirmsThen := confirming?_of_activity stays
          exact .steps floor confirmed rfl (fun _ => still) confirmsThen rfl rfl
  | @rests next middle floor stepped =>
      have stays := activity?_stepped stands next
      rw [stepped] at stays
      unfold stepActivity at stepped
      dsimp only at stepped
      generalize confirmed : world.stepConfirming (actorOf position task)
        confirming = result at stepped
      obtain ⟨progress, after⟩ := result
      cases progress with
      | go point => cases stepped
      | done result => cases stepped
      | blocked point =>
          cases stepped
          have confirmsThen := confirming?_of_activity stays
          exact .steps floor confirmed rfl nofun confirmsThen rfl rfl
  | ends floor ending => cases ending
  | enters floor => exact .enters floor rfl confirms rfl rfl
  | givenUp floor killed =>
      have nowhere := activity?_givenUp stands
      exact .givenUp killed (confirming?_of_none (nowhere _ _))
        (vigil_of_nowhere (nowhere _ _))

theorem Orderly.activity_cases (orderly : Orderly made world)
    (stands : (world.happen occurrence).activity? position =
      some (task, activity)) :
    (∃ before, world.activity? position = some (before, activity)) ∨
      (∃ before earlier, world.activity? position = some (before, earlier) ∧
        (world.stepActivity (actorOf position before) earlier).1.next? =
          some activity) ∨
      ∃ program, activity = .running program := by
  obtain ⟨there, body⟩ := activity?_eq_some stands
  by_cases mover : Episode.mover? ⟨world, occurrence⟩ = some position
  · obtain ⟨rfl, own⟩ := Episode.mover?_eq_some mover
    cases arrival own stands with
    | stood stood => exact .inl ⟨task, stood⟩
    | steps stood _ _ stepped | rests stood _ stepped =>
        exact .inr (.inl ⟨_, _, stood, by rw [stepped]; rfl⟩)
    | starts running => exact .inr (.inr ⟨_, running⟩)
  · rcases orderly.task_cases occurrence there with
      ⟨before, found⟩ | ⟨_, _, _, _, ⟨_, unbuilt⟩, _⟩
    · have same := (orderly.beside found occurrence mover).task
      rw [activity?, same] at stands
      exact .inl ⟨task, stands⟩
    · cases unbuilt.symm.trans body

theorem stepActivity_confirming
    {next : Except CommandError Bool → Program Unit}
    (step : (world.stepActivity actor activity).1.next? =
      some (.confirming confirming next)) :
    (∃ before rest, activity = .confirming before rest) ∨
      ∃ terms sending, confirming = .prompting terms sending := by
  unfold stepActivity at step
  cases activity with
  | confirming before rest => exact .inl ⟨before, rest, rfl⟩
  | running program =>
      cases program with
      | call call rest =>
          cases call with
          | confirm prompt timeout poll =>
              cases step
              exact .inr ⟨_, _, rfl⟩
          | _ => cases step
      | _ => cases step
  | replying | sleeping | notifying | waiting | asking | resolving =>
      dsimp only at step
      split at step <;> cases step

theorem Orderly.confirming_begins (orderly : Orderly made world)
    (fresh : world.confirming? position = none)
    (confirms : (world.happen occurrence).confirming? position =
      some (actor, confirming)) :
    ∃ terms sending, confirming = .prompting terms sending := by
  obtain ⟨task, next, stands, _⟩ := confirming?_eq_some confirms
  rcases orderly.activity_cases stands with
    ⟨before, stood⟩ | ⟨before, earlier, stood, step⟩ | ⟨program, running⟩
  · cases (confirming?_of_activity stood).symm.trans fresh
  · rcases stepActivity_confirming step with ⟨_, _, rfl⟩ | begins
    · cases (confirming?_of_activity stood).symm.trans fresh
    · exact begins
  · cases running

end

end World

end Switchboard
