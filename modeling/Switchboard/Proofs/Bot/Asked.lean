import Switchboard.Proofs.Bot.Consent

/-!
# Questions that have been put

Where a body comes to a question whose prompt is being sent and that it has not
put before, it has made the subscription of that question in the same step.
From then on the question is open, and what was first offered that answers it
is what its body has been given, until the question ends in a turn of its task
or the body is given up.
-/

namespace Switchboard.World

/-- A task puts a question in its turn. -/
structure Asks (position : TaskId) (actor : Actor) (id : SubscriptionId)
    (timeout : Option Nat) (sending : Sending) (episode : Episode) : Prop where
  mover : episode.mover? = some position
  fresh : episode.before.asking? position ≠
    some (actor, .prompting id timeout sending)
  puts : episode.after.asking? position =
    some (actor, .prompting id timeout sending)

/-- A task put a question before all of the given happened, and the question
is open. -/
structure Asked (position : TaskId) (actor : Actor) (id : SubscriptionId)
    (timeout : Option Nat) (sending : Sending) (since : List Episode)
    (world : World) : Prop where
  stands : ∃ question, world.asking? position = some (actor, question) ∧
    question.Since id timeout sending
  awaits : Awaits position id (answersTo actor.invocation) since world

section

variable {world after : World} {id : SubscriptionId} {timeout : Option Nat}
  {sending : Sending} {actor : Actor} {question : Asking}
  {position : TaskId} {task : ProcessTask} {activity : Activity}
  {made : TaskId → SubscriptionId → Prop} {since later : List Episode}
  {episode : Episode}

theorem puts_stepConfirming {confirming : Confirming} {terms : ConfirmTerms}
    (clean : confirming.vigil.Clean world.waiter)
    (sound : world.waiter.Sound)
    (step : (world.stepConfirming actor confirming).1 =
      .go (.asking terms (.prompting id timeout sending))) :
    Puts actor world.agenda.now (.prompting id timeout sending)
      (world.stepConfirming actor confirming).2 := by
  have inversion := stepConfirming_step actor clean
  generalize world.stepConfirming actor confirming = result
    at inversion step ⊢
  cases inversion with
  | falls _ _ puts | asksAgain _ _ _ puts =>
      cases step
      exact puts sound
  | asks goes =>
      obtain ⟨wait, rfl⟩ := stepAsking_go goes
      cases step
  | races goes shape =>
      obtain ⟨gone, turn, rfl⟩ := shape
      rw [step] at goes
      cases goes
  | _ => cases step

/-- The step of a body that leads to a question whose prompt is being sent
puts that question. -/
theorem puts_stepActivity (actor : Actor) {next : Activity}
    (clean : activity.vigil.Clean world.waiter)
    (sound : world.waiter.Sound)
    (step : (world.stepActivity actor activity).1 = .go next)
    (put : next.question? = some (.prompting id timeout sending)) :
    Puts actor world.agenda.now (.prompting id timeout sending)
      (world.stepActivity actor activity).2 := by
  unfold stepActivity at step ⊢
  cases activity with
  | running program =>
      cases program with
      | call call next =>
          cases call with
          | ask prompt span =>
              have puts := puts_startAsking actor sound prompt span
              cases step
              cases put
              exact puts
          | _ =>
              cases step
              cases put
      | _ => cases step
  | sleeping answer next =>
      dsimp only at step
      split at step <;> cases step
      cases put
  | replying sending next =>
      dsimp only at step
      split at step <;> cases step
      cases put
  | notifying sending next =>
      dsimp only at step
      split at step <;> cases step
      cases put
  | waiting wait next =>
      dsimp only at step
      split at step <;> cases step <;> cases put
  | asking question next =>
      have going := @stepAsking_go world actor question
      dsimp only at step ⊢
      generalize world.stepAsking actor question = result at step going ⊢
      obtain ⟨progress, middle⟩ := result
      cases progress with
      | blocked next => cases step
      | done result =>
          cases step
          cases put
      | go next =>
          obtain ⟨wait, rfl⟩ := going rfl
          cases step
          cases put
  | confirming confirming next =>
      have puts := fun terms => @puts_stepConfirming world id timeout sending
        actor confirming terms clean sound
      dsimp only at step ⊢
      generalize world.stepConfirming actor confirming = result
        at step puts ⊢
      obtain ⟨progress, middle⟩ := result
      cases progress with
      | blocked next => cases step
      | done result =>
          cases step
          cases put
      | go next =>
          cases step
          cases next with
          | asking terms question =>
              cases put
              exact puts terms rfl
          | _ => cases put
  | resolving resolving next =>
      dsimp only at step
      generalize world.stepResolving actor resolving = result at step
      obtain ⟨progress, middle⟩ := result
      cases progress <;> cases step <;> cases put

theorem stepConfirming_blocked {confirming : Confirming}
    {terms : ConfirmTerms} (clean : confirming.vigil.Clean world.waiter)
    (step : (world.stepConfirming actor confirming).1 =
      .blocked (.asking terms question)) :
    ∃ before, confirming = .asking terms before := by
  have inversion := stepConfirming_step actor clean
  generalize world.stepConfirming actor confirming = result at inversion step
  cases inversion with
  | rests =>
      cases step
      exact ⟨question, rfl⟩
  | waits =>
      cases step
      exact ⟨_, rfl⟩
  | races goes shape =>
      obtain ⟨gone, turn, rfl⟩ := shape
      rw [step] at goes
      cases goes
  | _ => cases step

/-- A body that goes back to sleep over a question that is being put has put it
before. -/
theorem question?_of_blocked {next : Activity}
    (clean : activity.vigil.Clean world.waiter)
    (step : (world.stepActivity actor activity).1 = .blocked next)
    (put : next.question? = some (.prompting id timeout sending)) :
    activity.question? = some (.prompting id timeout sending) := by
  cases already : activity.question? with
  | some question =>
      have relays := stepActivity_relays actor world already
      have stays := @stepAsking_blocked world id timeout sending actor question
      generalize world.stepAsking actor question = result at relays stays
      generalize world.stepActivity actor activity = turn at step relays
      cases relays with
      | rests same =>
          cases step
          cases same.symm.trans put
          rw [stays rfl]
      | goesOn => cases step
      | ends => cases step
  | none =>
      unfold stepActivity at step
      cases activity with
      | running program => cases program <;> cases step
      | sleeping answer next =>
          dsimp only at step
          split at step <;> cases step
          cases put
      | replying sending next =>
          dsimp only at step
          split at step <;> cases step
          cases put
      | notifying sending next =>
          dsimp only at step
          split at step <;> cases step
          cases put
      | waiting wait next =>
          dsimp only at step
          split at step <;> cases step
          cases put
      | asking question next => cases already
      | confirming confirming next =>
          have stays := fun terms => @stepConfirming_blocked world actor
            (.prompting id timeout sending) confirming terms clean
          dsimp only at step
          generalize world.stepConfirming actor confirming = result
            at step stays
          obtain ⟨progress, middle⟩ := result
          cases progress <;> cases step
          rename_i point
          cases point with
          | asking terms question =>
              cases put
              obtain ⟨before, rfl⟩ := stays terms rfl
              cases already
          | _ => cases put
      | resolving resolving next =>
          dsimp only at step
          split at step <;> cases step
          cases put

theorem Asks.starts (asks : Asks position actor id timeout sending episode)
    (watchful : Watchful episode.before)
    (sound : episode.before.waiter.Sound) :
    Puts actor episode.before.agenda.now (.prompting id timeout sending)
        episode.after ∧ episode.after.agenda.floor = some position := by
  obtain ⟨world, occurrence⟩ := episode
  obtain ⟨rfl, mover⟩ := Episode.mover?_eq_some asks.mover
  have after : Episode.after ⟨world, .work⟩ = world.happen .work := rfl
  have puts := asks.puts
  rw [after] at puts ⊢
  obtain ⟨task, activity, stands, own, put⟩ := asking?_eq_some puts
  cases arrival mover stands with
  | stood stood => exact absurd (own ▸ asking?_of_activity stood put) asks.fresh
  | @steps before earlier middle stood same floor stepped reached =>
      have clean := watchful.clean position
      rw [vigil_of_activity stood] at clean
      have works := Works.stepActivity (actorOf position before) earlier world
      have begins := puts_stepActivity (actorOf position before) clean sound
        (congrArg Prod.fst stepped) put
      rw [stepped] at begins works
      rw [same, own] at begins
      rw [reached]
      exact ⟨⟨begins.subscribed, begins.sending⟩,
        works.frame.agenda.floor.trans floor⟩
  | rests stood same stepped =>
      have clean := watchful.clean position
      rw [vigil_of_activity stood] at clean
      have already := asking?_of_activity stood
        (question?_of_blocked clean (congrArg Prod.fst stepped) put)
      rw [same, own] at already
      exact absurd already asks.fresh
  | starts running =>
      rw [running] at put
      cases put

theorem Asks.asked (asks : Asks position actor id timeout sending episode)
    (watchful : Watchful episode.before)
    (sound : episode.before.waiter.Sound) :
    Asked position actor id timeout sending [] episode.after := by
  obtain ⟨waiter, soundThen, rfl, subscribed⟩ :=
    (asks.starts watchful sound).1.subscribed
  refine ⟨⟨_, asks.puts, .prompting⟩, ?_⟩
  apply Awaits.fresh soundThen subscribed
  rw [held_of_asking asks.puts]
  exact List.mem_singleton_self _

theorem Asked.turn (asked : Asked position actor id timeout sending since world)
    (watchful : Watchful world) (mover : world.mover? = some position) :
    ∃ question, world.asking? position = some (actor, question) ∧
      question.Since id timeout sending ∧
      QuestionTurn position actor question world (world.happen .work) := by
  obtain ⟨question, asks, begun⟩ := asked.stands
  obtain ⟨task, activity, stands, rfl, put⟩ := asking?_eq_some asks
  exact ⟨question, asks, begun, (stride stands mover).question_turn stands put
    begun (watchful.clean position)⟩

theorem Orderly.asking?_elsewhere (orderly : Orderly made world)
    (asks : world.asking? position = some (actor, question))
    {occurrence : Occurrence}
    (elsewhere : Episode.mover? ⟨world, occurrence⟩ ≠ some position) :
    (world.happen occurrence).asking? position = some (actor, question) := by
  obtain ⟨task, activity, stands, _⟩ := asking?_eq_some asks
  have beside := orderly.beside (activity?_eq_some stands).1 occurrence
    elsewhere
  rw [← asks, asking?, asking?, activity?, activity?, beside.task]

theorem Asked.goes_on (asked : Asked position actor id timeout sending since
      world) (guarded : Guarded world) (orderly : Orderly made world)
    (watchful : Watchful world) {occurrence : Occurrence}
    (asks : (world.happen occurrence).asking? position =
      some (actor, question))
    (begun : question.Since id timeout sending) :
    Asked position actor id timeout sending
      (since ++ [⟨world, occurrence⟩]) (world.happen occurrence) := by
  refine ⟨⟨question, asks, begun⟩,
    asked.awaits.happen guarded orderly watchful ?_⟩
  rw [held_of_asking asks, begun.subscription]
  exact List.mem_singleton_self _

theorem Asked.happen
    (asked : Asked position actor id timeout sending since world)
    (guarded : Guarded world) (orderly : Orderly made world)
    (watchful : Watchful world) (occurrence : Occurrence) :
    Asked position actor id timeout sending
        (since ++ [⟨world, occurrence⟩]) (world.happen occurrence) ∨
      (Episode.mover? ⟨world, occurrence⟩ = some position ∧
        ((∃ result, world.reply? position = some result) ∨
          world.isKilled actor.pid = true) ∧
        Ceased position id (world.happen occurrence)) := by
  by_cases mover : Episode.mover? ⟨world, occurrence⟩ = some position
  · obtain ⟨rfl, own⟩ := Episode.mover?_eq_some mover
    obtain ⟨question, asks, begun, turn⟩ := asked.turn watchful own
    cases turn with
    | enters _ asksThen =>
        exact .inl (asked.goes_on guarded orderly watchful asksThen begun)
    | rests _ _ asksThen =>
        exact .inl (asked.goes_on guarded orderly watchful asksThen begun)
    | sent _ _ _ serial _ same works due asksThen =>
        subst same
        cases begun
        exact .inl (asked.goes_on guarded orderly watchful asksThen
          (.waiting _ serial works due))
    | replies result reply _ ceased =>
        rw [begun.subscription] at ceased
        exact .inr ⟨mover, .inl ⟨result, reply⟩, ceased⟩
    | givenUp _ killed ceased =>
        rw [begun.subscription] at ceased
        exact .inr ⟨mover, .inr killed, ceased⟩
  · obtain ⟨question, asks, begun⟩ := asked.stands
    exact .inl (asked.goes_on guarded orderly watchful
      (orderly.asking?_elsewhere asks mover) begun)

variable {config : Config} {commands : Catalogue Handler} {horizon : Nat}
  {past : List Episode}

theorem Orderly.held_before (orderly : Orderly made world)
    (watchful : Watchful world) {occurrence : Occurrence}
    (below : id < world.waiter.handoffs.length)
    (held : id ∈ ((world.happen occurrence).vigil position).held) :
    id ∈ (world.vigil position).held := by
  obtain ⟨mover, shift⟩ := orderly.shift occurrence
  by_cases own : position = mover
  · subst own
    have tended := shift.tends (watchful.clean position)
    exact (tended.held id held).resolve_right (Nat.not_le_of_lt below)
  · rwa [shift.elsewhere position own] at held

theorem Run.handoffs
    (run : Run (World.start config commands horizon) past world)
    (goesOn : Run world later after) :
    world.waiter.handoffs.length ≤ after.waiter.handoffs.length := by
  induction goesOn with
  | start => exact Nat.le_refl _
  | next occurrence prior induction =>
      exact Nat.le_trans induction
        ((Run.orderly (run.trans prior)).grows occurrence).handoffs

/-- What a body holds after a while and that is not new it has held before. -/
theorem Run.held_earlier
    (run : Run (World.start config commands horizon) past world)
    (goesOn : Run world later after) (below : id < world.waiter.handoffs.length)
    (held : id ∈ (after.vigil position).held) :
    id ∈ (world.vigil position).held := by
  induction goesOn with
  | start => exact held
  | next occurrence prior induction =>
      have reached : Run _ _ _ := run.trans prior
      have belowThen := Nat.lt_of_lt_of_le below (run.handoffs prior)
      exact induction
        (reached.orderly.held_before reached.watchful belowThen held)

/-- A subscription that is off the register stays off it. -/
theorem Run.unlisted
    (run : Run (World.start config commands horizon) past world)
    (goesOn : Run world later after) (below : id < world.waiter.handoffs.length)
    (unlisted : ¬world.waiter.Registers id) :
    ¬after.waiter.Registers id := by
  induction goesOn with
  | start => exact unlisted
  | next occurrence prior induction =>
      intro listed
      have grows := (Run.orderly (run.trans prior)).grows occurrence
      rcases grows.registers id listed with before | fresh
      · exact induction before
      · exact Nat.not_lt_of_le (Nat.le_trans (run.handoffs prior) fresh.1) below

/-- What a body lets go of is off the register. -/
theorem Orderly.unlisted_of_released (orderly : Orderly made world)
    (watchful : Watchful world) {occurrence : Occurrence}
    (own : made position id) (held : id ∈ (world.vigil position).held)
    (unheld : id ∉ ((world.happen occurrence).vigil position).held) :
    ¬(world.happen occurrence).waiter.Registers id := by
  have mover : Episode.mover? ⟨world, occurrence⟩ = some position := by
    by_contra elsewhere
    rw [orderly.vigil_elsewhere occurrence elsewhere] at unheld
    exact unheld held
  obtain ⟨task, found⟩ : ∃ task, world.tasks[position]? =
      some (.process task) := by
    by_contra absent
    rw [vigil_of_not_process fun task found => absent ⟨task, found⟩] at held
    cases held
  obtain ⟨stage, process, there, here, _, agrees⟩ :=
    orderly.stands found occurrence
  have unguarded : id ∉ process.guards := by
    intro guard
    obtain ⟨rfl, turn⟩ := Episode.mover?_eq_some mover
    have guarded : id ∈ (world.happen .work).guardsAt position := by
      rw [guardsAt_of_found there, guards, here]
      exact guard
    rcases comesBy_turn turn id guarded with before | fresh
    · exact orderly.held_unguarded held before
    · exact Nat.not_lt_of_le fresh.1
        ((watchful.clean position).below id held)
  have ownThen : madeAfter made ⟨world, occurrence⟩ position id := .inl own
  rw [vigil_of_found there] at unheld
  intro listed
  have covered : ∀ holdings : Holdings,
      Books (fun id => ¬madeAfter made ⟨world, occurrence⟩ position id) holdings
        process (world.happen occurrence).waiter → id ∈ holdings.held := by
    intro holdings books
    have member := (books.covers id listed).resolve_right
      (not_not.mpr ownThen)
    exact (List.mem_append.mp member).resolve_right unguarded
  unfold Agrees at agrees
  cases stage with
  | unbuilt body => cases covered _ agrees.1.books
  | body activity => exact unheld (covered _ agrees.1.books)
  | closing outcome => exact agrees.1.registers id listed ownThen
  | announcing outcome sending => exact agrees.registers id listed ownThen
  | _ =>
      obtain ⟨_, ended⟩ := agrees
      exact ended.registers id listed ownThen

/-- What a body has let go of stays off the register. -/
theorem Run.unlisted_of_released
    (run : Run (World.start config commands horizon) past world)
    (goesOn : Run world later after) (own : MadeBy position past id)
    (held : id ∈ (world.vigil position).held)
    (unheld : id ∉ (after.vigil position).held) :
    ¬after.waiter.Registers id := by
  have below := (run.watchful.clean position).below id held
  induction goesOn with
  | start => exact absurd held unheld
  | @next later middle occurrence prior induction =>
      have reached : Run _ _ _ := run.trans prior
      by_cases still : id ∈ (middle.vigil position).held
      · have made : MadeBy position (past ++ later) id := by
          obtain ⟨episode, member, rest⟩ := own
          exact ⟨episode, List.mem_append_left _ member, rest⟩
        exact reached.orderly.unlisted_of_released reached.watchful made still
          unheld
      · exact reached.unlisted (.single occurrence)
          (Nat.lt_of_lt_of_le below (run.handoffs prior)) (induction still)

theorem Asked.run (run : Run (World.start config commands horizon) past world)
    (asked : Asked position actor id timeout sending since world)
    (goesOn : Run world later after)
    (held : id ∈ (after.vigil position).held) :
    Asked position actor id timeout sending (since ++ later) after := by
  have below : id < world.waiter.handoffs.length :=
    (run.watchful.clean position).below id asked.awaits.held
  induction goesOn with
  | start => exact (List.append_nil since).symm ▸ asked
  | @next later middle occurrence prior induction =>
      have reached : Run _ _ _ := run.trans prior
      have belowThen := Nat.lt_of_lt_of_le below (run.handoffs prior)
      have open_ := induction
        (reached.orderly.held_before reached.watchful belowThen held)
      rw [← List.append_assoc]
      exact (open_.happen reached.guarded reached.orderly reached.watchful
        occurrence).resolve_right fun ceased => ceased.2.2.unheld held

end

end Switchboard.World
