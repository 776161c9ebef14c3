import Switchboard.Proofs.Bot.Asked

/-!
# The course of a confirmation

Where an open confirmation stands tells how it has come there: when its prompt
was sent, which reactions have been tried since, what it has been waiting for,
and which questions have been put instead of reactions and answered unclearly.
Every turn of its task leads it on along this course, and nothing else that
happens does.
-/

namespace Switchboard.World

/-- Since an earlier state a task has started to add a reaction, and this
fails or not. -/
def Reacted (position : TaskId) (actor : Actor) (prompt key : String)
    (failed : Bool) (before after : World) : Prop :=
  ∃ deed ∈ (after.deedsOf position).drop (before.deedsOf position).length,
    ∃ name, deed.act = .react name actor.chat.room prompt key failed

/-- The step in which the prompt of a confirmation has been sent; the gateway
answers the name of the message. -/
structure SendsPrompt (position : TaskId) (actor : Actor)
    (terms : ConfirmTerms) (prompt : String) (episode : Episode) : Prop where
  mover : episode.mover? = some position
  before : ∃ sending, episode.before.confirming? position =
      some (actor, .prompting terms sending) ∧
    (episode.before.finishMessage sending).1 = .ok prompt
  after : ∃ reaction deletion failure answer,
    episode.after.confirming? position = some (actor,
      .reacting terms prompt reaction deletion false failure answer)

/-- The step in which a reaction to the prompt of a confirmation has been added,
or could not be. -/
structure Reacts (position : TaskId) (actor : Actor) (terms : ConfirmTerms)
    (prompt key : String) (failed : Bool) (episode : Episode) : Prop where
  mover : episode.mover? = some position
  before : ∃ reaction deletion second failure answer,
    episode.before.confirming? position = some (actor,
      .reacting terms prompt reaction deletion second failure answer) ∧
    episode.before.isDue answer = true ∧
    key = (if second then Notice.confirmNo else Notice.confirmYes) ∧
    failed = Option.isSome failure

/-- A reaction has been tried since the prompt was sent, and it has been added
or could not be. -/
structure Tried (position : TaskId) (actor : Actor) (terms : ConfirmTerms)
    (prompt key : String) (failed : Bool) (sent : Episode)
    (since : List Episode) (world : World) : Prop where
  starts : Reacted position actor prompt key failed sent.before world
  ends : ∃ episode ∈ since,
    Reacts position actor terms prompt key failed episode

/-- A question that a confirmation puts, what happens while it is open, and
what it is answered with. -/
structure Round where
  ask : Episode
  since : List Episode
  answer : Event

/-- All that happens in the course of a round. -/
def Round.episodes (round : Round) : List Episode := round.ask :: round.since

/-- A task asks for a text, and is answered with the first message that answers
its question. -/
structure Round.Held (position : TaskId) (actor : Actor)
    (timeout : Option Nat) (round : Round) : Prop where
  put : ∃ id sending, sending.text = Notice.confirmTextFallback ∧
    Asks position actor id timeout sending round.ask
  first : firstOffer? (answersTo actor.invocation) round.since =
    some round.answer

/-- The two reactions with which a verdict is given. -/
def verdictKeys : List String := [Notice.confirmYes, Notice.confirmNo]

/-- How a confirmation has come to where it stands. -/
inductive Course (position : TaskId) (actor : Actor) (terms : ConfirmTerms)
    (later : List Episode) (world : World) : Confirming → Prop where
  | prompting (sending : Sending) :
      Course position actor terms later world (.prompting terms sending)
  | reacting {prompt : String} {reaction deletion : SubscriptionId}
      {second : Bool} {failure : Option String} {answer : Alarm}
      {opening since : List Episode} {sent : Episode} :
      later = opening ++ sent :: since →
      SendsPrompt position actor terms prompt sent →
      Awaits position reaction (verdictOn actor.invocation prompt) since
        world →
      (second = true → Tried position actor terms prompt Notice.confirmYes
        false sent since world) →
      Reacted position actor prompt
        (if second then Notice.confirmNo else Notice.confirmYes)
        failure.isSome sent.before world →
      Course position actor terms later world
        (.reacting terms prompt reaction deletion second failure answer)
  | racing {prompt : String} {verdict gone : Wait} {turn : Bool}
      {opening since : List Episode} {sent : Episode} :
      later = opening ++ sent :: since →
      SendsPrompt position actor terms prompt sent →
      Awaits position verdict.subscription
        (verdictOn actor.invocation prompt) since world →
      (∀ key ∈ verdictKeys,
        Tried position actor terms prompt key false sent since world) →
      Course position actor terms later world
        (.racing prompt verdict gone turn)
  | asking {prompt key : String} {question : Asking} {id : SubscriptionId}
      {sending : Sending} {opening rest reacting since : List Episode}
      {sent ask : Episode} {rounds : List Round} :
      later = opening ++ sent :: rest →
      rest = reacting ++ (rounds.flatMap Round.episodes ++ ask :: since) →
      SendsPrompt position actor terms prompt sent →
      key ∈ verdictKeys →
      Tried position actor terms prompt key true sent rest world →
      (∀ round ∈ rounds, round.Held position actor terms.timeout ∧
        parseYesNo? round.answer.bodyText = none) →
      sending.text = Notice.confirmTextFallback →
      Asks position actor id terms.timeout sending ask →
      Asked position actor id terms.timeout sending since world →
      Course position actor terms later world (.asking terms question)

section

variable {world after before : World} {actor : Actor}
  {confirming : Confirming} {position : TaskId} {terms : ConfirmTerms}
  {later : List Episode} {made : TaskId → SubscriptionId → Prop}
  {occurrence : Occurrence} {prompt key : String} {failed : Bool}
  {deeds : List Deed}

theorem deedsOf_prefix (added : after.deeds = world.deeds ++ deeds) :
    world.deedsOf position <+: after.deedsOf position := by
  rw [deedsOf, deedsOf, added, List.filter_append]
  exact List.prefix_append _ _

theorem Reacted.mono (reacted : Reacted position actor prompt key failed before
      world) (grows : world.deedsOf position <+: after.deedsOf position) :
    Reacted position actor prompt key failed before after := by
  obtain ⟨deed, member, name, act⟩ := reacted
  obtain ⟨more, whole⟩ := grows
  refine ⟨deed, ?_, name, act⟩
  rw [← whole, List.drop_append]
  exact List.mem_append_left _ member

theorem Reacted.grown
    (reacted : Reacted position actor prompt key failed before world) :
    (before.deedsOf position).length ≤ (world.deedsOf position).length := by
  obtain ⟨deed, member, _⟩ := reacted
  have some := List.length_pos_of_mem member
  rw [List.length_drop] at some
  omega

theorem Reacted.of_deed {middle : World} (own : actor.task = position)
    (grown : (before.deedsOf position).length ≤
      (world.deedsOf position).length)
    (added : after.deeds =
      world.deeds ++ [middle.reactDeed actor prompt key failed]) :
    Reacted position actor prompt key failed before after := by
  have deeds : after.deedsOf position = world.deedsOf position ++
      [middle.reactDeed actor prompt key failed] := by
    simp [deedsOf, added, reactDeed, own]
  refine ⟨middle.reactDeed actor prompt key failed, ?_, _, rfl⟩
  rw [deeds, List.drop_append_of_le_length grown]
  exact List.mem_append_right _ (List.mem_singleton_self _)

theorem Tried.mono {sent : Episode} {since longer : List Episode}
    (tried : Tried position actor terms prompt key failed sent since world)
    (grows : world.deedsOf position <+: after.deedsOf position)
    (more : since ⊆ longer) :
    Tried position actor terms prompt key failed sent longer after := by
  obtain ⟨episode, member, reacts⟩ := tried.ends
  exact ⟨tried.starts.mono grows, episode, more member, reacts⟩

theorem task_of_confirming
    (confirms : world.confirming? position = some (actor, confirming)) :
    actor.task = position := by
  obtain ⟨_, _, _, rfl⟩ := confirming?_eq_some confirms
  rfl

theorem split_snoc {episodes opening since : List Episode}
    {sent episode : Episode} (split : episodes = opening ++ sent :: since) :
    episodes ++ [episode] = opening ++ sent :: (since ++ [episode]) := by
  simp [split]

theorem Asked.asks_on {question : Asking} {id : SubscriptionId}
    {timeout : Option Nat} {sending : Sending} {since : List Episode}
    (asked : Asked position actor id timeout sending since world)
    (guarded : Guarded world) (orderly : Orderly made world)
    (watchful : Watchful world)
    (asks : (world.happen occurrence).asking? position = some (actor, question))
    (own : question.subscription = id) :
    Asked position actor id timeout sending (since ++ [⟨world, occurrence⟩])
      (world.happen occurrence) := by
  refine (asked.happen guarded orderly watchful occurrence).resolve_right ?_
  rintro ⟨_, _, ceased⟩
  apply ceased.unheld
  rw [held_of_asking asks, own]
  exact List.mem_singleton_self _

theorem Asked.answered {question : Asking} {id : SubscriptionId}
    {timeout : Option Nat} {sending : Sending} {since : List Episode}
    {event : Event}
    (asked : Asked position actor id timeout sending since world)
    (watchful : Watchful world)
    (asks : world.asking? position = some (actor, question))
    (ends : (world.stepAsking actor question).1 = .done (.ok event)) :
    firstOffer? (answersTo actor.invocation) since = some event ∧
      ∃ wait, question = .waiting wait := by
  obtain ⟨_, there, begun⟩ := asked.stands
  cases asks.symm.trans there
  obtain ⟨content, holds⟩ :=
    (watchful.clean position).slots id asked.awaits.held
  have step := stepAsking_step actor begun holds
  generalize world.stepAsking actor question = result at step ends
  cases step with
  | rests => cases ends
  | sent => cases ends
  | ends how =>
      cases ends
      cases how with
      | answered wait _ value =>
          obtain rfl : wait.subscription = id := begun.subscription
          exact ⟨asked.awaits.first_of_value value, wait, rfl⟩

theorem Round.Held.of_asks {id : SubscriptionId} {timeout : Option Nat}
    {sending : Sending} {ask : Episode} {since : List Episode} {event : Event}
    (text : sending.text = Notice.confirmTextFallback)
    (asks : Asks position actor id timeout sending ask)
    (first : firstOffer? (answersTo actor.invocation) since = some event) :
    Round.Held position actor timeout ⟨ask, since, event⟩ :=
  ⟨⟨id, sending, text, asks⟩, first⟩

/-- A confirmation that stays where it stands. -/
theorem Course.stays (course : Course position actor terms later world
      confirming) (guarded : Guarded world) (orderly : Orderly made world)
    (watchful : Watchful world)
    (confirms : world.confirming? position = some (actor, confirming))
    (confirmsThen : (world.happen occurrence).confirming? position =
      some (actor, confirming))
    (grows : world.deedsOf position <+:
      (world.happen occurrence).deedsOf position) :
    Course position actor terms (later ++ [⟨world, occurrence⟩])
      (world.happen occurrence) confirming := by
  have held : ∀ id ∈ confirming.vigil.held,
      id ∈ ((world.happen occurrence).vigil position).held := by
    intro id member
    rw [vigil_of_confirming confirmsThen]
    exact member
  cases course with
  | prompting sending => exact .prompting sending
  | @reacting _ _ _ _ _ _ opening since sent split sends awaits first
      reacted =>
      exact .reacting (split_snoc split) sends
        (awaits.happen guarded orderly watchful (held _ List.mem_cons_self))
        (fun second => (first second).mono grows (List.subset_append_left _ _))
        (reacted.mono grows)
  | @racing _ _ _ _ opening since sent split sends awaits reacted =>
      exact .racing (split_snoc split) sends
        (awaits.happen guarded orderly watchful (held _ List.mem_cons_self))
        fun key member =>
          (reacted key member).mono grows (List.subset_append_left _ _)
  | @asking _ _ question id _ opening rest reacting since sent ask rounds split
      parts sends known tried answered text asks asked =>
      have partsThen : rest ++ [⟨world, occurrence⟩] =
          reacting ++ (rounds.flatMap Round.episodes ++
            ask :: (since ++ [⟨world, occurrence⟩])) := by
        simp [parts]
      have own : question.subscription = id := by
        obtain ⟨_, there, begun⟩ := asked.stands
        cases (asking?_of_confirming confirms).symm.trans there
        exact begun.subscription
      exact .asking (split_snoc split) partsThen sends known
        (tried.mono grows (List.subset_append_left _ _)) answered text asks
        (asked.asks_on guarded orderly watchful
          (asking?_of_confirming confirmsThen) own)

/-- In its turn a task leads its confirmation on to where it stands then. -/
structure Onward (position : TaskId) (actor : Actor)
    (confirming next : Confirming) (world result : World) : Prop where
  guarded : Guarded world
  watchful : Watchful world
  mover : world.mover? = some position
  confirms : world.confirming? position = some (actor, confirming)
  confirmsThen : (world.happen .work).confirming? position =
    some (actor, next)
  waiter : (world.happen .work).waiter = result.waiter
  deeds : (world.happen .work).deeds = result.deeds
  grows : world.deedsOf position <+: (world.happen .work).deedsOf position

namespace Onward

variable {next : Confirming} {result : World}
  {reaction deletion : SubscriptionId}
  {failure : Option String} {answer : Alarm} {verdict gone : Wait}
  {turn : Bool} {sending : Sending} {id : SubscriptionId} {question : Asking}

theorem held (onward : Onward position actor confirming next world result)
    (member : id ∈ next.vigil.held) :
    id ∈ ((world.happen .work).vigil position).held := by
  rw [vigil_of_confirming onward.confirmsThen]
  exact member

theorem own (onward : Onward position actor confirming next world result) :
    actor.task = position := task_of_confirming onward.confirms

theorem tries {second : Bool} {sent : Episode} {since : List Episode}
    (onward : Onward position actor
      (.reacting terms prompt reaction deletion second failure answer) next
      world result) (due : world.isDue answer = true)
    (reacted : Reacted position actor prompt key failed sent.before world)
    (which : key = (if second then Notice.confirmNo else Notice.confirmYes))
    (how : failed = failure.isSome) :
    Tried position actor terms prompt key failed sent
      (since ++ [⟨world, .work⟩]) (world.happen .work) :=
  ⟨reacted.mono onward.grows, ⟨world, .work⟩,
    List.mem_append_right _ (List.mem_singleton_self _), onward.mover, _, _, _,
    _, _, onward.confirms, due, which, how⟩

theorem sent {waiter : Waiter} {middle : World}
    (onward : Onward position actor (.prompting terms sending)
      (.reacting terms prompt waiter.handoffs.length deletion false failure
        answer) world result)
    (named : (world.finishMessage sending).1 = .ok prompt)
    (sound : waiter.Sound)
    (subscribed : result.waiter =
      (waiter.subscribe .reaction (isVerdict actor.invocation prompt)).2)
    (added : result.deeds = world.deeds ++ [middle.reactDeed actor prompt
      Notice.confirmYes failure.isSome]) :
    Course position actor terms (later ++ [⟨world, .work⟩])
      (world.happen .work)
      (.reacting terms prompt waiter.handoffs.length deletion false failure
        answer) := by
  have split : later ++ [⟨world, .work⟩] = later ++ ⟨world, .work⟩ :: [] := rfl
  refine .reacting split ⟨onward.mover, ⟨sending, onward.confirms, named⟩,
    ⟨_, _, _, _, onward.confirmsThen⟩⟩ ?_ nofun
    (.of_deed onward.own (Nat.le_refl _) (onward.deeds.trans added))
  exact Awaits.fresh sound (onward.waiter.trans subscribed)
    (onward.held List.mem_cons_self)

theorem second {ring : Alarm} {middle : World}
    (onward : Onward position actor
      (.reacting terms prompt reaction deletion false none answer)
      (.reacting terms prompt reaction deletion true failure ring) world
      result) (orderly : Orderly made world)
    (course : Course position actor terms later world
      (.reacting terms prompt reaction deletion false none answer))
    (due : world.isDue answer = true)
    (added : result.deeds = world.deeds ++ [middle.reactDeed actor prompt
      Notice.confirmNo failure.isSome]) :
    Course position actor terms (later ++ [⟨world, .work⟩])
      (world.happen .work)
      (.reacting terms prompt reaction deletion true failure ring) := by
  cases course with
  | @reacting _ _ _ _ _ _ opening since sent split sends awaits _ reacted =>
      exact .reacting (split_snoc split) sends
        (awaits.happen onward.guarded orderly onward.watchful
          (onward.held List.mem_cons_self))
        (fun _ => onward.tries due reacted rfl rfl)
        (.of_deed onward.own reacted.grown (onward.deeds.trans added))

theorem key_mem (second : Bool) :
    (if second then Notice.confirmNo else Notice.confirmYes) ∈ verdictKeys := by
  cases second
  · exact List.mem_cons_self
  · exact List.mem_cons_of_mem _ List.mem_cons_self

theorem falls {reason : String} {second : Bool}
    (onward : Onward position actor
      (.reacting terms prompt reaction deletion second (some reason) answer)
      (.asking terms (.prompting id terms.timeout sending)) world result)
    (course : Course position actor terms later world
      (.reacting terms prompt reaction deletion second (some reason) answer))
    (due : world.isDue answer = true)
    (text : sending.text = Notice.confirmTextFallback) :
    Course position actor terms (later ++ [⟨world, .work⟩])
      (world.happen .work)
      (.asking terms (.prompting id terms.timeout sending)) := by
  have fresh : world.asking? position = none := by
    obtain ⟨task, next, stands, _⟩ := confirming?_eq_some onward.confirms
    simp [asking?, stands, Activity.question?]
  have asks : Asks position actor id terms.timeout sending ⟨world, .work⟩ :=
    ⟨onward.mover, by simp [fresh], asking?_of_confirming onward.confirmsThen⟩
  cases course with
  | @reacting _ _ _ _ _ _ opening since sent split sends _ _ reacted =>
      have parts : since ++ [⟨world, .work⟩] = since ++
          (([] : List Round).flatMap Round.episodes ++
            ⟨world, .work⟩ :: []) := rfl
      have none : ∀ round ∈ ([] : List Round),
          round.Held position actor terms.timeout ∧
            parseYesNo? round.answer.bodyText = none := by
        intro round member
        cases member
      have asked := asks.asked onward.watchful onward.guarded.sound
      exact .asking (split_snoc split) parts sends (key_mem second)
        (onward.tries due reacted rfl rfl) none text asks asked

theorem opens
    (onward : Onward position actor
      (.reacting terms prompt verdict.subscription deletion true none answer)
      (.racing prompt verdict gone false) world result)
    (orderly : Orderly made world)
    (course : Course position actor terms later world
      (.reacting terms prompt verdict.subscription deletion true none
        answer))
    (due : world.isDue answer = true) :
    Course position actor terms (later ++ [⟨world, .work⟩])
      (world.happen .work) (.racing prompt verdict gone false) := by
  cases course with
  | @reacting _ _ _ _ _ _ opening since sent split sends awaits first
      reacted =>
      refine .racing (split_snoc split) sends
        (awaits.happen onward.guarded orderly onward.watchful
          (onward.held List.mem_cons_self)) fun key known => ?_
      rcases List.mem_cons.mp known with rfl | known
      · exact (first rfl).mono onward.grows (List.subset_append_left _ _)
      · cases List.mem_singleton.mp known
        exact onward.tries due reacted rfl rfl

theorem races {goneThen : Wait} {turnThen : Bool} {wait : Wait}
    (onward : Onward position actor (.racing prompt verdict gone turn)
      (.racing prompt wait goneThen turnThen) world result)
    (orderly : Orderly made world)
    (course : Course position actor terms later world
      (.racing prompt verdict gone turn))
    (same : wait.subscription = verdict.subscription) :
    Course position actor terms (later ++ [⟨world, .work⟩])
      (world.happen .work) (.racing prompt wait goneThen turnThen) := by
  cases course with
  | @racing _ _ _ _ opening since sent split sends awaits reacted =>
      rw [← same] at awaits
      exact .racing (split_snoc split) sends
        (awaits.happen onward.guarded orderly onward.watchful
          (onward.held List.mem_cons_self))
        fun key known => (reacted key known).mono onward.grows
          (List.subset_append_left _ _)

theorem asks {after : Asking}
    (onward : Onward position actor (.asking terms question)
      (.asking terms after) world result)
    (orderly : Orderly made world)
    (course : Course position actor terms later world
      (.asking terms question))
    (same : after.subscription = question.subscription) :
    Course position actor terms (later ++ [⟨world, .work⟩])
      (world.happen .work) (.asking terms after) := by
  cases course with
  | @asking _ _ _ id _ opening rest reacting since sent ask rounds split parts
      sends known tried held text asks asked =>
      have partsThen : rest ++ [⟨world, .work⟩] =
          reacting ++ (rounds.flatMap Round.episodes ++
            ask :: (since ++ [⟨world, .work⟩])) := by
        simp [parts]
      obtain ⟨_, there, begun⟩ := asked.stands
      cases (asking?_of_confirming onward.confirms).symm.trans there
      exact .asking (split_snoc split) partsThen sends known
        (tried.mono onward.grows (List.subset_append_left _ _)) held text asks
        (asked.asks_on onward.guarded orderly onward.watchful
          (asking?_of_confirming onward.confirmsThen)
          (same.trans begun.subscription))

theorem asksAgain {event : Event}
    (onward : Onward position actor (.asking terms question)
      (.asking terms (.prompting id terms.timeout sending)) world result)
    (course : Course position actor terms later world
      (.asking terms question))
    (ends : (world.stepAsking actor question).1 = .done (.ok event))
    (unclear : parseYesNo? event.bodyText = none)
    (text : sending.text = Notice.confirmTextFallback) :
    Course position actor terms (later ++ [⟨world, .work⟩])
      (world.happen .work)
      (.asking terms (.prompting id terms.timeout sending)) := by
  cases course with
  | @asking _ _ _ _ _ opening rest reacting since sent ask rounds split parts
      sends known tried held textBefore asksBefore asked =>
      have before := asking?_of_confirming onward.confirms
      obtain ⟨first, wait, rfl⟩ := asked.answered onward.watchful before ends
      have partsThen : rest ++ [⟨world, .work⟩] = reacting ++
          ((rounds ++ [Round.mk ask since event]).flatMap Round.episodes ++
            ⟨world, .work⟩ :: []) := by
        simp [parts, Round.episodes]
      have asks : Asks position actor id terms.timeout sending
          ⟨world, .work⟩ :=
        ⟨onward.mover, by simp [before],
          asking?_of_confirming onward.confirmsThen⟩
      have holds := Round.Held.of_asks textBefore asksBefore first
      have all := List.forall_mem_append.mpr
        ⟨held, List.forall_mem_singleton.mpr ⟨holds, unclear⟩⟩
      have asked := asks.asked onward.watchful onward.guarded.sound
      exact .asking (split_snoc split) partsThen sends known
        (tried.mono onward.grows (List.subset_append_left _ _)) all text asks
        asked

end Onward

/-- Where the next step of a confirmation leads to. -/
theorem Course.steps {result : Progress Confirming (Except CommandError Bool) ×
      World} {next : Confirming} (orderly : Orderly made world)
    (course : Course position actor terms later world confirming)
    (onward : Onward position actor confirming next world result.2)
    (step : ConfirmStep actor world confirming result)
    (goesOn : result.1.next? = some next) :
    Course position actor terms (later ++ [⟨world, .work⟩])
      (world.happen .work) next := by
  cases step with
  | fails | reacted | answered => cases goesOn
  | rests =>
      cases goesOn
      exact course.stays onward.guarded orderly onward.watchful onward.confirms
        onward.confirmsThen onward.grows
  | sent named sound made subscribed added =>
      cases goesOn
      cases course
      subst made
      exact onward.sent named (sound onward.guarded.sound) subscribed added
  | second due added =>
      cases goesOn
      cases course with
      | reacting split sends awaits first reacted =>
          exact onward.second orderly
            (.reacting split sends awaits first reacted) due added
  | falls due text _ =>
      cases goesOn
      cases course with
      | reacting split sends awaits first reacted =>
          exact onward.falls (.reacting split sends awaits first reacted) due
            text
  | opens due same =>
      cases goesOn
      subst same
      cases course with
      | reacting split sends awaits first reacted =>
          exact onward.opens orderly
            (.reacting split sends awaits first reacted) due
  | races goes shape same =>
      obtain ⟨gone, turn, rfl⟩ := shape
      cases goes.symm.trans goesOn
      exact onward.races orderly course same
  | asks goes | waits goes =>
      cases goesOn
      have same := stepAsking_subscription (congrArg Progress.next? goes)
      cases course with
      | asking split parts sends known tried held text asks asked =>
          exact onward.asks orderly
            (.asking split parts sends known tried held text asks asked) same
  | asksAgain ends unclear text _ =>
      cases goesOn
      cases course with
      | asking split parts sends known tried held textBefore asks asked =>
          exact onward.asksAgain
            (.asking split parts sends known tried held textBefore asks asked)
            ends unclear text

end

end Switchboard.World
