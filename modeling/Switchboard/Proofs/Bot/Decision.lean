import Switchboard.Proofs.Bot.Confirmation

/-!
# What a confirmation is decided by

A confirmation that accepts or refuses does so for one of two reasons.  Both
reactions have been added, and of the verdicts of the invoking actor on the
prompt the first one accepts or refuses.  Or a reaction could not be added, and
of the answers to the questions that were put instead the first clear one
accepts or refuses, all unclear ones having been followed by another question.
Nothing else that happens can decide it.
-/

namespace Switchboard.World

/-- A message of the invoking actor in the invoking channel, and not the
invocation. -/
structure Answers (invocation event : Event) : Prop where
  message : event.kind = .message
  actor : event.actor = invocation.actor
  channel : event.channel = invocation.channel
  other : event.messageId? ≠ invocation.messageId?

/-- Why a confirmation accepts or refuses. -/
inductive Decided (position : TaskId) (actor : Actor) (terms : ConfirmTerms)
    (later : List Episode) (world : World) (yes : Bool) : Prop where
  | byReaction (prompt : String) (opening since : List Episode)
      (sent : Episode) (event : Event) :
      later = opening ++ sent :: since →
      SendsPrompt position actor terms prompt sent →
      (∀ key ∈ verdictKeys,
        Tried position actor terms prompt key false sent since world) →
      firstOffer? (verdictOn actor.invocation prompt) since = some event →
      event.actor = actor.invocation.actor →
      event.reaction? = some (prompt,
        if yes then Notice.confirmYes else Notice.confirmNo) →
      Decided position actor terms later world yes
  | byText (prompt key : String) (opening since reacting : List Episode)
      (sent : Episode) (unclear : List Round) (last : Round) :
      later = opening ++ sent :: since →
      SendsPrompt position actor terms prompt sent →
      key ∈ verdictKeys →
      Tried position actor terms prompt key true sent since world →
      since = reacting ++ (unclear ++ [last]).flatMap Round.episodes →
      (∀ round ∈ unclear ++ [last],
        round.Held position actor terms.timeout ∧
          Answers actor.invocation round.answer) →
      (∀ round ∈ unclear, parseYesNo? round.answer.bodyText = none) →
      parseYesNo? last.answer.bodyText = some yes →
      Decided position actor terms later world yes

/-- An event that can decide a confirmation: a verdict of the invoking actor
on its prompt, or an answer to a question. -/
def MayDecide (position : TaskId) (actor : Actor) (terms : ConfirmTerms)
    (later : List Episode) (event : Event) : Prop :=
  (∃ sent ∈ later, ∃ prompt, SendsPrompt position actor terms prompt sent ∧
    event.actor = actor.invocation.actor ∧
    ∃ key ∈ verdictKeys, event.reaction? = some (prompt, key)) ∨
  Answers actor.invocation event

/-- A body has been at a confirmation since the step in which it asked for
it. -/
structure ConfirmsSince (position : TaskId) (actor : Actor)
    (terms : ConfirmTerms) (call : Episode) (later : List Episode) : Prop where
  fresh : call.before.confirming? position = none
  begins : ∃ sending, call.after.confirming? position =
    some (actor, .prompting terms sending)
  stays : ∀ episode ∈ later, episode.before.confirming? position ≠ none

section

variable {world after : World} {actor : Actor} {confirming : Confirming}
  {position : TaskId} {terms : ConfirmTerms}
  {past later since episodes : List Episode}
  {made : TaskId → SubscriptionId → Prop} {occurrence : Occurrence}
  {invocation event : Event} {prompt : String} {yes : Bool}
  {config : Config} {commands : Catalogue Handler} {horizon : Nat}

theorem answers_of_firstOffer?
    (first : firstOffer? (answersTo invocation) since = some event) :
    Answers invocation event := by
  obtain ⟨_, _, _, accepted⟩ := offered_of_firstOffer? first
  simp only [Wish.accepts, answersTo, isAnswer, Bool.and_eq_true,
    beq_iff_eq, bne_iff_ne] at accepted
  obtain ⟨message, ⟨actor, channel⟩, other⟩ := accepted
  exact ⟨of_decide_eq_true message, actor, channel, other⟩

theorem verdict_of_firstOffer?
    (first : firstOffer? (verdictOn invocation prompt) since = some event) :
    event.actor = invocation.actor ∧ event.reaction? = some (prompt,
      if accepts event then Notice.confirmYes else Notice.confirmNo) := by
  obtain ⟨_, _, _, accepted⟩ := offered_of_firstOffer? first
  simp only [Wish.accepts, verdictOn, isVerdict, Bool.and_eq_true,
    beq_iff_eq] at accepted
  obtain ⟨_, own, reaction⟩ := accepted
  refine ⟨own, ?_⟩
  obtain ⟨⟨target, key⟩, reacts, fits⟩ := (Option.any_eq_true _ _).mp reaction
  simp only [Bool.and_eq_true, Bool.or_eq_true, beq_iff_eq] at fits
  obtain ⟨rfl, known⟩ := fits
  rw [accepts, reacts, Option.any_some]
  by_cases accepting : key = Notice.confirmYes
  · simp [accepting]
  · simp [known.resolve_left accepting]

theorem Course.happen (course : Course position actor terms later world
      confirming) (guarded : Guarded world) (orderly : Orderly made world)
    (watchful : Watchful world)
    (confirms : world.confirming? position = some (actor, confirming))
    (stays : (world.happen occurrence).confirming? position ≠ none) :
    ∃ next, (world.happen occurrence).confirming? position =
        some (actor, next) ∧
      Course position actor terms (later ++ [⟨world, occurrence⟩])
        (world.happen occurrence) next := by
  by_cases mover : Episode.mover? ⟨world, occurrence⟩ = some position
  · obtain ⟨rfl, own⟩ := Episode.mover?_eq_some mover
    cases confirm_turn confirms own with
    | ends _ _ left | givenUp _ left => exact absurd left stays
    | enters _ _ same _ deeds =>
        have unchanged : (world.happen .work).deedsOf position =
            world.deedsOf position := by
          rw [deedsOf, deedsOf, deeds]
        exact ⟨confirming, same, course.stays guarded orderly watchful confirms
          same (unchanged ▸ List.prefix_rfl)⟩
    | @steps next result _ stepped goesOn _ confirmsThen waiter deeds =>
        have clean := watchful.clean position
        rw [vigil_of_confirming confirms] at clean
        have step := stepConfirming_step actor clean
        rw [stepped] at step
        obtain ⟨more, added, _⟩ :=
          (Works.stepConfirming confirming).frame.deeds
        rw [stepped] at added
        have onward : Onward position actor confirming next world result.2 :=
          ⟨guarded, watchful, own, confirms, confirmsThen, waiter, deeds,
            deedsOf_prefix (deeds.trans added)⟩
        exact ⟨next, confirmsThen, course.steps orderly onward step goesOn⟩
  · obtain ⟨same, deeds⟩ := orderly.confirming?_elsewhere confirms mover
    exact ⟨confirming, same, course.stays guarded orderly watchful confirms same
      (deeds ▸ List.prefix_rfl)⟩

theorem Course.run (run : Run (World.start config commands horizon) past world)
    {sending : Sending}
    (begins : world.confirming? position =
      some (actor, .prompting terms sending))
    (goesOn : Run world later after)
    (stays : ∀ episode ∈ later, episode.before.confirming? position ≠ none)
    (isOpen : after.confirming? position ≠ none) :
    ∃ next, after.confirming? position = some (actor, next) ∧
      Course position actor terms later after next := by
  induction goesOn with
  | start => exact ⟨_, begins, .prompting sending⟩
  | @next later middle occurrence prior induction =>
      have reached : Run _ _ _ := run.trans prior
      obtain ⟨earlier, last⟩ := List.forall_mem_append.mp stays
      obtain ⟨confirming, confirms, course⟩ :=
        induction earlier (last _ (List.mem_singleton_self _))
      exact course.happen reached.guarded reached.orderly reached.watchful
        confirms isOpen

/-- What a confirmation that has come so far is decided by. -/
theorem Course.decided
    (course : Course position actor terms later world confirming)
    (watchful : Watchful world)
    (confirms : world.confirming? position = some (actor, confirming))
    (ends : (world.stepConfirming actor confirming).1 = .done (.ok yes)) :
    Decided position actor terms later world yes := by
  have clean := watchful.clean position
  rw [vigil_of_confirming confirms] at clean
  have step := stepConfirming_step actor clean
  generalize world.stepConfirming actor confirming = result at step ends
  cases step with
  | fails | rests | sent | second | falls | opens | asks | waits | asksAgain =>
      cases ends
  | races goes =>
      rw [ends] at goes
      cases goes
  | @reacted prompt verdict gone event after value =>
      cases ends
      cases course with
      | @racing _ _ _ _ opening since sent split sends awaits reacted =>
          have first := awaits.first_of_value value
          obtain ⟨own, reacts⟩ := verdict_of_firstOffer? first
          exact .byReaction prompt opening since sent event split sends reacted
            first own reacts
  | @answered _ question event _ after answered parsed =>
      cases ends
      cases course with
      | @asking prompt key _ id _ opening rest reacting since sent ask rounds
          split parts sends known tried held text asks asked =>
          obtain ⟨first, _⟩ := asked.answered watchful
            (asking?_of_confirming confirms) answered
          have partsThen : rest = reacting ++
              (rounds ++ [Round.mk ask since event]).flatMap
                Round.episodes := by
            simp [parts, Round.episodes]
          have all : ∀ round ∈ rounds ++ [Round.mk ask since event],
              round.Held position actor terms.timeout ∧
                Answers actor.invocation round.answer := by
            refine List.forall_mem_append.mpr ⟨fun round member => ?_,
              List.forall_mem_singleton.mpr
                ⟨.of_asks text asks first, answers_of_firstOffer? first⟩⟩
            have before := (held round member).1
            exact ⟨before, answers_of_firstOffer? before.first⟩
          exact .byText prompt key opening rest reacting sent rounds _ split
            sends known tried partsThen all
            (fun round member => (held round member).2) parsed

theorem Decided.offered
    (decided : Decided position actor terms later world yes) :
    ∃ episode ∈ later, ∃ event, episode.offered? = some event ∧
      MayDecide position actor terms later event := by
  cases decided with
  | byReaction prompt opening since sent event split sends _ first own reacts =>
      obtain ⟨episode, member, offered, _⟩ := offered_of_firstOffer? first
      have included : sent :: since ⊆ later :=
        split ▸ List.subset_append_right _ _
      refine ⟨episode, included (List.mem_cons_of_mem _ member), event, offered,
        .inl ⟨sent, included List.mem_cons_self, prompt, sends, own, _, ?_,
          reacts⟩⟩
      cases yes
      · exact List.mem_cons_of_mem _ List.mem_cons_self
      · exact List.mem_cons_self
  | byText prompt key opening since reacting sent unclear last split _ _ _ parts
      held =>
      obtain ⟨holds, answers⟩ :=
        held last (List.mem_append_right _ (List.mem_singleton_self _))
      obtain ⟨episode, member, offered, _⟩ := offered_of_firstOffer? holds.first
      refine ⟨episode, ?_, last.answer, offered, .inr answers⟩
      simp [split, parts, Round.episodes, member]

/-- Whoever is at a confirmation asked for it in some step and has been at it
since. -/
theorem Run.confirmsSince
    (run : Run (World.start config commands horizon) episodes world)
    (confirms : world.confirming? position ≠ none) :
    ∃ past call later actor terms, episodes = past ++ call :: later ∧
      ConfirmsSince position actor terms call later := by
  induction run with
  | start => exact absurd rfl confirms
  | @next earlier world occurrence prior induction =>
      by_cases fresh : world.confirming? position = none
      · obtain ⟨⟨actor, confirming⟩, there⟩ :=
          Option.ne_none_iff_exists'.mp confirms
        obtain ⟨terms, sending, rfl⟩ :=
          (Run.orderly prior).confirming_begins fresh there
        exact ⟨earlier, ⟨world, occurrence⟩, [], actor, terms, rfl, fresh,
          ⟨sending, there⟩, fun _ none => absurd none List.not_mem_nil⟩
      · obtain ⟨past, call, later, actor, terms, rfl, since⟩ := induction fresh
        refine ⟨past, call, later ++ [⟨world, occurrence⟩], actor, terms,
          List.append_assoc past (call :: later) _, since.fresh, since.begins,
          List.forall_mem_append.mpr ⟨since.stays, ?_⟩⟩
        exact List.forall_mem_singleton.mpr fresh

theorem ConfirmsSince.decided {call : Episode}
    (since : ConfirmsSince position actor terms call later)
    (run : Run (World.start config commands horizon)
      (past ++ call :: later) world)
    (returns : world.verdict? position = some (.ok yes)) :
    Decided position actor terms later world yes := by
  obtain ⟨before, goesOn⟩ := run.split
  have begun : Run (World.start config commands horizon) (past ++ [call])
      call.after :=
    .next call.occurrence before
  obtain ⟨sending, begins⟩ := since.begins
  obtain ⟨other, confirming, confirms, ends⟩ := step_of_verdict? returns
  obtain ⟨next, same, course⟩ := Course.run begun begins goesOn since.stays
    (Option.ne_none_iff_exists'.mpr ⟨_, confirms⟩)
  cases confirms.symm.trans same
  exact course.decided run.watchful confirms ends

/-- A confirmation accepts or refuses only for one of the two reasons that
there are.  As long as no event has been offered since it was asked for that can
decide it, it does neither. -/
theorem confirm_sound
    (run : Run (World.start config commands horizon) episodes world)
    (position : TaskId) :
    (∀ yes, world.verdict? position = some (.ok yes) →
      ∃ past call later actor terms, episodes = past ++ call :: later ∧
        ConfirmsSince position actor terms call later ∧
        Decided position actor terms later world yes) ∧
    ∀ past call later actor terms, episodes = past ++ call :: later →
      ConfirmsSince position actor terms call later →
      (∀ episode ∈ later, ∀ event, episode.offered? = some event →
        ¬MayDecide position actor terms later event) →
      ∀ yes, world.verdict? position ≠ some (.ok yes) := by
  constructor
  · intro yes returns
    obtain ⟨_, _, confirms, _⟩ := step_of_verdict? returns
    obtain ⟨past, call, later, actor, terms, rfl, since⟩ :=
      run.confirmsSince (Option.ne_none_iff_exists'.mpr ⟨_, confirms⟩)
    exact ⟨past, call, later, actor, terms, rfl, since,
      since.decided run returns⟩
  · rintro past call later actor terms rfl since nothing yes returns
    obtain ⟨episode, member, event, offered, decides⟩ :=
      (since.decided run returns).offered
    exact nothing episode member event offered decides

end

/-- A command that asks for confirmation. -/
def waryCommands : Catalogue Handler :=
  Catalogue.register
    { name := "sure", description := "Asks for confirmation." }
    (fun invocation => discard (invocation.confirm "sure?")) {}

/-- A confirmation has a second. -/
def waryConfig : Config where
  accounts := []
  commands := { confirmTimeout := 1 }

/-- Adding a reaction takes a tenth of a second. -/
def slowReactions (state : ChatState) : ChatState :=
  { state with reactDelay := 100 }

/-- The second reaction cannot be added. -/
def missingReaction (state : ChatState) : ChatState :=
  { state with reactFailures := [(Notice.confirmNo, "unknown")] }

def waryReaction (actor target key : String) : Occurrence :=
  .receive ⟨0, actor, "lobby", "lobby", .reaction target key⟩

def waryMessage (actor id body : String) : Occurrence :=
  .receive ⟨0, actor, "lobby", "lobby", .message id body⟩

/-- The verdict comes while the bot is still adding its own reactions, after a
verdict of somebody else and one on another message. -/
def earlyVerdict : List Occurrence :=
  [.work, waryReaction "other" "$sure?#1" Notice.confirmNo,
    waryReaction "user" "first" Notice.confirmNo,
    waryReaction "user" "$sure?#1" Notice.confirmYes,
    waryReaction "user" "$sure?#1" Notice.confirmNo, .work, .pass 100, .work,
    .work, .pass 100, .work]

/-- The first answer is unclear, and reactions no longer count. -/
def unclearAnswer : List Occurrence :=
  List.replicate 5 .work ++ waryMessage "user" "second" "maybe" ::
    List.replicate 4 .work ++
    [waryReaction "user" "$sure?#1" Notice.confirmYes,
      waryMessage "user" "third" "no", .work]

/-- Only somebody else answers. -/
def foreignAnswer : List Occurrence :=
  List.replicate 5 .work ++
    [waryReaction "other" "$sure?#1" Notice.confirmYes,
      waryMessage "other" "second" "yes", .work]

/-- The command is about to ask for confirmation. -/
def waryStart (change : ChatState → ChatState) : List Occurrence :=
  [.register "keeper", .fleet (.joined 0 "lobby"), .chat ⟨0, "lobby"⟩ change,
    waryMessage "user" "first" ".sure", .work]

/-- It asks, and then these things happen. -/
def waryBot (change : ChatState → ChatState) (occurrences : List Occurrence) :
    World :=
  (((start waryConfig waryCommands hostHorizon).happenAll
    (waryStart change)).happen .work).happenAll occurrences

theorem waryBot_run (change : ChatState → ChatState)
    (occurrences : List Occurrence) :
    let bot := start waryConfig waryCommands hostHorizon
    let asking := bot.happenAll (waryStart change)
    Run bot (bot.history (waryStart change) ++
        ⟨asking, .work⟩ :: (asking.happen .work).history occurrences)
      (waryBot change occurrences) := by
  intro bot asking
  have run : Run bot _ _ :=
    .of_split (waryStart change) occurrences Occurrence.work bot
  rw [happenAll_append] at run
  exact run

/-- One confirmation is given by a reaction, one is refused in words, and one is
not decided by somebody else. -/
theorem waryBot_is_decided :
    let accepted := waryBot slowReactions earlyVerdict
    let refused := waryBot missingReaction unclearAnswer
    let undecided := waryBot missingReaction foreignAnswer
    (accepted.verdict? 0 = some (.ok true) ∧ ∃ call later actor terms,
      ConfirmsSince 0 actor terms call later ∧
        Decided 0 actor terms later accepted true) ∧
    (refused.verdict? 0 = some (.ok false) ∧ ∃ call later actor terms,
      ConfirmsSince 0 actor terms call later ∧
        Decided 0 actor terms later refused false) ∧
    ∀ yes, undecided.verdict? 0 ≠ some (.ok yes) := by
  intro accepted refused undecided
  have toAccepted : Run _ _ accepted := waryBot_run _ _
  have toRefused : Run _ _ refused := waryBot_run _ _
  have toUndecided : Run _ _ undecided := waryBot_run _ _
  refine ⟨?_, ?_, ?_⟩
  · have returns : accepted.verdict? 0 = some (.ok true) := by decide +kernel
    obtain ⟨_, call, later, actor, terms, _, decided⟩ :=
      (confirm_sound toAccepted 0).1 true returns
    exact ⟨returns, call, later, actor, terms, decided⟩
  · have returns : refused.verdict? 0 = some (.ok false) := by decide +kernel
    obtain ⟨_, call, later, actor, terms, _, decided⟩ :=
      (confirm_sound toRefused 0).1 false returns
    exact ⟨returns, call, later, actor, terms, decided⟩
  · refine (confirm_sound toUndecided 0).2 _ _ _
      ⟨0, 0, ⟨0, "lobby"⟩,
        ⟨0, "user", "lobby", "lobby", .message "first" ".sure"⟩⟩
      ⟨some 1000, some 10000⟩ rfl
      ⟨by decide +kernel,
        ⟨⟨⟨0, "lobby"⟩, "sure?", none, ⟨0, 0⟩⟩, by decide +kernel⟩,
        by decide +kernel⟩ ?_
    have foreign : ∀ episode ∈ (((start waryConfig waryCommands
        hostHorizon).happenAll (waryStart missingReaction)).happen
          .work).history foreignAnswer,
        episode.offered?.all (·.actor == "other") = true := by decide +kernel
    intro episode member event offered decides
    have other : event.actor = "other" := by
      simpa [offered] using foreign episode member
    have own : event.actor = "user" := by
      rcases decides with ⟨_, _, _, _, own, _⟩ | answers
      · exact own
      · exact answers.actor
    exact absurd (other.symm.trans own) (by decide)

end Switchboard.World
