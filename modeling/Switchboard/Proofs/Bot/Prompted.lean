import Switchboard.Proofs.Bot.ConfirmationListening
import Switchboard.Proofs.Bot.Decision
import Switchboard.Proofs.Bot.Punctual

/-!
# While a confirmation listens

From the step in which its prompt has been sent a confirmation holds two
subscriptions: to the verdict on the prompt and to its deletion.  It listens
until it ends, is given up, or asks for a text instead, and then it holds
neither.  When time goes on promptly its task is in line as soon as there is
something to do: when a reaction has been added, and when the prompt has been
deleted and both reactions have been added.
-/

namespace Switchboard

/-- A confirmation is looked at in time: a reaction that has been added and, if
both have, the deletion of the prompt find its task in line. -/
inductive Confirming.Heeded (position : TaskId) (deleted : Prop)
    (world : World) : Confirming → Prop where
  | reacting {terms : ConfirmTerms} {prompt : String}
      {reaction deletion : SubscriptionId} {second : Bool}
      {failure : Option String} {answer : Alarm} :
      world.agenda.now ≤ answer.due →
      (world.agenda.now = answer.due → world.Attended position) →
      Heeded position deleted world
        (.reacting terms prompt reaction deletion second failure answer)
  | racing {prompt : String} {verdict gone : Wait} {turn : Bool} :
      (deleted → world.Attended position) →
      Heeded position deleted world (.racing prompt verdict gone turn)

theorem Confirming.Listens.held {confirming : Confirming}
    {terms : ConfirmTerms} {prompt : String}
    {reaction deletion : SubscriptionId}
    (listens : confirming.Listens terms prompt reaction deletion) :
    confirming.vigil.held = [reaction, deletion] := by
  cases listens with
  | reacting => rfl
  | racing verdict turn own =>
      subst own
      rfl

theorem Confirming.effort_of_now {earlier later : Agenda}
    (same : later.now = earlier.now) (confirming : Confirming) :
    confirming.effort later = confirming.effort earlier := by
  have due : later.isDue = earlier.isDue := by
    funext alarm
    rw [Agenda.isDue, Agenda.isDue, same]
  unfold effort
  split
  · rfl
  · rw [Wait.effort, Wait.effort, Wait.probes, Wait.probes, due]
  · rfl

namespace World

/-- The deadline of the open wait of a task has passed, and it has not been
lifted. -/
def Overdue (position : TaskId) (world : World) : Prop :=
  ∃ wait, (world.vigil position).wait? = some wait ∧
    wait.expired world.agenda (world.waiter.handoff wait.subscription) = true

instance (position : TaskId) (world : World) :
    Decidable (Overdue position world) :=
  decidable_of_iff ((world.vigil position).wait?.any (fun wait =>
    wait.expired world.agenda (world.waiter.handoff wait.subscription)) = true)
    (Option.any_eq_true _ _)

/-- A confirmation listens that has made its two subscriptions before all of
the given happened. -/
structure Prompted (position : TaskId) (actor : Actor) (terms : ConfirmTerms)
    (prompt : String) (reaction deletion : SubscriptionId)
    (since : List Episode) (world : World) : Prop where
  stands : ∃ confirming,
    world.confirming? position = some (actor, confirming) ∧
      confirming.Listens terms prompt reaction deletion
  verdict : Awaits position reaction (verdictOn actor.invocation prompt) since
    world
  gone : Awaits position deletion (deletionOf prompt) since world
  patient : ∀ wait, (world.vigil position).wait? = some wait →
    wait.AtDeadline → ∃ episode ∈ since, Overdue position episode.before

/-- Why a confirmation listens no longer: it has ended, its process has been
killed, or a reaction could not be added. -/
inductive Quits (position : TaskId) (actor : Actor) (world : World) : Prop where
  | ends (result : Except CommandError Bool) :
      world.verdict? position = some result → Quits position actor world
  | killed : world.isKilled actor.pid = true → Quits position actor world
  | refused (terms : ConfirmTerms) (prompt reason : String)
      (reaction deletion : SubscriptionId) (second : Bool) (answer : Alarm) :
      world.confirming? position = some (actor,
        .reacting terms prompt reaction deletion second (some reason) answer) →
      Quits position actor world

section

variable {world after : World} {actor : Actor} {confirming next : Confirming}
  {position : TaskId} {terms : ConfirmTerms} {prompt : String}
  {reaction deletion id : SubscriptionId} {since later past : List Episode}
  {made : TaskId → SubscriptionId → Prop} {occurrence : Occurrence}
  {sending : Sending} {second : Bool} {failure : Option String}
  {answer : Alarm} {wish : Wish} {config : Config}
  {commands : Catalogue Handler} {horizon : Nat}

theorem stepConfirming_sent (step :
      (world.stepConfirming actor (.prompting terms sending)).1.next? =
        some (.reacting terms prompt reaction deletion second failure answer)) :
    deletion = world.waiter.handoffs.length ∧
      reaction = (world.waiter.subscribe .deletion
        (deletionOf prompt).predicate).2.handoffs.length ∧
      (world.stepConfirming actor (.prompting terms sending)).2.waiter =
        ((world.waiter.subscribe .deletion
          (deletionOf prompt).predicate).2.subscribe .reaction
            (isVerdict actor.invocation prompt)).2 ∧
      (world.stepConfirming actor (.prompting terms sending)).1 = .go
        (.reacting terms prompt reaction deletion second failure answer) ∧
      world.agenda.now ≤ answer.due := by
  unfold stepConfirming at step ⊢
  dsimp only at step ⊢
  split at step
  · rename_i due
    rw [if_pos due]
    have same := waiter_finishMessage sending world
    have now : (world.finishMessage sending).2.agenda = world.agenda := by
      unfold finishMessage
      split <;> rfl
    generalize world.finishMessage sending = result at same now step ⊢
    obtain ⟨answered, middle⟩ := result
    cases answered with
    | error error => cases step
    | ok name =>
        cases step
        dsimp only at same now
        rw [← same, ← now]
        exact ⟨rfl, rfl, rfl, rfl, Nat.le_add_right _ _⟩
  · cases step

theorem Awaits.of_keeps {middle : World}
    (awaits : Awaits position id wish since middle)
    (keeps : middle.waiter.Keeps id after.waiter)
    (held : id ∈ (after.vigil position).held) :
    Awaits position id wish since after where
  held := held
  slot := keeps.slot.trans awaits.slot
  listed := fun kind subscription same =>
    (keeps.listed kind subscription same).trans
      (awaits.listed kind subscription same)

/-- When its prompt has been sent a confirmation listens. -/
theorem SendsPrompt.prompted
    (sends : SendsPrompt position actor terms prompt ⟨world, .work⟩)
    (sound : world.waiter.Sound) (orderly : Orderly made world)
    (stands : (world.happen .work).confirming? position = some (actor,
      .reacting terms prompt reaction deletion second failure answer)) :
    Prompted position actor terms prompt reaction deletion []
        (world.happen .work) ∧
      Confirming.Heeded position False (world.happen .work)
        (.reacting terms prompt reaction deletion second failure answer) := by
  obtain ⟨sending, before, _⟩ := sends.before
  have vigil := vigil_of_confirming stands
  have held : ((world.happen .work).vigil position).held =
      [reaction, deletion] := congrArg Vigil.held vigil
  have now : (world.happen .work).agenda.now = world.agenda.now :=
    orderly.now_happen fun _ => nofun
  cases confirm_turn before sends.mover with
  | ends _ _ left | givenUp _ left => cases left.symm.trans stands
  | enters _ _ stays => cases stays.symm.trans stands
  | @steps next result floor stepped goesOn still confirmsThen waiter =>
      cases confirmsThen.symm.trans stands
      subst stepped
      obtain ⟨old, new, subscribed, goes, early⟩ := stepConfirming_sent goesOn
      have subscribed := waiter.trans subscribed
      have verdict : Awaits position reaction
          (verdictOn actor.invocation prompt) [] (world.happen .work) := by
        subst new
        exact .fresh (sound.subscribe .deletion _) subscribed
          (held ▸ List.mem_cons_self)
      have gone : Awaits position deletion (deletionOf prompt) []
          (world.happen .work) := by
        have member : deletion ∈ ((world.happen .work).vigil position).held :=
          held ▸ List.mem_cons_of_mem _ List.mem_cons_self
        subst old
        have made : Awaits position world.waiter.handoffs.length
            (deletionOf prompt) [] { world.happen .work with
              waiter := (world.waiter.subscribe .deletion
                (deletionOf prompt).predicate).2 } :=
          .fresh sound rfl member
        have below : world.waiter.handoffs.length <
            (world.waiter.subscribe .deletion
              (deletionOf prompt).predicate).2.handoffs.length := by
          rw [Waiter.length_subscribe]
          exact Nat.lt_succ_self _
        refine made.of_keeps ?_ member
        rw [subscribed]
        exact .subscribe below _ _
      refine ⟨⟨⟨_, stands, .reacting _ _ _⟩, verdict, gone, ?_⟩, ?_⟩
      · intro wait waits
        rw [vigil] at waits
        cases waits
      · refine .reacting (now ▸ early) fun _ => ?_
        exact .inr (still goes)

theorem Awaits.deleted_iff (awaits : Awaits position id wish since world) :
    firstOffer? wish since ≠ none ↔
      (world.waiter.handoff id).slot ≠ .empty := by
  rw [awaits.slot]
  cases firstOffer? wish since <;> simp

namespace Prompted

theorem goes_on
    (prompted : Prompted position actor terms prompt reaction deletion since
      world)
    (guarded : Guarded world) (orderly : Orderly made world)
    (watchful : Watchful world)
    (standsThen : (world.happen occurrence).confirming? position =
      some (actor, next))
    (listens : next.Listens terms prompt reaction deletion)
    (patient : ∀ wait, next.open? = some wait → wait.AtDeadline →
      (∃ earlier, (world.vigil position).wait? = some earlier ∧
        (earlier.AtDeadline ∨ earlier.expired world.agenda
          (world.waiter.handoff earlier.subscription) = true))) :
    Prompted position actor terms prompt reaction deletion
      (since ++ [⟨world, occurrence⟩]) (world.happen occurrence) := by
  have vigil := vigil_of_confirming standsThen
  have held : ((world.happen occurrence).vigil position).held =
      [reaction, deletion] := by
    rw [vigil]
    exact listens.held
  refine ⟨⟨next, standsThen, listens⟩, ?_, ?_, ?_⟩
  · exact prompted.verdict.happen guarded orderly watchful
      (held ▸ List.mem_cons_self)
  · exact prompted.gone.happen guarded orderly watchful
      (held ▸ List.mem_cons_of_mem _ List.mem_cons_self)
  · intro wait waits expires
    rw [vigil] at waits
    obtain ⟨earlier, stood, before | expired⟩ := patient wait waits expires
    · obtain ⟨episode, member, overdue⟩ := prompted.patient _ stood before
      exact ⟨episode, List.mem_append_left _ member, overdue⟩
    · exact ⟨⟨world, occurrence⟩,
        List.mem_append_right _ (List.mem_singleton_self _),
        earlier, stood, expired⟩

/-- A confirmation listens on until it quits in its turn, and then it holds
neither subscription. -/
theorem happen
    (prompted : Prompted position actor terms prompt reaction deletion since
      world)
    (guarded : Guarded world) (orderly : Orderly made world)
    (watchful : Watchful world) (occurrence : Occurrence) :
    Prompted position actor terms prompt reaction deletion
        (since ++ [⟨world, occurrence⟩]) (world.happen occurrence) ∨
      (Episode.mover? ⟨world, occurrence⟩ = some position ∧
        Quits position actor world ∧
        reaction ∉ ((world.happen occurrence).vigil position).held ∧
        deletion ∉ ((world.happen occurrence).vigil position).held) := by
  obtain ⟨confirming, stands, listens⟩ := prompted.stands
  have vigil := vigil_of_confirming stands
  by_cases mover : Episode.mover? ⟨world, occurrence⟩ = some position
  · obtain ⟨rfl, own⟩ := Episode.mover?_eq_some mover
    cases confirm_turn stands own with
    | ends result verdict left none =>
        exact .inr ⟨mover, .ends result verdict, by simp [none], by simp [none]⟩
    | givenUp killed left none =>
        exact .inr ⟨mover, .killed killed, by simp [none], by simp [none]⟩
    | enters _ _ standsThen =>
        refine .inl (prompted.goes_on guarded orderly watchful standsThen
          listens fun wait waits expires => ?_)
        exact ⟨wait, vigil ▸ waits, .inl expires⟩
    | @steps next result _ stepped goesOn _ standsThen =>
        have clean := watchful.clean position
        rw [vigil] at clean
        have step := stepConfirming_listens actor listens clean
        rw [stepped] at step
        rcases step.listens listens goesOn with
          on | ⟨second, reason, answer, sending, rfl, rfl⟩
        · refine .inl (prompted.goes_on guarded orderly watchful standsThen on
            fun wait waits expires => ?_)
          rw [vigil]
          exact step.patient goesOn waits expires
        · have fresh : ((world.happen .work).vigil position).held =
              [world.waiter.handoffs.length] := by
            rw [vigil_of_confirming standsThen]
            rfl
          have below := (watchful.clean position).below
          rw [fresh]
          refine .inr ⟨mover, .refused _ _ _ _ _ _ _ stands, ?_, ?_⟩
          · exact fun member => Nat.lt_irrefl _
              (List.mem_singleton.mp member ▸ below _ prompted.verdict.held)
          · exact fun member => Nat.lt_irrefl _
              (List.mem_singleton.mp member ▸ below _ prompted.gone.held)
  · obtain ⟨standsThen, _⟩ := orderly.confirming?_elsewhere stands mover
    refine .inl (prompted.goes_on guarded orderly watchful standsThen listens
      fun wait waits expires => ?_)
    exact ⟨wait, vigil ▸ waits, .inl expires⟩

theorem run (run : Run (World.start config commands horizon) past world)
    (prompted : Prompted position actor terms prompt reaction deletion since
      world)
    (goesOn : Run world later after)
    (held : reaction ∈ (after.vigil position).held ∨
      deletion ∈ (after.vigil position).held) :
    Prompted position actor terms prompt reaction deletion (since ++ later)
      after := by
  have below := (run.watchful.clean position).below
  induction goesOn with
  | start => exact (List.append_nil since).symm ▸ prompted
  | @next later middle occurrence prior induction =>
      have reached : Run _ _ _ := run.trans prior
      have heldThen : reaction ∈ (middle.vigil position).held ∨
          deletion ∈ (middle.vigil position).held :=
        held.imp
          (reached.orderly.held_before reached.watchful (Nat.lt_of_lt_of_le
            (below _ prompted.verdict.held) (run.handoffs prior)))
          (reached.orderly.held_before reached.watchful (Nat.lt_of_lt_of_le
            (below _ prompted.gone.held) (run.handoffs prior)))
      rw [← List.append_assoc]
      refine ((induction heldThen).happen reached.guarded reached.orderly
        reached.watchful occurrence).resolve_right ?_
      rintro ⟨_, _, noReaction, noDeletion⟩
      exact held.elim noReaction noDeletion

end Prompted

theorem found_of_confirming
    (stands : world.confirming? position = some (actor, confirming)) :
    ∃ task, world.tasks[position]? = some task ∧
      task.alarms = confirming.alarms ∧ task.watched = confirming.watched := by
  obtain ⟨⟨pid, invocation, chat, stage, aftermath⟩, next, there, _⟩ :=
    confirming?_eq_some stands
  obtain ⟨found, rfl⟩ := activity?_eq_some there
  exact ⟨_, found, rfl, rfl⟩

/-- Whether the prompt has been deleted since it was sent. -/
abbrev Deleted (prompt : String) (since : List Episode) : Prop :=
  firstOffer? (deletionOf prompt) since ≠ none

theorem deleted_append (prompt : String) (since later : List Episode) :
    Deleted prompt (since ++ later) ↔
      Deleted prompt since ∨ Deleted prompt later := by
  rw [Deleted, Deleted, Deleted, firstOffer?_append]
  cases firstOffer? (deletionOf prompt) since <;> simp

theorem deleted_single {episode : Episode}
    (deleted : Deleted prompt [episode]) :
    ∃ event, episode.offered? = some event ∧
      (deletionOf prompt).accepts event = true := by
  rw [Deleted, firstOffer?_single] at deleted
  obtain ⟨event, wanted⟩ := Option.ne_none_iff_exists'.mp deleted
  exact ⟨event, Option.filter_eq_some_iff.mp wanted⟩

/-- In its own turn a confirmation that listens keeps the floor, or has nothing
to do. -/
theorem heeded_turn
    (prompted : Prompted position actor terms prompt reaction deletion since
      world)
    (orderly : Orderly made world) (watchful : Watchful world)
    (mover : world.mover? = some position)
    (stands : world.confirming? position = some (actor, confirming))
    (heeded : confirming.Heeded position (Deleted prompt since) world)
    (standsThen : (world.happen .work).confirming? position =
      some (actor, next))
    (listens : next.Listens terms prompt reaction deletion) :
    next.Heeded position (Deleted prompt (since ++ [⟨world, .work⟩]))
      (world.happen .work) := by
  have now : (world.happen .work).agenda.now = world.agenda.now :=
    orderly.now_happen fun _ => nofun
  obtain ⟨_, there, listening⟩ := prompted.stands
  cases stands.symm.trans there
  cases confirm_turn stands mover with
  | ends _ _ left | givenUp _ left => cases left.symm.trans standsThen
  | enters _ floor stays =>
      cases stays.symm.trans standsThen
      cases heeded with
      | reacting early => exact .reacting (now ▸ early) fun _ => .inr floor
      | racing => exact .racing fun _ => .inr floor
  | @steps _ result _ stepped goesOn still confirmsThen =>
      cases confirmsThen.symm.trans standsThen
      have clean := watchful.clean position
      rw [vigil_of_confirming stands] at clean
      have step := stepConfirming_listens actor listening clean
      rw [stepped] at step
      obtain ⟨progress, middle⟩ := result
      cases step with
      | adding _ _ answer early =>
          cases goesOn
          refine .reacting (now ▸ Nat.le_of_lt early) fun due => ?_
          exact absurd (now ▸ due) (Nat.ne_of_lt early)
      | second _ _ ring early =>
          cases goesOn
          exact .reacting (now ▸ early) fun _ => .inr (still rfl)
      | falls =>
          cases goesOn
          cases listens
      | opens | probes | resumes | passes =>
          cases goesOn
          exact .racing fun _ => .inr (still rfl)
      | concludes | interrupted | deleted => cases goesOn
      | waits _ empty =>
          cases goesOn
          refine .racing fun deleted => ?_
          rcases (deleted_append _ _ _).mp deleted with before | last
          · exact absurd (prompted.gone.none_of_empty empty) before
          · obtain ⟨_, offered, _⟩ := deleted_single last
            cases offered

theorem heeded_elsewhere
    (prompted : Prompted position actor terms prompt reaction deletion since
      world)
    (guarded : Guarded world) (orderly : Orderly made world)
    (moment : ∀ span, occurrence ≠ .pass span)
    (elsewhere : Episode.mover? ⟨world, occurrence⟩ ≠ some position)
    (stands : world.confirming? position = some (actor, confirming))
    (heeded : confirming.Heeded position (Deleted prompt since) world) :
    confirming.Heeded position (Deleted prompt (since ++ [⟨world, occurrence⟩]))
      (world.happen occurrence) := by
  have now := orderly.now_happen moment
  obtain ⟨task, rest, there, _⟩ := confirming?_eq_some stands
  have stays := @Orderly.attended_elsewhere _ _ _ _ _ _ orderly there elsewhere
  cases heeded with
  | reacting early attended =>
      exact .reacting (now ▸ early) fun due => stays (attended (now ▸ due))
  | racing attended =>
      refine .racing fun deleted => ?_
      by_cases before : Deleted prompt since
      · exact stays (attended before)
      · have last := ((deleted_append _ _ _).mp deleted).resolve_left before
        obtain ⟨event, offered, accepts⟩ := deleted_single last
        obtain ⟨task, found, _, watched⟩ := found_of_confirming stands
        obtain ⟨_, same, listens⟩ := prompted.stands
        cases stands.symm.trans same
        cases listens with
        | racing verdict turn own =>
            have watches : deletion ∈ task.watched := by
              rw [watched]
              exact List.mem_cons_of_mem _ List.mem_cons_self
            exact attended_of_taker guarded.sound offered
              (prompted.gone.taker_iff.mpr ⟨accepts, not_not.mp before⟩) found
              watches

theorem heeded_pass {span : Nat}
    (stands : world.confirming? position = some (actor, confirming))
    (prompt : Episode.Prompt ⟨world, .pass span⟩) {deleted : Prop}
    (heeded : confirming.Heeded position deleted world) :
    confirming.Heeded position deleted (world.happen (.pass span)) := by
  have now := now_pass world span
  have idle : ¬Attended position world := not_attended prompt.1
  cases heeded with
  | @reacting _ _ _ _ _ _ answer early attended =>
      obtain ⟨task, found, alarms, _⟩ := found_of_confirming stands
      have set : (answer, position) ∈ Machine.alarms world :=
        mem_alarms_of_task found (alarms ▸ List.mem_singleton_self _)
      have later : world.agenda.now < answer.due :=
        Nat.lt_of_le_of_ne early fun due => idle (attended due)
      have bound := prompt.2 _ set later
      refine .reacting (now ▸ bound) fun due => ?_
      exact attended_of_alarm set (due.symm.trans now)
  | racing attended => exact .racing fun gone => absurd (attended gone) idle

theorem heeded_happen
    (prompted : Prompted position actor terms prompt reaction deletion since
      world)
    (guarded : Guarded world) (orderly : Orderly made world)
    (watchful : Watchful world) (timely : Episode.Prompt ⟨world, occurrence⟩)
    (stands : world.confirming? position = some (actor, confirming))
    (heeded : confirming.Heeded position (Deleted prompt since) world)
    (then_ : Prompted position actor terms prompt reaction deletion
      (since ++ [⟨world, occurrence⟩]) (world.happen occurrence)) :
    ∃ next, (world.happen occurrence).confirming? position =
        some (actor, next) ∧
      next.Heeded position (Deleted prompt (since ++ [⟨world, occurrence⟩]))
        (world.happen occurrence) := by
  obtain ⟨next, standsThen, listens⟩ := then_.stands
  refine ⟨next, standsThen, ?_⟩
  by_cases mover : Episode.mover? ⟨world, occurrence⟩ = some position
  · obtain ⟨rfl, own⟩ := Episode.mover?_eq_some mover
    exact heeded_turn prompted orderly watchful own stands heeded standsThen
      listens
  · obtain ⟨same, _⟩ := orderly.confirming?_elsewhere stands mover
    cases same.symm.trans standsThen
    by_cases passes : ∃ span, occurrence = .pass span
    · obtain ⟨span, rfl⟩ := passes
      have quiet : ¬Deleted prompt [⟨world, .pass span⟩] := by
        intro deleted
        obtain ⟨_, offered, _⟩ := deleted_single deleted
        cases offered
      have unchanged : Deleted prompt (since ++ [⟨world, .pass span⟩]) =
          Deleted prompt since := by
        rw [deleted_append]
        exact propext (or_iff_left quiet)
      rw [unchanged]
      exact heeded_pass stands timely heeded
    · exact heeded_elsewhere prompted guarded orderly
        (fun span same => passes ⟨span, same⟩) mover stands heeded

theorem heeded_run (run : Run (World.start config commands horizon) past world)
    (prompted : Prompted position actor terms prompt reaction deletion since
      world)
    (stands : world.confirming? position = some (actor, confirming))
    (heeded : confirming.Heeded position (Deleted prompt since) world)
    (goesOn : Run world later after)
    (timely : ∀ episode ∈ later, episode.Prompt)
    (held : deletion ∈ (after.vigil position).held) :
    ∃ next, after.confirming? position = some (actor, next) ∧
      next.Heeded position (Deleted prompt (since ++ later)) after := by
  induction goesOn with
  | start => exact ⟨confirming, stands, (List.append_nil since).symm ▸ heeded⟩
  | @next later middle occurrence prior induction =>
      obtain ⟨earlier, last⟩ := List.forall_mem_append.mp timely
      have reached : Run _ _ _ := run.trans prior
      have below := Nat.lt_of_lt_of_le
        ((run.watchful.clean position).below _ prompted.gone.held)
        (run.handoffs prior)
      have heldThen := reached.orderly.held_before reached.watchful below held
      obtain ⟨next, standsThen, heededThen⟩ := induction earlier heldThen
      have before := prompted.run run prior (.inr heldThen)
      have then_ := prompted.run run (.next occurrence prior) (.inr held)
      rw [← List.append_assoc] at then_ ⊢
      exact heeded_happen before reached.guarded reached.orderly
        reached.watchful (last _ (List.mem_singleton_self _)) standsThen
        heededThen then_

/-- How many small steps of a task happen. -/
def turnsOf (position : TaskId) (episodes : List Episode) : Nat :=
  episodes.countP (·.mover? = some position)

/-- A bound on the turns in which a task has looked for the verdict and for the
deletion. -/
def toGo (position : TaskId) (confirming : Confirming) (world : World) : Nat :=
  confirming.effort world.agenda +
    if world.agenda.floor = some position then 0 else 1

/-- When the prompt has been deleted and both reactions have been added, each
turn of the task brings the end closer, and time stands still. -/
theorem toGo_happen
    (prompted : Prompted position actor terms prompt reaction deletion since
      world)
    (orderly : Orderly made world) (watchful : Watchful world)
    (timely : Episode.Prompt ⟨world, occurrence⟩)
    (stands : world.confirming? position = some (actor, confirming))
    (heeded : confirming.Heeded position (Deleted prompt since) world)
    (racing : 0 < confirming.effort world.agenda)
    (deleted : Deleted prompt since)
    (standsThen : (world.happen occurrence).confirming? position =
      some (actor, next)) :
    (world.happen occurrence).agenda.now = world.agenda.now ∧
      0 < next.effort (world.happen occurrence).agenda ∧
      turnsOf position [⟨world, occurrence⟩] +
          toGo position next (world.happen occurrence) ≤
        toGo position confirming world := by
  have attended : Attended position world := by
    cases heeded with
    | reacting => exact absurd racing (Nat.lt_irrefl 0)
    | racing attended => exact attended deleted
  have moment : ∀ span, occurrence ≠ .pass span := by
    rintro span rfl
    exact not_attended timely.1 attended
  have now := orderly.now_happen moment
  refine ⟨now, ?_⟩
  obtain ⟨_, there, listening⟩ := prompted.stands
  cases stands.symm.trans there
  have same := Confirming.effort_of_now now confirming
  by_cases mover : Episode.mover? ⟨world, occurrence⟩ = some position
  · have counted : turnsOf position [⟨world, occurrence⟩] = 1 := by
      simp [turnsOf, mover]
    rw [counted]
    obtain ⟨rfl, own⟩ := Episode.mover?_eq_some mover
    cases confirm_turn stands own with
    | ends _ _ left | givenUp _ left => cases left.symm.trans standsThen
    | enters nobody floor stays =>
        cases stays.symm.trans standsThen
        refine ⟨same ▸ racing, ?_⟩
        rw [toGo, toGo, same, nobody, if_pos floor, if_neg nofun]
        omega
    | @steps _ result floor stepped goesOn still confirmsThen =>
        cases confirmsThen.symm.trans standsThen
        have clean := watchful.clean position
        rw [vigil_of_confirming stands] at clean
        have step := stepConfirming_listens actor listening clean
        rw [stepped] at step
        have full := prompted.gone.deleted_iff.mp deleted
        obtain ⟨goes, more, less⟩ := step.effort goesOn full racing _ now
        refine ⟨more, ?_⟩
        rw [toGo, toGo, if_pos (still goes), if_pos floor]
        omega
  · have counted : turnsOf position [⟨world, occurrence⟩] = 0 := by
      simp [turnsOf, mover]
    obtain ⟨unchanged, _⟩ := orderly.confirming?_elsewhere stands mover
    cases unchanged.symm.trans standsThen
    obtain ⟨task, rest, there, _⟩ := confirming?_eq_some stands
    have floor := (orderly.beside (activity?_eq_some there).1 occurrence
      mover).floor
    refine ⟨same ▸ racing, ?_⟩
    simp only [toGo, same, floor, counted]
    omega

theorem toGo_run (run : Run (World.start config commands horizon) past world)
    (prompted : Prompted position actor terms prompt reaction deletion since
      world)
    (stands : world.confirming? position = some (actor, confirming))
    (heeded : confirming.Heeded position (Deleted prompt since) world)
    (racing : 0 < confirming.effort world.agenda)
    (deleted : Deleted prompt since) (goesOn : Run world later after)
    (timely : ∀ episode ∈ later, episode.Prompt)
    (held : deletion ∈ (after.vigil position).held) :
    ∃ next, after.confirming? position = some (actor, next) ∧
      after.agenda.now = world.agenda.now ∧ 0 < next.effort after.agenda ∧
      turnsOf position later + toGo position next after ≤
        toGo position confirming world := by
  induction goesOn with
  | start => exact ⟨confirming, stands, rfl, racing, Nat.le_of_eq (by
      rw [turnsOf, List.countP_nil, Nat.zero_add])⟩
  | @next later middle occurrence prior induction =>
      obtain ⟨earlier, last⟩ := List.forall_mem_append.mp timely
      have reached : Run _ _ _ := run.trans prior
      have below := Nat.lt_of_lt_of_le
        ((run.watchful.clean position).below _ prompted.gone.held)
        (run.handoffs prior)
      have heldThen := reached.orderly.held_before reached.watchful below held
      obtain ⟨next, standsThen, now, racingThen, less⟩ :=
        induction earlier heldThen
      have before := prompted.run run prior (.inr heldThen)
      obtain ⟨_, there, heededThen⟩ :=
        heeded_run run prompted stands heeded prior earlier heldThen
      cases standsThen.symm.trans there
      obtain ⟨final, standsLast, _⟩ :=
        (prompted.run run (.next occurrence prior) (.inr held)).stands
      obtain ⟨still, more, bound⟩ := toGo_happen before reached.orderly
        reached.watchful (last _ (List.mem_singleton_self _)) standsThen
        heededThen racingThen ((deleted_append _ _ _).mpr (.inl deleted))
        standsLast
      refine ⟨final, standsLast, still.trans now, more, ?_⟩
      rw [turnsOf, List.countP_append]
      unfold turnsOf at bound less
      omega

theorem toGo_le (position : TaskId) (confirming : Confirming) (world : World) :
    toGo position confirming world ≤ 7 := by
  have bound : confirming.effort world.agenda ≤ 6 := by
    unfold Confirming.effort
    split
    · decide
    · exact Nat.succ_le_succ (Wait.effort_le _ _)
    · exact Nat.zero_le _
  unfold toGo
  split <;> omega

end

end World

end Switchboard
