import Switchboard.Proofs.Bot.Consent

/-!
# What a confirmation listens for

Once its prompt has been sent a confirmation listens for a verdict on it and
for its deletion.  While it adds its reactions it looks at neither; then it
waits for both at once, and looks for the verdict first.
-/

namespace Switchboard

/-- What ends a confirmation besides a verdict: the deletion of its prompt. -/
def deletionOf (prompt : String) : Wish where
  kind := .deletion
  predicate := fun event => event.deleted? == some prompt

/-- A wait that has no deadline and makes no probe. -/
def Wait.endless (id : SubscriptionId) : Wait where
  subscription := id
  deadline := none
  liveness := none
  tick := none

theorem Wait.idles_endless {id : SubscriptionId} {agenda : Agenda}
    {killed alive : Bool} {handoff after : Handoff Event}
    {progress : Progress Wait (Except WaitError Event)}
    (turn : WaitTurn agenda killed alive (.endless id) handoff progress after) :
    (killed = true ∧ progress = .done (.error .interrupted)) ∨
      (killed = false ∧ ∃ event, handoff.slot = .value event ∧
        progress = .done (.ok event)) ∨
      (killed = false ∧ handoff.slot = .empty ∧
        progress = .blocked (.endless id)) := by
  cases turn with
  | receives event concludes value =>
      cases concludes with
      | event _ _ alive => exact .inr (.inl ⟨alive, event, value, rfl⟩)
      | lateEvent _ _ _ phase => cases phase
  | fails error concludes =>
      cases concludes with
      | interrupted _ killed => exact .inl ⟨killed, rfl⟩
      | timeout _ _ _ expired => cases expired
      | found _ _ phase => cases phase
  | probes _ _ _ _ cause =>
      cases cause with
      | deadline expired => cases expired
      | tick _ due => cases due
  | resumes _ phase => cases phase
  | idles idles =>
      cases idles with
      | listening _ alive empty => exact .inr (.inr ⟨alive, empty, rfl⟩)
      | probing _ _ phase => cases phase

/-- A confirmation whose prompt has been sent listens for the verdict and for
the deletion, as long as it does not ask for a text instead. -/
inductive Confirming.Listens (terms : ConfirmTerms) (prompt : String)
    (reaction deletion : SubscriptionId) : Confirming → Prop where
  | reacting (second : Bool) (failure : Option String) (answer : Alarm) :
      Listens terms prompt reaction deletion
        (.reacting terms prompt reaction deletion second failure answer)
  | racing (verdict : Wait) (turn : Bool) :
      verdict.subscription = reaction →
      Listens terms prompt reaction deletion
        (.racing prompt verdict (.endless deletion) turn)

/-- A bound on the small steps in which a confirmation with both reactions has
looked for the verdict and for the deletion. -/
def Confirming.effort (agenda : Agenda) : Confirming → Nat
  | .racing _ _ _ true => 1
  | .racing _ verdict _ false => verdict.effort agenda + 1
  | _ => 0

namespace World

/-- One small step of a confirmation that listens. -/
inductive ListenStep (actor : Actor) (terms : ConfirmTerms) (prompt : String)
    (reaction deletion : SubscriptionId) (world : World) : Confirming →
    Progress Confirming (Except CommandError Bool) → Prop where
  | adding (second : Bool) (failure : Option String) (answer : Alarm) :
      world.agenda.now < answer.due →
      ListenStep actor terms prompt reaction deletion world
        (.reacting terms prompt reaction deletion second failure answer)
        (.blocked
          (.reacting terms prompt reaction deletion second failure answer))
  | second (failure : Option String) (answer ring : Alarm) :
      world.agenda.now ≤ ring.due →
      ListenStep actor terms prompt reaction deletion world
        (.reacting terms prompt reaction deletion false none answer)
        (.go (.reacting terms prompt reaction deletion true failure ring))
  | falls (second : Bool) (reason : String) (answer : Alarm)
      (sending : Sending) :
      ListenStep actor terms prompt reaction deletion world
        (.reacting terms prompt reaction deletion second (some reason) answer)
        (.go (.asking terms (.prompting world.waiter.handoffs.length
          terms.timeout sending)))
  | opens (answer : Alarm) (verdict : Wait) :
      answer.due ≤ world.agenda.now →
      verdict.subscription = reaction → verdict.phase = .listening →
      ListenStep actor terms prompt reaction deletion world
        (.reacting terms prompt reaction deletion true none answer)
        (.go (.racing prompt verdict (.endless deletion) false))
  | concludes (verdict : Wait) (result : Except WaitError Event) :
      verdict.Concludes world.agenda (world.isKilled actor.pid)
        (world.lookFor actor.task actor.chat prompt).1
        (world.waiter.handoff verdict.subscription) result →
      ListenStep actor terms prompt reaction deletion world
        (.racing prompt verdict (.endless deletion) false)
        (.done ((result.map accepts).mapError CommandError.ofWait))
  | probes (verdict : Wait) (reason : ProbeReason) (answer : Alarm)
      (setting : Agenda) : verdict.phase = .listening →
      verdict.Probes world.agenda
        (world.waiter.handoff verdict.subscription) reason →
      setting.now = world.agenda.now →
      ListenStep actor terms prompt reaction deletion world
        (.racing prompt verdict (.endless deletion) false)
        (.go (.racing prompt (verdict.probing reason answer setting)
          (.endless deletion) false))
  | resumes (verdict : Wait) (answer : Alarm) :
      verdict.phase = .probing .tick answer →
      ListenStep actor terms prompt reaction deletion world
        (.racing prompt verdict (.endless deletion) false)
        (.go (.racing prompt { verdict with phase := .listening }
          (.endless deletion) false))
  | passes (verdict : Wait) :
      ListenStep actor terms prompt reaction deletion world
        (.racing prompt verdict (.endless deletion) false)
        (.go (.racing prompt verdict (.endless deletion) true))
  | interrupted (verdict : Wait) : world.isKilled actor.pid = true →
      ListenStep actor terms prompt reaction deletion world
        (.racing prompt verdict (.endless deletion) true)
        (.done (.error .interrupted))
  | deleted (verdict : Wait) (event : Event) :
      (world.waiter.handoff deletion).slot = .value event →
      ListenStep actor terms prompt reaction deletion world
        (.racing prompt verdict (.endless deletion) true)
        (.done (.error .resourceGone))
  | waits (verdict : Wait) :
      (world.waiter.handoff deletion).slot = .empty →
      ListenStep actor terms prompt reaction deletion world
        (.racing prompt verdict (.endless deletion) true)
        (.blocked (.racing prompt verdict (.endless deletion) false))

section

variable {world after : World} {actor : Actor} {confirming next : Confirming}
  {terms : ConfirmTerms} {prompt : String} {wait : Wait}
  {reaction deletion : SubscriptionId}
  {progress : Progress Confirming (Except CommandError Bool)}

/-- Every step of a confirmation that listens is one of these. -/
theorem stepConfirming_listens (actor : Actor)
    (listens : confirming.Listens terms prompt reaction deletion)
    (clean : confirming.vigil.Clean world.waiter) :
    ListenStep actor terms prompt reaction deletion world confirming
      (world.stepConfirming actor confirming).1 := by
  cases listens with
  | reacting second failure answer =>
      unfold stepConfirming
      dsimp only
      by_cases due : answer.due ≤ world.agenda.now
      · have rings : world.isDue answer = true := by
          simpa [isDue, Agenda.isDue] using due
        rw [if_pos rings]
        cases failure with
        | some reason => exact .falls second reason answer _
        | none =>
            cases second with
            | true => exact .opens answer _ due rfl rfl
            | false => exact .second _ answer _ (Nat.le_add_right _ _)
      · have sleeps : ¬world.isDue answer = true := by
          simpa [isDue, Agenda.isDue] using due
        rw [if_neg sleeps]
        exact .adding second failure answer (Nat.lt_of_not_le due)
  | racing verdict turn own =>
      unfold stepConfirming
      cases turn with
      | false =>
          obtain ⟨content, holds⟩ := clean.slots verdict.subscription
            List.mem_cons_self
          obtain ⟨handoff, looks, _⟩ := stepWait_turn actor prompt verdict holds
          dsimp only [stepOpenWait]
          generalize world.stepWait actor prompt verdict = result at looks
          obtain ⟨step, middle⟩ := result
          cases looks with
          | receives event concludes => exact .concludes verdict _ concludes
          | fails error concludes => exact .concludes verdict _ concludes
          | probes reason answer setting phase cause same =>
              exact .probes verdict reason answer setting phase cause same
          | resumes answer phase => exact .resumes verdict answer phase
          | idles => exact .passes verdict
      | true =>
          obtain ⟨content, holds⟩ := clean.slots deletion
            (List.mem_cons_of_mem _ List.mem_cons_self)
          obtain ⟨handoff, looks, _⟩ :=
            @stepWait_turn world actor prompt (.endless deletion) content holds
          dsimp only
          generalize world.stepWait actor prompt (.endless deletion) = result
            at looks
          obtain ⟨step, middle⟩ := result
          rcases Wait.idles_endless looks with
            ⟨killed, ended⟩ | ⟨_, event, value, ended⟩ | ⟨_, empty, stays⟩
          · cases ended
            exact .interrupted verdict killed
          · cases ended
            exact .deleted verdict event value
          · cases stays
            exact .waits verdict empty

theorem ListenStep.listens (step : ListenStep actor terms prompt reaction
      deletion world confirming progress)
    (listens : confirming.Listens terms prompt reaction deletion)
    (goesOn : progress.next? = some next) :
    next.Listens terms prompt reaction deletion ∨
      ∃ second reason answer sending, confirming =
          .reacting terms prompt reaction deletion second (some reason) answer ∧
        next = .asking terms
          (.prompting world.waiter.handoffs.length terms.timeout sending) := by
  cases step with
  | adding | second =>
      cases goesOn
      exact .inl (.reacting _ _ _)
  | falls second reason answer sending =>
      cases goesOn
      exact .inr ⟨second, reason, answer, sending, rfl, rfl⟩
  | opens answer verdict _ own =>
      cases goesOn
      exact .inl (.racing _ _ own)
  | concludes | interrupted | deleted => cases goesOn
  | probes verdict reason answer setting =>
      cases goesOn
      cases listens with
      | racing _ _ own =>
          exact .inl (.racing _ _
            ((Wait.subscription_probing _ _ _ _).trans own))
  | resumes | passes | waits =>
      cases goesOn
      cases listens with
      | racing _ _ own => exact .inl (.racing _ _ own)

theorem ListenStep.patient (step : ListenStep actor terms prompt reaction
      deletion world confirming progress)
    (goesOn : progress.next? = some next) (waits : next.open? = some wait)
    (expires : wait.AtDeadline) :
    ∃ earlier, confirming.open? = some earlier ∧ (earlier.AtDeadline ∨
      earlier.expired world.agenda
        (world.waiter.handoff earlier.subscription) = true) := by
  cases step with
  | adding | second | falls =>
      cases goesOn
      cases waits
  | opens answer verdict _ _ phase =>
      cases goesOn
      cases waits
      exact absurd expires (Wait.not_atDeadline_of_listening phase)
  | concludes | interrupted | deleted => cases goesOn
  | probes verdict reason answer setting _ cause =>
      cases goesOn
      cases waits
      cases cause with
      | deadline expired => exact ⟨verdict, rfl, .inr expired⟩
      | tick => exact absurd expires (Wait.not_atDeadline_of_tick rfl)
  | resumes =>
      cases goesOn
      cases waits
      exact absurd expires (Wait.not_atDeadline_of_listening rfl)
  | passes | waits =>
      cases goesOn
      cases waits
      exact ⟨wait, rfl, .inl expires⟩

theorem ListenStep.ends_gone {result : Except CommandError Bool}
    (step : ListenStep actor terms prompt reaction deletion world confirming
      (.done result))
    (unanswered : (world.waiter.handoff reaction).slot = .empty)
    (listens : confirming.Listens terms prompt reaction deletion)
    (patient : ∀ wait, confirming.open? = some wait → ¬wait.AtDeadline ∧
      wait.expired world.agenda (world.waiter.handoff wait.subscription) =
        false) :
    result = .error .resourceGone ∨
      (world.isKilled actor.pid = true ∧ result = .error .interrupted) := by
  cases step with
  | concludes verdict ended concludes =>
      obtain ⟨early, unexpired⟩ := patient verdict rfl
      cases listens with
      | racing _ _ own =>
          subst own
          cases concludes with
          | interrupted _ killed => exact .inr ⟨killed, rfl⟩
          | event _ _ _ value | lateEvent _ _ _ _ _ _ value =>
              cases unanswered.symm.trans value
          | timeout _ _ _ expired => cases unexpired.symm.trans expired
          | found reason answer phase _ decides =>
              cases reason with
              | deadline => exact absurd ⟨answer, phase⟩ early
              | tick =>
                  rw [decides rfl]
                  exact .inl rfl
  | interrupted _ killed => exact .inr ⟨killed, rfl⟩
  | deleted => exact .inl rfl

theorem ListenStep.gone_of_ends
    (step : ListenStep actor terms prompt reaction deletion world confirming
      (.done (.error .resourceGone))) :
    (∃ event, (world.waiter.handoff deletion).slot = .value event) ∨
      (world.lookFor actor.task actor.chat prompt).1 = false := by
  generalize ended : (Progress.done (.error .resourceGone) :
    Progress Confirming (Except CommandError Bool)) = progress at step
  cases step with
  | concludes verdict result concludes =>
      cases concludes with
      | found _ _ _ _ _ _ =>
          cases found : (world.lookFor actor.task actor.chat prompt).1 with
          | false => exact .inr rfl
          | true =>
              rw [found] at ended
              cases ended
      | _ => cases ended
  | deleted _ event value => exact .inl ⟨event, value⟩
  | _ => cases ended

theorem ListenStep.effort (step : ListenStep actor terms prompt reaction
      deletion world confirming progress)
    (goesOn : progress.next? = some next)
    (deleted : (world.waiter.handoff deletion).slot ≠ .empty)
    (racing : 0 < confirming.effort world.agenda) (agenda : Agenda)
    (same : agenda.now = world.agenda.now) :
    progress = .go next ∧ 0 < next.effort agenda ∧
      next.effort agenda < confirming.effort world.agenda := by
  have due : agenda.isDue = world.agenda.isDue := by
    funext alarm
    rw [Agenda.isDue, Agenda.isDue, same]
  cases step with
  | adding | second | falls | opens => exact absurd racing (Nat.lt_irrefl 0)
  | concludes | interrupted | deleted => cases goesOn
  | probes verdict reason answer setting phase cause now =>
      cases goesOn
      exact ⟨rfl, Nat.succ_pos _, Nat.succ_lt_succ
        (Wait.effort_probing phase cause (same.trans now.symm))⟩
  | resumes verdict answer phase =>
      cases goesOn
      have less := Wait.effort_resumed phase world.agenda
      refine ⟨rfl, Nat.succ_pos _, Nat.succ_lt_succ ?_⟩
      rw [Wait.effort_listening rfl, Wait.probes, due]
      rw [Wait.effort_listening rfl] at less
      exact less
  | passes verdict =>
      cases goesOn
      exact ⟨rfl, Nat.one_pos,
        Nat.succ_lt_succ (Wait.effort_pos world.agenda verdict)⟩
  | waits _ empty => exact absurd empty deleted

end

end World

end Switchboard
