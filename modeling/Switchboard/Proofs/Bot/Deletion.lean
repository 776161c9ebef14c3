import Switchboard.Proofs.Bot.Prompted
import Switchboard.Proofs.Bot.Refusal

/-!
# The deletion of a prompt

A confirmation ends when its prompt is deleted: at once when both reactions
have been added, and otherwise as soon as they have been.  The deletion of any
other message makes no difference to it.  However a confirmation comes to its
end, it leaves neither of its two subscriptions on the register.
-/

namespace Switchboard

theorem Event.kind_of_deleted? {event : Event} {target : String}
    (deletes : event.deleted? = some target) : event.kind = .deletion := by
  obtain ⟨_, _, _, _, content⟩ := event
  cases content with
  | deletion => rfl
  | message | reaction => cases deletes

namespace World

/-- A confirmation whose prompt has been sent.  `before` is the state just
before the step in which it was, and `since` is what has happened after it. -/
structure SentPrompt where
  config : Config
  commands : Catalogue Handler
  horizon : Nat
  past : List Episode
  before : World
  since : List Episode
  world : World
  position : TaskId
  actor : Actor
  terms : ConfirmTerms
  prompt : String
  reaction : SubscriptionId
  deletion : SubscriptionId
  failure : Option String
  answer : Alarm
  run : Run (World.start config commands horizon) past before
  sends : SendsPrompt position actor terms prompt ⟨before, .work⟩
  stands : (before.happen .work).confirming? position = some (actor,
    .reacting terms prompt reaction deletion false failure answer)
  goesOn : Run (before.happen .work) since world

namespace SentPrompt

/-- The confirmation is still adding its reactions, or waits for the verdict
and for the deletion. -/
def ListensIn (sent : SentPrompt) (world : World) : Prop :=
  ∃ confirming,
    world.confirming? sent.position = some (sent.actor, confirming) ∧
      confirming.Listens sent.terms sent.prompt sent.reaction sent.deletion

def Listens (sent : SentPrompt) : Prop := sent.ListensIn sent.world

/-- Both reactions have been added. -/
def Waits (sent : SentPrompt) : Prop :=
  ∃ verdict gone turn, sent.world.confirming? sent.position =
    some (sent.actor, .racing sent.prompt verdict gone turn)

/-- A reaction is still being added. -/
def Reacts (sent : SentPrompt) : Prop :=
  ∃ second failure answer, sent.world.confirming? sent.position =
      some (sent.actor, .reacting sent.terms sent.prompt sent.reaction
        sent.deletion second failure answer) ∧
    sent.world.agenda.now < answer.due

/-- An event has been offered since that says that the prompt was deleted. -/
def Deleted (sent : SentPrompt) : Prop :=
  ∃ episode ∈ sent.since, ∃ event, episode.offered? = some event ∧
    event.deleted? = some sent.prompt

/-- A verdict of the invoking actor on the prompt has been offered since. -/
def Answered (sent : SentPrompt) : Prop :=
  ∃ episode ∈ sent.since, ∃ event, episode.offered? = some event ∧
    isVerdict sent.actor.invocation sent.prompt event = true

/-- The deadline has passed while the confirmation waited, and it had not been
lifted. -/
def Late (sent : SentPrompt) : Prop :=
  Overdue sent.position sent.world ∨
    ∃ episode ∈ sent.since, Overdue sent.position episode.before

instance (sent : SentPrompt) : Decidable sent.Deleted :=
  decidable_of_iff (∃ episode ∈ sent.since, episode.offered?.any
    (fun event => event.deleted? == some sent.prompt) = true)
    (by simp [Deleted, Option.any_eq_true])

instance (sent : SentPrompt) : Decidable sent.Answered :=
  decidable_of_iff (∃ episode ∈ sent.since, episode.offered?.any
    (isVerdict sent.actor.invocation sent.prompt) = true)
    (by simp [Answered, Option.any_eq_true])

instance (sent : SentPrompt) : Decidable sent.Late :=
  inferInstanceAs (Decidable (_ ∨ _))

/-- Time has gone on promptly since the prompt was sent. -/
def Prompt (sent : SentPrompt) : Prop :=
  ∀ episode ∈ sent.since, episode.Prompt

instance (sent : SentPrompt) : Decidable sent.Prompt :=
  inferInstanceAs (Decidable (∀ episode ∈ sent.since, episode.Prompt))

/-- The process has been killed. -/
def killed (sent : SentPrompt) : Bool :=
  sent.world.isKilled sent.actor.pid

/-- The result with which the confirmation ends if its task takes its next
step now. -/
def verdict? (sent : SentPrompt) : Option (Except CommandError Bool) :=
  sent.world.verdict? sent.position

/-- Whether the prompt is there, if it is looked for now. -/
def found (sent : SentPrompt) : Bool :=
  (sent.world.lookFor sent.actor.task sent.actor.chat sent.prompt).1

/-- From some state on the confirmation is over, and its subscriptions are off
the register for good. -/
def OverFrom (sent : SentPrompt) (world : World) : Prop :=
  ∀ (rest : List Episode) (last : World), Run world rest last →
    ¬sent.ListensIn last ∧ ¬last.waiter.Registers sent.reaction ∧
      ¬last.waiter.Registers sent.deletion

/-- The same confirmation when more has happened. -/
def later (sent : SentPrompt) {rest : List Episode} {last : World}
    (goesOn : Run sent.world rest last) : SentPrompt :=
  { sent with
    since := sent.since ++ rest
    world := last
    goesOn := sent.goesOn.trans goesOn }

/-- Something makes no difference to the confirmation: it stands where it stood
and would end as before, it has been given nothing and still listens for the
same, and its task has not been woken. -/
structure Unmoved (sent : SentPrompt) (after : World) : Prop where
  stands : after.confirming? sent.position =
    sent.world.confirming? sent.position
  verdict : after.verdict? sent.position = sent.verdict?
  reaction : sent.world.waiter.Keeps sent.reaction after.waiter
  deletion : sent.world.waiter.Keeps sent.deletion after.waiter
  unwoken : sent.position ∈ after.agenda.ready →
    sent.position ∈ sent.world.agenda.ready

end SentPrompt

section

variable {world : World} {agenda : Agenda} {waiter : Waiter} {actor : Actor}
  {position : TaskId} {confirming : Confirming} {terms : ConfirmTerms}
  {prompt : String} {reaction deletion : SubscriptionId} {event : Event}
  {occurrence : Occurrence}

/-- What a wait ends with depends on the clock and on its handoff. -/
theorem result?_stepWait (watched : String) (wait : Wait)
    (now : agenda.now = world.agenda.now)
    (handoff : waiter.handoff wait.subscription =
      world.waiter.handoff wait.subscription) :
    (({ world with agenda, waiter } : World).stepWait actor watched
        wait).1.result? = (world.stepWait actor watched wait).1.result? := by
  have due : agenda.isDue = world.agenda.isDue := by
    funext alarm
    rw [Agenda.isDue, Agenda.isDue, now]
  unfold stepWait
  dsimp only
  rw [handoff]
  cases wait.phase with
  | listening =>
      have same : ∀ killed handoff, wait.listen agenda killed handoff =
          wait.listen world.agenda killed handoff := by
        intro killed handoff
        simp only [Wait.listen, due]
      have killed : ({ world with agenda, waiter } : World).isKilled actor.pid =
          world.isKilled actor.pid := rfl
      dsimp only
      rw [same, killed]
      generalize wait.listen world.agenda (world.isKilled actor.pid)
        (world.waiter.handoff wait.subscription) = looked
      obtain ⟨move, after⟩ := looked
      cases move <;> rfl
  | probing reason answer =>
      have rings : ({ world with agenda, waiter } : World).isDue answer =
          world.isDue answer := congrFun due answer
      have finds : (({ world with agenda, waiter } : World).lookFor actor.task
          actor.chat watched).1 =
            (world.lookFor actor.task actor.chat watched).1 := rfl
      dsimp only
      rw [rings]
      cases world.isDue answer with
      | false => rfl
      | true =>
          simp only [if_true]
          rw [finds]
          generalize Wait.probed reason
            (world.lookFor actor.task actor.chat watched).1
              (world.waiter.handoff wait.subscription) = looked
          obtain ⟨result, after⟩ := looked
          cases result <;> rfl

/-- What a confirmation that listens ends with depends on the clock and on its
two handoffs. -/
theorem result?_stepConfirming
    (listens : confirming.Listens terms prompt reaction deletion)
    (now : agenda.now = world.agenda.now)
    (verdict : waiter.handoff reaction = world.waiter.handoff reaction)
    (gone : waiter.handoff deletion = world.waiter.handoff deletion) :
    (({ world with agenda, waiter } : World).stepConfirming actor
        confirming).1.result? =
      (world.stepConfirming actor confirming).1.result? := by
  cases listens with
  | reacting second failure answer =>
      have none : ∀ world : World, (world.stepConfirming actor
          (.reacting terms prompt reaction deletion second failure
            answer)).1.result? = none := by
        intro world
        unfold stepConfirming
        dsimp only
        split
        · split
          · rfl
          · split <;> rfl
        · rfl
      rw [none, none]
  | racing wait turn own =>
      subst own
      cases turn with
      | false =>
          have shape : ∀ world : World, (world.stepConfirming actor
              (.racing prompt wait (.endless deletion) false)).1.result? =
                (world.stepWait actor prompt wait).1.result?.map fun result =>
                  (result.map accepts).mapError CommandError.ofWait := by
            intro world
            unfold stepConfirming
            dsimp only [stepOpenWait]
            generalize world.stepWait actor prompt wait = result
            obtain ⟨progress, after⟩ := result
            cases progress <;> rfl
          rw [shape, shape, result?_stepWait prompt wait now verdict]
      | true =>
          have same : (({ world with agenda, waiter } : World).stepWait actor
              prompt (.endless deletion)).1.result? =
                (world.stepWait actor prompt (.endless deletion)).1.result? :=
            result?_stepWait prompt (.endless deletion) now gone
          unfold stepConfirming
          dsimp only
          generalize ({ world with agenda, waiter } : World).stepWait actor
            prompt (.endless deletion) = one at same
          generalize world.stepWait actor prompt (.endless deletion) = two
            at same
          obtain ⟨progress, after⟩ := one
          obtain ⟨other, later⟩ := two
          cases progress with
          | done result =>
              cases other <;> cases same
              cases result <;> rfl
          | go | blocked => cases other <;> first | rfl | cases same

theorem happen_of_offered
    (offered : Episode.offered? ⟨world, occurrence⟩ = some event)
    (kind : event.kind ≠ .message) :
    world.happen occurrence = world.offered event := by
  cases occurrence with
  | dispatch other =>
      cases offered
      rfl
  | receive other =>
      unfold Episode.offered? at offered
      dsimp only at offered
      split at offered
      · rename_i owner
        cases offered
        have reception := receive_reception event world
        change (world.receive event).2 = _
        generalize world.receive event = result at reception
        cases reception with
        | «foreign» stranger => cases owner.symm.trans stranger
        | heard | mute => rfl
        | unknown addressed | denied addressed | limited addressed
        | free addressed | counted addressed | broken addressed =>
            exact absurd addressed.kind kind
      · cases offered
  | _ => cases offered

namespace SentPrompt

variable {sent : SentPrompt} {later : List Episode} {middle : World}
  {result : Except CommandError Bool}

theorem ranAfter (sent : SentPrompt) :
    Run (World.start sent.config sent.commands sent.horizon)
      (sent.past ++ [⟨sent.before, .work⟩]) (sent.before.happen .work) :=
  .next .work sent.run

theorem ran (sent : SentPrompt) :
    Run (World.start sent.config sent.commands sent.horizon)
      (sent.past ++ [⟨sent.before, .work⟩] ++ sent.since) sent.world :=
  sent.ranAfter.trans sent.goesOn

theorem begun (sent : SentPrompt) :
    Prompted sent.position sent.actor sent.terms sent.prompt sent.reaction
        sent.deletion [] (sent.before.happen .work) ∧
      Confirming.Heeded sent.position False (sent.before.happen .work)
        (.reacting sent.terms sent.prompt sent.reaction sent.deletion false
          sent.failure sent.answer) :=
  sent.sends.prompted sent.run.guarded.sound sent.run.orderly sent.stands

theorem ListensIn.held (listens : sent.ListensIn world) :
    (world.vigil sent.position).held = [sent.reaction, sent.deletion] := by
  obtain ⟨confirming, stands, shape⟩ := listens
  rw [vigil_of_confirming stands]
  exact shape.held

theorem prompted_of_held
    (reached : Run (sent.before.happen .work) later middle)
    (held : sent.reaction ∈ (middle.vigil sent.position).held ∨
      sent.deletion ∈ (middle.vigil sent.position).held) :
    Prompted sent.position sent.actor sent.terms sent.prompt sent.reaction
      sent.deletion later middle :=
  sent.begun.1.run sent.ranAfter reached held

theorem Listens.prompted (listens : sent.Listens) :
    Prompted sent.position sent.actor sent.terms sent.prompt sent.reaction
      sent.deletion sent.since sent.world :=
  prompted_of_held sent.goesOn
    (.inl (ListensIn.held listens ▸ List.mem_cons_self))

theorem deleted_iff : sent.Deleted ↔ World.Deleted sent.prompt sent.since := by
  have accepts : ∀ event : Event, event.deleted? = some sent.prompt ↔
      (deletionOf sent.prompt).accepts event = true := by
    intro event
    simp only [Wish.accepts, deletionOf, Bool.and_eq_true, beq_iff_eq]
    refine ⟨fun deletes => ⟨?_, deletes⟩, And.right⟩
    exact decide_eq_true (Event.kind_of_deleted? deletes)
  simp only [SentPrompt.Deleted, World.Deleted, firstOffer?_ne_none, accepts]

theorem unanswered (quiet : ¬sent.Answered) :
    firstOffer? (verdictOn sent.actor.invocation sent.prompt) sent.since =
      none := by
  by_contra some
  obtain ⟨episode, member, event, offered, accepts⟩ :=
    firstOffer?_ne_none.mp some
  simp only [Wish.accepts, Bool.and_eq_true] at accepts
  exact quiet ⟨episode, member, event, offered, accepts.2⟩

theorem made_of_held {id : SubscriptionId}
    (held : id ∈ ((sent.before.happen .work).vigil sent.position).held) :
    MadeBy sent.position (sent.past ++ [⟨sent.before, .work⟩]) id := by
  obtain ⟨sending, before, _⟩ := sent.sends.before
  have tended := tends_own sent.sends.mover
    (sent.run.watchful.clean sent.position)
  have nothing : (sent.before.vigil sent.position).held = [] := by
    rw [vigil_of_confirming before]
    rfl
  refine ⟨_, List.mem_append_right _ (List.mem_singleton_self _),
    sent.sends.mover, ?_, tended.clean.below id held⟩
  exact (tended.held id held).resolve_left (nothing ▸ List.not_mem_nil)

theorem overFrom (reached : Run (sent.before.happen .work) later middle)
    (quiet : ¬sent.ListensIn middle) : sent.OverFrom middle := by
  have first : sent.ListensIn (sent.before.happen .work) :=
    ⟨_, sent.stands, .reacting _ _ _⟩
  have held := ListensIn.held first
  have unheld : ∀ id ∈ [sent.reaction, sent.deletion],
      id ∉ (middle.vigil sent.position).held := by
    intro id member inside
    have either : sent.reaction ∈ (middle.vigil sent.position).held ∨
        sent.deletion ∈ (middle.vigil sent.position).held := by
      rcases List.mem_cons.mp member with rfl | member
      · exact .inl inside
      · exact .inr (List.mem_singleton.mp member ▸ inside)
    exact quiet (prompted_of_held reached either).stands
  intro rest last goesOn
  have earlier : ∀ id ∈ [sent.reaction, sent.deletion],
      id ∉ (last.vigil sent.position).held := by
    intro id member inside
    have below := (sent.ranAfter.watchful.clean sent.position).below id
      (held ▸ member)
    have wholly : Run _ _ _ := sent.ranAfter.trans reached
    exact unheld id member (wholly.held_earlier goesOn
      (Nat.lt_of_lt_of_le below (sent.ranAfter.handoffs reached)) inside)
  have unlisted : ∀ id ∈ [sent.reaction, sent.deletion],
      ¬last.waiter.Registers id := by
    intro id member
    exact sent.ranAfter.unlisted_of_released (reached.trans goesOn)
      (made_of_held (held ▸ member)) (held ▸ member) (earlier id member)
  refine ⟨fun listens => ?_, unlisted _ List.mem_cons_self,
    unlisted _ (List.mem_cons_of_mem _ List.mem_cons_self)⟩
  exact earlier _ List.mem_cons_self
    (ListensIn.held listens ▸ List.mem_cons_self)

theorem Listens.goes_on (listens : sent.Listens) (occurrence : Occurrence) :
    sent.ListensIn (sent.world.happen occurrence) ∨
      (occurrence = .work ∧ Quits sent.position sent.actor sent.world ∧
        sent.OverFrom (sent.world.happen .work)) := by
  rcases listens.prompted.happen sent.ran.guarded sent.ran.orderly
      sent.ran.watchful occurrence with on | ⟨mover, quits, unheld, _⟩
  · exact .inl on.stands
  · obtain ⟨rfl, _⟩ := Episode.mover?_eq_some mover
    refine .inr ⟨rfl, quits, overFrom (.next .work sent.goesOn) ?_⟩
    exact fun on => unheld (ListensIn.held on ▸ List.mem_cons_self)

theorem Listens.ends (listens : sent.Listens)
    (returns : sent.verdict? = some result) :
    ∃ confirming, sent.world.confirming? sent.position =
        some (sent.actor, confirming) ∧
      confirming.Listens sent.terms sent.prompt sent.reaction sent.deletion ∧
      ListenStep sent.actor sent.terms sent.prompt sent.reaction sent.deletion
        sent.world confirming (.done result) := by
  obtain ⟨confirming, stands, shape⟩ := listens
  obtain ⟨actor, other, there, ended⟩ := step_of_verdict? returns
  cases stands.symm.trans there
  have clean := sent.ran.watchful.clean sent.position
  rw [vigil_of_confirming stands] at clean
  exact ⟨confirming, stands, shape,
    ended ▸ stepConfirming_listens sent.actor shape clean⟩

theorem Listens.result_of_quiet (listens : sent.Listens)
    (returns : sent.verdict? = some result) (quiet : ¬sent.Answered)
    (early : ¬sent.Late) :
    result = .error .resourceGone ∨
      (sent.killed = true ∧ result = .error .interrupted) := by
  obtain ⟨confirming, stands, shape, step⟩ := listens.ends returns
  have prompted := listens.prompted
  have unexpired : ∀ wait,
      (sent.world.vigil sent.position).wait? = some wait →
        ¬wait.AtDeadline ∧ wait.expired sent.world.agenda
          (sent.world.waiter.handoff wait.subscription) = false := by
    intro wait waits
    refine ⟨fun expires => early (.inr (prompted.patient wait waits expires)),
      ?_⟩
    cases expired : wait.expired sent.world.agenda
        (sent.world.waiter.handoff wait.subscription) with
    | false => rfl
    | true => exact absurd (.inl ⟨wait, waits, expired⟩) early
  rw [vigil_of_confirming stands] at unexpired
  refine step.ends_gone ?_ shape unexpired
  rw [prompted.verdict.slot, unanswered quiet]
  rfl

theorem Listens.deleted_of_gone (listens : sent.Listens)
    (returns : sent.verdict? = some (.error .resourceGone)) :
    sent.Deleted ∨ sent.found = false := by
  obtain ⟨confirming, stands, shape, step⟩ := listens.ends returns
  refine step.gone_of_ends.imp_left fun ⟨event, value⟩ => ?_
  rw [deleted_iff]
  exact Option.ne_none_iff_exists'.mpr
    ⟨event, listens.prompted.gone.first_of_value value⟩

theorem Listens.heeded (listens : sent.Listens) (timely : sent.Prompt) :
    ∃ confirming, sent.world.confirming? sent.position =
        some (sent.actor, confirming) ∧
      confirming.Heeded sent.position sent.Deleted sent.world := by
  have held : sent.deletion ∈ (sent.world.vigil sent.position).held :=
    ListensIn.held listens ▸ List.mem_cons_of_mem _ List.mem_cons_self
  obtain ⟨prompted, heeded⟩ := sent.begun
  have nothing : False = World.Deleted sent.prompt [] := by
    simp [World.Deleted, firstOffer?, offers]
  rw [nothing] at heeded
  rw [deleted_iff]
  exact heeded_run sent.ranAfter prompted sent.stands heeded sent.goesOn timely
    held

theorem Listens.reacts_of_settled (listens : sent.Listens)
    (timely : sent.Prompt) (deleted : sent.Deleted)
    (nobody : sent.world.mover? = none) : sent.Reacts := by
  obtain ⟨confirming, stands, heeded⟩ := listens.heeded timely
  obtain ⟨_, there, shape⟩ := listens
  cases stands.symm.trans there
  have idle : ¬Attended sent.position sent.world := not_attended nobody
  cases heeded with
  | reacting early attended =>
      cases shape
      exact ⟨_, _, _, stands,
        Nat.lt_of_le_of_ne early fun due => idle (attended due)⟩
  | racing attended => exact absurd (attended deleted) idle

theorem Listens.waits_briefly (listens : sent.Listens) (timely : sent.Prompt)
    (deleted : sent.Deleted) (waits : sent.Waits) :
    Attended sent.position sent.world ∧
      ∀ (rest : List Episode) (last : World)
        (goesOn : Run sent.world rest last),
        (∀ episode ∈ rest, episode.Prompt) → (sent.later goesOn).Listens →
          (sent.later goesOn).Waits ∧
            last.agenda.now = sent.world.agenda.now ∧
              turnsOf sent.position rest ≤ 6 := by
  obtain ⟨confirming, stands, heeded⟩ := listens.heeded timely
  obtain ⟨verdict, gone, turn, there⟩ := waits
  cases stands.symm.trans there
  have attended : Attended sent.position sent.world := by
    cases heeded with
    | racing attended => exact attended deleted
  refine ⟨attended, fun rest last goesOn timelyThen still => ?_⟩
  have racing : 0 < Confirming.effort sent.world.agenda
      (.racing sent.prompt verdict gone turn) := by
    cases turn <;> exact Nat.succ_pos _
  rw [deleted_iff] at heeded deleted
  have held : sent.deletion ∈ (last.vigil sent.position).held :=
    ListensIn.held still ▸ List.mem_cons_of_mem _ List.mem_cons_self
  obtain ⟨next, standsThen, now, more, less⟩ := toGo_run sent.ran
    listens.prompted stands heeded racing deleted goesOn timelyThen held
  obtain ⟨_, same, shape⟩ := still
  cases standsThen.symm.trans same
  refine ⟨?_, now, ?_⟩
  · cases shape with
    | reacting => exact absurd more (Nat.lt_irrefl 0)
    | racing verdict turn => exact ⟨_, _, _, standsThen⟩
  · have bound := toGo_le sent.position
      (.racing sent.prompt verdict gone turn) sent.world
    have positive : 1 ≤ toGo sent.position next last :=
      Nat.le_trans more (Nat.le_add_right _ _)
    omega

theorem Listens.quits (listens : sent.Listens) {rest : List Episode}
    {last : World} (goesOn : Run sent.world rest last) :
    (sent.later goesOn).Listens ∨
      ∃ (one two : List Episode) (middle : World)
        (reached : Run sent.world one middle),
        rest = one ++ ⟨middle, .work⟩ :: two ∧ (sent.later reached).Listens ∧
          Quits sent.position sent.actor middle := by
  induction goesOn with
  | start => exact .inl listens
  | @next rest middle occurrence prior induction =>
      rcases induction with still | ⟨one, two, before, reached, rfl, rest⟩
      · rcases Listens.goes_on still occurrence with on | ⟨rfl, quits, _⟩
        · exact .inl on
        · exact .inr ⟨rest, [], middle, prior, rfl, still, quits⟩
      · refine .inr ⟨one, two ++ [⟨middle, occurrence⟩], before, reached, ?_,
          rest⟩
        simp

theorem Listens.ends_soon (listens : sent.Listens) (timely : sent.Prompt)
    (deleted : sent.Deleted) (waits : sent.Waits) {rest : List Episode}
    {last : World} (goesOn : Run sent.world rest last)
    (timelyThen : ∀ episode ∈ rest, episode.Prompt)
    (enough : 6 < turnsOf sent.position rest) :
    ∃ (one two : List Episode) (middle : World)
      (reached : Run sent.world one middle),
      rest = one ++ ⟨middle, .work⟩ :: two ∧
        middle.agenda.now = sent.world.agenda.now ∧
        ((sent.later reached).killed = true ∨
          (¬(sent.later reached).Answered → ¬(sent.later reached).Late →
            (sent.later reached).verdict? = some (.error .resourceGone))) := by
  have brief := (listens.waits_briefly timely deleted waits).2
  rcases listens.quits goesOn with
    still | ⟨one, two, middle, reached, rfl, still, quits⟩
  · exact absurd (brief rest last goesOn timelyThen still).2.2
      (Nat.not_le_of_lt enough)
  · obtain ⟨waitsThen, now, _⟩ := brief one middle reached
      (fun episode member => timelyThen _ (List.mem_append_left _ member)) still
    refine ⟨one, two, middle, reached, rfl, now, ?_⟩
    cases killed : (sent.later reached).killed with
    | true => exact .inl rfl
    | false =>
        refine .inr fun quiet early => ?_
        cases quits with
        | ends result returns =>
            rcases Listens.result_of_quiet still returns quiet early with
              rfl | ⟨struck, _⟩
            · exact returns
            · cases killed.symm.trans struck
        | killed struck => cases killed.symm.trans struck
        | refused _ _ _ _ _ _ _ stands =>
            obtain ⟨_, _, _, there⟩ := waitsThen
            cases stands.symm.trans there

/-- The deletion of another message makes no difference. -/
theorem Listens.unmoved (listens : sent.Listens) {event : Event}
    {other : String}
    (offered : Episode.offered? ⟨sent.world, occurrence⟩ = some event)
    (deletes : event.deleted? = some other) (different : other ≠ sent.prompt) :
    sent.Unmoved (sent.world.happen occurrence) := by
  have deletion : event.kind = .deletion := Event.kind_of_deleted? deletes
  have same := happen_of_offered offered (by simp [deletion])
  have prompted := listens.prompted
  obtain ⟨confirming, stands, shape⟩ := listens
  have sound := sent.ran.guarded.sound
  have foreign : ∀ id, id = sent.reaction ∨ id = sent.deletion →
      id ∉ sent.world.waiter.takers event := by
    rintro id (rfl | rfl) taker
    · obtain ⟨accepts, _⟩ := prompted.verdict.taker_iff.mp taker
      simp [Wish.accepts, verdictOn, deletion] at accepts
    · obtain ⟨accepts, _⟩ := prompted.gone.taker_iff.mp taker
      simp [Wish.accepts, deletionOf, deletes, different] at accepts
  have heard := heard_offered sound event
  have keeps : ∀ id, id = sent.reaction ∨ id = sent.deletion →
      sent.world.waiter.Keeps id (sent.world.offered event).waiter := by
    intro id own
    refine ⟨congrArg Handoff.slot (heard.others id (foreign id own)), ?_⟩
    rintro kind subscription rfl
    rw [heard.registered, List.mem_filter]
    simp [foreign _ own]
  obtain ⟨agenda, waiter, rest, now⟩ := dispatch_rest event sent.world
  have frame : Frame 0 (fun _ => False) sent.world
      (sent.world.offered event) := .dispatch event
  have floor := frame.agenda.floor
  have others := heard.others
  have offeredWorld : sent.world.offered event =
      { sent.world with agenda, waiter } := rest
  rw [same]
  have standsThen : (sent.world.offered event).confirming? sent.position =
      sent.world.confirming? sent.position := by
    rw [offeredWorld]
    rfl
  refine ⟨standsThen, ?_, keeps _ (.inl rfl), keeps _ (.inr rfl), ?_⟩
  · rw [SentPrompt.verdict?, World.verdict?, World.verdict?, floor, standsThen,
      stands]
    split
    · rw [offeredWorld] at others ⊢
      exact result?_stepConfirming shape now
        (others _ (foreign _ (.inl rfl))) (others _ (foreign _ (.inr rfl)))
    · rfl
  · intro woken
    obtain ⟨task, found, _, watched⟩ := found_of_confirming stands
    have known := (List.getElem?_eq_some_iff.mp found).1
    rcases heard.woken _ woken with
      before | new | ⟨id, taker, other, there, watches⟩
    · exact before
    · exact absurd known (Nat.not_lt_of_le new)
    · cases found.symm.trans there
      rw [watched] at watches
      refine absurd taker (foreign id ?_)
      cases shape with
      | reacting => cases watches
      | racing verdict turn own =>
          rcases List.mem_cons.mp watches with rfl | watches
          · exact .inl own
          · exact .inr (List.mem_singleton.mp watches)

/-- A confirmation ends when its prompt is deleted.  It listens until it quits,
and as long as there is no verdict and its deadline has not passed it ends only
by finding its prompt gone, or by a kill.  When time goes on promptly and the
prompt has been deleted, then whenever everybody waits a reaction is still being
added; and once both have been, the task is in line, no time goes on while the
confirmation still listens, and after a few small steps of its task it has
ended.  The deletion of another message makes no difference, and the prompt is
found gone only if it has been deleted or a probe has not found it.  A
confirmation that listens no longer has its subscriptions off the register for
good. -/
theorem deletion_ends_confirmation (sent : SentPrompt) :
    (sent.Listens →
      (∀ occurrence, sent.ListensIn (sent.world.happen occurrence) ∨
        (occurrence = .work ∧ Quits sent.position sent.actor sent.world ∧
          sent.OverFrom (sent.world.happen .work))) ∧
      (∀ result, sent.verdict? = some result → ¬sent.Answered → ¬sent.Late →
        result = .error .resourceGone ∨
          (sent.killed = true ∧ result = .error .interrupted)) ∧
      (sent.Prompt → sent.Deleted →
        (sent.world.mover? = none → sent.Reacts) ∧
        (sent.Waits → Attended sent.position sent.world ∧
          ∀ (rest : List Episode) (last : World)
            (goesOn : Run sent.world rest last),
            (∀ episode ∈ rest, episode.Prompt) →
            ((sent.later goesOn).Listens →
              last.agenda.now = sent.world.agenda.now) ∧
            (6 < turnsOf sent.position rest →
              ∃ (one two : List Episode) (middle : World)
                (reached : Run sent.world one middle),
                rest = one ++ ⟨middle, .work⟩ :: two ∧
                  middle.agenda.now = sent.world.agenda.now ∧
                  ((sent.later reached).killed = true ∨
                    (¬(sent.later reached).Answered →
                      ¬(sent.later reached).Late →
                        (sent.later reached).verdict? =
                          some (.error .resourceGone)))))) ∧
      (∀ occurrence event other,
        Episode.offered? ⟨sent.world, occurrence⟩ = some event →
          event.deleted? = some other → other ≠ sent.prompt →
            sent.Unmoved (sent.world.happen occurrence)) ∧
      (sent.verdict? = some (.error .resourceGone) →
        sent.Deleted ∨ sent.found = false)) ∧
    (¬sent.Listens → sent.OverFrom sent.world) := by
  refine ⟨fun listens => ⟨listens.goes_on, ?_, ?_, ?_, ?_⟩,
    overFrom sent.goesOn⟩
  · exact fun result returns quiet early =>
      listens.result_of_quiet returns quiet early
  · refine fun timely deleted =>
      ⟨listens.reacts_of_settled timely deleted, fun waits => ?_⟩
    obtain ⟨attended, brief⟩ := listens.waits_briefly timely deleted waits
    refine ⟨attended, fun rest last goesOn timelyThen => ⟨fun still => ?_, ?_⟩⟩
    · exact (brief rest last goesOn timelyThen still).2.1
    · exact listens.ends_soon timely deleted waits goesOn timelyThen
  · exact fun occurrence event other offered deletes different =>
      listens.unmoved offered deletes different
  · exact listens.deleted_of_gone

end SentPrompt

end

/-- A confirmation has two seconds, and looks for its prompt every second. -/
def watchfulConfig : Config where
  accounts := []
  commands := { confirmTimeout := 2, livenessPoll := 1 }

/-- It takes long to look for a message. -/
def slowProbes (state : ChatState) : ChatState :=
  { state with existsDelay := 5000 }

def deletionIn (target : String) : Occurrence :=
  .receive ⟨0, "user", "lobby", "lobby", .deletion target⟩

/-- The prompt is deleted while the first reaction is being added, after some
other message. -/
def earlyDeletion : List Occurrence :=
  [deletionIn "first", deletionIn "$sure?#1", .work, .pass 100, .work, .work,
    .work, .pass 100, .work, .work, .work]

/-- The prompt is deleted while a probe looks for it. -/
def probedDeletion : List Occurrence :=
  List.replicate 4 .work ++ [.pass 1000, .work, .work, .work, .work,
    deletionIn "$sure?#1"]

/-- The command asks for confirmation, and the prompt is about to be sent. -/
def watchfulBot (change : ChatState → ChatState) : World :=
  ((start watchfulConfig waryCommands hostHorizon).happenAll
    (waryStart change)).happen .work

/-- Who asks for confirmation, and what the prompt is. -/
def watchfulActor : Actor :=
  ⟨0, 0, ⟨0, "lobby"⟩,
    ⟨0, "user", "lobby", "lobby", .message "first" ".sure"⟩⟩

def watchfulPrompt (change : ChatState → ChatState) (answer : Alarm)
    (occurrences : List Occurrence)
    (sends : SendsPrompt 0 watchfulActor ⟨some 2000, some 1000⟩ "$sure?#1"
      ⟨watchfulBot change, .work⟩)
    (stands : ((watchfulBot change).happen .work).confirming? 0 =
      some (watchfulActor, .reacting ⟨some 2000, some 1000⟩ "$sure?#1" 1 0
        false none answer)) : SentPrompt where
  config := watchfulConfig
  commands := waryCommands
  horizon := hostHorizon
  past := _
  before := watchfulBot change
  since := ((watchfulBot change).happen .work).history occurrences
  world := ((watchfulBot change).happen .work).happenAll occurrences
  position := 0
  actor := watchfulActor
  terms := ⟨some 2000, some 1000⟩
  prompt := "$sure?#1"
  reaction := 1
  deletion := 0
  failure := none
  answer := answer
  run := .next _ (.of_occurrences _ _)
  sends := sends
  stands := stands
  goesOn := .of_occurrences _ _

/-- Adding a reaction takes its time, and the prompt is deleted meanwhile. -/
def earlyPrompt : SentPrompt :=
  watchfulPrompt slowReactions ⟨100, 1⟩ earlyDeletion
    ⟨by decide +kernel,
      ⟨⟨⟨0, "lobby"⟩, "sure?", none, ⟨0, 0⟩⟩, by decide +kernel,
        by decide +kernel⟩, ⟨1, 0, none, ⟨100, 1⟩, by decide +kernel⟩⟩
    (by decide +kernel)

/-- Looking for the prompt takes its time, and it is deleted meanwhile. -/
def probedPrompt : SentPrompt :=
  watchfulPrompt slowProbes ⟨0, 1⟩ probedDeletion
    ⟨by decide +kernel,
      ⟨⟨⟨0, "lobby"⟩, "sure?", none, ⟨0, 0⟩⟩, by decide +kernel,
        by decide +kernel⟩, ⟨1, 0, none, ⟨0, 1⟩, by decide +kernel⟩⟩
    (by decide +kernel)

/-- The one confirmation ends when the second reaction has been added, the
other one in the middle of a probe. -/
theorem watchfulBot_finds_prompt_gone :
    (earlyPrompt.Deleted ∧
      earlyPrompt.verdict? = some (.error .resourceGone) ∧
      ∃ after, ¬earlyPrompt.ListensIn after ∧
        ¬after.waiter.Registers 1 ∧ ¬after.waiter.Registers 0) ∧
    (probedPrompt.Deleted ∧
      ∃ one two middle, probedPrompt.world.history (List.replicate 8 .work) =
          one ++ ⟨middle, .work⟩ :: two ∧ middle.agenda.now = 1000) := by
  refine ⟨⟨by decide +kernel, ?_⟩, ⟨by decide +kernel, ?_⟩⟩
  · have listens : earlyPrompt.Listens :=
      ⟨.racing "$sure?#1" ⟨1, some ⟨2200, 3⟩, some ⟨some 1000⟩,
        some ⟨1200, 4⟩, .listening⟩ (.endless 0) true, by decide +kernel,
        .racing _ _ rfl⟩
    have ends := (SentPrompt.deletion_ends_confirmation earlyPrompt).1 listens
    have returns : earlyPrompt.verdict?.isSome = true := by decide +kernel
    obtain ⟨result, returns⟩ := Option.isSome_iff_exists.mp returns
    have gone : result = .error .resourceGone :=
      (ends.2.1 result returns (by decide +kernel)
        (by decide +kernel)).resolve_right fun struck =>
          absurd struck.1 (by decide +kernel)
    have quits := (ends.1 .work).resolve_left (by
      rintro ⟨confirming, stands, _⟩
      have left : (earlyPrompt.world.happen .work).confirming? 0 = none := by
        decide +kernel
      cases left.symm.trans stands)
    exact ⟨gone ▸ returns, _, quits.2.2 [] _ .start⟩
  · have stands : probedPrompt.world.confirming? 0 = some (watchfulActor,
        .racing "$sure?#1" ⟨1, some ⟨2000, 3⟩, some ⟨some 1000⟩,
          some ⟨2000, 8⟩, .probing .tick ⟨6000, 7⟩⟩ (.endless 0) false) := by
      decide +kernel
    have ends := (SentPrompt.deletion_ends_confirmation probedPrompt).1
      ⟨_, stands, .racing _ _ rfl⟩
    obtain ⟨_, soon⟩ := (ends.2.2.1 (by decide +kernel)
      (by decide +kernel)).2 ⟨_, _, _, stands⟩
    have goesOn : Run probedPrompt.world
        (probedPrompt.world.history (List.replicate 8 .work)) _ :=
      .of_occurrences _ _
    obtain ⟨one, two, middle, _, split, now, _⟩ :=
      (soon _ _ goesOn (by decide +kernel)).2 (by decide +kernel)
    have moment : probedPrompt.world.agenda.now = 1000 := by decide +kernel
    exact ⟨one, two, middle, split, now.trans moment⟩

end World

end Switchboard
