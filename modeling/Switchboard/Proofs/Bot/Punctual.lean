import Switchboard.Proofs.Bot.Asked
import Switchboard.Proofs.Bot.Refusal

/-!
# Questions are looked at in time

Time goes on promptly when it moves only while nobody can do anything and stops
at every alarm.  Then a question that has something to do always has its task
in line, so it acts at the very moment at which its prompt has been sent, its
answer comes, or its deadline passes.
-/

namespace Switchboard

/-- Time goes on only when no task has anything to do, and not beyond an alarm
that is still to ring. -/
def Episode.Prompt (episode : Episode) : Prop :=
  match episode.occurrence with
  | .pass span => episode.before.mover? = none ∧
      ∀ entry ∈ Machine.alarms episode.before,
        episode.before.agenda.now < entry.1.due →
          episode.before.agenda.now + span ≤ entry.1.due
  | _ => True

instance (episode : Episode) : Decidable episode.Prompt :=
  match episode with
  | ⟨_, .pass _⟩ => inferInstanceAs (Decidable (_ ∧ _))
  | ⟨_, .work⟩ | ⟨_, .wallClock _⟩ | ⟨_, .receive _⟩ | ⟨_, .dispatch _⟩
  | ⟨_, .launch ..⟩ | ⟨_, .interrupt _⟩ | ⟨_, .interruptHeld _⟩
  | ⟨_, .lift _⟩ | ⟨_, .liftHeld _⟩ | ⟨_, .checkCooldown ..⟩
  | ⟨_, .register _⟩ | ⟨_, .fleet _⟩ | ⟨_, .connection ..⟩
  | ⟨_, .chat ..⟩ => .isTrue trivial

/-- Neither the end of the prompt nor a deadline that holds has gone by, and
the prompt had been sent at its very end. -/
inductive Asking.Timely (id : SubscriptionId) (timeout : Option Nat)
    (sending : Sending) (world : World) : Asking → Prop where
  | prompting : world.agenda.now ≤ sending.answer.due →
      Timely id timeout sending world (.prompting id timeout sending)
  | waiting (serial : Nat) :
      ((world.waiter.handoff id).lifted = false →
        ∀ span, timeout = some span → 0 < span →
          world.agenda.now ≤ sending.answer.due + span) →
      Timely id timeout sending world
        (.waiting (.ofQuestion id timeout sending.answer.due serial))

theorem Activity.alarms_of_question {activity : Activity} {question : Asking}
    (put : activity.question? = some question) :
    activity.alarms = question.alarms ∧
      activity.watched = question.watched := by
  unfold question? at put
  split at put
  · cases put
    exact ⟨rfl, rfl⟩
  · cases put
    exact ⟨rfl, rfl⟩
  · cases put

namespace World

/-- A task has the floor or stands in line for it. -/
def Attended (position : TaskId) (world : World) : Prop :=
  position ∈ world.agenda.ready ∨ world.agenda.floor = some position

/-- An open question is looked at in time: if it has something to do its task
is in line for it. -/
structure Punctual (position : TaskId) (actor : Actor) (id : SubscriptionId)
    (timeout : Option Nat) (sending : Sending) (world : World) : Prop where
  stands : ∃ question, world.asking? position = some (actor, question) ∧
    question.Timely id timeout sending world ∧
      (¬question.Rests world → Attended position world)

section

variable {world after : World} {position : TaskId} {task : ProcessTask}
  {activity : Activity} {question : Asking} {id : SubscriptionId}
  {made : TaskId → SubscriptionId → Prop} {event : Event}
  {occurrence : Occurrence} {alarm : Alarm} {actor : Actor}
  {timeout : Option Nat} {sending : Sending} {since later : List Episode}

theorem Reception.extends_offered {result : Routed × World}
    (reception : Reception event world result)
    (owner : world.territory.fleet.isOwner event.shred event.room = true) :
    (world.offered event).agenda.Extends result.2.agenda := by
  cases reception with
  | «foreign» stranger => cases owner.symm.trans stranger
  | heard | mute | broken => exact .refl _
  | _ => exact .wake _ _

theorem Reception.now {result : Routed × World}
    (reception : Reception event world result) :
    result.2.agenda.now = world.agenda.now := by
  have frame : Frame 0 (fun _ => False) world (world.offered event) :=
    .dispatch event
  cases owner : world.territory.fleet.isOwner event.shred event.room with
  | true => exact (reception.extends_offered owner).now.trans frame.agenda.now
  | false =>
      cases reception with
      | «foreign» => rfl
      | heard own | mute own => cases owner.symm.trans own
      | unknown addressed | denied addressed | limited addressed
      | free addressed | counted addressed | broken addressed =>
          cases owner.symm.trans addressed.owner

theorem Orderly.now_happen (orderly : Orderly made world)
    (moment : ∀ span, occurrence ≠ .pass span) :
    (world.happen occurrence).agenda.now = world.agenda.now := by
  have of_frame : ∀ {after : World}, Frame 0 (fun _ => False) world after →
      after.agenda.now = world.agenda.now := fun frame => frame.agenda.now
  cases occurrence with
  | work =>
      rcases orderly.work_cases with ⟨steady, _⟩ | ⟨_, task, outcome, _, steady⟩
      · exact steady.now
      · obtain ⟨cooldowns, rest⟩ :=
          giveBack_rest task.reservation? outcome world
        rw [steady.now, rest]
  | pass span => exact absurd rfl (moment span)
  | receive event => exact (receive_reception event world).now
  | dispatch event => exact of_frame (.dispatch event)
  | launch => exact (Agenda.Extends.wake _ _).now
  | interrupt pid => exact of_frame (.interrupt pid)
  | interruptHeld pid => exact of_frame (.interruptHeld pid)
  | lift pid => exact of_frame (.lift pid)
  | liftHeld pid => exact of_frame (.liftHeld pid)
  | _ => rfl

theorem now_pass (world : World) (span : Nat) :
    (world.happen (.pass span)).agenda.now = world.agenda.now + span :=
  (Agenda.Extends.wakeAll _ _).now

theorem Orderly.now_le (orderly : Orderly made world)
    (occurrence : Occurrence) :
    world.agenda.now ≤ (world.happen occurrence).agenda.now := by
  cases occurrence with
  | pass span =>
      rw [now_pass]
      exact Nat.le_add_right _ _
  | _ => exact Nat.le_of_eq (orderly.now_happen (by simp)).symm

theorem Run.now_le {config : Config} {commands : Catalogue Handler}
    {horizon : Nat} {past : List Episode}
    (run : Run (World.start config commands horizon) past world)
    (goesOn : Run world later after) :
    world.agenda.now ≤ after.agenda.now := by
  induction goesOn with
  | start => exact Nat.le_refl _
  | next occurrence prior induction =>
      exact Nat.le_trans induction
        ((Run.orderly (run.trans prior)).now_le occurrence)

/-- What is offered in the course of a run is offered between its beginning and
its end. -/
theorem Run.moments {config : Config} {commands : Catalogue Handler}
    {horizon : Nat} {past : List Episode}
    (run : Run (World.start config commands horizon) past world)
    (goesOn : Run world later after) {wish : Wish} {moment : Nat}
    (offer : (moment, event) ∈ offers wish later) :
    world.agenda.now ≤ moment ∧ moment ≤ after.agenda.now := by
  induction goesOn with
  | start => cases offer
  | @next earlier middle occurrence prior induction =>
      have passes := (Run.orderly (run.trans prior)).now_le occurrence
      rw [offers_append] at offer
      rcases List.mem_append.mp offer with before | last
      · obtain ⟨lower, upper⟩ := induction before
        exact ⟨lower, Nat.le_trans upper passes⟩
      · obtain ⟨episode, single, found⟩ := List.mem_filterMap.mp last
        cases List.mem_singleton.mp single
        obtain ⟨_, _, same⟩ := Option.map_eq_some_iff.mp found
        cases same
        exact ⟨run.now_le prior, passes⟩

theorem Orderly.lifted_happen (orderly : Orderly made world)
    (watchful : Watchful world) (occurrence : Occurrence)
    (unlifted : ((world.happen occurrence).waiter.handoff id).lifted = false) :
    (world.waiter.handoff id).lifted = false := by
  obtain ⟨mover, shift⟩ := orderly.shift occurrence
  have lifted := (shift.tends (watchful.clean mover)).lifted id
  cases before : (world.waiter.handoff id).lifted with
  | false => rfl
  | true => exact unlifted.symm.trans (lifted before) |>.symm

theorem task_of_asking
    (asks : world.asking? position = some (actor, question)) :
    ∃ task, world.tasks[position]? = some task ∧
      task.alarms = question.alarms ∧ task.watched = question.watched := by
  obtain ⟨⟨pid, invocation, chat, stage, aftermath⟩, activity, stands, _,
    put⟩ :=
    asking?_eq_some asks
  obtain ⟨found, rfl⟩ := activity?_eq_some stands
  exact ⟨_, found, Activity.alarms_of_question put⟩

theorem mem_alarms_of_task {task : Task}
    (found : world.tasks[position]? = some task) (set : alarm ∈ task.alarms) :
    (alarm, position) ∈ Machine.alarms world := by
  change (alarm, position) ∈ world.tasks.zipIdx.flatMap
    fun entry => entry.1.alarms.map (·, entry.2)
  refine List.mem_flatMap.mpr ⟨(task, position),
    List.mem_zipIdx_iff_getElem?.mpr found, ?_⟩
  exact List.mem_map.mpr ⟨alarm, set, rfl⟩

theorem mem_alarms (asks : world.asking? position = some (actor, question))
    (set : alarm ∈ question.alarms) :
    (alarm, position) ∈ Machine.alarms world := by
  obtain ⟨task, found, alarms, _⟩ := task_of_asking asks
  exact mem_alarms_of_task found (alarms ▸ set)

theorem attended_of_alarm {span : Nat}
    (set : (alarm, position) ∈ Machine.alarms world)
    (due : alarm.due = world.agenda.now + span) :
    Attended position (world.happen (.pass span)) :=
  .inl (Agenda.mem_ready_wakeAll (Machine.mem_dueTasks.mpr ⟨alarm, set, due⟩) _)

theorem mem_ready_wakeAllWatchers {ids : List SubscriptionId}
    (listed : id ∈ ids) {task : Task}
    (found : world.tasks[position]? = some task) (watches : id ∈ task.watched) :
    position ∈ (ids.foldl (fun world id => world.wakeWatchers id)
      world).agenda.ready := by
  induction ids generalizing world with
  | nil => cases listed
  | cons first rest induction =>
      rcases List.mem_cons.mp listed with rfl | later
      · have woken : position ∈ (world.wakeWatchers id).agenda.ready :=
          Agenda.mem_ready_wakeAll (mem_watchers.mpr ⟨task, found, watches⟩) _
        have frame : Frame 0 (fun _ => False) (world.wakeWatchers id) _ :=
          .wakeAllWatchers rest
        exact frame.agenda.ready.subset woken
      · exact induction later found

theorem attended_of_taker (sound : world.waiter.Sound)
    (offered : Episode.offered? ⟨world, occurrence⟩ = some event)
    (taker : id ∈ world.waiter.takers event) {task : Task}
    (found : world.tasks[position]? = some task)
    (watches : id ∈ task.watched) :
    Attended position (world.happen occurrence) := by
  have takers : (world.waiter.dispatch event).1 =
      world.waiter.takers event := by
    rw [Waiter.dispatch_eq (sound.registered event.kind)]
  have woken : position ∈ (world.offered event).agenda.ready :=
    mem_ready_wakeAllWatchers (takers ▸ taker) found watches
  left
  cases occurrence with
  | dispatch other =>
      cases offered
      exact woken
  | receive other =>
      unfold Episode.offered? at offered
      dsimp only at offered
      split at offered
      · rename_i owner
        cases offered
        exact ((receive_reception event world).extends_offered
          owner).ready.subset woken
      · cases offered
  | _ => cases offered

theorem Orderly.attended_elsewhere (orderly : Orderly made world)
    (stands : world.activity? position = some (task, activity))
    (elsewhere : Episode.mover? ⟨world, occurrence⟩ ≠ some position)
    (attended : Attended position world) :
    Attended position (world.happen occurrence) := by
  have beside := orderly.beside (activity?_eq_some stands).1 occurrence
    elsewhere
  exact attended.imp beside.ready beside.floor.mpr

theorem not_attended (nobody : world.mover? = none) :
    ¬Attended position world := by
  have idle : world.agenda.floor = none ∧ world.agenda.ready = [] := by
    simpa [mover?] using nobody
  rintro (waiting | floor)
  · rw [idle.2] at waiting
    cases waiting
  · cases idle.1.symm.trans floor

theorem timely_still (timely : question.Timely id timeout sending world)
    (now : after.agenda.now = world.agenda.now)
    (lifted : (after.waiter.handoff id).lifted = false →
      (world.waiter.handoff id).lifted = false) :
    question.Timely id timeout sending after := by
  cases timely with
  | prompting early => exact .prompting (now ▸ early)
  | waiting serial bound =>
      refine .waiting serial fun unlifted => ?_
      rw [now]
      exact bound (lifted unlifted)

theorem patient_still {wait : Wait} (now : after.agenda.now = world.agenda.now)
    (lifted : (after.waiter.handoff id).lifted = false →
      (world.waiter.handoff id).lifted = false)
    (patient : wait.expired world.agenda (world.waiter.handoff id) = false) :
    wait.expired after.agenda (after.waiter.handoff id) = false := by
  unfold Wait.expired at patient ⊢
  have same : after.agenda.isDue = world.agenda.isDue := by
    funext alarm
    rw [Agenda.isDue, Agenda.isDue, now]
  rw [same, Bool.and_eq_false_iff]
  rcases Bool.and_eq_false_iff.mp patient with early | lifts
  · exact .inl early
  · right
    cases unlifted : (after.waiter.handoff id).lifted with
    | true => rfl
    | false =>
        rw [lifted unlifted] at lifts
        cases lifts

/-- A question that rests while time goes on promptly has its task woken at the
moment at which it has something to do. -/
theorem timely_pass {span : Nat}
    (timely : question.Timely id timeout sending world)
    (asks : world.asking? position = some (actor, question))
    (rests : question.Rests world)
    (prompt : Episode.Prompt ⟨world, .pass span⟩) :
    question.Timely id timeout sending (world.happen (.pass span)) ∧
      (question.Rests (world.happen (.pass span)) ∨
        Attended position (world.happen (.pass span))) := by
  have now := now_pass world span
  have waiter : (world.happen (.pass span)).waiter = world.waiter := rfl
  have rings : ∀ alarm ∈ question.alarms, world.agenda.now < alarm.due →
      alarm.due ≤ world.agenda.now + span →
        Attended position (world.happen (.pass span)) := by
    intro alarm set later due
    have bound := prompt.2 _ (mem_alarms asks set) later
    exact attended_of_alarm (mem_alarms asks set) (Nat.le_antisymm due bound)
  cases timely with
  | prompting =>
      cases rests with
      | prompting _ _ _ early =>
          have bound := prompt.2 _
            (mem_alarms asks (List.mem_singleton_self _)) early
          refine ⟨.prompting (now ▸ bound), ?_⟩
          by_cases due : sending.answer.due ≤ world.agenda.now + span
          · exact .inr (rings _ (List.mem_singleton_self _) early due)
          · left
            apply Asking.Rests.prompting
            rw [now]
            exact Nat.lt_of_not_le due
  | waiting serial bound =>
      cases rests with
      | waiting _ empty patient =>
          have set : ∀ span, timeout = some span → 0 < span →
              (⟨sending.answer.due + span, serial⟩ : Alarm) ∈
                Asking.alarms (.waiting (.ofQuestion id timeout
                  sending.answer.due serial)) := by
            rintro span rfl positive
            simp [Asking.alarms, Wait.alarms, Wait.ofQuestion, positive,
              Option.filter_some]
          have early : (world.waiter.handoff id).lifted = false →
              ∀ span, timeout = some span → 0 < span →
                world.agenda.now < sending.answer.due + span := by
            intro unlifted span bounded positive
            apply Nat.lt_of_not_le
            intro due
            cases patient.symm.trans ((expired_ofQuestion _ _ _ _ _).mpr
              ⟨unlifted, span, bounded, positive, due⟩)
          refine ⟨.waiting serial fun unlifted other bounded positive => ?_, ?_⟩
          · rw [now]
            exact prompt.2 _ (mem_alarms asks (set other bounded positive))
              (early unlifted other bounded positive)
          · cases passed : (Wait.ofQuestion id timeout sending.answer.due
                serial).expired (world.happen (.pass span)).agenda
                  (world.waiter.handoff id) with
            | false => exact .inl (.waiting _ empty passed)
            | true =>
                obtain ⟨unlifted, other, bounded, positive, due⟩ :=
                  (expired_ofQuestion _ _ _ _ _).mp passed
                exact .inr (rings _ (set other bounded positive)
                  (early unlifted other bounded positive) (now ▸ due))

theorem rests_still (orderly : Orderly made world) (guarded : Guarded world)
    (watchful : Watchful world)
    (asked : Asked position actor id timeout sending since world)
    (asks : world.asking? position = some (actor, question))
    (rests : question.Rests world)
    (moment : ∀ span, occurrence ≠ .pass span)
    (still : Asked position actor id timeout sending
      (since ++ [⟨world, occurrence⟩]) (world.happen occurrence)) :
    question.Rests (world.happen occurrence) ∨
      Attended position (world.happen occurrence) := by
  have now := orderly.now_happen moment
  cases rests with
  | prompting id timeout sending early =>
      exact .inl (.prompting id timeout sending (now ▸ early))
  | waiting wait empty patient =>
      obtain ⟨_, there, begun⟩ := asked.stands
      cases asks.symm.trans there
      obtain rfl : wait.subscription = id := begun.subscription
      have patientThen := patient_still now
        (orderly.lifted_happen watchful occurrence) patient
      have nothing := asked.awaits.none_of_empty empty
      have slot := still.awaits.slot
      rw [firstOffer?_append, nothing, Option.none_or, firstOffer?_single]
        at slot
      cases offered : Episode.offered? ⟨world, occurrence⟩ with
      | none =>
          rw [offered] at slot
          exact .inl (.waiting wait slot patientThen)
      | some event =>
          rw [offered, Option.filter_some] at slot
          by_cases accepts : (answersTo actor.invocation).accepts event = true
          · obtain ⟨task, found, _, watched⟩ := task_of_asking asks
            have watches : wait.subscription ∈ task.watched :=
              watched ▸ List.mem_singleton_self _
            exact .inr (attended_of_taker guarded.sound offered
              (asked.awaits.taker_iff.mpr ⟨accepts, nothing⟩) found watches)
          · rw [if_neg accepts] at slot
            exact .inl (.waiting wait slot patientThen)

namespace Punctual

/-- In its own turn a question rests with nothing to do, or keeps the floor. -/
theorem turn (punctual : Punctual position actor id timeout sending world)
    (asked : Asked position actor id timeout sending since world)
    (orderly : Orderly made world) (watchful : Watchful world)
    (mover : world.mover? = some position)
    (held : id ∈ ((world.happen .work).vigil position).held) :
    Punctual position actor id timeout sending (world.happen .work) := by
  have now : (world.happen .work).agenda.now = world.agenda.now :=
    orderly.now_happen fun _ => nofun
  obtain ⟨question, asks, begun, turn⟩ := asked.turn watchful mover
  obtain ⟨_, there, timely, _⟩ := punctual.stands
  cases asks.symm.trans there
  have timelyThen := timely_still timely now
    (orderly.lifted_happen watchful .work)
  cases turn with
  | enters _ asksThen floor =>
      exact ⟨question, asksThen, timelyThen, fun _ => .inr floor⟩
  | rests _ rests asksThen waiter =>
      refine ⟨question, asksThen, timelyThen, fun restless => ?_⟩
      refine absurd ?_ restless
      cases rests with
      | prompting _ _ _ early => exact .prompting _ _ _ (now ▸ early)
      | waiting wait empty patient =>
          refine .waiting wait (waiter ▸ empty) ?_
          have lifted := @Orderly.lifted_happen _ wait.subscription _ orderly
            watchful .work
          exact patient_still now lifted patient
  | sent _ _ _ serial _ same works due asksThen floor =>
      subst same
      cases begun
      cases timely with
      | prompting early =>
          have moment : world.agenda.now = sending.answer.due :=
            Nat.le_antisymm early due
          rw [moment] at asksThen
          refine ⟨_, asksThen, .waiting serial ?_, fun _ => .inr floor⟩
          intro _ span _ _
          rw [now, moment]
          exact Nat.le_add_right _ _
  | replies _ _ _ ceased | givenUp _ _ ceased =>
      exact absurd held (begun.subscription ▸ ceased.unheld)

theorem happen (punctual : Punctual position actor id timeout sending world)
    (asked : Asked position actor id timeout sending since world)
    (guarded : Guarded world) (orderly : Orderly made world)
    (watchful : Watchful world) (prompt : Episode.Prompt ⟨world, occurrence⟩)
    (held : id ∈ ((world.happen occurrence).vigil position).held) :
    Punctual position actor id timeout sending (world.happen occurrence) := by
  by_cases mover : Episode.mover? ⟨world, occurrence⟩ = some position
  · obtain ⟨rfl, own⟩ := Episode.mover?_eq_some mover
    exact punctual.turn asked orderly watchful own held
  · obtain ⟨question, asks, timely, attended⟩ := punctual.stands
    have asksThen := orderly.asking?_elsewhere asks mover
    by_cases passes : ∃ span, occurrence = .pass span
    · obtain ⟨span, rfl⟩ := passes
      have rests : question.Rests world := by
        by_contra restless
        exact not_attended prompt.1 (attended restless)
      obtain ⟨timelyThen, looked⟩ := timely_pass timely asks rests prompt
      exact ⟨question, asksThen, timelyThen, looked.resolve_left⟩
    · have moment : ∀ span, occurrence ≠ .pass span :=
        fun span same => passes ⟨span, same⟩
      have still := (asked.happen guarded orderly watchful
        occurrence).resolve_right fun ceased => mover ceased.1
      refine ⟨question, asksThen, timely_still timely
        (orderly.now_happen moment) (orderly.lifted_happen watchful occurrence),
        fun restless => ?_⟩
      by_cases rests : question.Rests world
      · exact (rests_still orderly guarded watchful asked asks rests moment
          still).resolve_left restless
      · obtain ⟨_, _, stands, _⟩ := asking?_eq_some asks
        exact orderly.attended_elsewhere stands mover (attended rests)

theorem of_asks {episode : Episode}
    (asks : Asks position actor id timeout sending episode)
    (orderly : Orderly made episode.before)
    (watchful : Watchful episode.before)
    (sound : episode.before.waiter.Sound) :
    Punctual position actor id timeout sending episode.after := by
  obtain ⟨world, occurrence⟩ := episode
  obtain ⟨rfl, mover⟩ := Episode.mover?_eq_some asks.mover
  have now : (world.happen .work).agenda.now = world.agenda.now :=
    orderly.now_happen fun _ => nofun
  obtain ⟨puts, floor⟩ := asks.starts watchful sound
  have early := puts.sending id timeout sending rfl
  exact ⟨_, asks.puts, .prompting (now ▸ early), fun _ => .inr floor⟩

theorem run {config : Config} {commands : Catalogue Handler} {horizon : Nat}
    {past : List Episode}
    (run : Run (World.start config commands horizon) past world)
    (asked : Asked position actor id timeout sending since world)
    (punctual : Punctual position actor id timeout sending world)
    (goesOn : Run world later after)
    (prompt : ∀ episode ∈ later, episode.Prompt)
    (held : id ∈ (after.vigil position).held) :
    Punctual position actor id timeout sending after := by
  have below : id < world.waiter.handoffs.length :=
    (run.watchful.clean position).below id asked.awaits.held
  induction goesOn with
  | start => exact punctual
  | @next later middle occurrence prior induction =>
      have reached : Run _ _ _ := run.trans prior
      have belowThen := Nat.lt_of_lt_of_le below (run.handoffs prior)
      have heldThen :=
        reached.orderly.held_before reached.watchful belowThen held
      have before := induction
        (fun episode member => prompt episode (List.mem_append_left _ member))
        heldThen
      exact before.happen (asked.run run prior heldThen) reached.guarded
        reached.orderly reached.watchful
        (prompt _ (List.mem_append_right _ (List.mem_singleton_self _))) held

end Punctual

end

end World

end Switchboard
