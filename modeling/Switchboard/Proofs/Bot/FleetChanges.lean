import Switchboard.Proofs.Bot.Routing

/-!
# What changes the fleet

The fleet changes by registrations and reports.  Of all that tasks do only the
resolution of clashes touches it: when an identity has left a room, that is
noted.  Nothing else of the bot has any effect on who sees a room.
-/

namespace Switchboard

namespace Fleet

/-- An identity has left a room, or nothing has changed. -/
inductive Thins (fleet : Fleet) : Fleet → Prop where
  | same : Thins fleet fleet
  | left (shred : ShredId) (room : String) :
      Thins fleet (fleet.left shred room)

variable {before after : Fleet}

theorem Thins.of_eq (same : after = before) : before.Thins after :=
  same ▸ .same

theorem Thins.registered (thins : before.Thins after) :
    after.registered = before.registered := by
  cases thins with
  | same => rfl
  | left shred room => exact registered_left before shred room

theorem Thins.sound (thins : before.Thins after) (sound : before.Sound) :
    after.Sound := by
  cases thins with
  | same => exact sound
  | left shred room => exact sound.left shred room

theorem Thins.onlyRegistered (thins : before.Thins after)
    (sound : before.Sound) (registered : before.OnlyRegistered) :
    after.OnlyRegistered := by
  intro room shred seen
  rw [thins.registered]
  cases thins with
  | same => exact registered room shred seen
  | left mover place =>
      exact registered room shred ((FleetChange.mem_seenBy_apply sound
        (.left mover place) shred room).mp seen).1

end Fleet

theorem Resolving.step_thins (task : TaskId) (agenda : Agenda)
    (territory : Territory) (resolving : Resolving) :
    territory.fleet.Thins
      (resolving.step task agenda territory).territory.fleet := by
  cases resolving with
  | fresh | queued => exact .same
  | nextRoom finished rest =>
      match rest with
      | [] | (_, []) :: _ | (_, _ :: _) :: _ => exact .same
  | nextLoser finished rest current losers =>
      cases losers with
      | nil => exact .same
      | cons loser losers =>
          unfold step
          dsimp only
          split <;> exact .same
  | leaving finished rest current losers loser failure answer =>
      unfold step
      dsimp only
      split
      · cases failure with
        | none => exact .left loser current.room
        | some reason => exact .same
      · exact .same

namespace World

theorem fleet_interruptHeld (pid : Pid) (world : World) :
    (world.interruptHeld pid).2.territory.fleet = world.territory.fleet := by
  unfold interruptHeld
  split
  · rfl
  · dsimp only
    split <;> rfl

theorem fleet_interrupt (pid : Pid) (world : World) :
    (world.interrupt pid).2.territory.fleet = world.territory.fleet := by
  unfold interrupt
  split
  · exact fleet_interruptHeld pid world
  · rfl

theorem fleet_interruptEach (pids : List Pid) (world : World) :
    (world.interruptEach pids).2.territory.fleet = world.territory.fleet := by
  induction pids generalizing world with
  | nil => rfl
  | cons pid rest induction =>
      exact (induction _).trans (fleet_interrupt pid world)

theorem fleet_liftAll (ids : List SubscriptionId) (world : World) :
    (world.liftAll ids).territory.fleet = world.territory.fleet := by
  induction ids generalizing world with
  | nil => rfl
  | cons id rest induction => exact induction _

theorem fleet_liftHeld (pid : Pid) (world : World) :
    (world.liftHeld pid).2.territory.fleet = world.territory.fleet := by
  unfold liftHeld
  split
  · rfl
  · exact fleet_liftAll _ world

theorem fleet_lift (pid : Pid) (world : World) :
    (world.lift pid).2.territory.fleet = world.territory.fleet := by
  unfold lift
  split
  · exact fleet_liftHeld pid world
  · rfl

theorem fleet_liftEach (pids : List Pid) (world : World) :
    (world.liftEach pids).2.territory.fleet = world.territory.fleet := by
  induction pids generalizing world with
  | nil => rfl
  | cons pid rest induction =>
      exact (induction _).trans (fleet_lift pid world)

theorem fleet_finishMessage (sending : Sending) (world : World) :
    (world.finishMessage sending).2.territory.fleet =
      world.territory.fleet := by
  unfold finishMessage
  split <;> rfl

theorem fleet_stepWait (actor : Actor) (watched : String) (wait : Wait)
    (world : World) :
    (world.stepWait actor watched wait).2.territory.fleet =
      world.territory.fleet := by
  unfold stepWait
  dsimp only
  split
  · split <;> rfl
  · split
    · split <;> rfl
    · rfl

theorem fleet_stepOpenWait (actor : Actor) (watched : String) (wait : Wait)
    (world : World) :
    (world.stepOpenWait actor watched wait).2.territory.fleet =
      world.territory.fleet := by
  have step := fleet_stepWait actor watched wait world
  unfold stepOpenWait
  generalize world.stepWait actor watched wait = stepped at step
  obtain ⟨progress, after⟩ := stepped
  cases progress <;> exact step

theorem fleet_stepAsking (actor : Actor) (asking : Asking) (world : World) :
    (world.stepAsking actor asking).2.territory.fleet =
      world.territory.fleet := by
  cases asking with
  | prompting id timeout sending =>
      have sent := fleet_finishMessage sending world
      unfold stepAsking
      dsimp only
      generalize world.finishMessage sending = finished at sent
      obtain ⟨answer, after⟩ := finished
      cases answer <;> split <;> first | exact sent | rfl
  | waiting wait =>
      have step := fleet_stepOpenWait actor "" wait world
      unfold stepAsking
      dsimp only
      generalize world.stepOpenWait actor "" wait = stepped at step
      obtain ⟨progress, after⟩ := stepped
      cases progress <;> exact step

theorem fleet_stepConfirming (actor : Actor) (confirming : Confirming)
    (world : World) :
    (world.stepConfirming actor confirming).2.territory.fleet =
      world.territory.fleet := by
  cases confirming with
  | prompting terms sending =>
      have sent := fleet_finishMessage sending world
      unfold stepConfirming
      dsimp only
      generalize world.finishMessage sending = finished at sent
      obtain ⟨answer, after⟩ := finished
      cases answer <;> split <;> first | exact sent | rfl
  | reacting terms prompt reaction deletion second failure answer =>
      unfold stepConfirming
      dsimp only
      split
      · split
        · rfl
        · split <;> rfl
      · rfl
  | racing prompt reaction deletion deletionTurn =>
      cases deletionTurn with
      | false =>
          have step := fleet_stepOpenWait actor prompt reaction world
          unfold stepConfirming
          dsimp only
          generalize world.stepOpenWait actor prompt reaction = stepped
            at step
          obtain ⟨progress, after⟩ := stepped
          cases progress <;> exact step
      | true =>
          have step := fleet_stepWait actor prompt deletion world
          unfold stepConfirming
          dsimp only
          generalize world.stepWait actor prompt deletion = stepped at step
          obtain ⟨progress, after⟩ := stepped
          cases progress <;> exact step
  | asking terms asking =>
      have step := fleet_stepAsking actor asking world
      unfold stepConfirming
      dsimp only
      generalize world.stepAsking actor asking = stepped at step
      obtain ⟨progress, after⟩ := stepped
      cases progress with
      | blocked | go => exact step
      | done result =>
          cases result with
          | error error => exact step
          | ok event =>
              dsimp only
              split <;> exact step

theorem fleet_leaveGuard (pid : Pid) (world : World) :
    (world.leaveGuard pid).territory.fleet = world.territory.fleet := by
  unfold leaveGuard
  split <;> rfl

theorem fleet_leaveMark (pid : Pid) (world : World) :
    (world.leaveMark pid).territory.fleet = world.territory.fleet := by
  unfold leaveMark
  split <;> rfl

theorem fleet_perform (actor : Actor) (call : Call)
    (next : call.Reply → Program Unit) (world : World) :
    (world.perform actor call next).2.territory.fleet =
      world.territory.fleet := by
  cases call with
  | leaveGuard => exact fleet_leaveGuard actor.pid world
  | leaveMark => exact fleet_leaveMark actor.pid world
  | interruptSelf => exact fleet_interruptHeld actor.pid world
  | interruptAll pids => exact fleet_interruptEach pids world
  | liftAll pids => exact fleet_liftEach pids world
  | _ => rfl

theorem fleet_noteAll (task : TaskId) (acts : List Act) (world : World) :
    (acts.foldl (fun world act => world.note task act)
      world).territory.fleet = world.territory.fleet := by
  induction acts generalizing world with
  | nil => rfl
  | cons act rest induction => exact induction _

theorem thins_stepResolving (actor : Actor) (resolving : Resolving)
    (world : World) :
    world.territory.fleet.Thins
      (world.stepResolving actor resolving).2.territory.fleet := by
  have thins := resolving.step_thins actor.task world.agenda world.territory
  unfold stepResolving
  dsimp only
  generalize resolving.step actor.task world.agenda world.territory = result
    at thins
  have noted := fleet_noteAll actor.task result.acts
    { world with agenda := result.agenda, territory := result.territory }
  split <;> exact noted ▸ thins

theorem thins_stepActivity (actor : Actor) (activity : Activity)
    (world : World) :
    world.territory.fleet.Thins
      (world.stepActivity actor activity).2.territory.fleet := by
  cases activity with
  | running program =>
      cases program with
      | call call next => exact .of_eq (fleet_perform actor call next world)
      | result | fail | panic => exact .same
  | sleeping answer next => exact .same
  | replying sending next =>
      have sent := fleet_finishMessage sending world
      unfold stepActivity
      dsimp only
      split
      · exact .of_eq sent
      · exact .same
  | notifying sending next => exact .same
  | waiting wait next =>
      have step := fleet_stepOpenWait actor "" wait world
      unfold stepActivity
      dsimp only
      generalize world.stepOpenWait actor "" wait = stepped at step
      obtain ⟨progress, after⟩ := stepped
      cases progress <;> exact .of_eq step
  | asking asking next =>
      have step := fleet_stepAsking actor asking world
      unfold stepActivity
      dsimp only
      generalize world.stepAsking actor asking = stepped at step
      obtain ⟨progress, after⟩ := stepped
      cases progress <;> exact .of_eq step
  | confirming confirming next =>
      have step := fleet_stepConfirming actor confirming world
      unfold stepActivity
      dsimp only
      generalize world.stepConfirming actor confirming = stepped at step
      obtain ⟨progress, after⟩ := stepped
      cases progress <;> exact .of_eq step
  | resolving resolving next =>
      have step := thins_stepResolving actor resolving world
      unfold stepActivity
      dsimp only
      generalize world.stepResolving actor resolving = stepped at step
      obtain ⟨progress, after⟩ := stepped
      cases progress <;> exact step

theorem fleet_abandon (actor : Actor) (activity : Activity) (world : World) :
    (world.abandon actor activity).territory.fleet =
      world.territory.fleet := by
  have asking : ∀ asking : Asking,
      (world.abandonAsking actor.pid asking).territory.fleet =
        world.territory.fleet := by
    intro asking
    cases asking <;> rfl
  cases activity with
  | asking question next => exact asking question
  | confirming confirming next =>
      cases confirming with
      | asking terms question => exact asking question
      | _ => rfl
  | _ => rfl

theorem fleet_releaseGuards (pid : Pid) (world : World) :
    (world.releaseGuards pid).territory.fleet = world.territory.fleet := by
  exact releaseGuards_induction (motive := fun after =>
    after.territory.fleet = world.territory.fleet) rfl
    (fun _ _ _ _ _ same => same) fun _ same => same

theorem fleet_conclude (position : TaskId) (task : ProcessTask)
    (outcome : Outcome) (world : World) :
    (world.conclude position task outcome).territory.fleet =
      world.territory.fleet :=
  fleet_releaseGuards task.pid world

theorem fleet_enterProcess (position : TaskId) (task : ProcessTask)
    (world : World) :
    (world.enterProcess position task).territory.fleet =
      world.territory.fleet := by
  unfold enterProcess
  split
  · exact fleet_conclude position task _ world
  · split
    · exact fleet_conclude position task _ world
    · rfl
  · split
    · exact (fleet_conclude position task _ _).trans
        (fleet_abandon _ _ world)
    · rfl
  · rfl

theorem fleet_startReport (position : TaskId) (task : ProcessTask)
    (outcome : Outcome) (world : World) :
    (world.startReport position task outcome).territory.fleet =
      world.territory.fleet := by
  unfold startReport
  split <;> rfl

theorem fleet_close (position : TaskId) (task : ProcessTask)
    (outcome : Outcome) (world : World) :
    (world.close position task outcome).territory.fleet =
      world.territory.fleet := by
  rw [close_eq]
  split
  · rfl
  · rename_i aftermath _
    have given : (world.giveBack aftermath.reservation
        outcome).territory.fleet = world.territory.fleet := by
      unfold giveBack
      split
      · split <;> rfl
      · rfl
    unfold announce
    split <;> exact given

theorem thins_workProcess (position : TaskId) (task : ProcessTask)
    (world : World) :
    world.territory.fleet.Thins
      (world.workProcess position task).territory.fleet := by
  unfold workProcess
  split
  · exact .same
  · rename_i activity _
    have step :=
      thins_stepActivity (actorOf position task) activity world
    generalize world.stepActivity (actorOf position task) activity = stepped
      at step
    obtain ⟨progress, after⟩ := stepped
    cases progress with
    | done outcome =>
        exact (fleet_conclude position task outcome after).symm ▸ step
    | go | blocked => exact step
  · exact .of_eq (fleet_close position task _ world)
  · split
    · exact .of_eq (fleet_startReport position task _ world)
    · exact .same
  · split
    · exact .of_eq (fleet_finishMessage _ world)
    · exact .same
  · exact .same

theorem fleet_workNotice (position : TaskId) (stage : NoticeStage)
    (world : World) :
    (world.workNotice position stage).territory.fleet =
      world.territory.fleet := by
  unfold workNotice
  split
  · rfl
  · split <;> rfl
  · rfl

theorem thins_work (world : World) :
    world.territory.fleet.Thins (world.happen .work).territory.fleet := by
  cases floor : world.agenda.floor with
  | some position =>
      rw [happen_work_of_floor floor, work]
      split
      · exact thins_workProcess position _ world
      · exact .of_eq (fleet_workNotice position _ world)
      · exact .same
  | none =>
      cases ready : world.agenda.ready with
      | nil =>
          rw [happen_work_of_idle floor ready]
          exact .same
      | cons position rest =>
          rw [happen_work_of_ready floor ready, enter]
          split
          · exact .of_eq (fleet_enterProcess position _ _)
          · exact .same

theorem fleet_dispatch (event : Event) (world : World) :
    (world.dispatch event).2.territory.fleet = world.territory.fleet := by
  obtain ⟨agenda, waiter, rest, _⟩ := dispatch_rest event world
  rw [rest]

theorem fleet_invoke (entry : CatalogueEntry Handler) (event : Event)
    (arguments : String) (chat : Chat) (world : World) :
    (world.invoke entry event arguments chat).2.territory.fleet =
      world.territory.fleet := by
  obtain ⟨admission, cooldowns, acquired⟩ :=
    acquire_rest entry.definition event.origin world
  unfold invoke
  rw [acquired]
  split
  · rfl
  · cases admission <;> rfl

theorem fleet_route (event : Event) (world : World) :
    (world.route event).2.territory.fleet = world.territory.fleet := by
  unfold route
  split
  · rfl
  · split
    · rfl
    · split
      · rfl
      · exact fleet_invoke _ event _ _ world

theorem fleet_receive (event : Event) (world : World) :
    (world.receive event).2.territory.fleet = world.territory.fleet := by
  unfold receive
  split
  · rfl
  · dsimp only
    split
    · exact (fleet_route event _).trans (fleet_dispatch event world)
    · exact fleet_dispatch event world

theorem fleet_happen (occurrence : Occurrence) (world : World) :
    world.territory.fleet.Thins
        (world.happen occurrence).territory.fleet ∨
      (world.happen occurrence).territory.fleet =
        world.territory.fleet.register.2 ∨
      ∃ change, occurrence = .fleet change ∧
        (world.happen occurrence).territory.fleet =
          change.apply world.territory.fleet := by
  cases occurrence with
  | work => exact .inl (thins_work world)
  | register name => exact .inr (.inl rfl)
  | fleet change => exact .inr (.inr ⟨change, rfl, rfl⟩)
  | receive event => exact .inl (.of_eq (fleet_receive event world))
  | dispatch event => exact .inl (.of_eq (fleet_dispatch event world))
  | interrupt pid => exact .inl (.of_eq (fleet_interrupt pid world))
  | interruptHeld pid => exact .inl (.of_eq (fleet_interruptHeld pid world))
  | lift pid => exact .inl (.of_eq (fleet_lift pid world))
  | liftHeld pid => exact .inl (.of_eq (fleet_liftHeld pid world))
  | _ => exact .inl .same

end World

/-- Only a registered identity makes a change of the fleet known. -/
def Episode.Registered : Episode → Prop
  | ⟨before, .fleet change⟩ =>
    change.shred < before.territory.fleet.registered
  | _ => True

instance : (episode : Episode) → Decidable episode.Registered
  | ⟨_, .fleet change⟩ =>
    inferInstanceAs (Decidable (change.shred < _))
  | ⟨_, .work⟩ | ⟨_, .pass _⟩ | ⟨_, .wallClock _⟩ | ⟨_, .receive _⟩
  | ⟨_, .dispatch _⟩ | ⟨_, .launch ..⟩ | ⟨_, .interrupt _⟩
  | ⟨_, .interruptHeld _⟩ | ⟨_, .lift _⟩ | ⟨_, .liftHeld _⟩
  | ⟨_, .checkCooldown ..⟩ | ⟨_, .register _⟩ | ⟨_, .connection ..⟩
  | ⟨_, .chat ..⟩ => .isTrue trivial

/-- A fleet of registered identities that is kept in order. -/
structure Fleet.Manned (fleet : Fleet) : Prop where
  sound : fleet.Sound
  registered : fleet.OnlyRegistered

namespace World

theorem manned_happen {world : World} {occurrence : Occurrence}
    (manned : world.territory.fleet.Manned)
    (registered : Episode.Registered ⟨world, occurrence⟩) :
    (world.happen occurrence).territory.fleet.Manned := by
  rcases fleet_happen occurrence world with
    thins | newcomer | ⟨change, rfl, changed⟩
  · exact ⟨thins.sound manned.sound,
      thins.onlyRegistered manned.sound manned.registered⟩
  · rw [newcomer]
    refine ⟨manned.sound.register, fun room shred seen => ?_⟩
    exact Nat.lt_succ_of_lt (manned.registered room shred seen)
  · rw [changed]
    exact ⟨change.sound_apply manned.sound, FleetChange.onlyRegistered_apply
      manned.sound manned.registered registered⟩

theorem manned_start (config : Config) (commands : Catalogue Handler)
    (horizon : Nat) :
    (start config commands horizon).territory.fleet.Manned :=
  ⟨.empty, fun _ _ seen => by cases seen⟩

/-- Along a run over registered identities the fleet stays in order. -/
theorem Run.manned {start last : World} {episodes : List Episode}
    (manned : start.territory.fleet.Manned) (run : Run start episodes last)
    (registered : ∀ episode ∈ episodes, episode.Registered) :
    (∀ episode ∈ episodes, episode.before.territory.fleet.Manned) ∧
      last.territory.fleet.Manned := by
  induction run with
  | start => exact ⟨by simp, manned⟩
  | @next earlier middle occurrence _ induction =>
      obtain ⟨before, now⟩ := induction fun episode member =>
        registered episode (List.mem_append_left _ member)
      refine ⟨fun episode member => ?_, manned_happen now (registered _
        (List.mem_append_right _ List.mem_cons_self))⟩
      rcases List.mem_append.mp member with former | this
      · exact before episode former
      · cases List.mem_singleton.mp this
        exact now

end World

end Switchboard
