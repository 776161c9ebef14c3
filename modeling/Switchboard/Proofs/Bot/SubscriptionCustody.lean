import Switchboard.Proofs.Bot.BodyTurns

/-!
# Who has which subscription in care

A task has in its care what its body holds and the guards of its process.  No
two tasks have the same subscription in their care, and the register is always
in order.  So a subscription that a body holds stays as it is until an event
is offered or the body lets go of it, whatever else happens.
-/

namespace Switchboard

/-- The event that is offered to the subscriptions: one that somebody
dispatches, or that the owner of its room delivers. -/
def Episode.offered? (episode : Episode) : Option Event :=
  match episode.occurrence with
  | .dispatch event => some event
  | .receive event =>
    if episode.before.territory.fleet.isOwner event.shred event.room then
      some event
    else none
  | _ => none

namespace World

/-- The guards of the process of the task at a position. -/
def guardsAt (position : TaskId) (world : World) : List SubscriptionId :=
  match world.tasks[position]? with
  | some (.process task) => world.guards task.pid
  | _ => []

/-- What the task at a position has in its care. -/
def wards (position : TaskId) (world : World) : List SubscriptionId :=
  (world.vigil position).held ++ world.guardsAt position

/-- A subscription that the own turn of a task may touch: a guard, or one that
its body lets go of. -/
def FreedAt (position : TaskId) (before after : World)
    (id : SubscriptionId) : Prop :=
  id ∈ before.guardsAt position ∨
    (before.vigil position).Releases (after.vigil position) id

section

variable {world after : World} {position other : TaskId} {task : ProcessTask}
  {made : TaskId → SubscriptionId → Prop} {id : SubscriptionId}
  {lifting : Prop}

theorem guardsAt_of_found
    (found : world.tasks[position]? = some (.process task)) :
    world.guardsAt position = world.guards task.pid := by
  rw [guardsAt, found]

theorem guardsAt_of_not_process (notProcess : ∀ task : ProcessTask,
    world.tasks[position]? ≠ some (.process task)) :
    world.guardsAt position = [] := by
  unfold guardsAt
  split
  · rename_i task found
    exact absurd found (notProcess task)
  · rfl

theorem wards_subset (member : id ∈ (world.vigil position).held) :
    id ∈ world.wards position := List.mem_append_left _ member

theorem moves_conclude {one : Vigil} (known : position < after.tasks.length)
    (outcome : Outcome) (guards : after.guards task.pid ⊆
      world.guards task.pid)
    (moves : world.waiter.Moves (world.Freed task.pid one {}) lifting
      after.waiter) :
    world.waiter.Moves
      (world.Freed task.pid one
        ((after.conclude position task outcome).vigil position)) lifting
      (after.conclude position task outcome).waiter := by
  have ended : (after.conclude position task outcome).vigil position = {} :=
    vigil_of_found (by
      rw [(concludes position task outcome after).tasks]
      exact List.getElem?_set_self known)
  have released : after.waiter.Moves (after.Freed task.pid {} {}) lifting
      (after.releaseGuards task.pid).waiter := moves_releaseGuards _ _
  rw [ended]
  refine moves.trans (released.mono (fun id free => ?_) id)
  exact free.imp (fun member => guards member)
    fun released => nomatch released.1

theorem guards_conclude (outcome : Outcome) :
    (world.conclude position task outcome).guards task.pid = [] := by
  have removed : (world.conclude position task outcome).guards task.pid =
      (world.releaseGuards task.pid).guards task.pid := by
    rw [guards, guards]
    change (Option.map _ (ProcessTable.modify task.pid _ _).all[_]?).getD _ = _
    rw [ProcessTable.all_modify, if_pos rfl, Option.map_map]
    rfl
  rw [removed, guards]
  cases here : world.processes.all[task.pid]? with
  | none =>
      have same : world.releaseGuards task.pid = world := by
        simp only [releaseGuards, here]
      rw [same, here]
      rfl
  | some process =>
      rw [releaseGuards_process here]
      rfl

/-- A step of a body lets go of subscriptions that it does not hold
afterwards, and of guards. -/
theorem Stride.moves {activity : Activity}
    (stride : Stride position task activity world after)
    (stands : world.activity? position = some (task, activity))
    (clean : (world.vigil position).Clean world.waiter) :
    world.waiter.Moves (world.FreedAt position after) (world.kept ≠ [])
      after.waiter := by
  have known := (List.getElem?_eq_some_iff.mp
    (activity?_eq_some stands).1).1
  have guarded := guardsAt_of_found (activity?_eq_some stands).1
  have vigil := vigil_of_activity stands
  rw [vigil] at clean
  have moves := moves_stepActivity (actorOf position task) clean
  have tasks := (Works.stepActivity (actorOf position task) activity
    world).frame.tasks
  have kept : world.agenda.floor = some position →
      activity.kept ≠ [] → world.kept ≠ [] := by
    intro floor
    simp [World.kept, floor, stands]
  unfold FreedAt
  rw [guarded, vigil]
  cases stride with
  | @steps next middle floor stepped =>
      rw [stepped] at moves tasks
      have stillKnown : position < middle.tasks.length := tasks ▸ known
      rw [vigil_setStage stillKnown]
      exact moves.mono (fun _ => id) (kept floor)
  | @rests next middle floor stepped =>
      rw [stepped] at moves tasks
      have stillKnown : position < middle.tasks.length := tasks ▸ known
      have set : ((middle.setStage position task
          (.body next)).yieldFloor).vigil position = next.vigil :=
        vigil_setStage stillKnown _
      rw [set]
      exact moves.mono (fun _ => id) (kept floor)
  | ends floor ending =>
      exact moves_conclude known _ (List.Subset.refl _) .stay
  | @enters rest =>
      exact .stay
  | @givenUp rest =>
      have abandoned := moves_abandon (actorOf position task) activity
        (world.kept ≠ []) (world.giveFloor position rest)
      have given : Discreet (world.giveFloor position rest)
          ((world.giveFloor position rest).abandon (actorOf position task)
            activity) := .abandon activity
      have frame := (Works.abandon (actorOf position task) activity
        (world.giveFloor position rest)).frame
      refine moves_conclude (frame.tasks ▸ known) _ ?_ abandoned
      exact fun _ member => guards_of_cores (given.cores task.pid) ▸ member

theorem Passage.moves (passage : Passage position task world after)
    (found : world.tasks[position]? = some (.process task)) :
    world.waiter.Moves (world.FreedAt position after) (world.kept ≠ [])
      after.waiter := by
  have known := (List.getElem?_eq_some_iff.mp found).1
  cases passage with
  | @fails rest outcome unbuilt =>
      obtain ⟨body, stage⟩ := unbuilt
      have given : position < (world.giveFloor position rest).tasks.length :=
        known
      have concluded : world.waiter.Moves (world.Freed task.pid {}
          (((world.giveFloor position rest).conclude position task
            outcome).vigil position)) (world.kept ≠ [])
          ((world.giveFloor position rest).conclude position task
            outcome).waiter :=
        moves_conclude given outcome (List.Subset.refl _) .stay
      unfold FreedAt
      rw [guardsAt_of_found found, vigil_of_found found, stage]
      exact concluded
  | builds => exact .stay
  | tells _ tells => exact tells.waiter ▸ .stay

theorem guardsAt_conclude (known : position < world.tasks.length)
    (outcome : Outcome) :
    (world.conclude position task outcome).guardsAt position = [] := by
  have found : (world.conclude position task outcome).tasks[position]? =
      some (.process { task with stage := .closing outcome }) := by
    rw [(concludes position task outcome world).tasks]
    exact List.getElem?_set_self known
  rw [guardsAt_of_found found]
  exact guards_conclude outcome

theorem guardsAt_setStage (known : position < world.tasks.length)
    (stage : Stage) :
    (world.setStage position task stage).guardsAt position =
      world.guards task.pid := by
  have found : (world.setStage position task stage).tasks[position]? =
      some (.process { task with stage }) := List.getElem?_set_self known
  rw [guardsAt_of_found found]
  rfl

/-- In its own turn a task comes by new guards only. -/
def ComesBy (position : TaskId) (before after : World) : Prop :=
  ∀ id ∈ after.guardsAt position, id ∈ before.guardsAt position ∨
    (before.waiter.handoffs.length ≤ id ∧ id < after.waiter.handoffs.length)

theorem Stride.comesBy {activity : Activity}
    (stride : Stride position task activity world after)
    (stands : world.activity? position = some (task, activity)) :
    ComesBy position world after := by
  obtain ⟨found, stage⟩ := activity?_eq_some stands
  have known := (List.getElem?_eq_some_iff.mp found).1
  have tasks := (Works.stepActivity (actorOf position task) activity
    world).frame.tasks
  have fresh := fun id => @guards_stepActivity world
    (actorOf position task) id activity
  intro id member
  rw [guardsAt_of_found found]
  cases stride with
  | @steps next middle floor stepped =>
      rw [stepped] at tasks fresh
      rw [guardsAt_setStage (tasks ▸ known)] at member
      exact fresh id member
  | @rests next middle floor stepped =>
      rw [stepped] at tasks fresh
      have set : ((middle.setStage position task
          (.body next)).yieldFloor).guardsAt position =
            middle.guards task.pid := guardsAt_setStage (tasks ▸ known) _
      rw [set] at member
      exact fresh id member
  | ends floor ending =>
      rw [guardsAt_conclude known] at member
      cases member
  | enters => exact .inl (guardsAt_of_found found ▸ member)
  | @givenUp rest =>
      have frame := (Works.abandon (actorOf position task) activity
        (world.giveFloor position rest)).frame
      rw [guardsAt_conclude (frame.tasks ▸ known)] at member
      cases member

theorem Passage.comesBy (passage : Passage position task world after)
    (found : world.tasks[position]? = some (.process task)) :
    ComesBy position world after := by
  have known := (List.getElem?_eq_some_iff.mp found).1
  intro id member
  rw [guardsAt_of_found found]
  cases passage with
  | @fails rest outcome _ =>
      have given : position < (world.giveFloor position rest).tasks.length :=
        known
      have nothing : ((world.giveFloor position rest).conclude position task
          outcome).guardsAt position = [] := guardsAt_conclude given outcome
      rw [nothing] at member
      cases member
  | @builds rest program _ =>
      have set : ((world.giveFloor position rest).setStage position task
          (.body (.running program))).guardsAt position =
            world.guards task.pid := guardsAt_setStage known _
      exact .inl (set ▸ member)
  | @tells stage _ _ tells =>
      have there : after.tasks[position]? =
          some (.process { task with stage }) :=
        tells.tasks ▸ List.getElem?_set_self known
      rw [guardsAt_of_found there, guards, tells.processes] at member
      exact .inl member

theorem Orderly.guardsAt_elsewhere (orderly : Orderly made world)
    (occurrence : Occurrence)
    (elsewhere : Episode.mover? ⟨world, occurrence⟩ ≠ some position) :
    (world.happen occurrence).guardsAt position = world.guardsAt position := by
  by_cases started : ∃ task, world.tasks[position]? = some (.process task)
  · obtain ⟨task, found⟩ := started
    have beside := orderly.beside found occurrence elsewhere
    obtain ⟨process, here, sameTask, _⟩ := orderly.tasks position task found
    obtain ⟨next, there, kept, _⟩ := beside.process process here sameTask
    rw [guardsAt_of_found (beside.task.trans found), guardsAt_of_found found,
      guards, guards, there, here]
    rcases kept with rfl | ⟨_, rfl⟩ <;> rfl
  · have before : world.guardsAt position = [] :=
      guardsAt_of_not_process fun task found => started ⟨task, found⟩
    rw [before]
    by_cases later : ∃ task, (world.happen occurrence).tasks[position]? =
        some (.process task)
    · obtain ⟨next, there⟩ := later
      rcases orderly.task_cases occurrence there with
        known | ⟨_, _, _, _, _, _, _, _, _, launched⟩
      · exact absurd known started
      · rw [guardsAt_of_found there, guards, launched]
        rfl
    · exact guardsAt_of_not_process fun task found => later ⟨task, found⟩

theorem Orderly.held_unguarded (orderly : Orderly made world)
    (held : id ∈ (world.vigil position).held) :
    id ∉ world.guardsAt position := by
  by_cases started : ∃ task, world.tasks[position]? = some (.process task)
  · obtain ⟨task, found⟩ := started
    rw [guardsAt_of_found found]
    rw [vigil_of_found found] at held
    obtain ⟨process, here, _, agrees⟩ := orderly.tasks position task found
    rw [guards, here]
    unfold Agrees at agrees
    cases stage : task.stage with
    | body activity =>
        rw [stage] at agrees held
        intro guard
        have nodup := agrees.1.books.nodup
        exact (List.nodup_append.mp nodup).2.2 id held id guard rfl
    | _ =>
        rw [stage] at held
        cases held
  · rw [guardsAt_of_not_process fun task found => started ⟨task, found⟩]
    exact List.not_mem_nil

end

end World

/-- A subscription that what happens may touch: it is in the care of the task
whose turn it is, which lets go of it. -/
def Episode.Frees (episode : Episode) (id : SubscriptionId) : Prop :=
  ∃ position, episode.mover? = some position ∧
    episode.before.FreedAt position episode.after id

namespace World

section

variable {world after : World} {position other : TaskId}
  {made : TaskId → SubscriptionId → Prop} {id : SubscriptionId}
  {event : Event} {episode : Episode}

theorem waiter_offered (offered : episode.offered? = some event) :
    episode.after.waiter = (episode.before.waiter.dispatch event).2 := by
  obtain ⟨world, occurrence⟩ := episode
  cases occurrence with
  | dispatch other =>
      cases offered
      exact waiter_dispatch event world
  | receive other =>
      unfold Episode.offered? at offered
      dsimp only at offered
      split at offered
      · rename_i owner
        cases offered
        change (world.receive event).2.waiter = _
        rw [← waiter_dispatch]
        unfold receive
        rw [owner, Bool.not_true, if_neg Bool.false_ne_true]
        dsimp only
        split
        · exact waiter_route event (world.dispatch event).2
        · rfl
      · cases offered
  | _ => cases offered

theorem moves_turn (watchful : Watchful world)
    (mover : world.mover? = some position) :
    world.waiter.Moves (world.FreedAt position (world.happen .work))
      (world.kept ≠ []) (world.happen .work).waiter := by
  cases motion mover with
  | body stands stride => exact stride.moves stands (watchful.clean position)
  | bodiless found passage => exact passage.moves found
  | notice _ _ waiter => exact waiter ▸ .stay

theorem moves_unoffered (watchful : Watchful episode.before)
    (unoffered : episode.offered? = none) :
    episode.before.waiter.Moves episode.Frees (episode.lifts ≠ [])
      episode.after.waiter := by
  obtain ⟨world, occurrence⟩ := episode
  cases occurrence with
  | work =>
      cases mover : world.mover? with
      | some position =>
          have moves := moves_turn watchful mover
          exact moves.mono (fun id free => ⟨position, mover, free⟩) id
      | none =>
          have same : (Episode.after ⟨world, .work⟩).waiter = world.waiter :=
            congrArg waiter (happen_work_of_nobody mover)
          exact same ▸ .stay
  | dispatch event => cases unoffered
  | receive event =>
      have foreign :
          world.territory.fleet.isOwner event.shred event.room = false := by
        simpa [Episode.offered?] using unoffered
      have same : (Episode.after ⟨world, .receive event⟩).waiter =
          world.waiter := by
        simp [Episode.after, happen, receive, foreign]
      exact same ▸ .stay
  | interrupt pid =>
      have same : (world.interrupt pid).2.waiter = world.waiter := by
        unfold interrupt
        split
        · exact Works.waiter_interruptHeld pid world
        · rfl
      exact same ▸ .stay
  | interruptHeld pid =>
      have same : (world.interruptHeld pid).2.waiter = world.waiter :=
        Works.waiter_interruptHeld pid world
      exact same ▸ .stay
  | lift pid => exact moves_lift (List.cons_ne_nil pid []) pid world
  | liftHeld pid => exact moves_liftHeld (List.cons_ne_nil pid []) pid world
  | _ => exact .stay

theorem comesBy_turn (mover : world.mover? = some position) :
    ComesBy position world (world.happen .work) := by
  cases motion mover with
  | body stands stride => exact stride.comesBy stands
  | bodiless found passage => exact passage.comesBy found
  | notice _ notLater =>
      intro id member
      rw [guardsAt_of_not_process notLater] at member
      cases member

/-- The register is in order, and what tasks have in their care exists and is
nobody else's. -/
structure Guarded (world : World) : Prop where
  sound : world.waiter.Sound
  below : ∀ position, ∀ id ∈ world.wards position,
    id < world.waiter.handoffs.length
  apart : ∀ position other, position ≠ other →
    ∀ id ∈ world.wards position, id ∉ world.wards other

/-- What the care of tasks comes to when something happens: one task may come
by new subscriptions, and the others have in their care what they had. -/
structure Handover (mover : TaskId) (before after : World) : Prop where
  handoffs : before.waiter.handoffs.length ≤ after.waiter.handoffs.length
  own : ∀ id ∈ after.wards mover, id ∈ before.wards mover ∨
    (before.waiter.handoffs.length ≤ id ∧ id < after.waiter.handoffs.length)
  elsewhere : ∀ position, position ≠ mover →
    after.wards position = before.wards position

theorem Orderly.wards_elsewhere (orderly : Orderly made world)
    (occurrence : Occurrence)
    (elsewhere : Episode.mover? ⟨world, occurrence⟩ ≠ some position) :
    (world.happen occurrence).wards position = world.wards position := by
  rw [wards, orderly.vigil_elsewhere occurrence elsewhere,
    orderly.guardsAt_elsewhere occurrence elsewhere, wards]

theorem Orderly.handover (orderly : Orderly made world)
    (watchful : Watchful world) (occurrence : Occurrence) :
    ∃ mover, Handover mover world (world.happen occurrence) := by
  have handoffs := (orderly.grows occurrence).handoffs
  cases moves : Episode.mover? ⟨world, occurrence⟩ with
  | some mover =>
      obtain ⟨rfl, own⟩ := Episode.mover?_eq_some moves
      refine ⟨mover, handoffs, fun id member => ?_, fun position other => ?_⟩
      · have tended := tends_own own (watchful.clean mover)
        rcases List.mem_append.mp member with held | guard
        · refine (tended.held id held).imp wards_subset fun fresh => ?_
          exact ⟨fresh, tended.clean.below id held⟩
        · exact (comesBy_turn own id guard).imp_left
            (List.mem_append_right _)
      · apply orderly.wards_elsewhere
        rw [moves]
        simpa using Ne.symm other
  | none =>
      have same : ∀ position, (world.happen occurrence).wards position =
          world.wards position := by
        intro position
        apply orderly.wards_elsewhere
        simp [moves]
      exact ⟨0, handoffs, fun id member => .inl (same 0 ▸ member),
        fun position _ => same position⟩

namespace Guarded

theorem start (config : Config) (commands : Catalogue Handler) (horizon : Nat) :
    Guarded (World.start config commands horizon) where
  sound := .start
  below := fun position id member => by cases member
  apart := fun position other _ id member => by cases member

theorem handover {mover : TaskId} (guarded : Guarded world)
    (handover : Handover mover world after) (sound : after.waiter.Sound) :
    Guarded after where
  sound := sound
  below := by
    intro position id member
    by_cases own : position = mover
    · subst own
      rcases handover.own id member with before | fresh
      · exact Nat.lt_of_lt_of_le (guarded.below position id before)
          handover.handoffs
      · exact fresh.2
    · rw [handover.elsewhere position own] at member
      exact Nat.lt_of_lt_of_le (guarded.below position id member)
        handover.handoffs
  apart := by
    have apartMover : ∀ position, position ≠ mover →
        ∀ id ∈ after.wards mover, id ∉ after.wards position := by
      intro position other id member
      rw [handover.elsewhere position other]
      intro foreign
      rcases handover.own id member with before | fresh
      · exact guarded.apart mover position (Ne.symm other) id before foreign
      · exact Nat.not_lt_of_le fresh.1 (guarded.below position id foreign)
    intro position other different id member
    by_cases own : position = mover
    · subst own
      exact apartMover other (Ne.symm different) id member
    · by_cases theirs : other = mover
      · subst theirs
        exact fun foreign => apartMover position own id foreign member
      · rw [handover.elsewhere position own] at member
        rw [handover.elsewhere other theirs]
        exact guarded.apart position other different id member

end Guarded

theorem sound_happen (sound : world.waiter.Sound) (watchful : Watchful world)
    (occurrence : Occurrence) : (world.happen occurrence).waiter.Sound := by
  cases offered : Episode.offered? ⟨world, occurrence⟩ with
  | some event =>
      have same : (world.happen occurrence).waiter = _ := waiter_offered offered
      exact same ▸ sound.dispatch event
  | none => exact (moves_unoffered watchful offered).sound sound

/-- In every reachable state everything is in somebody's care. -/
theorem Run.guarded {config : Config} {commands : Catalogue Handler}
    {horizon : Nat}
    {episodes : List Episode}
    (run : Run (World.start config commands horizon) episodes world) :
    Guarded world := by
  induction run with
  | start => exact .start config commands horizon
  | next occurrence prior induction =>
      have watchful := Run.watchful prior
      obtain ⟨mover, handover⟩ :=
        (Run.orderly prior).handover watchful occurrence
      exact induction.handover handover
        (sound_happen induction.sound watchful occurrence)

theorem Guarded.keeps (guarded : Guarded episode.before)
    (orderly : Orderly made episode.before)
    (watchful : Watchful episode.before)
    (unoffered : episode.offered? = none)
    (held : id ∈ (episode.before.vigil position).held)
    (still : id ∈ (episode.after.vigil position).held) :
    episode.before.waiter.Keeps id episode.after.waiter := by
  have ward : id ∈ episode.before.wards position := wards_subset held
  refine (moves_unoffered watchful unoffered).keeps guarded.sound
    (guarded.below position id ward) ?_
  rintro ⟨mover, _, freed⟩
  by_cases own : mover = position
  · subst own
    rcases freed with guard | released
    · exact orderly.held_unguarded held guard
    · exact released.2 still
  · have foreign := guarded.apart position mover (Ne.symm own) id ward
    rcases freed with guard | released
    · exact foreign (List.mem_append_right _ guard)
    · exact foreign (wards_subset released.1)

end

end World

end Switchboard
