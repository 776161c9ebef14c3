import Switchboard.Proofs.Bot.Stages
import Switchboard.Proofs.Bot.SubscriptionHandling

/-!
# What tasks keep

Nobody but its task receives from a subscription that a body holds, and no two
bodies hold the same one.  So in every reachable state whatever is held still
waits for its event or has it, and a wait whose deadline has been lifted stays
without one until its subscription is let go.
-/

namespace Switchboard

/-- What a task has to do with the waiter at a stage: what its body has. -/
def Stage.vigil : Stage → Vigil
  | .body activity => activity.vigil
  | _ => {}

def Task.vigil : Task → Vigil
  | .process task => task.stage.vigil
  | .notice _ => {}

namespace World

/-- What the task at a position has to do with the waiter. -/
def vigil (position : TaskId) (world : World) : Vigil :=
  (world.tasks[position]?).elim {} Task.vigil

section Vigils

variable {world after : World} {position other : TaskId} {task : ProcessTask}
  {made : TaskId → SubscriptionId → Prop}

theorem vigil_of_found
    (found : world.tasks[position]? = some (.process task)) :
    world.vigil position = task.stage.vigil := by
  rw [vigil, found]
  rfl

theorem vigil_of_not_process (notProcess : ∀ task : ProcessTask,
    world.tasks[position]? ≠ some (.process task)) :
    world.vigil position = {} := by
  rw [vigil]
  cases found : world.tasks[position]? with
  | none => rfl
  | some task =>
      cases task with
      | process task => exact absurd found (notProcess task)
      | notice stage => rfl

theorem vigil_of_same
    (same : after.tasks[position]? = world.tasks[position]?) :
    after.vigil position = world.vigil position := by
  rw [vigil, same, vigil]

theorem vigil_setStage (known : position < world.tasks.length)
    (stage : Stage) :
    (world.setStage position task stage).vigil position = stage.vigil := by
  have found : (world.setStage position task stage).tasks[position]? =
      some (.process { task with stage }) := List.getElem?_set_self known
  exact vigil_of_found found

theorem handoffs_releaseGuards (pid : Pid) (world : World) :
    (world.releaseGuards pid).waiter.handoffs = world.waiter.handoffs := by
  exact releaseGuards_induction (motive := fun after =>
    after.waiter.handoffs = world.waiter.handoffs) rfl
    (fun _ _ _ _ _ same => same) fun _ same => same

end Vigils

end World

namespace Tends

variable {world after : World} {position : TaskId} {task : ProcessTask}
  {one : Vigil}

theorem conclude (known : position < world.tasks.length)
    (outcome : Outcome) :
    Tends {} world.waiter
      ((world.conclude position task outcome).vigil position)
      (world.conclude position task outcome).waiter := by
  have ended : (world.conclude position task outcome).vigil position = {} :=
    World.vigil_of_found (by
      rw [(World.concludes position task outcome world).tasks]
      exact List.getElem?_set_self known)
  rw [ended]
  exact of_same (World.handoffs_releaseGuards task.pid world)

theorem setStage (known : position < after.tasks.length) {stage : Stage}
    (bodiless : stage.vigil = {})
    (same : after.waiter.handoffs = world.waiter.handoffs) :
    Tends {} world.waiter
      ((after.setStage position task stage).vigil position)
      (after.setStage position task stage).waiter := by
  rw [World.vigil_setStage known, bodiless]
  exact of_same same

theorem close (known : position < world.tasks.length) (outcome : Outcome) :
    Tends {} world.waiter
      ((world.close position task outcome).vigil position)
      (world.close position task outcome).waiter := by
  rw [World.close_eq]
  split
  · exact setStage known rfl rfl
  · rename_i aftermath _
    obtain ⟨cooldowns, rest⟩ :=
      World.giveBack_rest aftermath.reservation outcome world
    rw [rest]
    unfold World.announce
    split
    · exact setStage (by exact known) rfl rfl
    · exact setStage (by exact known) rfl rfl

theorem startReport (known : position < world.tasks.length)
    (outcome : Outcome) :
    Tends {} world.waiter
      ((world.startReport position task outcome).vigil position)
      (world.startReport position task outcome).waiter := by
  unfold World.startReport
  split
  · exact setStage (by exact known) rfl rfl
  · exact setStage known rfl rfl

/-- The task has the floor. -/
theorem workProcess
    (found : world.tasks[position]? = some (.process task)) :
    Tends task.stage.vigil world.waiter
      ((world.workProcess position task).vigil position)
      (world.workProcess position task).waiter := by
  have known := (List.getElem?_eq_some_iff.mp found).1
  have yields : Tends task.stage.vigil world.waiter
      (world.yieldFloor.vigil position) world.yieldFloor.waiter := by
    have same : world.yieldFloor.vigil position = task.stage.vigil :=
      World.vigil_of_found found
    rw [same]
    exact refl _ _
  unfold World.workProcess
  cases stage : task.stage with
  | body activity =>
      have steps := stepActivity (World.actorOf position task) activity world
      have tasks := (World.Works.stepActivity (World.actorOf position task)
        activity world).frame.tasks
      dsimp only
      generalize world.stepActivity (World.actorOf position task)
        activity = result at steps tasks
      obtain ⟨progress, after⟩ := result
      have stillKnown : position < after.tasks.length := by
        rw [tasks]
        exact known
      cases progress with
      | done outcome => exact steps.trans (conclude stillKnown outcome)
      | go next =>
          have set : (after.setStage position task (.body next)).vigil
              position = next.vigil := World.vigil_setStage stillKnown _
          dsimp only
          rw [set]
          exact steps
      | blocked next =>
          have set : (after.setStage position task
              (.body next)).yieldFloor.vigil position = next.vigil :=
            World.vigil_setStage stillKnown _
          dsimp only
          rw [set]
          exact steps
  | closing outcome => exact close known outcome
  | announcing outcome sending =>
      rw [stage] at yields
      dsimp only
      split
      · exact startReport known outcome
      · exact yields
  | reporting sending =>
      rw [stage] at yields
      have same : (world.finishMessage sending).2.waiter = world.waiter ∧
          (world.finishMessage sending).2.tasks = world.tasks := by
        unfold World.finishMessage
        split <;> exact ⟨rfl, rfl⟩
      dsimp only
      split
      · apply setStage
        · rw [same.2]
          exact known
        · rfl
        · rw [same.1]
      · exact yields
  | _ =>
      rw [stage] at yields
      exact yields

theorem enterProcess
    (found : world.tasks[position]? = some (.process task)) :
    Tends task.stage.vigil world.waiter
      ((world.enterProcess position task).vigil position)
      (world.enterProcess position task).waiter := by
  have known := (List.getElem?_eq_some_iff.mp found).1
  have stays : Tends task.stage.vigil world.waiter (world.vigil position)
      world.waiter := by
    rw [World.vigil_of_found found]
    exact refl _ _
  unfold World.enterProcess
  cases stage : task.stage with
  | unbuilt body =>
      cases body with
      | error payload => exact conclude known _
      | ok program =>
          dsimp only
          split
          · exact conclude known _
          · exact setStage known rfl rfl
  | body activity =>
      rw [stage] at stays
      dsimp only
      split
      · have tasks := (World.Works.abandon (World.actorOf position task)
          activity world).frame.tasks
        apply (abandon (World.actorOf position task) activity world).trans
        apply conclude
        rw [tasks]
        exact known
      · exact stays
  | _ =>
      rw [stage] at stays
      exact stays

end Tends

namespace World

section Watching

variable {world after : World} {position other : TaskId} {task : ProcessTask}
  {made : TaskId → SubscriptionId → Prop} {id : SubscriptionId}

theorem waiter_wakeAllWatchers (ids : List SubscriptionId) (world : World) :
    (ids.foldl (fun world id => world.wakeWatchers id) world).waiter =
      world.waiter := by
  induction ids generalizing world with
  | nil => rfl
  | cons id rest induction => exact induction (world.wakeWatchers id)

theorem waiter_dispatch (event : Event) (world : World) :
    (world.dispatch event).2.waiter = (world.waiter.dispatch event).2 :=
  waiter_wakeAllWatchers (world.waiter.dispatch event).1
    { world with waiter := (world.waiter.dispatch event).2 }

theorem waiter_invoke (entry : CatalogueEntry Handler) (event : Event)
    (arguments : String) (chat : Chat) (world : World) :
    (world.invoke entry event arguments chat).2.waiter = world.waiter := by
  unfold invoke
  split
  · rfl
  · obtain ⟨admission, cooldowns, acquired⟩ :=
      acquire_rest entry.definition event.origin world
    rw [acquired]
    cases admission <;> rfl

theorem waiter_route (event : Event) (world : World) :
    (world.route event).2.waiter = world.waiter := by
  unfold route
  split
  · rfl
  · split
    · rfl
    · split
      · rfl
      · exact waiter_invoke _ event _ _ world

theorem supplies_receive (event : Event) (world : World) :
    world.waiter.Supplies (world.receive event).2.waiter := by
  have offered : world.waiter.Supplies (world.dispatch event).2.waiter := by
    rw [waiter_dispatch]
    exact .dispatch event world.waiter
  unfold receive
  split
  · exact .refl world.waiter
  · dsimp only
    split
    · rw [waiter_route]
      exact offered
    · exact offered

theorem supplies_outside (occurrence : Occurrence)
    (notWork : occurrence ≠ .work) (world : World) :
    world.waiter.Supplies (world.happen occurrence).waiter := by
  cases occurrence with
  | work => exact absurd rfl notWork
  | receive event => exact supplies_receive event world
  | dispatch event =>
      rw [happen, waiter_dispatch]
      exact .dispatch event world.waiter
  | interrupt pid =>
      have same : (world.interrupt pid).2.waiter = world.waiter := by
        unfold interrupt
        split
        · exact Works.waiter_interruptHeld pid world
        · rfl
      exact .of_same (congrArg Waiter.handoffs same)
  | interruptHeld pid =>
      exact .of_same (congrArg Waiter.handoffs
        (Works.waiter_interruptHeld pid world))
  | lift pid => exact supplies_lift pid world
  | liftHeld pid => exact supplies_liftHeld pid world
  | _ => exact .refl world.waiter

theorem Orderly.vigil_elsewhere (orderly : Orderly made world)
    (occurrence : Occurrence)
    (elsewhere : Episode.mover? ⟨world, occurrence⟩ ≠ some position) :
    (world.happen occurrence).vigil position = world.vigil position := by
  by_cases started : ∃ task, world.tasks[position]? = some (.process task)
  · obtain ⟨task, found⟩ := started
    exact vigil_of_same (orderly.beside found occurrence elsewhere).task
  · have before : world.vigil position = {} :=
      vigil_of_not_process fun task found => started ⟨task, found⟩
    rw [before]
    by_cases later : ∃ task, (world.happen occurrence).tasks[position]? =
        some (.process task)
    · obtain ⟨next, there⟩ := later
      rcases orderly.task_cases occurrence there with
        known | ⟨_, _, _, _, ⟨body, stage⟩, _⟩
      · exact absurd known started
      · rw [vigil_of_found there, stage]
        rfl
    · exact vigil_of_not_process fun task found => later ⟨task, found⟩

theorem tends_own (mover : world.mover? = some position) :
    Tends (world.vigil position) world.waiter
      ((world.happen .work).vigil position)
      (world.happen .work).waiter := by
  by_cases started : ∃ task, world.tasks[position]? = some (.process task)
  · obtain ⟨task, found⟩ := started
    rw [vigil_of_found found]
    obtain ⟨_, worked⟩ | ⟨_, rest, entered⟩ := turn_cases mover
    · have works : world.work position = world.workProcess position task := by
        simp only [work, found]
      rw [worked, works]
      exact .workProcess found
    · have given : (world.giveFloor position rest).tasks[position]? =
          some (.process task) := found
      have enters : (world.giveFloor position rest).enter position =
          (world.giveFloor position rest).enterProcess position task := by
        simp only [enter, given]
      rw [entered, enters]
      exact .enterProcess given
  · have notProcess : ∀ task : ProcessTask,
        world.tasks[position]? ≠ some (.process task) :=
      fun task found => started ⟨task, found⟩
    obtain ⟨waiter, notLater, _⟩ := InStep.notice_turn notProcess mover
    rw [vigil_of_not_process notProcess, vigil_of_not_process notLater]
    exact .of_same (congrArg Waiter.handoffs waiter)

/-- Every task keeps clean what its body holds, and no two hold the same. -/
structure Watchful (world : World) : Prop where
  clean : ∀ position, (world.vigil position).Clean world.waiter
  apart : ∀ position other, position ≠ other →
    ∀ id ∈ (world.vigil position).held, id ∉ (world.vigil other).held

/-- What a happening comes to: some task tends what it holds, and all others
only see their handoffs supplied. -/
structure Shift (mover : TaskId) (before after : World) : Prop where
  tends : Tends (before.vigil mover) before.waiter (after.vigil mover)
    after.waiter
  elsewhere : ∀ position, position ≠ mover →
    after.vigil position = before.vigil position

theorem Orderly.shift (orderly : Orderly made world)
    (occurrence : Occurrence) :
    ∃ mover, Shift mover world (world.happen occurrence) := by
  cases moves : Episode.mover? ⟨world, occurrence⟩ with
  | some mover =>
      obtain ⟨rfl, own⟩ := Episode.mover?_eq_some moves
      refine ⟨mover, tends_own own, fun position other => ?_⟩
      apply orderly.vigil_elsewhere
      rw [moves]
      simpa using Ne.symm other
  | none =>
      have same : ∀ position, (world.happen occurrence).vigil position =
          world.vigil position := by
        intro position
        apply orderly.vigil_elsewhere
        simp [moves]
      refine ⟨0, ?_, fun position _ => same position⟩
      rw [same 0]
      apply Tends.of_supplies
      by_cases work : occurrence = .work
      · subst work
        have idle : world.agenda.floor = none ∧ world.agenda.ready = [] := by
          simpa [Episode.mover?, mover?] using moves
        rw [happen_work_of_idle idle.1 idle.2]
        exact .refl world.waiter
      · exact supplies_outside occurrence work world

namespace Watchful

variable {mover : TaskId} {wait : Wait}

theorem start (config : Config) (commands : Catalogue Handler) (horizon : Nat) :
    Watchful (start config commands horizon) where
  clean := by
    intro position
    constructor
    · exact List.nodup_nil
    · exact fun id member => by cases member
    · exact fun id member => by cases member
    · exact fun wait opened => by cases opened
  apart := fun position other _ id member => by cases member

theorem clean_elsewhere (watchful : Watchful world)
    (shift : Shift mover world after) (other : position ≠ mover) :
    (after.vigil position).Clean after.waiter := by
  have tended := shift.tends (watchful.clean mover)
  have clean := watchful.clean position
  rw [shift.elsewhere position other]
  constructor
  · exact clean.nodup
  · exact fun id member =>
      Nat.lt_of_lt_of_le (clean.below id member) tended.handoffs
  · intro id member
    obtain ⟨content, holds⟩ := clean.slots id member
    have foreign := watchful.apart position mover other id member
    exact (tended.spared id (clean.below id member) foreign).holding holds
  · exact clean.opened

theorem apart_mover (watchful : Watchful world)
    (shift : Shift mover world after) (other : position ≠ mover)
    (member : id ∈ (after.vigil mover).held) :
    id ∉ (after.vigil position).held := by
  rw [shift.elsewhere position other]
  intro foreign
  rcases (shift.tends (watchful.clean mover)).held id member with
    before | fresh
  · exact watchful.apart mover position (Ne.symm other) id before foreign
  · exact Nat.not_lt_of_le fresh ((watchful.clean position).below id foreign)

theorem shift (watchful : Watchful world)
    (shift : Shift mover world after) : Watchful after where
  clean := by
    intro position
    by_cases own : position = mover
    · subst own
      exact (shift.tends (watchful.clean position)).clean
    · exact watchful.clean_elsewhere shift own
  apart := by
    intro position other different id member
    by_cases own : position = mover
    · subst own
      exact watchful.apart_mover shift (Ne.symm different) member
    · by_cases theirs : other = mover
      · subst theirs
        exact fun held => watchful.apart_mover shift own held member
      · rw [shift.elsewhere position own] at member
        rw [shift.elsewhere other theirs]
        exact watchful.apart position other different id member

end Watchful

/-- In every reachable state tasks keep what they hold clean and apart. -/
theorem Run.watchful {config : Config} {commands : Catalogue Handler}
    {horizon : Nat}
    {episodes : List Episode}
    (run : Run (World.start config commands horizon) episodes world) :
    Watchful world := by
  induction run with
  | start => exact .start config commands horizon
  | next occurrence prior induction =>
      obtain ⟨mover, shift⟩ := (Run.orderly prior).shift occurrence
      exact induction.shift shift

/-- A wait whose deadline has been lifted goes on without it for as long as
its subscription is held. -/
structure Unhurried (position : TaskId) (wait : Wait) (world : World) :
    Prop where
  below : wait.subscription < world.waiter.handoffs.length
  lifted : (world.waiter.handoff wait.subscription).lifted = true
  apart : ∀ other, other ≠ position →
    wait.subscription ∉ (world.vigil other).held
  follows : wait.subscription ∈ (world.vigil position).held →
    ∃ next, (world.vigil position).wait? = some next ∧
      wait.Follows true next

theorem Unhurried.shift {mover : TaskId} {wait : Wait}
    (unhurried : Unhurried position wait world)
    (watchful : Watchful world) (shift : Shift mover world after) :
    Unhurried position wait after := by
  have tended := shift.tends (watchful.clean mover)
  constructor
  · exact Nat.lt_of_lt_of_le unhurried.below tended.handoffs
  · exact tended.lifted _ unhurried.lifted
  · intro other different member
    by_cases theirs : other = mover
    · subst theirs
      rcases tended.held _ member with before | fresh
      · exact unhurried.apart other different before
      · exact absurd unhurried.below (Nat.not_lt_of_le fresh)
    · rw [shift.elsewhere other theirs] at member
      exact unhurried.apart other different member
  · intro member
    by_cases own : position = mover
    · subst own
      rcases tended.held _ member with before | fresh
      · obtain ⟨middle, there, same, then_⟩ := unhurried.follows before
        obtain ⟨next, found, sameNext, thenNext⟩ :=
          tended.follows middle there (same ▸ member)
        refine ⟨next, found, sameNext.trans same, fun lifted => ?_⟩
        have still :
            (world.waiter.handoff middle.subscription).lifted = true := by
          rw [same]
          exact unhurried.lifted
        exact (thenNext still).trans (then_ lifted)
      · exact absurd unhurried.below (Nat.not_lt_of_le fresh)
    · rw [shift.elsewhere position own] at member ⊢
      exact unhurried.follows member

end Watching

end World

end Switchboard
