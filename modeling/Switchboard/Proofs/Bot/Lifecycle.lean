import Switchboard.Proofs.Bot.ForeignTurns

/-!
# The life of a process

A process is registered while its body has not ended, and its end is recorded
once, when it comes off the register.  The stage of its task, the register,
its state, its books and the record of ends always agree.  Whoever has been
killed and has not ended stands in line for the floor.
-/

namespace Switchboard

/-- The outcome has been dealt with as far as the cooldown goes; people may
still be told. -/
inductive Stage.Dealt : Stage → Prop where
  | announcing (outcome : Outcome) (sending : Sending) :
      Dealt (.announcing outcome sending)
  | reporting (sending : Sending) : Dealt (.reporting sending)
  | over : Dealt .over

namespace World

/-- The body of a process has not ended.  `own` are the subscriptions that
its task has made. -/
structure Alive (pid : Pid) (own : SubscriptionId → Prop)
    (holdings : Holdings) (process : Process) (world : World) : Prop where
  live : pid ∈ world.processes.live
  state : process.state ≠ .done
  killed_iff : process.killed = true ↔ process.state = .interrupted
  endings : world.endings pid = []
  books : Books (fun id => ¬own id) holdings process world.waiter

/-- The body of a process has ended, and nothing is left of it. -/
structure Ended (pid : Pid) (own : SubscriptionId → Prop)
    (outcome : Outcome) (process : Process) (world : World) : Prop where
  gone : pid ∉ world.processes.live
  state : process.state = .done
  endings : world.endings pid = [outcome]
  waits : process.waits = 0
  deadlines : process.deadlines = []
  registers : ∀ id, world.waiter.Registers id → ¬own id

/-- What the stage of a task says about its process. -/
def Agrees (position : TaskId) (task : ProcessTask)
    (own : SubscriptionId → Prop) (process : Process) (world : World) :
    Prop :=
  match task.stage with
  | .unbuilt _ =>
    Alive task.pid own {} process world ∧
      (process.killed = true → position ∈ world.agenda.ready)
  | .body activity =>
    Alive task.pid own activity.holdings process world ∧
      (process.killed = true → position ∈ world.agenda.ready)
  | .closing outcome =>
    Ended task.pid own outcome process world ∧
      world.agenda.floor = some position
  | .announcing outcome _ => Ended task.pid own outcome process world
  | .reporting _ => ∃ outcome, Ended task.pid own outcome process world
  | .over => ∃ outcome, Ended task.pid own outcome process world

section Others

variable {position : TaskId} {pid : Pid} {own : SubscriptionId → Prop}
  {holdings : Holdings} {outcome : Outcome} {process : Process}
  {before after : World}

theorem Alive.beside (beside : Beside position pid before after)
    (below : ∀ id, own id → id < before.waiter.handoffs.length)
    {next : Process} (kept : process.Kept next)
    (alive : Alive pid own holdings process before) :
    Alive pid own holdings next after where
  live := beside.live.mpr alive.live
  state := by
    rcases kept with rfl | ⟨_, rfl⟩
    · exact alive.state
    · simp [Process.kill]
  killed_iff := by
    rcases kept with rfl | ⟨_, rfl⟩
    · exact alive.killed_iff
    · simp [Process.kill]
  endings := beside.endings.trans alive.endings
  books := by
    have same : next.waits = process.waits ∧
        next.deadlines = process.deadlines ∧
          next.guards = process.guards ∧ next.marks = process.marks := by
      rcases kept with rfl | ⟨_, rfl⟩ <;> exact ⟨rfl, rfl, rfl, rfl⟩
    obtain ⟨waits, deadlines, guards, marks⟩ := same
    apply alive.books.of_same waits deadlines guards marks
      beside.waiter.handoffs
    intro id listed
    apply (beside.waiter.registers id listed).imp_right
    intro fresh owned
    exact Nat.not_lt_of_le fresh.1 (below id owned)

theorem Ended.beside (beside : Beside position pid before after)
    (below : ∀ id, own id → id < before.waiter.handoffs.length)
    {next : Process} (kept : process.Kept next)
    (ended : Ended pid own outcome process before) :
    Ended pid own outcome next after := by
  have same : next = process := by
    rcases kept with same | ⟨running, _⟩
    · exact same
    · rw [ended.state] at running
      cases running
  subst same
  exact {
    gone := (not_congr beside.live).mpr ended.gone
    state := ended.state
    endings := beside.endings.trans ended.endings
    waits := ended.waits
    deadlines := ended.deadlines
    registers := by
      intro id listed
      rcases beside.waiter.registers id listed with before | ⟨fresh, _⟩
      · exact ended.registers id before
      · exact fun owned => Nat.not_lt_of_le fresh (below id owned) }

/-- What is not the task's own turn keeps its stage and its process in
agreement. -/
theorem Agrees.beside {task : ProcessTask}
    (beside : Beside position task.pid before after)
    (below : ∀ id, own id → id < before.waiter.handoffs.length)
    (here : before.processes.all[task.pid]? = some process)
    (sameTask : process.task = position)
    (agrees : Agrees position task own process before) :
    ∃ next, after.processes.all[task.pid]? = some next ∧
      next.task = position ∧ process.Kept next ∧
        Agrees position task own next after := by
  obtain ⟨next, there, kept, struck⟩ := beside.process process here sameTask
  refine ⟨next, there, kept.continues.task.trans sameTask, kept, ?_⟩
  have woken : (process.killed = true → position ∈ before.agenda.ready) →
      next.killed = true → position ∈ after.agenda.ready := by
    intro before killed
    cases state : process.killed with
    | true => exact beside.ready (before state)
    | false => exact struck state killed
  unfold Agrees at agrees ⊢
  split
  · rename_i stage
    rw [stage] at agrees
    obtain ⟨alive, waiting⟩ := agrees
    exact ⟨alive.beside beside below kept, woken waiting⟩
  · rename_i stage
    rw [stage] at agrees
    obtain ⟨alive, waiting⟩ := agrees
    exact ⟨alive.beside beside below kept, woken waiting⟩
  · rename_i stage
    rw [stage] at agrees
    obtain ⟨ended, floor⟩ := agrees
    exact ⟨ended.beside beside below kept, beside.floor.mpr floor⟩
  · rename_i stage
    rw [stage] at agrees
    exact agrees.beside beside below kept
  · rename_i stage
    rw [stage] at agrees
    obtain ⟨outcome, ended⟩ := agrees
    exact ⟨outcome, ended.beside beside below kept⟩
  · rename_i stage
    rw [stage] at agrees
    obtain ⟨outcome, ended⟩ := agrees
    exact ⟨outcome, ended.beside beside below kept⟩

end Others

section Own

variable {position : TaskId} {task : ProcessTask}
  {own grown : SubscriptionId → Prop} {holdings kept : Holdings}
  {outcome : Outcome} {process : Process} {world after : World}

/-- All subscriptions on the register are known, and those of a task have come
to be more by new ones only. -/
structure Gains (own grown : SubscriptionId → Prop) (waiter : Waiter) :
    Prop where
  listed : ∀ id, waiter.Registers id → id < waiter.handoffs.length
  grows : ∀ id, grown id → own id ∨ waiter.handoffs.length ≤ id

theorem Gains.foreign {waiter : Waiter} {id : SubscriptionId}
    (gains : Gains own grown waiter) (old : id < waiter.handoffs.length)
    (foreign : ¬own id) : ¬grown id := by
  intro owned
  rcases gains.grows id owned with before | fresh
  · exact foreign before
  · exact Nat.not_lt_of_le fresh old

/-- The process of a task and its stage agree. -/
def Stands (position : TaskId) (task : ProcessTask)
    (own : SubscriptionId → Prop) (world : World) : Prop :=
  ∃ stage process,
    world.tasks[position]? = some (.process { task with stage }) ∧
      world.processes.all[task.pid]? = some process ∧
        process.task = position ∧
          Agrees position { task with stage } own process world

/-- Work of the own body on top of whatever the body holds besides.
Subscriptions made meanwhile are its own. -/
theorem Alive.works_over {actor : Actor} {rest : Holdings}
    (sound : rest.opened.Sublist rest.held)
    (works : Works actor holdings world kept after)
    (gains : Gains own grown world.waiter)
    (here : world.processes.all[actor.pid]? = some process)
    (alive : Alive actor.pid own (holdings.over rest) process world) :
    ∃ next, after.processes.all[actor.pid]? = some next ∧
      next.task = process.task ∧
        Alive actor.pid grown (kept.over rest) next after ∧
        ((process.killed = true → process.task ∈ world.agenda.ready) →
          next.killed = true → process.task ∈ after.agenda.ready) := by
  have books : Books
      (fun id => ¬own id ∧ id < world.waiter.handoffs.length)
      (holdings.over rest) process world.waiter :=
    { alive.books with
      covers := by
        intro id registered
        refine (alive.books.covers id registered).imp_right fun foreign => ?_
        exact ⟨foreign, gains.listed id registered⟩ }
  obtain ⟨next, there, nextBooks⟩ :=
    works.books _ rest process sound here books
  obtain ⟨same, found, carried⟩ := works.frame.processes _ process here
  cases there.symm.trans found
  have life := carried.continues.life
  refine ⟨next, there, carried.continues.task, ?_, fun woken killed => ?_⟩
  · constructor
    · rw [works.frame.live]
      exact alive.live
    · rcases life with ⟨state, _⟩ | ⟨_, state, _⟩
      · rw [state]
        exact alive.state
      · simp [state]
    · rcases life with ⟨state, killed⟩ | ⟨_, state, killed⟩
      · rw [state, killed]
        exact alive.killed_iff
      · simp [state, killed]
    · rw [World.endings, works.frame.ends]
      exact alive.endings
    · exact { nextBooks with
        covers := by
          intro id registered
          apply (nextBooks.covers id registered).imp_right
          intro others
          exact gains.foreign others.2 others.1 }
  · cases state : process.killed with
    | true => exact works.frame.agenda.ready.subset (woken state)
    | false => exact carried.continues.task ▸ carried.struck state killed

theorem Alive.works {actor : Actor}
    (works : Works actor holdings world kept after)
    (gains : Gains own grown world.waiter)
    (here : world.processes.all[actor.pid]? = some process)
    (alive : Alive actor.pid own holdings process world) :
    ∃ next, after.processes.all[actor.pid]? = some next ∧
      next.task = process.task ∧ Alive actor.pid grown kept next after ∧
        ((process.killed = true → process.task ∈ world.agenda.ready) →
          next.killed = true → process.task ∈ after.agenda.ready) := by
  have alone := @Alive.works_over own grown holdings kept process world after
    actor {} (List.Sublist.refl _) works gains here
  simp only [Holdings.over_nothing] at alone
  exact alone alive

theorem Alive.grow {pid : Pid} (gains : Gains own grown world.waiter)
    (alive : Alive pid own holdings process world) :
    Alive pid grown holdings process world :=
  { alive with
    books := { alive.books with
      covers := by
        intro id registered
        apply (alive.books.covers id registered).imp_right
        exact gains.foreign (gains.listed id registered) } }

theorem stands_conclude (known : position < world.tasks.length)
    (floor : world.agenda.floor = some position)
    (here : world.processes.all[task.pid]? = some process)
    (sameTask : process.task = position)
    (alive : Alive task.pid own {} process world) :
    Stands position task own (world.conclude position task outcome) := by
  have concludes := concludes position task outcome world
  obtain ⟨found, registers⟩ :=
    conclude_books position task outcome here alive.books
  refine ⟨.closing outcome, _, ?_, found, sameTask, ?_, ?_⟩
  · rw [concludes.tasks]
    exact List.getElem?_set_self known
  · exact {
      gone := by
        rw [concludes.live]
        simp
      state := rfl
      endings := by
        rw [concludes.endings, alive.endings]
        rfl
      waits := rfl
      deadlines := rfl
      registers := registers }
  · rw [concludes.agenda]
    exact floor

theorem Alive.of_same {pid : Pid} (alive : Alive pid own holdings process world)
    (processes : after.processes = world.processes)
    (ends : after.ends = world.ends) (waiter : after.waiter = world.waiter) :
    Alive pid own holdings process after where
  live := processes ▸ alive.live
  state := alive.state
  killed_iff := alive.killed_iff
  endings := by
    rw [World.endings, ends]
    exact alive.endings
  books := waiter ▸ alive.books

theorem Ended.of_same {pid : Pid} (ended : Ended pid own outcome process world)
    (processes : after.processes = world.processes)
    (ends : after.ends = world.ends) (waiter : after.waiter = world.waiter) :
    Ended pid own outcome process after where
  gone := processes ▸ ended.gone
  state := ended.state
  endings := by
    rw [World.endings, ends]
    exact ended.endings
  waits := ended.waits
  deadlines := ended.deadlines
  registers := waiter ▸ ended.registers

theorem Ended.grow {pid : Pid} (gains : Gains own grown world.waiter)
    (ended : Ended pid own outcome process world) :
    Ended pid grown outcome process world :=
  { ended with
    registers := fun id registered =>
      gains.foreign (gains.listed id registered)
        (ended.registers id registered) }

theorem Agrees.of_dealt (dealt : task.stage.Dealt)
    (gains : Gains own grown world.waiter)
    (processes : after.processes = world.processes)
    (ends : after.ends = world.ends) (waiter : after.waiter = world.waiter)
    (agrees : Agrees position task own process world) :
    Agrees position task grown process after := by
  unfold Agrees at agrees ⊢
  cases stage : task.stage with
  | announcing outcome sending =>
      rw [stage] at agrees
      exact (agrees.grow gains).of_same processes ends waiter
  | reporting sending =>
      rw [stage] at agrees
      obtain ⟨outcome, ended⟩ := agrees
      exact ⟨outcome, (ended.grow gains).of_same processes ends waiter⟩
  | unbuilt | body | closing =>
      rw [stage] at dealt
      cases dealt
  | _ =>
      rw [stage] at agrees
      obtain ⟨outcome, ended⟩ := agrees
      exact ⟨outcome, (ended.grow gains).of_same processes ends waiter⟩

theorem stands_setStage (known : position < world.tasks.length)
    (stage : Stage) (here : world.processes.all[task.pid]? = some process)
    (sameTask : process.task = position)
    (agrees : Agrees position { task with stage } own process
      (world.setStage position task stage)) :
    Stands position task own (world.setStage position task stage) :=
  ⟨stage, process, List.getElem?_set_self known, here, sameTask, agrees⟩

/-- The task gets the floor. -/
theorem stands_enter (known : position < world.tasks.length)
    (found : world.tasks[position]? = some (.process task))
    (rest : List TaskId) (floor : world.agenda.floor = none)
    (gains : Gains own grown world.waiter)
    (here : world.processes.all[task.pid]? = some process)
    (sameTask : process.task = position)
    (agrees : Agrees position task own process world) :
    Stands position task grown
      ((world.giveFloor position rest).enterProcess position task) := by
  have isKilled : (world.giveFloor position rest).isKilled task.pid =
      process.killed := by
    simp [World.isKilled, giveFloor, here]
  have given : ∀ holdings, Alive task.pid own holdings process world →
      Alive task.pid grown holdings process
        (world.giveFloor position rest) := fun _ alive =>
    (alive.grow gains).of_same rfl rfl rfl
  have stays : task.stage.Dealt →
      Stands position task grown (world.giveFloor position rest) :=
    fun dealt => ⟨task.stage, process, found, here, sameTask,
      agrees.of_dealt dealt gains rfl rfl rfl⟩
  unfold Agrees at agrees
  unfold enterProcess
  rw [isKilled]
  cases stage : task.stage with
  | unbuilt body =>
      rw [stage] at agrees
      obtain ⟨alive, waiting⟩ := agrees
      cases body with
      | error payload =>
          exact stands_conclude known rfl here sameTask (given {} alive)
      | ok program =>
          dsimp only
          split
          · exact stands_conclude known rfl here sameTask (given {} alive)
          · rename_i spared
            have stillKnown :
                position < (world.giveFloor position rest).tasks.length :=
              known
            refine stands_setStage stillKnown (.body (.running program)) here
              sameTask ⟨?_, ?_⟩
            · exact (given {} alive).of_same rfl rfl rfl
            · exact fun killed => absurd killed spared
  | body activity =>
      rw [stage] at agrees
      obtain ⟨alive, waiting⟩ := agrees
      dsimp only
      split
      · have abandoned := Works.abandon (actorOf position task) activity
          (world.giveFloor position rest)
        have listed : Gains grown grown world.waiter :=
          ⟨gains.listed, fun _ => .inl⟩
        obtain ⟨next, there, nextTask, nextAlive, _⟩ :=
          (given _ alive).works abandoned listed here
        refine stands_conclude ?_ ?_ there (nextTask.trans sameTask) nextAlive
        · rw [abandoned.frame.tasks]
          exact known
        · rw [abandoned.frame.agenda.floor]
          rfl
      · rename_i spared
        refine ⟨task.stage, process, found, here, sameTask, ?_⟩
        unfold Agrees
        rw [stage]
        exact ⟨given _ alive, fun killed => absurd killed spared⟩
  | closing outcome =>
      rw [stage] at agrees
      obtain ⟨_, held⟩ := agrees
      rw [floor] at held
      cases held
  | announcing outcome sending =>
      exact stays (stage ▸ .announcing outcome sending)
  | reporting sending => exact stays (stage ▸ .reporting sending)
  | _ => exact stays (stage ▸ .over)

theorem Ended.frame {other : TaskId} {pid : Pid}
    (frame : Frame other (fun _ => False) world after)
    (register : ∀ id, after.waiter.Registers id → world.waiter.Registers id)
    (here : world.processes.all[pid]? = some process)
    (ended : Ended pid own outcome process world) :
    after.processes.all[pid]? = some process ∧
      Ended pid own outcome process after := by
  obtain ⟨next, there, carried⟩ := frame.processes pid process here
  have same : next = process := by
    rcases carried.kept.resolve_left id with same | ⟨running, _⟩
    · exact same
    · rw [ended.state] at running
      cases running
  subst same
  refine ⟨there, ?_, ended.state, ?_, ended.waits, ended.deadlines, ?_⟩
  · rw [frame.live]
    exact ended.gone
  · rw [World.endings, frame.ends]
    exact ended.endings
  · exact fun id registered =>
      ended.registers id (register id registered)

theorem stands_close (known : position < world.tasks.length)
    (here : world.processes.all[task.pid]? = some process)
    (sameTask : process.task = position)
    (ended : Ended task.pid own outcome process world) :
    Stands position task own (world.close position task outcome) := by
  rw [close_eq]
  split
  · refine stands_setStage known .over here sameTask ⟨outcome, ?_⟩
    exact ended.of_same rfl rfl rfl
  · rename_i aftermath _
    have rest : ∃ cooldowns,
        world.giveBack aftermath.reservation outcome =
          { world with cooldowns } := by
      unfold giveBack
      split
      · split <;> exact ⟨_, rfl⟩
      · exact ⟨_, rfl⟩
    obtain ⟨cooldowns, rest⟩ := rest
    rw [rest]
    unfold announce
    split
    · rename_i notice _
      have frame : Frame position (fun _ => False)
          { world with cooldowns }
          (startNotice position aftermath.chat notice
            { world with cooldowns }).2 := .startNotice _ _
      have given : Ended task.pid own outcome process
          { world with cooldowns } := ended.of_same rfl rfl rfl
      obtain ⟨there, noticed⟩ := given.frame frame (fun _ => id) here
      have stillKnown : position < (startNotice position aftermath.chat
          notice { world with cooldowns }).2.tasks.length := known
      exact stands_setStage stillKnown (.announcing outcome _) there
        sameTask (noticed.of_same rfl rfl rfl)
    · have stillKnown :
          position < ({ world with cooldowns } : World).tasks.length := known
      refine stands_setStage stillKnown .over here sameTask ⟨outcome, ?_⟩
      exact ended.of_same rfl rfl rfl

theorem stands_startReport (known : position < world.tasks.length)
    (here : world.processes.all[task.pid]? = some process)
    (sameTask : process.task = position)
    (ended : Ended task.pid own outcome process world) :
    Stands position task own (world.startReport position task outcome) := by
  unfold startReport
  split
  · rename_i _ _ fault chat _
    have frame : Frame position (fun _ => False) world
        (world.startMessage position chat
          (world.reportText task.pid fault)).2 := .startMessage _ _
    obtain ⟨there, told⟩ := ended.frame frame (fun _ => id) here
    have stillKnown : position < (world.startMessage position chat
        (world.reportText task.pid fault)).2.tasks.length := known
    exact stands_setStage stillKnown (.reporting _) there sameTask
      ⟨_, told.of_same rfl rfl rfl⟩
  · exact stands_setStage known .over here sameTask
      ⟨_, ended.of_same rfl rfl rfl⟩

theorem stands_finishMessage (known : position < world.tasks.length)
    (sending : Sending)
    (here : world.processes.all[task.pid]? = some process)
    (sameTask : process.task = position)
    (ended : Ended task.pid own outcome process world) :
    Stands position task own
      ((world.finishMessage sending).2.setStage position task .over) := by
  have frame : Frame position (fun _ => False) world
      (world.finishMessage sending).2 := .finishMessage sending
  have waiter : (world.finishMessage sending).2.waiter = world.waiter := by
    unfold finishMessage
    split <;> rfl
  obtain ⟨there, told⟩ :=
    ended.frame frame (fun id registered => waiter ▸ registered) here
  have stillKnown :
      position < (world.finishMessage sending).2.tasks.length := by
    rw [frame.tasks]
    exact known
  exact stands_setStage stillKnown .over there sameTask
    ⟨outcome, told.of_same rfl rfl rfl⟩

/-- The task has the floor. -/
theorem stands_work (known : position < world.tasks.length)
    (found : world.tasks[position]? = some (.process task))
    (floor : world.agenda.floor = some position)
    (gains : Gains own grown world.waiter)
    (here : world.processes.all[task.pid]? = some process)
    (sameTask : process.task = position)
    (agrees : Agrees position task own process world) :
    Stands position task grown (world.workProcess position task) := by
  have yields : task.stage.Dealt →
      Stands position task grown world.yieldFloor := fun dealt =>
    ⟨task.stage, process, found, here, sameTask,
      agrees.of_dealt dealt gains rfl rfl rfl⟩
  unfold Agrees at agrees
  unfold workProcess
  cases stage : task.stage with
  | unbuilt body =>
      rw [stage] at agrees
      obtain ⟨alive, waiting⟩ := agrees
      refine ⟨task.stage, process, found, here, sameTask, ?_⟩
      unfold Agrees
      rw [stage]
      exact ⟨(alive.grow gains).of_same rfl rfl rfl, waiting⟩
  | body activity =>
      rw [stage] at agrees
      obtain ⟨alive, waiting⟩ := agrees
      have works := Works.stepActivity (actorOf position task) activity world
      obtain ⟨next, there, nextTask, nextAlive, woken⟩ :=
        alive.works works gains here
      have wokenThen : next.killed = true → position ∈
          (world.stepActivity (actorOf position task)
            activity).2.agenda.ready := by
        intro killed
        have stays :=
          woken (fun before => sameTask.symm ▸ waiting before) killed
        rwa [sameTask] at stays
      have nextPosition := nextTask.trans sameTask
      have stillKnown : position < (world.stepActivity
          (actorOf position task) activity).2.tasks.length := by
        rw [works.frame.tasks]
        exact known
      have stillFloor := works.frame.agenda.floor.trans floor
      dsimp only
      generalize world.stepActivity (actorOf position task) activity = result
        at there nextAlive wokenThen stillKnown stillFloor
      obtain ⟨progress, after⟩ := result
      cases progress with
      | done outcome =>
          exact stands_conclude stillKnown stillFloor there nextPosition
            nextAlive
      | go point =>
          exact stands_setStage stillKnown (.body point) there nextPosition
            ⟨nextAlive.of_same rfl rfl rfl, wokenThen⟩
      | blocked point =>
          exact ⟨.body point, next, List.getElem?_set_self stillKnown, there,
            nextPosition, nextAlive.of_same rfl rfl rfl, wokenThen⟩
  | closing outcome =>
      rw [stage] at agrees
      exact stands_close known here sameTask (agrees.1.grow gains)
  | announcing outcome sending =>
      rw [stage] at agrees
      dsimp only
      split
      · exact stands_startReport known here sameTask (agrees.grow gains)
      · exact yields (stage ▸ .announcing outcome sending)
  | reporting sending =>
      rw [stage] at agrees
      obtain ⟨outcome, ended⟩ := agrees
      dsimp only
      split
      · exact stands_finishMessage known sending here sameTask
          (ended.grow gains)
      · exact yields (stage ▸ .reporting sending)
  | _ => exact yields (stage ▸ .over)

end Own

end World

end Switchboard
