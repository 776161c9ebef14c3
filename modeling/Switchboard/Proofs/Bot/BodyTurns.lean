import Switchboard.Proofs.Bot.ProcessPersistence
import Switchboard.Proofs.Bot.Register

/-!
# The turn of a body

What the turn of a task comes to while its body works: the body takes a step
and keeps the floor, or finds nothing to do and yields it, or ends; or the task
has just got the floor, and if its process has been killed meanwhile, the body
is given up where it stands.  Before its body is built and after it has ended
a task touches neither subscriptions nor processes, but for the end itself.
-/

namespace Switchboard.World

/-- What the turn of a task comes to whose body stands at an activity. -/
inductive Stride (position : TaskId) (task : ProcessTask)
    (activity : Activity) (world : World) : World → Prop where
  | steps {next : Activity} {middle : World} :
      world.agenda.floor = some position →
      world.stepActivity (actorOf position task) activity =
        (.go next, middle) →
      Stride position task activity world
        (middle.setStage position task (.body next))
  | rests {next : Activity} {middle : World} :
      world.agenda.floor = some position →
      world.stepActivity (actorOf position task) activity =
        (.blocked next, middle) →
      Stride position task activity world
        (middle.setStage position task (.body next)).yieldFloor
  | ends {outcome : Outcome} :
      world.agenda.floor = some position → activity.end? = some outcome →
      Stride position task activity world
        (world.conclude position task outcome)
  | enters {rest : List TaskId} :
      world.agenda.floor = none → world.isKilled task.pid = false →
      Stride position task activity world (world.giveFloor position rest)
  | givenUp {rest : List TaskId} :
      world.agenda.floor = none → world.isKilled task.pid = true →
      Stride position task activity world
        (((world.giveFloor position rest).abandon (actorOf position task)
          activity).conclude position task (.error .interrupted))

/-- Everything but the agenda, the gateway, the cooldowns and one task is what
it was, and no identity has left a room. -/
structure Tells (position : TaskId) (task : ProcessTask) (stage : Stage)
    (before after : World) : Prop where
  tasks : after.tasks =
    before.tasks.set position (.process { task with stage })
  waiter : after.waiter = before.waiter
  processes : after.processes = before.processes
  config : after.config = before.config
  commands : after.commands = before.commands
  deeds : ∀ deed ∈ after.deeds, deed ∈ before.deeds ∨ deed.act.isLeave = false

/-- What the turn of a task comes to that has no body: not yet, or not any
more. -/
inductive Passage (position : TaskId) (task : ProcessTask) (world : World) :
    World → Prop where
  | fails {rest : List TaskId} (outcome : Outcome) :
      (∃ body, task.stage = .unbuilt body) →
      Passage position task world
        ((world.giveFloor position rest).conclude position task outcome)
  | builds {rest : List TaskId} {program : Program Unit} :
      task.stage = .unbuilt (.ok program) →
      Passage position task world
        ((world.giveFloor position rest).setStage position task
          (.body (.running program)))
  | tells {stage : Stage} {after : World} :
      stage = task.stage ∨ stage.Dealt → Tells position task stage world after →
      Passage position task world after

/-- What the turn of a task comes to: that of a process with a body, that of
one without, or that of a notice, which tells people something at most. -/
inductive Motion (position : TaskId) (world after : World) : Prop where
  | body {task : ProcessTask} {activity : Activity} :
      world.activity? position = some (task, activity) →
      Stride position task activity world after →
      Motion position world after
  | bodiless {task : ProcessTask} :
      world.tasks[position]? = some (.process task) →
      Passage position task world after →
      Motion position world after
  | notice :
      (∀ task : ProcessTask,
        world.tasks[position]? ≠ some (.process task)) →
      (∀ task : ProcessTask,
        after.tasks[position]? ≠ some (.process task)) →
      after.waiter = world.waiter → after.config = world.config →
      Discreet world after → Motion position world after

/-- How a body has come in its turn to where it stands then. -/
inductive Arrival (position : TaskId) (task : ProcessTask)
    (activity : Activity) (world : World) : Prop where
  | stood : world.activity? position = some (task, activity) →
      Arrival position task activity world
  | steps {before : ProcessTask} {earlier : Activity} {middle : World} :
      world.activity? position = some (before, earlier) →
      actorOf position before = actorOf position task →
      world.agenda.floor = some position →
      world.stepActivity (actorOf position before) earlier =
        (.go activity, middle) →
      world.happen .work = middle.setStage position before (.body activity) →
      Arrival position task activity world
  | rests {before : ProcessTask} {earlier : Activity} {middle : World} :
      world.activity? position = some (before, earlier) →
      actorOf position before = actorOf position task →
      world.stepActivity (actorOf position before) earlier =
        (.blocked activity, middle) →
      Arrival position task activity world
  | starts {program : Program Unit} : activity = .running program →
      Arrival position task activity world

section

variable {world after : World} {position : TaskId} {task : ProcessTask}
  {activity next : Activity}

theorem activity?_of_stage
    (found : world.tasks[position]? = some (.process task))
    (stage : task.stage = .body activity) :
    world.activity? position = some (task, activity) := by
  rw [activity?, found, Option.bind_some, Task.activity?, stage]

theorem activity?_setStage (known : position < world.tasks.length) :
    (world.setStage position task (.body activity)).activity? position =
      some ({ task with stage := .body activity }, activity) :=
  activity?_of_stage (List.getElem?_set_self known) rfl

theorem activity?_conclude (known : position < world.tasks.length)
    (outcome : Outcome) :
    (world.conclude position task outcome).activity? position = none := by
  rw [activity?, (concludes position task outcome world).tasks,
    List.getElem?_set_self known]
  rfl

theorem activity?_stepped
    (stands : world.activity? position = some (task, activity))
    (next : Activity) :
    ((world.stepActivity (actorOf position task) activity).2.setStage position
        task (.body next)).activity? position =
      some ({ task with stage := .body next }, next) := by
  have frame := (Works.stepActivity (actorOf position task) activity
    world).frame
  apply activity?_setStage
  rw [frame.tasks]
  exact (List.getElem?_eq_some_iff.mp (activity?_eq_some stands).1).1

theorem activity?_givenUp
    (stands : world.activity? position = some (task, activity))
    (rest : List TaskId) (outcome : Outcome) :
    (((world.giveFloor position rest).abandon (actorOf position task)
      activity).conclude position task outcome).activity? position = none := by
  have frame := (Works.abandon (actorOf position task) activity
    (world.giveFloor position rest)).frame
  apply activity?_conclude
  rw [frame.tasks]
  exact (List.getElem?_eq_some_iff.mp (activity?_eq_some stands).1).1

/-- Every turn of a task whose body works is one of these. -/
theorem stride (stands : world.activity? position = some (task, activity))
    (mover : world.mover? = some position) :
    Stride position task activity world (world.happen .work) := by
  obtain ⟨found, stage⟩ := activity?_eq_some stands
  obtain ⟨floor, worked⟩ | ⟨floor, rest, entered⟩ := turn_cases mover
  · have works : world.work position = world.workProcess position task := by
      simp only [work, found]
    rw [worked, works, workProcess, stage]
    dsimp only
    cases ending : activity.end? with
    | some outcome =>
        rw [stepActivity_of_end ending]
        exact .ends floor ending
    | none =>
        have goesOn := fun outcome => @stepActivity_of_no_end outcome _ ending
          (actorOf position task) world
        generalize stepped : world.stepActivity (actorOf position task)
          activity = result at goesOn
        obtain ⟨progress, middle⟩ := result
        cases progress with
        | done outcome => exact absurd rfl (goesOn outcome)
        | go next => exact .steps floor stepped
        | blocked next => exact .rests floor stepped
  · have given : (world.giveFloor position rest).tasks[position]? =
        some (.process task) := found
    have enters : (world.giveFloor position rest).enter position =
        (world.giveFloor position rest).enterProcess position task := by
      simp only [enter, given]
    rw [entered, enters, enterProcess, stage]
    dsimp only
    cases killed : world.isKilled task.pid with
    | true =>
        have killedThen :
            (world.giveFloor position rest).isKilled task.pid = true := killed
        rw [if_pos killedThen]
        exact .givenUp floor killed
    | false =>
        have aliveThen :
            ¬(world.giveFloor position rest).isKilled task.pid = true := by
          exact fun killedThen =>
            Bool.noConfusion (killed.symm.trans killedThen)
        rw [if_neg aliveThen]
        exact .enters floor killed

theorem happen_of_steps {next : Activity} {middle : World}
    (stands : world.activity? position = some (task, activity))
    (floor : world.agenda.floor = some position)
    (stepped : world.stepActivity (actorOf position task) activity =
      (.go next, middle)) :
    world.happen .work = middle.setStage position task (.body next) := by
  have turn := stride stands (mover?_of_floor floor)
  generalize world.happen .work = after at turn ⊢
  cases turn with
  | steps _ other =>
      cases stepped.symm.trans other
      rfl
  | rests _ other => cases stepped.symm.trans other
  | ends _ ending =>
      rw [stepActivity_of_end ending] at stepped
      cases stepped
  | enters freed | givenUp freed => cases floor.symm.trans freed

namespace Tells

theorem stays (found : world.tasks[position]? = some (.process task))
    (agenda : Agenda) :
    Tells position task task.stage world { world with agenda } where
  tasks := by
    have same : ({ task with stage := task.stage } : ProcessTask) = task := rfl
    rw [same]
    obtain ⟨known, here⟩ := List.getElem?_eq_some_iff.mp found
    rw [same, ← here]
    exact (List.set_getElem_self known).symm
  waiter := rfl
  processes := rfl
  config := rfl
  commands := rfl
  deeds := fun _ => .inl

theorem notes {moment : Nat} {act : Act} {stage : Stage}
    (tasks : after.tasks =
      world.tasks.set position (.process { task with stage }))
    (waiter : after.waiter = world.waiter)
    (processes : after.processes = world.processes)
    (config : after.config = world.config)
    (commands : after.commands = world.commands)
    (deeds : after.deeds = world.deeds ++ [⟨moment, position, act⟩])
    (leaves : act.isLeave = false) :
    Tells position task stage world after where
  tasks := tasks
  waiter := waiter
  processes := processes
  config := config
  commands := commands
  deeds := (Discreet.of_note processes deeds leaves).deeds

theorem silent {stage : Stage}
    (tasks : after.tasks =
      world.tasks.set position (.process { task with stage }))
    (waiter : after.waiter = world.waiter)
    (processes : after.processes = world.processes)
    (config : after.config = world.config)
    (commands : after.commands = world.commands)
    (deeds : after.deeds = world.deeds) :
    Tells position task stage world after where
  tasks := tasks
  waiter := waiter
  processes := processes
  config := config
  commands := commands
  deeds := fun _ member => .inl (deeds ▸ member)

end Tells

namespace Passage

theorem close (outcome : Outcome) :
    Passage position task world (world.close position task outcome) := by
  rw [close_eq]
  split
  · exact .tells (.inr .over) (.silent rfl rfl rfl rfl rfl rfl)
  · rename_i aftermath _
    obtain ⟨cooldowns, rest⟩ :=
      giveBack_rest aftermath.reservation outcome world
    rw [rest]
    unfold announce
    split
    · exact .tells (.inr (.announcing outcome _))
        (.notes rfl rfl rfl rfl rfl rfl rfl)
    · exact .tells (.inr .over) (.silent rfl rfl rfl rfl rfl rfl)

theorem startReport (outcome : Outcome) :
    Passage position task world
      (world.startReport position task outcome) := by
  unfold World.startReport
  split
  · exact .tells (.inr (.reporting _)) (.notes rfl rfl rfl rfl rfl rfl rfl)
  · exact .tells (.inr .over) (.silent rfl rfl rfl rfl rfl rfl)

end Passage

/-- Every turn of a task without a body is one of these. -/
theorem passage (found : world.tasks[position]? = some (.process task))
    (bodiless : ∀ activity, task.stage ≠ .body activity)
    (mover : world.mover? = some position) :
    Passage position task world (world.happen .work) := by
  have stays : ∀ agenda, Passage position task world { world with agenda } :=
    fun agenda => .tells (.inl rfl) (.stays found agenda)
  obtain ⟨floor, worked⟩ | ⟨floor, rest, entered⟩ := turn_cases mover
  · have works : world.work position = world.workProcess position task := by
      simp only [work, found]
    rw [worked, works, workProcess]
    cases stage : task.stage with
    | unbuilt body => exact stays _
    | body activity => exact absurd stage (bodiless activity)
    | closing outcome => exact .close outcome
    | announcing outcome sending =>
        dsimp only
        split
        · exact .startReport outcome
        · exact stays _
    | reporting sending =>
        dsimp only
        split
        · unfold finishMessage
          split <;>
            exact .tells (.inr .over) (.silent rfl rfl rfl rfl rfl rfl)
        · exact stays _
    | _ => exact stays _
  · have given : (world.giveFloor position rest).tasks[position]? =
        some (.process task) := found
    have enters : (world.giveFloor position rest).enter position =
        (world.giveFloor position rest).enterProcess position task := by
      simp only [enter, given]
    rw [entered, enters, enterProcess]
    cases stage : task.stage with
    | unbuilt body =>
        cases body with
        | error payload => exact .fails _ ⟨_, stage⟩
        | ok program =>
            dsimp only
            split
            · exact .fails _ ⟨_, stage⟩
            · exact .builds stage
    | body activity => exact absurd stage (bodiless activity)
    | _ => exact stays _

theorem discreet_notice (notProcess : ∀ task : ProcessTask,
      world.tasks[position]? ≠ some (.process task))
    (mover : world.mover? = some position) :
    (world.happen .work).config = world.config ∧
      Discreet world (world.happen .work) := by
  obtain ⟨_, worked⟩ | ⟨_, rest, entered⟩ := turn_cases mover
  · rw [worked]
    unfold work
    split
    · rename_i task found
      exact absurd found (notProcess task)
    · unfold workNotice
      split
      · exact ⟨rfl, .of_note rfl rfl rfl⟩
      · split <;> exact ⟨rfl, .of_same rfl rfl⟩
      · exact ⟨rfl, .of_same rfl rfl⟩
    · exact ⟨rfl, .of_same rfl rfl⟩
  · rw [entered]
    unfold enter
    split
    · rename_i task found
      exact absurd found (notProcess task)
    · exact ⟨rfl, .of_same rfl rfl⟩

theorem motion (mover : world.mover? = some position) :
    Motion position world (world.happen .work) := by
  by_cases started : ∃ task, world.tasks[position]? = some (.process task)
  · obtain ⟨task, found⟩ := started
    cases stands : world.activity? position with
    | some here => exact .body stands (stride stands mover)
    | none =>
        refine .bodiless found (passage found ?_ mover)
        intro activity stage
        cases stands.symm.trans (activity?_of_stage found stage)
  · have notProcess : ∀ task : ProcessTask,
        world.tasks[position]? ≠ some (.process task) :=
      fun task found => started ⟨task, found⟩
    obtain ⟨waiter, notLater, _⟩ := InStep.notice_turn notProcess mover
    obtain ⟨config, discreet⟩ := discreet_notice notProcess mover
    exact .notice notProcess notLater waiter config discreet

/-- Every body has come in one of these ways to where it stands. -/
theorem arrival (mover : world.mover? = some position)
    (stands : (world.happen .work).activity? position =
      some (task, activity)) :
    Arrival position task activity world := by
  obtain ⟨there, body⟩ := activity?_eq_some stands
  cases motion mover with
  | @body before earlier stood stride =>
      have known := (List.getElem?_eq_some_iff.mp
        (activity?_eq_some stood).1).1
      generalize reached : world.happen .work = later at stride stands
      cases stride with
      | @steps next middle floor stepped =>
          have set := activity?_stepped stood next
          rw [stepped] at set
          cases set.symm.trans stands
          exact .steps stood rfl floor stepped reached
      | @rests next middle floor stepped =>
          have set := activity?_stepped stood next
          rw [stepped] at set
          have same : (_, next) = (task, activity) :=
            Option.some.inj (set.symm.trans stands)
          cases same
          exact .rests stood rfl stepped
      | ends floor ending =>
          cases (activity?_conclude known _).symm.trans stands
      | enters => exact .stood stands
      | givenUp => cases (activity?_givenUp stood _ _).symm.trans stands
  | @bodiless before found passage =>
      have known := (List.getElem?_eq_some_iff.mp found).1
      generalize world.happen .work = later at passage stands there
      cases passage with
      | @fails rest =>
          have given :
              position < (world.giveFloor position rest).tasks.length := known
          cases (activity?_conclude given _).symm.trans stands
      | @builds rest program =>
          have set : ((world.giveFloor position rest).setStage position before
              (.body (.running program))).activity? position =
                some (_, .running program) := activity?_setStage known
          cases set.symm.trans stands
          exact .starts rfl
      | @tells stage _ told tells =>
          have here : later.tasks[position]? =
              some (.process { before with stage }) :=
            tells.tasks ▸ List.getElem?_set_self known
          cases here.symm.trans there
          rcases told with rfl | dealt
          · exact .stood (activity?_of_stage found body)
          · cases body
            cases dealt
  | notice _ notLater => exact absurd there (notLater task)

theorem happen_work_of_nobody (nobody : world.mover? = none) :
    world.happen .work = world := by
  have idle : world.agenda.floor = none ∧ world.agenda.ready = [] := by
    simpa [mover?] using nobody
  exact happen_work_of_idle idle.1 idle.2

end

end Switchboard.World
