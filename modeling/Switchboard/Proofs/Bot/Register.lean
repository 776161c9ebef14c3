import Switchboard.Proofs.Bot.Stages

/-!
# The register of processes

A launch puts a process on the register, and the end of its body takes it off.
How a body ends is read off the task whose turn it is; what the end of a
process leads to, the call of its exit handler, is the very next small step.
-/

namespace Switchboard

/-- The outcome of a body that has nothing left to do. -/
def Activity.end? : Activity → Option Outcome
  | .running (.result ()) => some (.ok ())
  | .running (.fail error) => some (.error error)
  | .running (.panic payload) => some (.error payload.toError)
  | _ => none

namespace Stage

/-- The outcome of a body that ends when its task gets the floor: it panics
while it is built, or it has been killed. -/
def endOnTurn? (killed : Bool) : Stage → Option Outcome
  | .unbuilt (.error payload) => some (.error payload.toError)
  | .unbuilt (.ok _) => if killed then some (.error .interrupted) else none
  | .body _ => if killed then some (.error .interrupted) else none
  | _ => none

/-- The outcome of a body that ends while its task has the floor. -/
def endAtWork? : Stage → Option Outcome
  | .body activity => activity.end?
  | _ => none

def closing? : Stage → Option Outcome
  | .closing outcome => some outcome
  | _ => none

theorem closing?_of_ne {stage : Stage}
    (notClosing : ∀ outcome, stage ≠ .closing outcome) :
    stage.closing? = none := by
  cases stage with
  | closing outcome => exact absurd rfl (notClosing outcome)
  | _ => rfl

/-- Why the body of a process ends, and the outcome that the process is
given. -/
inductive Ends (killed : Bool) : Stage → Outcome → Prop where
  | builtInPanic (payload : PanicPayload) :
      Ends killed (.unbuilt (.error payload)) (.error payload.toError)
  | killedUnbuilt (program : Program Unit) : killed = true →
      Ends killed (.unbuilt (.ok program)) (.error .interrupted)
  | givenUp (activity : Activity) : killed = true →
      Ends killed (.body activity) (.error .interrupted)
  | returns : Ends killed (.body (.running (.result ()))) (.ok ())
  | fails (error : CommandError) :
      Ends killed (.body (.running (.fail error))) (.error error)
  | panics (payload : PanicPayload) :
      Ends killed (.body (.running (.panic payload)))
        (.error payload.toError)

theorem Ends.hasBody {stage : Stage} {killed : Bool} {outcome : Outcome}
    (ends : stage.Ends killed outcome) : stage.HasBody := by
  cases ends with
  | builtInPanic | killedUnbuilt => exact .unbuilt _
  | _ => exact .body _

theorem Ends.of_turn {stage : Stage} {killed : Bool} {outcome : Outcome}
    (ends : stage.endOnTurn? killed = some outcome) :
    stage.Ends killed outcome := by
  cases stage with
  | unbuilt body =>
      cases body with
      | error payload =>
          cases ends
          exact .builtInPanic payload
      | ok program =>
          cases killed <;> cases ends
          exact .killedUnbuilt program rfl
  | body activity =>
      cases killed <;> cases ends
      exact .givenUp activity rfl
  | _ => cases ends

theorem Ends.of_work {stage : Stage} {killed : Bool} {outcome : Outcome}
    (ends : stage.endAtWork? = some outcome) : stage.Ends killed outcome := by
  cases stage with
  | body activity =>
      cases activity with
      | running program =>
          cases program with
          | result => cases ends; exact .returns
          | fail error => cases ends; exact .fails error
          | panic payload => cases ends; exact .panics payload
          | call request next => cases ends
      | _ => cases ends
  | _ => cases ends

end Stage

/-- How the state of a process can change at once. -/
inductive ProcessState.Moves : ProcessState → ProcessState → Prop where
  | stays (state : ProcessState) : Moves state state
  | killed : Moves .running .interrupted
  | ended {state : ProcessState} : state ≠ .done → Moves state .done

theorem ProcessState.Moves.trans {first second third : ProcessState}
    (one : first.Moves second) (two : second.Moves third) :
    first.Moves third := by
  cases one with
  | stays => exact two
  | killed =>
      cases two with
      | stays => exact .killed
      | ended => exact .ended (by simp)
  | ended alive =>
      cases two with
      | stays => exact .ended alive
      | ended again => exact absurd rfl again

theorem Process.Continues.moves {process next : Process}
    (continues : process.Continues next) :
    process.state.Moves next.state := by
  rcases continues.life with ⟨same, _⟩ | ⟨running, interrupted, _⟩
  · rw [same]
    exact .stays _
  · rw [running, interrupted]
    exact .killed

/-- What is recorded of the end of a process, less the moment. -/
def ProcessEnd.verdict (ending : ProcessEnd) : Pid × Outcome :=
  (ending.pid, ending.outcome)

namespace World

def processTask? (position : TaskId) (world : World) : Option ProcessTask :=
  match world.tasks[position]? with
  | some (.process task) => some task
  | _ => none

/-- The body that ends in the next small step, and how it ends. -/
def ended? (world : World) : Option (Pid × Outcome) :=
  match world.agenda.floor with
  | some position => (world.processTask? position).bind fun task =>
      task.stage.endAtWork?.map (task.pid, ·)
  | none => (world.agenda.ready.head?.bind (world.processTask? ·)).bind
      fun task => (task.stage.endOnTurn? (world.isKilled task.pid)).map
        (task.pid, ·)

/-- The process whose exit handler is called in the next small step, with the
outcome that the handler is given. -/
def owed? (world : World) : Option (Pid × Outcome) :=
  (world.agenda.floor.bind (world.processTask? ·)).bind fun task =>
    task.stage.closing?.map (task.pid, ·)

/-- What something that happens does to the register, given who is launched,
whose body ends and whose exit handler is called. -/
structure Logged (launched : Option Pid) (ended exited : Option (Pid × Outcome))
    (before after : World) : Prop where
  live : after.processes.live =
    before.processes.live.filter (fun pid => !ended.any (·.1 = pid)) ++
      launched.toList
  numbers : List.range after.processes.all.length =
    List.range before.processes.all.length ++ launched.toList
  ends : after.ends.map ProcessEnd.verdict =
    before.ends.map ProcessEnd.verdict ++ ended.toList
  owed : before.owed?.toList ++ ended.toList =
    exited.toList ++ after.owed?.toList
  processes : ∀ (pid : Pid) (process : Process),
    before.processes.all[pid]? = some process →
      ∃ next, after.processes.all[pid]? = some next ∧
        process.state.Moves next.state
  fresh : ∀ pid ∈ launched, ∃ process,
    after.processes.all[pid]? = some process ∧ process.state = .running

/-- The register and the record of ends stay as they are. -/
structure Spares (before after : World) : Prop where
  live : after.processes.live = before.processes.live
  numbers : after.processes.all.length = before.processes.all.length
  ends : after.ends = before.ends
  processes : ∀ (pid : Pid) (process : Process),
    before.processes.all[pid]? = some process →
      ∃ next, after.processes.all[pid]? = some next ∧
        process.state.Moves next.state

section

variable {made : TaskId → SubscriptionId → Prop} {world before after : World}
  {position other : TaskId} {task : ProcessTask} {outcome : Outcome}

theorem processTask?_of_found
    (found : world.tasks[position]? = some (.process task)) :
    world.processTask? position = some task := by
  rw [processTask?, found]

theorem processTask?_of_not_process (notProcess : ∀ task : ProcessTask,
      world.tasks[position]? ≠ some (.process task)) :
    world.processTask? position = none := by
  unfold processTask?
  split
  · rename_i task found
    exact absurd found (notProcess task)
  · rfl

theorem owed?_of_no_floor (floor : world.agenda.floor = none) :
    world.owed? = none := by
  rw [owed?, floor]
  rfl

theorem owed?_of_floor (floor : world.agenda.floor = some position)
    (found : world.tasks[position]? = some (.process task)) :
    world.owed? = task.stage.closing?.map (task.pid, ·) := by
  rw [owed?, floor]
  simp [processTask?_of_found found]

theorem owed?_of_not_process (floor : world.agenda.floor = some position)
    (notProcess : ∀ task : ProcessTask,
      world.tasks[position]? ≠ some (.process task)) :
    world.owed? = none := by
  rw [owed?, floor]
  simp [processTask?_of_not_process notProcess]

theorem owed?_of_ne_closing
    (floor : world.agenda.floor = none ∨ world.agenda.floor = some position)
    (found : world.tasks[position]? = some (.process task))
    (notClosing : ∀ outcome, task.stage ≠ .closing outcome) :
    world.owed? = none := by
  rcases floor with free | held
  · exact owed?_of_no_floor free
  · rw [owed?_of_floor held found, Stage.closing?_of_ne notClosing]
    rfl

theorem owed?_of_same (floor : after.agenda.floor = before.agenda.floor)
    (tasks : after.tasks = before.tasks) : after.owed? = before.owed? := by
  simp only [owed?, processTask?, floor, tasks]

theorem owed?_of_append {added : Task}
    (floor : after.agenda.floor = before.agenda.floor)
    (tasks : after.tasks = before.tasks ++ [added])
    (idle : ∀ task, added = .process task → task.stage.closing? = none) :
    after.owed? = before.owed? := by
  cases held : before.agenda.floor with
  | none =>
      rw [owed?_of_no_floor held, owed?_of_no_floor (floor.trans held)]
  | some position =>
      rcases Nat.lt_or_ge position before.tasks.length with known | beyond
      · have same : after.tasks[position]? = before.tasks[position]? := by
          rw [tasks, List.getElem?_append_left known]
        simp only [owed?, processTask?, floor, held, Option.bind_some, same]
      · have absent := List.getElem?_eq_none_iff.mpr beyond
        have nobody : before.owed? = none :=
          owed?_of_not_process held fun task found => by
            rw [absent] at found
            cases found
        rw [nobody]
        by_cases newcomer : ∃ task,
            after.tasks[position]? = some (.process task)
        · obtain ⟨task, found⟩ := newcomer
          have same : added = .process task := by
            rw [tasks, List.getElem?_append_right beyond,
              List.getElem?_singleton] at found
            split at found
            · exact Option.some.inj found
            · cases found
          rw [owed?_of_floor (floor.trans held) found, idle task same]
          rfl
        · exact owed?_of_not_process (floor.trans held)
            fun task found => newcomer ⟨task, found⟩

namespace Spares

theorem of_same (processes : after.processes = before.processes)
    (ends : after.ends = before.ends) : Spares before after where
  live := by rw [processes]
  numbers := by rw [processes]
  ends := ends
  processes := fun _ process here => ⟨process, processes ▸ here, .stays _⟩

theorem refl (world : World) : Spares world world := of_same rfl rfl

theorem trans {first second third : World} (one : Spares first second)
    (two : Spares second third) : Spares first third where
  live := two.live.trans one.live
  numbers := two.numbers.trans one.numbers
  ends := two.ends.trans one.ends
  processes := by
    intro pid process here
    obtain ⟨middle, there, begins⟩ := one.processes pid process here
    obtain ⟨last, found, goesOn⟩ := two.processes pid middle there
    exact ⟨last, found, begins.trans goesOn⟩

theorem of_frame {owns : Pid → Prop}
    (frame : Frame other owns before after) : Spares before after where
  live := frame.live
  numbers := frame.launched
  ends := frame.ends
  processes := by
    intro pid process here
    obtain ⟨next, there, carried⟩ := frame.processes pid process here
    exact ⟨next, there, carried.continues.moves⟩

theorem close (task : ProcessTask) (outcome : Outcome) (world : World) :
    Spares world (world.close position task outcome) := by
  rw [close_eq]
  split
  · exact of_same rfl rfl
  · rename_i aftermath _
    obtain ⟨cooldowns, rest⟩ :=
      giveBack_rest aftermath.reservation outcome world
    rw [rest]
    unfold announce
    split <;> exact of_same rfl rfl

theorem startReport (task : ProcessTask) (outcome : Outcome)
    (world : World) :
    Spares world (world.startReport position task outcome) := by
  unfold World.startReport
  split <;> exact of_same rfl rfl

theorem workNotice (stage : NoticeStage) (world : World) :
    Spares world (world.workNotice position stage) := by
  unfold World.workNotice
  split
  · exact of_same rfl rfl
  · split <;> exact of_same rfl rfl
  · exact of_same rfl rfl

end Spares

theorem Logged.of_spares {exited : Option (Pid × Outcome)}
    (spares : Spares before after)
    (owed : before.owed?.toList = exited.toList ++ after.owed?.toList) :
    Logged none none exited before after where
  live := by simp [spares.live]
  numbers := by simp [spares.numbers]
  ends := by simp [spares.ends]
  owed := by simpa using owed
  processes := spares.processes
  fresh := by simp

theorem Logged.quiet (spares : Spares before after)
    (owed : after.owed? = before.owed?) :
    Logged none none none before after :=
  .of_spares spares (by simp [owed])

theorem Logged.of_frame {owns : Pid → Prop}
    (frame : Frame other owns before after) :
    Logged none none none before after :=
  .quiet (.of_frame frame)
    (owed?_of_same frame.agenda.floor frame.tasks)

theorem stepActivity_of_end {activity : Activity}
    (ends : activity.end? = some outcome) (actor : Actor) (world : World) :
    world.stepActivity actor activity = (.done outcome, world) := by
  cases activity with
  | running program =>
      cases program with
      | call request next => cases ends
      | _ =>
          cases ends
          rfl
  | _ => cases ends

theorem stepActivity_of_no_end {activity : Activity}
    (goesOn : activity.end? = none) (actor : Actor) (world : World) :
    (world.stepActivity actor activity).1 ≠ .done outcome := by
  cases activity with
  | running program =>
      cases program with
      | call request next => simp [stepActivity]
      | _ => cases goesOn
  | _ =>
      simp only [stepActivity]
      split <;> simp

theorem close_owes_none (known : position < world.tasks.length)
    (floor : world.agenda.floor = some position) (task : ProcessTask)
    (outcome : Outcome) :
    (world.close position task outcome).owed? = none := by
  rw [close_eq]
  split
  · exact owed?_of_ne_closing (.inr floor) (List.getElem?_set_self known)
      (by simp)
  · rename_i aftermath _
    obtain ⟨cooldowns, rest⟩ :=
      giveBack_rest aftermath.reservation outcome world
    rw [rest]
    unfold announce
    split <;> exact owed?_of_ne_closing (.inr floor)
      (List.getElem?_set_self known) (by simp)

theorem startReport_owes_none (known : position < world.tasks.length)
    (floor : world.agenda.floor = some position) (task : ProcessTask)
    (outcome : Outcome) :
    (world.startReport position task outcome).owed? = none := by
  unfold startReport
  split <;> exact owed?_of_ne_closing (.inr floor)
    (List.getElem?_set_self known) (by simp)

/-- What a turn of the task of a process does to the register. -/
inductive Rounds (position : TaskId) (task : ProcessTask)
    (before after : World) : Prop where
  /-- The body ends, by itself or because it is given up. -/
  | ends (outcome : Outcome) (given : World) :
      before.ended? = some (task.pid, outcome) → Spares before given →
      given.agenda.floor = some position → given.tasks = before.tasks →
      after = given.conclude position task outcome →
      Rounds position task before after
  | goesOn : before.ended? = none → after.owed? = none →
      Spares before after → Rounds position task before after

namespace Rounds

theorem work (floor : world.agenda.floor = some position)
    (found : world.tasks[position]? = some (.process task)) :
    Rounds position task world (world.workProcess position task) := by
  have known := (List.getElem?_eq_some_iff.mp found).1
  have ended : world.ended? = task.stage.endAtWork?.map (task.pid, ·) := by
    rw [World.ended?, floor]
    simp [processTask?_of_found found]
  have yields : task.stage.endAtWork? = none →
      Rounds position task world world.yieldFloor := fun goesOn =>
    .goesOn (by rw [ended, goesOn]; rfl) (owed?_of_no_floor rfl)
      (.of_same rfl rfl)
  unfold workProcess
  cases stage : task.stage with
  | unbuilt body => exact yields (by rw [stage]; rfl)
  | body activity =>
      rw [stage] at ended
      cases ends : activity.end? with
      | some outcome =>
          dsimp only
          rw [stepActivity_of_end ends]
          exact .ends outcome world (by simp [ended, Stage.endAtWork?, ends])
            (.refl world) floor rfl rfl
      | none =>
          have frame : Frame position (· = task.pid) world _ :=
            (Works.stepActivity (actorOf position task) activity world).frame
          have neverEnds : ∀ outcome, (world.stepActivity
              (actorOf position task) activity).1 ≠ .done outcome :=
            fun outcome => stepActivity_of_no_end ends _ world
          have nobody : world.ended? = none := by
            simp [ended, Stage.endAtWork?, ends]
          dsimp only
          generalize world.stepActivity (actorOf position task) activity =
            result at frame neverEnds
          obtain ⟨progress, given⟩ := result
          have stillKnown : position < given.tasks.length := by
            rw [frame.tasks]
            exact known
          have spares : Spares world given := .of_frame frame
          cases progress with
          | done outcome => exact absurd rfl (neverEnds outcome)
          | go next =>
              refine .goesOn nobody (owed?_of_ne_closing
                (.inr (frame.agenda.floor.trans floor))
                (List.getElem?_set_self stillKnown) (by simp))
                (spares.trans (.of_same rfl rfl))
          | blocked next =>
              exact .goesOn nobody (owed?_of_no_floor rfl)
                (spares.trans (.of_same rfl rfl))
  | closing outcome =>
      exact .goesOn (by simp [ended, stage, Stage.endAtWork?])
        (close_owes_none known floor task outcome) (.close task outcome world)
  | announcing outcome sending =>
      dsimp only
      split
      · exact .goesOn (by simp [ended, stage, Stage.endAtWork?])
          (startReport_owes_none known floor task outcome)
          (.startReport task outcome world)
      · exact yields (by rw [stage]; rfl)
  | reporting sending =>
      dsimp only
      split
      · have frame : Frame position (fun _ => False) world
            (world.finishMessage sending).2 := .finishMessage sending
        have stillKnown :
            position < (world.finishMessage sending).2.tasks.length := by
          rw [frame.tasks]
          exact known
        have spares : Spares world (world.finishMessage sending).2 :=
          .of_frame frame
        exact .goesOn (by simp [ended, stage, Stage.endAtWork?])
          (owed?_of_ne_closing (.inr (frame.agenda.floor.trans floor))
            (List.getElem?_set_self stillKnown) (by simp))
          (spares.trans (.of_same rfl rfl))
      · exact yields (by rw [stage]; rfl)
  | _ => exact yields (by rw [stage]; rfl)

theorem enter {rest : List TaskId} (floor : world.agenda.floor = none)
    (ready : world.agenda.ready = position :: rest)
    (found : world.tasks[position]? = some (.process task))
    (notClosing : ∀ outcome, task.stage ≠ .closing outcome) :
    Rounds position task world
      ((world.giveFloor position rest).enterProcess position task) := by
  have known := (List.getElem?_eq_some_iff.mp found).1
  have ended : world.ended? = (task.stage.endOnTurn?
      (world.isKilled task.pid)).map (task.pid, ·) := by
    rw [World.ended?, floor, ready]
    simp [processTask?_of_found found]
  have given : Spares world (world.giveFloor position rest) :=
    .of_same rfl rfl
  have same : (world.giveFloor position rest).isKilled task.pid =
      world.isKilled task.pid := rfl
  have begins : task.stage.endOnTurn? (world.isKilled task.pid) = none →
      Rounds position task world (world.giveFloor position rest) :=
    fun goesOn => .goesOn (by rw [ended, goesOn]; rfl)
      (owed?_of_ne_closing (.inr rfl) found notClosing) given
  unfold enterProcess
  rw [same]
  cases stage : task.stage with
  | unbuilt body =>
      cases body with
      | error payload =>
          exact .ends _ (world.giveFloor position rest)
            (by simp [ended, stage, Stage.endOnTurn?]) given rfl rfl rfl
      | ok program =>
          dsimp only
          split
          · rename_i killed
            exact .ends _ (world.giveFloor position rest)
              (by simp [ended, stage, Stage.endOnTurn?, killed]) given rfl
              rfl rfl
          · rename_i spared
            exact .goesOn (by simp [ended, stage, Stage.endOnTurn?, spared])
              (owed?_of_ne_closing (.inr rfl) (List.getElem?_set_self known)
                (by simp)) (given.trans (.of_same rfl rfl))
  | body activity =>
      dsimp only
      split
      · rename_i killed
        have frame := (Works.abandon (actorOf position task) activity
          (world.giveFloor position rest)).frame
        exact .ends _ _ (by simp [ended, stage, Stage.endOnTurn?, killed])
          (given.trans (.of_frame frame)) frame.agenda.floor frame.tasks rfl
      · rename_i spared
        exact begins (by simp [stage, Stage.endOnTurn?, spared])
  | closing outcome => exact absurd stage (notClosing outcome)
  | _ => exact begins (by rw [stage]; rfl)

/-- The end of a body is logged, and it is owed to the exit handler. -/
theorem logged (found : before.tasks[position]? = some (.process task))
    (rounds : Rounds position task before after) :
    Logged none before.ended? before.owed? before after := by
  cases rounds with
  | goesOn nobody owes spares =>
      rw [nobody]
      exact .of_spares spares (by simp [owes])
  | ends outcome given ended spares floor tasks concluded =>
      subst concluded
      have concludes := concludes position task outcome given
      have frame : Frame position (· = task.pid) given
          (given.releaseGuards task.pid) := .releaseGuards (by rfl)
      have known : position < given.tasks.length := by
        rw [tasks]
        exact (List.getElem?_eq_some_iff.mp found).1
      have stands : (given.conclude position task outcome).tasks[position]? =
          some (.process { task with stage := .closing outcome }) := by
        rw [concludes.tasks]
        exact List.getElem?_set_self known
      have owed := owed?_of_floor
        ((congrArg Agenda.floor concludes.agenda).trans floor) stands
      rw [ended]
      refine ⟨?_, ?_, ?_, ?_, ?_, by simp⟩
      · rw [concludes.live, spares.live]
        simp [eq_comm]
      · have same : (given.conclude position task
            outcome).processes.all.length = before.processes.all.length :=
          (ProcessTable.length_modify _ _ _).trans
            (frame.launched.trans spares.numbers)
        simp [same]
      · change ((given.releaseGuards task.pid).ends ++ [_]).map _ = _
        rw [frame.ends, spares.ends]
        simp [ProcessEnd.verdict]
      · rw [owed]
        rfl
      · intro pid process here
        obtain ⟨middle, there, begins⟩ :=
          (spares.trans (.of_frame frame)).processes pid process here
        have last : (given.conclude position task
            outcome).processes.all[pid]? = _ :=
          ProcessTable.all_modify task.pid pid _ _
        rw [last, there]
        split
        · refine ⟨_, rfl, ?_⟩
          by_cases done : middle.state = .done
          · exact done ▸ begins
          · exact begins.trans (.ended done)
        · exact ⟨middle, rfl, begins⟩

end Rounds

/-- Whoever is not the task of a process has no body to end. -/
theorem Logged.notice (notProcess : ∀ task : ProcessTask,
      world.tasks[position]? ≠ some (.process task))
    (mover : world.mover? = some position) :
    Logged none world.ended? world.owed? world (world.happen .work) := by
  have nobody := processTask?_of_not_process notProcess
  obtain ⟨_, stillNotProcess, _⟩ := InStep.notice_turn notProcess mover
  obtain ⟨floor, worked⟩ | ⟨floor, rest, entered⟩ := turn_cases mover
  · have ended : world.ended? = none := by
      simp [ended?, floor, nobody]
    have owes := owed?_of_not_process floor notProcess
    have spares : Spares world (world.work position) ∧
        ((world.work position).agenda.floor = none ∨
          (world.work position).agenda.floor = some position) := by
      unfold World.work
      split
      · rename_i task found
        exact absurd found (notProcess task)
      · rename_i stage _
        refine ⟨.workNotice stage world, ?_⟩
        unfold workNotice
        split
        · exact .inr floor
        · split
          · exact .inr floor
          · exact .inl rfl
        · exact .inl rfl
      · exact ⟨.of_same rfl rfl, .inl rfl⟩
    rw [worked] at stillNotProcess ⊢
    rw [ended, owes]
    refine .quiet spares.1 ?_
    rw [owes]
    rcases spares.2 with free | held
    · exact owed?_of_no_floor free
    · exact owed?_of_not_process held stillNotProcess
  · have ended : world.ended? = none := by
      have ready : world.agenda.ready.head? = some position := by
        simpa [mover?, floor] using mover
      simp [ended?, floor, ready, nobody]
    have owes := owed?_of_no_floor floor
    have same : (world.giveFloor position rest).enter position =
        world.giveFloor position rest := by
      unfold World.enter
      split
      · rename_i task found
        exact absurd found (notProcess task)
      · rfl
    rw [entered, same, ended, owes]
    refine .quiet (.of_same rfl rfl) ?_
    rw [owes]
    exact owed?_of_not_process rfl notProcess

/-- A small step takes a process off the register just if its body ends in
it, and then its exit handler is owed the outcome. -/
theorem Orderly.logged_work (orderly : Orderly made world) :
    Logged none world.ended? world.owed? world (world.happen .work) := by
  cases mover : world.mover? with
  | none =>
      cases floor : world.agenda.floor with
      | some other => simp [mover?, floor] at mover
      | none =>
          cases ready : world.agenda.ready with
          | cons other rest => simp [mover?, floor, ready] at mover
          | nil =>
              have nobody : world.ended? = none := by
                simp [ended?, floor, ready]
              rw [happen_work_of_idle floor ready, nobody,
                owed?_of_no_floor floor]
              exact .quiet (.refl world) rfl
  | some position =>
      by_cases started :
          ∃ task, world.tasks[position]? = some (.process task)
      · obtain ⟨task, found⟩ := started
        cases floor : world.agenda.floor with
        | some other =>
            have same : other = position := by simpa [mover?, floor] using mover
            subst same
            rw [happen_work_of_floor floor]
            simp only [World.work, found]
            exact (Rounds.work floor found).logged found
        | none =>
            cases ready : world.agenda.ready with
            | nil => simp [mover?, floor, ready] at mover
            | cons other rest =>
                have same : other = position := by
                  simpa [mover?, floor, ready] using mover
                subst same
                have stillFound : (world.giveFloor other rest).tasks[other]? =
                    some (.process task) := found
                rw [happen_work_of_ready floor ready]
                simp only [World.enter, stillFound]
                refine (Rounds.enter floor ready found ?_).logged found
                intro outcome stage
                obtain ⟨_, _, _, agrees⟩ := orderly.tasks other task found
                unfold Agrees at agrees
                rw [stage, floor] at agrees
                cases agrees.2
      · exact .notice (fun task found => started ⟨task, found⟩) mover

theorem Logged.launch (command : CommandDef) (event : Event) (chat : Chat)
    (body : Except PanicPayload (Program Unit))
    (aftermath : Option Aftermath) :
    Logged (some (world.launch command event chat body aftermath).1) none
      none world (world.launch command event chat body aftermath).2 := by
  let process : Process :=
    { command, origin := event.origin, startedAt := world.wallClock,
      task := world.tasks.length }
  have processes : (world.launch command event chat body
      aftermath).2.processes = (world.processes.add process).2 := rfl
  have owed : (world.launch command event chat body aftermath).2.owed? =
      world.owed? := by
    refine owed?_of_append (Agenda.Extends.wake _ _).floor rfl ?_
    intro task same
    cases same
    rfl
  refine ⟨?_, ?_, ?_, by simp [owed], ?_, ?_⟩
  · rw [processes]
    simp [ProcessTable.add, World.launch]
  · rw [processes]
    simp [ProcessTable.add, World.launch, List.range_succ]
  · simp [World.launch, World.spawn, World.wake]
  · intro pid former here
    have known := (List.getElem?_eq_some_iff.mp here).1
    exact ⟨former, (List.getElem?_append_left known).trans here, .stays _⟩
  · intro pid launched
    obtain rfl := Option.mem_some_iff.mp launched
    exact ⟨process, List.getElem?_concat_length, rfl⟩

/-- The answer to an event says whether a process is launched. -/
theorem receive_launches (event : Event) (world : World) :
    (∃ (given : World) (entry : CatalogueEntry Handler) (arguments : String)
        (chat : Chat) (reservation : Option Reservation),
      Spares world given ∧ given.owed? = world.owed? ∧
        world.receive event =
          given.launchCommand entry event arguments chat reservation) ∨
      ((∀ pid, (world.receive event).1 ≠ .launched pid) ∧
        Spares world (world.receive event).2 ∧
          (world.receive event).2.owed? = world.owed?) := by
  have frame : Frame 0 (fun _ => False) world (world.dispatch event).2 :=
    .dispatch event
  have spares : Spares world (world.dispatch event).2 := .of_frame frame
  have owed : (world.dispatch event).2.owed? = world.owed? :=
    owed?_of_same frame.agenda.floor frame.tasks
  have told : ∀ (given : World) (chat : Chat) (text : String),
      Spares world given → given.owed? = world.owed? →
        Spares world (given.tell chat text) ∧
          (given.tell chat text).owed? = world.owed? := by
    intro given chat text spares owed
    refine ⟨spares.trans (.of_same rfl rfl), Eq.trans ?_ owed⟩
    refine owed?_of_append (Agenda.Extends.wake _ _).floor rfl ?_
    intro task same
    cases same
  unfold receive
  split
  · exact .inr ⟨by simp, .refl world, rfl⟩
  · dsimp only
    generalize (world.dispatch event).2 = offered at spares owed
    split
    · unfold route
      split
      · exact .inr ⟨by simp, spares, owed⟩
      · split
        · exact .inr ⟨by simp, spares, owed⟩
        · split
          · exact .inr ⟨by simp, told _ _ _ spares owed⟩
          · rename_i entry _
            unfold invoke
            split
            · exact .inr ⟨by simp, told _ _ _ spares owed⟩
            · obtain ⟨admission, cooldowns, acquired⟩ :=
                acquire_rest entry.definition event.origin offered
              have asked : Spares world { offered with cooldowns } :=
                spares.trans (.of_same rfl rfl)
              have stillOwed :
                  ({ offered with cooldowns } : World).owed? = world.owed? :=
                owed
              rw [acquired]
              cases admission with
              | limited remaining =>
                  exact .inr ⟨by simp, told _ _ _ asked stillOwed⟩
              | uncounted =>
                  exact .inl ⟨_, _, _, _, _, asked, stillOwed, rfl⟩
              | reserved reservation =>
                  exact .inl ⟨_, _, _, _, _, asked, stillOwed, rfl⟩
              | beyond => exact .inr ⟨by simp, asked, stillOwed⟩
    · exact .inr ⟨by simp, spares, owed⟩

theorem Logged.after_spares {given : World} {launched : Option Pid}
    {ended exited : Option (Pid × Outcome)} (spares : Spares before given)
    (owed : given.owed? = before.owed?)
    (logged : Logged launched ended exited given after) :
    Logged launched ended exited before after where
  live := by rw [logged.live, spares.live]
  numbers := by rw [logged.numbers, spares.numbers]
  ends := by rw [logged.ends, spares.ends]
  owed := by rw [← owed, logged.owed]
  processes := by
    intro pid process here
    obtain ⟨middle, there, begins⟩ := spares.processes pid process here
    obtain ⟨next, found, goesOn⟩ := logged.processes pid middle there
    exact ⟨next, found, begins.trans goesOn⟩
  fresh := logged.fresh

end

end World

def Routed.launched? : Routed → Option Pid
  | .launched pid => some pid
  | _ => none

namespace Episode

/-- The process that is launched. -/
def launched? : Episode → Option Pid
  | ⟨before, .launch command event chat body⟩ =>
    some (before.launch command event chat body none).1
  | ⟨before, .receive event⟩ => (before.receive event).1.launched?
  | _ => none

/-- The process whose body ends, and how it ends. -/
def ended? : Episode → Option (Pid × Outcome)
  | ⟨before, .work⟩ => before.ended?
  | _ => none

/-- The process whose exit handler is called, and the outcome it is given. -/
def exited? : Episode → Option (Pid × Outcome)
  | ⟨before, .work⟩ => before.owed?
  | _ => none

end Episode

namespace World

variable {made : TaskId → SubscriptionId → Prop} {world : World}

/-- Whatever happens is logged. -/
theorem Orderly.logged (orderly : Orderly made world)
    (occurrence : Occurrence) :
    Logged (Episode.launched? ⟨world, occurrence⟩)
      (Episode.ended? ⟨world, occurrence⟩)
      (Episode.exited? ⟨world, occurrence⟩) world
      (world.happen occurrence) := by
  have framed : ∀ {after : World}, Frame 0 (fun _ => False) world after →
      Logged none none none world after := .of_frame
  cases occurrence with
  | work => exact orderly.logged_work
  | pass span =>
      exact .quiet (.of_same rfl rfl)
        (owed?_of_same (Agenda.Extends.wakeAll _ _).floor rfl)
  | launch command event chat body => exact .launch command event chat body _
  | receive event =>
      rcases receive_launches event world with
        ⟨given, entry, arguments, chat, reservation, spares, owed, received⟩ |
          ⟨refused, spares, owed⟩
      · have launched : Logged _ none none given _ :=
          .launch entry.definition event chat (.ok (entry.handler
            (given.invocationOf given.processes.all.length event arguments)))
            (some ⟨chat, reservation⟩)
        change Logged (world.receive event).1.launched? none none world
          (world.receive event).2
        rw [received]
        exact launched.after_spares spares owed
      · have nobody : (world.receive event).1.launched? = none := by
          cases answer : (world.receive event).1 with
          | launched pid => exact absurd answer (refused pid)
          | _ => rfl
        change Logged (world.receive event).1.launched? none none world
          (world.receive event).2
        rw [nobody]
        exact .quiet spares owed
  | dispatch event => exact framed (.dispatch event)
  | interrupt pid => exact framed (.interrupt pid)
  | interruptHeld pid => exact framed (.interruptHeld pid)
  | lift pid => exact framed (.lift pid)
  | liftHeld pid => exact framed (.liftHeld pid)
  | _ => exact .quiet (.of_same rfl rfl) (owed?_of_same rfl rfl)

end World

end Switchboard
