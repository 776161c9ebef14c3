import Switchboard.Proofs.Bot.ProcessInvariant

/-!
# A kill is final

A process that is killed while its own body is not at work gets the floor
once more only to end: its body takes no further step, its outcome is that it
was interrupted, its use counts, and the room is told of nothing but the kill.
-/

namespace Switchboard

namespace Episode

/-- Somebody asks for a process to be killed and is told that it was
running. -/
inductive Accepts (pid : Pid) : Episode → Prop where
  | registered {before : World} :
      (before.interrupt pid).1 = true →
      Accepts pid ⟨before, .interrupt pid⟩
  | held {before : World} :
      (before.interruptHeld pid).1 = true →
      Accepts pid ⟨before, .interruptHeld pid⟩
  | body {before : World} {other : TaskId} {task : ProcessTask}
      {pids : List Pid} {next : List Pid × List Pid → Program Unit} :
      before.agenda.floor = some other →
      before.tasks[other]? = some (.process task) →
      task.stage = .body (.running (.call (.interruptAll pids) next)) →
      pid ∈ (before.interruptEach pids).1.1 →
      Accepts pid ⟨before, .work⟩

/-- The body of a task takes a step. -/
def StepsBody (position : TaskId) (episode : Episode) : Prop :=
  episode.occurrence = .work ∧
    episode.before.agenda.floor = some position ∧
      ∃ (task : ProcessTask) (activity : Activity),
        episode.before.tasks[position]? = some (.process task) ∧
          task.stage = .body activity

end Episode

/-- The body has not ended, and it has been or can be built. -/
inductive Stage.Open : Stage → Prop where
  | unbuilt (program : Program Unit) : Open (.unbuilt (.ok program))
  | body (activity : Activity) : Open (.body activity)

namespace World

/-- A process has been launched and not been killed. -/
def IsRunning (pid : Pid) (world : World) : Prop :=
  ∃ process, world.processes.all[pid]? = some process ∧
    process.state = .running

section

variable {made : TaskId → SubscriptionId → Prop} {before after world : World}
  {position : TaskId} {pid victim : Pid} {task : ProcessTask}
  {deeds : List Deed} {owns : Pid → Prop}

theorem IsRunning.of_frame {other : TaskId}
    (frame : Frame other owns before after)
    (running : IsRunning pid after) : IsRunning pid before := by
  obtain ⟨next, there, state⟩ := running
  have known : pid < before.processes.all.length := by
    rw [← frame.launched]
    exact (List.getElem?_eq_some_iff.mp there).1
  obtain ⟨same, found, carried⟩ := frame.processes pid
    before.processes.all[pid] (List.getElem?_eq_getElem known)
  cases there.symm.trans found
  refine ⟨_, List.getElem?_eq_getElem known, ?_⟩
  rcases carried.continues.life with ⟨sameState, _⟩ | ⟨_, struck, _⟩
  · exact sameState.symm.trans state
  · rw [state] at struck
    cases struck

theorem isKilled_of_frame {other : TaskId}
    (frame : Frame other owns before after)
    (killed : before.isKilled pid = true) : after.isKilled pid = true := by
  unfold isKilled at killed ⊢
  cases here : before.processes.all[pid]? with
  | none =>
      rw [here] at killed
      cases killed
  | some process =>
      rw [here] at killed
      obtain ⟨next, there, carried⟩ := frame.processes pid process here
      rw [there]
      exact carried.continues.killed_of_killed killed

theorem interruptHeld_accepted
    (accepted : (world.interruptHeld pid).1 = true) :
    IsRunning pid world ∧ (world.interruptHeld pid).2.isKilled pid = true := by
  unfold interruptHeld at accepted ⊢
  cases here : world.processes.all[pid]? with
  | none =>
      rw [here] at accepted
      cases accepted
  | some process =>
      simp only [here] at accepted ⊢
      by_cases running : process.state = .running
      · refine ⟨⟨process, here, running⟩, ?_⟩
        rw [Process.interrupt_eq_of_running running, if_pos rfl]
        change (((ProcessTable.modify pid _ _).all[pid]?).map
          Process.killed).getD false = true
        rw [ProcessTable.all_modify, if_pos rfl, here]
        rfl
      · rw [Process.interrupt_eq_of_ne_running running] at accepted
        cases accepted

theorem interrupt_accepted (accepted : (world.interrupt pid).1 = true) :
    IsRunning pid world ∧ (world.interrupt pid).2.isKilled pid = true := by
  unfold interrupt at accepted ⊢
  split at accepted
  · rename_i live
    rw [if_pos live]
    exact interruptHeld_accepted accepted
  · cases accepted

theorem interruptEach_accepted {pids : List Pid}
    (accepted : pid ∈ (world.interruptEach pids).1.1) :
    IsRunning pid world ∧ (world.interruptEach pids).2.isKilled pid = true := by
  induction pids generalizing world with
  | nil => cases accepted
  | cons first rest induction =>
      have one : Frame 0 (fun _ => False) world
          (world.interrupt first).2 := .interrupt first
      have others : Frame 0 (fun _ => False) (world.interrupt first).2
          ((world.interrupt first).2.interruptEach rest).2 :=
        .interruptEach rest
      have later : pid ∈ ((world.interrupt first).2.interruptEach rest).1.1 →
          IsRunning pid world ∧
            ((world.interrupt first).2.interruptEach rest).2.isKilled pid =
              true := fun member =>
        (induction member).imp_left (.of_frame one)
      simp only [interruptEach] at accepted ⊢
      cases answer : (world.interrupt first).1 with
      | false =>
          simp only [answer] at accepted
          exact later accepted
      | true =>
          simp only [answer, if_true] at accepted
          rcases List.mem_cons.mp accepted with rfl | member
          · obtain ⟨running, killed⟩ := interrupt_accepted answer
            exact ⟨running, isKilled_of_frame others killed⟩
          · exact later member

theorem accepted {episode : Episode} (accepts : episode.Accepts pid) :
    IsRunning pid episode.before ∧ episode.after.isKilled pid = true := by
  cases accepts with
  | registered answer => exact interrupt_accepted answer
  | held answer => exact interruptHeld_accepted answer
  | body floor found stage member =>
      obtain ⟨running, killed⟩ := interruptEach_accepted member
      refine ⟨running, ?_⟩
      rw [Episode.after, happen_work_of_floor floor, work, found]
      dsimp only
      rw [workProcess, stage]
      exact killed

theorem accepted_elsewhere {episode : Episode}
    (accepts : episode.Accepts pid)
    (elsewhere : episode.before.agenda.floor ≠ some position) :
    episode.mover? ≠ some position := by
  cases accepts with
  | registered | held => simp [Episode.mover?]
  | body floor _ _ _ =>
      rw [floor] at elsewhere
      simpa [Episode.mover?, mover?, floor] using elsewhere

/-- The room is told of the kill, where there is a room to tell. -/
def Told (position : TaskId) (task : ProcessTask) (deeds : List Deed)
    (world : World) : Prop :=
  match task.aftermath with
  | none => world.deedsOf position = deeds
  | some aftermath =>
    ∃ moment name failed, world.deedsOf position = deeds ++
      [{ moment, task := position,
         act := .notice name aftermath.chat.room Notice.commandKilled
          failed }]

/-- Where the task of a killed process can stand that was not at work when it
was killed.  `deeds` is what it had done until then. -/
inductive Struck (position : TaskId) (task : ProcessTask)
    (deeds : List Deed) (world : World) : Prop where
  | waiting : world.tasks[position]? = some (.process task) →
      task.stage.Open → world.isKilled task.pid = true →
      world.agenda.floor ≠ some position →
      world.deedsOf position = deeds → Struck position task deeds world
  | closing : world.tasks[position]? = some (.process
        { task with stage := .closing (.error .interrupted) }) →
      world.deedsOf position = deeds → Struck position task deeds world
  | announcing (sending : Sending) : world.tasks[position]? = some (.process
        { task with stage := .announcing (.error .interrupted) sending }) →
      Told position task deeds world → Struck position task deeds world
  | settled : world.tasks[position]? =
        some (.process { task with stage := .over }) →
      world.endings task.pid = [.error .interrupted] →
      Told position task deeds world → Struck position task deeds world

theorem Told.of_same (same : after.deedsOf position = before.deedsOf position)
    (told : Told position task deeds before) :
    Told position task deeds after := by
  unfold Told at told ⊢
  rwa [same]

theorem Struck.beside (orderly : Orderly made before)
    (beside : Beside position task.pid before after)
    (struck : Struck position task deeds before) :
    Struck position task deeds after := by
  cases struck with
  | waiting found stays killed floor done =>
      obtain ⟨process, here, sameTask, _⟩ := orderly.tasks position task found
      obtain ⟨next, there, kept, _⟩ := beside.process process here sameTask
      refine .waiting (beside.task.trans found) stays ?_
        ((not_congr beside.floor).mpr floor) (beside.deeds.trans done)
      rw [isKilled, there]
      apply kept.continues.killed_of_killed
      simpa [isKilled, here] using killed
  | closing found done =>
      exact .closing (beside.task.trans found) (beside.deeds.trans done)
  | announcing sending found told =>
      exact .announcing sending (beside.task.trans found)
        (told.of_same beside.deeds)
  | settled found ended told =>
      exact .settled (beside.task.trans found) (beside.endings.trans ended)
        (told.of_same beside.deeds)

theorem deeds_abandon (actor : Actor) (activity : Activity) (world : World) :
    (world.abandon actor activity).deeds = world.deeds := by
  cases activity with
  | asking asking next => cases asking <;> rfl
  | confirming confirming next =>
      cases confirming with
      | asking terms asking => cases asking <;> rfl
      | _ => rfl
  | _ => rfl

theorem enterProcess_of_killed (world : World) (stays : task.stage.Open)
    (killed : world.isKilled task.pid = true) :
    ∃ given : World, world.enterProcess position task =
        given.conclude position task (.error .interrupted) ∧
      given.tasks = world.tasks ∧ given.deeds = world.deeds ∧
        given.cooldowns = world.cooldowns := by
  unfold enterProcess
  cases stage : task.stage with
  | unbuilt body =>
      rw [stage] at stays
      cases stays with
      | unbuilt program =>
          exact ⟨world, by simp [killed], rfl, rfl, rfl⟩
  | body activity =>
      have works := Works.abandon (actorOf position task) activity world
      exact ⟨_, by simp [killed], works.frame.tasks,
        deeds_abandon _ activity world, works.frame.cooldowns⟩
  | _ =>
      rw [stage] at stays
      cases stays

theorem deedsOf_startNotice (chat : Chat) (text : String) :
    (world.startNotice position chat text).2.deedsOf position =
      world.deedsOf position ++
        [{ moment := world.agenda.now, task := position,
           act := .notice (world.gateway.name chat.shred) chat.room text
            (world.gateway.chatState chat).noticeFailure.isSome }] := by
  simp [startNotice, note, setAlarm, deedsOf]

theorem Struck.enter (orderly : Orderly made world) (rest : List TaskId)
    (floor : world.agenda.floor = none)
    (struck : Struck position task deeds world) :
    Struck position task deeds
        ((world.giveFloor position rest).enter position) ∧
      ((world.giveFloor position rest).enter position).cooldowns =
        world.cooldowns := by
  have entered : ∀ {task : ProcessTask},
      world.tasks[position]? = some (.process task) →
        (world.giveFloor position rest).enter position =
          (world.giveFloor position rest).enterProcess position task := by
    intro task found
    have stillFound : (world.giveFloor position rest).tasks[position]? =
        some (.process task) := found
    simp only [World.enter, stillFound]
  cases struck with
  | waiting found stays killed _ done =>
      have known := (List.getElem?_eq_some_iff.mp found).1
      obtain ⟨given, ends, tasks, sameDeeds, cooldowns⟩ :=
        enterProcess_of_killed (world.giveFloor position rest) stays killed
      have concludes :=
        concludes position task (.error .interrupted) given
      rw [entered found, ends]
      refine ⟨.closing ?_ ?_, concludes.cooldowns.trans cooldowns⟩
      · rw [concludes.tasks, tasks]
        exact List.getElem?_set_self known
      · rw [deedsOf, concludes.deeds, sameDeeds]
        exact done
  | closing found done =>
      obtain ⟨_, _, _, agrees⟩ := orderly.tasks position _ found
      have held : world.agenda.floor = some position := agrees.2
      rw [floor] at held
      cases held
  | announcing sending found told =>
      rw [entered found]
      exact ⟨.announcing sending found told, rfl⟩
  | settled found ended told =>
      rw [entered found]
      exact ⟨.settled found ended told, rfl⟩

/-- The task has the floor. -/
theorem Struck.work (orderly : Orderly made world)
    (floor : world.agenda.floor = some position)
    (struck : Struck position task deeds world) :
    Struck position task deeds (world.work position) ∧
      (world.work position).cooldowns = world.cooldowns := by
  have worked : ∀ {task : ProcessTask},
      world.tasks[position]? = some (.process task) →
        world.work position = world.workProcess position task := by
    intro task found
    simp only [World.work, found]
  have known : ∀ {task : Task}, world.tasks[position]? = some task →
      position < world.tasks.length := fun found =>
    (List.getElem?_eq_some_iff.mp found).1
  cases struck with
  | waiting found stays killed elsewhere done => exact absurd floor elsewhere
  | closing found done =>
      obtain ⟨_, _, _, agrees⟩ := orderly.tasks position _ found
      have ended : world.endings task.pid = [.error .interrupted] :=
        agrees.1.endings
      have closing : world.work position = world.close position
          { task with stage := .closing (.error .interrupted) }
            (.error .interrupted) := worked found
      cases aftermath : task.aftermath with
      | none =>
          rw [closing.trans (close_of_none (by exact aftermath))]
          refine ⟨.settled (List.getElem?_set_self (known found)) ended ?_, rfl⟩
          rw [Told, aftermath]
          exact done
      | some consequence =>
          have kept : world.giveBack consequence.reservation
              (.error .interrupted) = world := by
            unfold giveBack
            split <;> rfl
          rw [closing.trans (close_of_some (by exact aftermath)), kept]
          refine ⟨.announcing (world.startNotice position consequence.chat
            Notice.commandKilled).1
            (List.getElem?_set_self (known found)) ?_, rfl⟩
          have told : (world.startNotice position consequence.chat
              Notice.commandKilled).2.deedsOf position = _ :=
            deedsOf_startNotice consequence.chat Notice.commandKilled
          rw [done] at told
          rw [Told, aftermath]
          exact ⟨_, _, _, told⟩
  | announcing sending found told =>
      obtain ⟨_, _, _, agrees⟩ := orderly.tasks position _ found
      have ended : world.endings task.pid = [.error .interrupted] :=
        agrees.endings
      rw [worked found]
      dsimp only [workProcess]
      split
      · exact ⟨.settled (List.getElem?_set_self (known found)) ended told, rfl⟩
      · exact ⟨.announcing sending found told, rfl⟩
  | settled found ended told =>
      rw [worked found]
      exact ⟨.settled found ended told, rfl⟩

theorem Struck.happen (orderly : Orderly made world)
    (struck : Struck position task deeds world) (occurrence : Occurrence) :
    Struck position task deeds (world.happen occurrence) ∧
      (Episode.mover? ⟨world, occurrence⟩ = some position →
        (world.happen occurrence).cooldowns = world.cooldowns) := by
  have found : ∃ stage,
      world.tasks[position]? = some (.process { task with stage }) := by
    cases struck with
    | waiting found => exact ⟨task.stage, found⟩
    | closing found | announcing _ found | settled found => exact ⟨_, found⟩
  by_cases mover : Episode.mover? ⟨world, occurrence⟩ = some position
  · obtain ⟨rfl, moves⟩ := Episode.mover?_eq_some mover
    obtain ⟨floor, worked⟩ | ⟨floor, rest, entered⟩ := turn_cases moves
    · rw [worked]
      exact (struck.work orderly floor).imp_right fun same _ => same
    · rw [entered]
      exact (struck.enter orderly rest floor).imp_right fun same _ => same
  · obtain ⟨stage, found⟩ := found
    have beside := orderly.beside found occurrence mover
    exact ⟨struck.beside orderly beside, fun own => absurd own mover⟩

theorem Struck.no_step
    (struck : Struck position task deeds world) (occurrence : Occurrence) :
    ¬Episode.StepsBody position ⟨world, occurrence⟩ := by
  intro holds
  obtain ⟨_, floor, other, activity, found, stage⟩ := holds
  cases struck with
  | waiting _ _ _ elsewhere => exact elsewhere floor
  | closing here | announcing _ here | settled here =>
      cases here.symm.trans found
      cases stage

theorem Agrees.open_of_running {own : SubscriptionId → Prop}
    {process : Process} (agrees : Agrees position task own process world)
    (running : process.state = .running)
    (builds : ∀ payload, task.stage ≠ .unbuilt (.error payload)) :
    task.stage.Open := by
  have notEnded : ∀ outcome, ¬Ended task.pid own outcome process world := by
    intro outcome ended
    rw [ended.state] at running
    cases running
  unfold Agrees at agrees
  split at agrees
  · rename_i body stage
    cases body with
    | error payload => exact absurd stage (builds payload)
    | ok program => exact stage ▸ .unbuilt program
  · rename_i activity stage
    exact stage ▸ .body activity
  · exact absurd agrees.1 (notEnded _)
  · exact absurd agrees (notEnded _)
  · exact absurd agrees.choose_spec (notEnded _)
  · exact absurd agrees.choose_spec (notEnded _)

theorem Struck.ending (orderly : Orderly made world)
    (struck : Struck position task deeds world) :
    (position ∈ world.agenda.ready ∧ world.endings task.pid = [] ∧
        world.deedsOf position = deeds) ∨
      ∃ process, world.processes.all[task.pid]? = some process ∧
        Ended task.pid (made position) (.error .interrupted) process world ∧
          (world.agenda.floor ≠ some position →
            Told position task deeds world) := by
  cases struck with
  | waiting found stays killed _ done =>
      obtain ⟨process, here, sameTask, agrees⟩ :=
        orderly.tasks position task found
      have struck : process.killed = true := by
        simpa [isKilled, here] using killed
      refine .inl ?_
      unfold Agrees at agrees
      cases stage : task.stage with
      | unbuilt body =>
          rw [stage] at agrees
          exact ⟨agrees.2 struck, agrees.1.endings, done⟩
      | body activity =>
          rw [stage] at agrees
          exact ⟨agrees.2 struck, agrees.1.endings, done⟩
      | _ =>
          rw [stage] at stays
          cases stays
  | closing found done =>
      obtain ⟨process, here, _, agrees⟩ := orderly.tasks position _ found
      exact .inr ⟨process, here, agrees.1, fun left => absurd agrees.2 left⟩
  | announcing sending found told =>
      obtain ⟨process, here, _, agrees⟩ := orderly.tasks position _ found
      exact .inr ⟨process, here, agrees, fun _ => told⟩
  | settled found ending told =>
      obtain ⟨process, here, _, outcome, ended⟩ :=
        orderly.tasks position _ found
      have same : [outcome] = [.error .interrupted] :=
        ended.endings.symm.trans ending
      cases same
      exact .inr ⟨process, here, ended, fun _ => told⟩

theorem Struck.run {config : Config} {commands : Catalogue Handler}
    {horizon : Nat}
    {past later : List Episode}
    (run : Run (World.start config commands horizon) past before)
    (struck : Struck position task deeds before)
    (goesOn : Run before later after) :
    Struck position task deeds after ∧ ∀ next ∈ later,
      ¬next.StepsBody position ∧
        (next.mover? = some position →
          next.after.cooldowns = next.before.cooldowns) := by
  induction goesOn with
  | start => exact ⟨struck, by simp⟩
  | @next earlier middle occurrence prior induction =>
      obtain ⟨reached, earlierSteps⟩ := induction
      obtain ⟨goes, cooldowns⟩ :=
        reached.happen (Run.orderly (run.trans prior)) occurrence
      refine ⟨goes, fun next member => ?_⟩
      rcases List.mem_append.mp member with before | last
      · exact earlierSteps next before
      · cases List.mem_singleton.mp last
        exact ⟨reached.no_step occurrence, cooldowns⟩

/-- A kill is final.  Once a process has been killed whose own body was not at
work, its body takes no step any more, and no turn of its task touches a
cooldown.  Until it has ended it stands in line for the floor and does
nothing.  When it has ended its outcome is that it was interrupted, nothing is
left of it, and the room is told that it was killed as soon as its task has
given up the floor.  It has ended when all tasks have settled. -/
theorem kill_is_final {config : Config} {commands : Catalogue Handler}
    {horizon : Nat}
    {past later : List Episode} {episode : Episode} {last : World}
    {process : Process}
    (run : Run (World.start config commands horizon) past episode.before)
    (here : episode.before.processes.all[pid]? = some process)
    (found : episode.before.tasks[process.task]? = some (.process task))
    (builds : ∀ payload, task.stage ≠ .unbuilt (.error payload))
    (accepts : episode.Accepts pid)
    (elsewhere : episode.before.agenda.floor ≠ some process.task)
    (goesOn : Run episode.after later last) :
    (∀ next ∈ later, ¬next.StepsBody process.task ∧
      (next.mover? = some process.task →
        next.after.cooldowns = next.before.cooldowns)) ∧
    ((process.task ∈ last.agenda.ready ∧ last.endings pid = [] ∧
        last.deedsOf process.task = episode.before.deedsOf process.task) ∨
      ∃ final, last.processes.all[pid]? = some final ∧
        Ended pid (MadeBy process.task (past ++ [episode] ++ later))
          (.error .interrupted) final last ∧
        (last.agenda.floor ≠ some process.task →
          Told process.task task (episode.before.deedsOf process.task)
            last)) ∧
    (Machine.step last = none →
      last.endings pid = [.error .interrupted] ∧
        last.agenda.floor ≠ some process.task) := by
  have orderly := run.orderly
  obtain ⟨same, there, samePid⟩ := orderly.processes pid process here
  cases found.symm.trans there
  subst samePid
  obtain ⟨_, known, _, agrees⟩ := orderly.tasks _ task found
  cases here.symm.trans known
  obtain ⟨⟨_, running, state⟩, killed⟩ := accepted accepts
  cases here.symm.trans running
  have beside := orderly.beside found episode.occurrence
    (accepted_elsewhere accepts elsewhere)
  have struck : Struck process.task task
      (episode.before.deedsOf process.task) episode.after :=
    .waiting (beside.task.trans found)
      (agrees.open_of_running state builds) killed
      ((not_congr beside.floor).mpr elsewhere) beside.deeds
  have reached : Run (World.start config commands horizon) (past ++ [episode])
      episode.after := .next episode.occurrence run
  obtain ⟨finally_, steps⟩ := struck.run reached goesOn
  have ending := finally_.ending (Run.orderly (reached.trans goesOn))
  refine ⟨steps, ending, fun settled => ?_⟩
  obtain ⟨floor, ready⟩ := step_eq_none_iff.mp settled
  refine ⟨?_, by rw [floor]; simp⟩
  rcases ending with ⟨waiting, _⟩ | ⟨_, _, ended, _⟩
  · rw [ready] at waiting
    cases waiting
  · exact ended.endings

end

/-- A command that waits for a message. -/
def patientCommands : Catalogue Handler :=
  Catalogue.register
    { name := "wait", description := "Waits for a message."
      cooldown := some
        { bucket := "wait", window := 1000, scope := .actor } }
    (fun _ => .call (.wait .message (fun _ => true) none)
      fun _ => .result ()) {}

/-- The command is invoked, it waits, and what it waits for arrives. -/
def answeredBot : World :=
  (start { accounts := [] } patientCommands hostHorizon).happenAll
    [.register "keeper", .fleet (.joined 0 "lobby"),
      .receive ⟨0, "user", "lobby", "lobby", .message "first" ".wait"⟩,
      .work, .work, .work,
      .receive ⟨0, "user", "lobby", "lobby", .message "second" "answer"⟩]

/-- The kill comes between the message and the turn of the command. -/
theorem answeredBot_kill_is_final :
    answeredBot.agenda.ready = [0] ∧ (answeredBot.interrupt 0).1 = true ∧
      ((answeredBot.happen (.interrupt 0)).happenAll
        [.work, .work, .work, .work]).endings 0 = [.error .interrupted] := by
  have accepted : (answeredBot.interrupt 0).1 = true := by decide +kernel
  refine ⟨by decide +kernel, accepted, ?_⟩
  have run : Run (start { accounts := [] } patientCommands hostHorizon) _
      answeredBot :=
    .of_occurrences _ _
  obtain ⟨process, here, sameTask⟩ : ∃ process,
      answeredBot.processes.all[0]? = some process ∧ process.task = 0 :=
    Option.map_eq_some_iff.mp (by decide +kernel)
  obtain ⟨task, found, _⟩ := run.orderly.processes 0 process here
  have builds : ∀ payload, task.stage ≠ .unbuilt (.error payload) := by
    intro payload stage
    have watched : (answeredBot.tasks.map Task.watched)[0]? = some [0] := by
      decide +kernel
    rw [List.getElem?_map, ← sameTask, found] at watched
    obtain ⟨pid, invocation, chat, here, aftermath⟩ := task
    subst stage
    cases watched
  have settled : Machine.step
      ((answeredBot.happen (.interrupt 0)).happenAll
        [.work, .work, .work, .work]) = none :=
    step_eq_none_iff.mpr ⟨by decide +kernel, by decide +kernel⟩
  have idle : answeredBot.agenda.floor ≠ some process.task := by
    have nobody : answeredBot.agenda.floor = none := by decide +kernel
    rw [nobody]
    simp
  exact ((kill_is_final run here found builds (.registered accepted) idle
    (.of_occurrences _ _)).2.2 settled).1

end World

end Switchboard
