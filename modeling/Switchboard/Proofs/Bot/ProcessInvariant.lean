import Switchboard.Proofs.Bot.Lifecycle

/-!
# Order is kept

All that was said of one process holds of all of them along every run.  The
subscriptions that a task has made are read off the run.
-/

namespace Switchboard.World

/-- What there is to say of a task at a position, the subscriptions that it
has made, and its process. -/
abbrev Accord :=
  TaskId → ProcessTask → (SubscriptionId → Prop) → Process → World → Prop

/-- Tasks and processes belong together one to one and are in accord, and only
existing tasks have made existing subscriptions. -/
structure InStep (accord : Accord) (made : TaskId → SubscriptionId → Prop)
    (world : World) : Prop where
  tasks : ∀ (position : TaskId) (task : ProcessTask),
    world.tasks[position]? = some (.process task) →
      ∃ process, world.processes.all[task.pid]? = some process ∧
        process.task = position ∧
          accord position task (made position) process world
  processes : ∀ (pid : Pid) (process : Process),
    world.processes.all[pid]? = some process →
      ∃ task, world.tasks[process.task]? = some (.process task) ∧
        task.pid = pid
  ends : ∀ pid : Pid, world.processes.all[pid]? = none →
    world.endings pid = []
  listed : ∀ id, world.waiter.Registers id →
    id < world.waiter.handoffs.length
  made_below : ∀ position id, made position id →
    id < world.waiter.handoffs.length
  made_known : ∀ position id, made position id →
    ∃ task, world.tasks[position]? = some task

/-- The stages of tasks and their processes agree. -/
abbrev Orderly (made : TaskId → SubscriptionId → Prop) (world : World) :
    Prop :=
  InStep Agrees made world

/-- What was made once another thing has happened. -/
def madeAfter (made : TaskId → SubscriptionId → Prop) (episode : Episode) :
    TaskId → SubscriptionId → Prop := fun position id =>
  made position id ∨ (episode.mover? = some position ∧
    episode.before.waiter.handoffs.length ≤ id ∧
      id < episode.after.waiter.handoffs.length)

/-- At most one task is added, and a process with it. -/
inductive Growth (before after : World) : Prop where
  | none : after.tasks = before.tasks →
      after.processes.all.length = before.processes.all.length →
      Growth before after
  | notice (stage : NoticeStage) :
      after.tasks = before.tasks ++ [.notice stage] →
      after.processes.all.length = before.processes.all.length →
      Growth before after
  | process (task : ProcessTask) (command : CommandDef) (origin : Origin)
      (startedAt : Nat) (body : Except PanicPayload (Program Unit)) :
      after.tasks = before.tasks ++ [.process task] →
      after.processes.all.length = before.processes.all.length + 1 →
      after.processes.all[task.pid]? =
        some (.fresh command origin startedAt before.tasks.length) →
      task.pid = before.processes.all.length →
      task.pid ∈ after.processes.live →
      task.stage = .unbuilt body →
      Growth before after

/-- What comes from outside ends no process and gives nobody the floor. -/
structure Outside (before after : World) : Prop where
  ends : after.ends = before.ends
  floor : after.agenda.floor = before.agenda.floor
  waiter : before.waiter.Grows after.waiter
  growth : Growth before after

section

variable {accord : Accord} {made : TaskId → SubscriptionId → Prop}
  {world : World} {position other : TaskId} {task next : ProcessTask}

namespace Outside

theorem of_frame {first second : World}
    (frame : ∀ task, Frame task (fun _ => False) first second) :
    Outside first second where
  ends := (frame 0).ends
  floor := (frame 0).agenda.floor
  waiter := (frame 0).waiter
  growth := .none (frame 0).tasks (frame 0).launched

theorem after_frame {first second third : World}
    (frame : Frame 0 (fun _ => False) first second)
    (outside : Outside second third) : Outside first third where
  ends := outside.ends.trans frame.ends
  floor := outside.floor.trans frame.agenda.floor
  waiter := frame.waiter.trans outside.waiter
  growth := by
    cases outside.growth with
    | none same added =>
        exact .none (same.trans frame.tasks) (added.trans frame.launched)
    | notice stage added same =>
        exact .notice stage (frame.tasks ▸ added) (same.trans frame.launched)
    | process task command origin startedAt body added grown found pid live
        stage =>
        exact .process task command origin startedAt body
          (frame.tasks ▸ added) (frame.launched ▸ grown)
          (frame.tasks ▸ found) (pid.trans frame.launched) live stage

theorem launch (command : CommandDef) (event : Event) (chat : Chat)
    (body : Except PanicPayload (Program Unit))
    (aftermath : Option Aftermath) :
    Outside world (world.launch command event chat body aftermath).2 where
  ends := rfl
  floor := (Agenda.Extends.wake _ _).floor
  waiter := .refl _
  growth := by
    refine .process _ command event.origin world.wallClock body rfl ?_ ?_ rfl
      ?_ rfl
    · simp [World.launch, World.spawn, World.wake, ProcessTable.add]
    · change (world.processes.all ++ [_])[world.processes.all.length]? = _
      rw [List.getElem?_concat_length]
      rfl
    · simp [World.launch, World.spawn, World.wake, ProcessTable.add]

theorem tell (chat : Chat) (text : String) :
    Outside world (world.tell chat text) where
  ends := rfl
  floor := (Agenda.Extends.wake _ _).floor
  waiter := .refl _
  growth := .notice (.fresh chat text) rfl rfl

theorem of_cooldowns {cooldowns : Cooldowns} {after : World}
    (outside : Outside { world with cooldowns } after) :
    Outside world after := by
  obtain ⟨ends, floor, waiter, growth⟩ := outside
  refine ⟨ends, floor, waiter, ?_⟩
  cases growth with
  | none same added => exact .none same added
  | notice stage added same => exact .notice stage added same
  | process task command origin startedAt body added grown found pid live
      stage =>
      exact .process task command origin startedAt body added grown found pid
        live stage

theorem invoke (entry : CatalogueEntry Handler) (event : Event)
    (arguments : String) (chat : Chat) :
    Outside world (world.invoke entry event arguments chat).2 := by
  unfold World.invoke
  split
  · exact tell chat _
  · obtain ⟨admission, cooldowns, acquired⟩ :=
      acquire_rest entry.definition event.origin world
    rw [acquired]
    cases admission with
    | limited remaining =>
        have told : Outside { world with cooldowns } _ :=
          tell chat (Notice.ratelimited (Duration.ofMillis remaining))
        exact told.of_cooldowns
    | uncounted =>
        have launched : Outside { world with cooldowns } _ :=
          launch entry.definition event chat
            (.ok (entry.handler (invocationOf
              { world with cooldowns }.processes.all.length event arguments
              { world with cooldowns }))) (some ⟨chat, none⟩)
        exact launched.of_cooldowns
    | reserved reservation =>
        have launched : Outside { world with cooldowns } _ :=
          launch entry.definition event chat
            (.ok (entry.handler (invocationOf
              { world with cooldowns }.processes.all.length event arguments
              { world with cooldowns }))) (some ⟨chat, some reservation⟩)
        exact launched.of_cooldowns
    | beyond =>
        have unchanged : Outside { world with cooldowns } _ :=
          of_frame fun _ => .refl _
        exact unchanged.of_cooldowns

theorem receive (event : Event) :
    Outside world (world.receive event).2 := by
  unfold World.receive
  split
  · exact of_frame fun _ => .refl world
  · have frame : ∀ task, Frame task (fun _ => False) world
        (world.dispatch event).2 := fun _ => .dispatch event
    dsimp only
    split
    · apply after_frame (frame 0)
      unfold World.route
      split
      · exact of_frame fun _ => .refl _
      · split
        · exact of_frame fun _ => .refl _
        · split
          · exact tell _ _
          · exact invoke _ _ _ _
    · exact of_frame frame

theorem happen (occurrence : Occurrence) (notWork : occurrence ≠ .work) :
    Outside world (world.happen occurrence) := by
  cases occurrence with
  | work => exact absurd rfl notWork
  | pass span =>
      exact ⟨rfl, (Agenda.Extends.wakeAll _ _).floor, .refl _, .none rfl rfl⟩
  | receive event => exact receive event
  | dispatch event => exact of_frame fun _ => .dispatch event
  | launch command event chat body => exact launch command event chat body _
  | interrupt pid => exact of_frame fun _ => .interrupt pid
  | interruptHeld pid => exact of_frame fun _ => .interruptHeld pid
  | lift pid => exact of_frame fun _ => .lift pid
  | liftHeld pid => exact of_frame fun _ => .liftHeld pid
  | _ => exact ⟨rfl, rfl, .refl _, .none rfl rfl⟩

end Outside

namespace InStep

theorem apart (orderly : InStep accord made world)
    (found : world.tasks[position]? = some (.process task)) :
    Beside.Apart position task.pid world := by
  intro other otherTask otherFound different same
  obtain ⟨process, here, sameTask, _⟩ := orderly.tasks position task found
  obtain ⟨otherProcess, there, otherSame, _⟩ :=
    orderly.tasks other otherTask otherFound
  rw [same] at there
  cases here.symm.trans there
  exact different (otherSame.symm.trans sameTask)

theorem unique (orderly : InStep accord made world)
    (found : world.tasks[position]? = some (.process task))
    (alike : world.tasks[other]? = some (.process next))
    (same : next.pid = task.pid) : next = task := by
  by_cases here : other = position
  · subst here
    cases found.symm.trans alike
    rfl
  · exact absurd same (orderly.apart found other next alike here)

theorem pid_known (orderly : InStep accord made world)
    (found : world.tasks[position]? = some (.process task)) :
    task.pid < world.processes.all.length := by
  obtain ⟨_, here, _⟩ := orderly.tasks position task found
  exact (List.getElem?_eq_some_iff.mp here).1

theorem apart_of_absent (orderly : InStep accord made world) {pid : Pid}
    (absent : world.processes.all[pid]? = none) :
    Beside.Apart position pid world := by
  intro other otherTask otherFound _ same
  obtain ⟨process, there, _⟩ := orderly.tasks other otherTask otherFound
  rw [same, absent] at there
  cases there

/-- A task that is no process's does not touch subscriptions and stays what
it is. -/
theorem notice_turn (notProcess : ∀ task : ProcessTask,
      world.tasks[position]? ≠ some (.process task))
    (mover : world.mover? = some position) :
    (world.happen .work).waiter = world.waiter ∧
      (∀ task : ProcessTask,
        (world.happen .work).tasks[position]? ≠ some (.process task)) ∧
      (world.tasks[position]? ≠ none →
        (world.happen .work).tasks[position]? ≠ none) := by
  obtain ⟨_, worked⟩ | ⟨_, rest, entered⟩ := turn_cases mover
  · rw [worked]
    unfold work
    split
    · rename_i task found
      exact absurd found (notProcess task)
    · rename_i stage found
      have known := (List.getElem?_eq_some_iff.mp found).1
      have set : ∀ (task : Task) (after : World),
          after.tasks = world.tasks →
            (after.setTask position task).tasks[position]? = some task := by
        intro task after same
        rw [setTask, same]
        exact List.getElem?_set_self known
      unfold workNotice
      split
      · rename_i chat text
        have now := set (.notice (.sending
          (world.startNotice position chat text).1))
          (world.startNotice position chat text).2 rfl
        refine ⟨rfl, fun task => ?_, fun _ => ?_⟩
        · exact fun same => by cases now.symm.trans same
        · exact fun absent => by cases now.symm.trans absent
      · split
        · have now := set (.notice .over) world rfl
          refine ⟨rfl, fun task => ?_, fun _ => ?_⟩
          · exact fun same => by cases now.symm.trans same
          · exact fun absent => by cases now.symm.trans absent
        · exact ⟨rfl, notProcess, id⟩
      · exact ⟨rfl, notProcess, id⟩
    · exact ⟨rfl, notProcess, id⟩
  · rw [entered]
    unfold enter
    split
    · rename_i task found
      exact absurd found (notProcess task)
    · exact ⟨rfl, notProcess, id⟩

theorem beside (orderly : InStep accord made world)
    (found : world.tasks[position]? = some (.process task))
    (occurrence : Occurrence)
    (elsewhere : Episode.mover? ⟨world, occurrence⟩ ≠ some position) :
    Beside position task.pid world (world.happen occurrence) := by
  obtain ⟨process, here, _⟩ := orderly.tasks position task found
  exact .happen (List.getElem?_eq_some_iff.mp found).1
    (Nat.ne_of_lt (List.getElem?_eq_some_iff.mp here).1)
    (orderly.apart found) occurrence elsewhere

theorem somewhere (orderly : InStep accord made world) {pid : Pid}
    (absent : world.processes.all[pid]? = none) :
    ∃ position, Beside position pid world (world.happen .work) := by
  cases mover : world.mover? with
  | none =>
      refine ⟨0, .step (orderly.apart_of_absent absent) ?_⟩
      simp [mover]
  | some other =>
      refine ⟨other + 1, .step (orderly.apart_of_absent absent) ?_⟩
      simp [mover]

theorem work_starts_none (orderly : InStep accord made world)
    (notProcess : ∀ task : ProcessTask,
      world.tasks[position]? ≠ some (.process task)) :
    (∀ task : ProcessTask,
      (world.happen .work).tasks[position]? ≠ some (.process task)) ∧
      (world.tasks[position]? ≠ none →
        (world.happen .work).tasks[position]? ≠ none) := by
  by_cases mover : world.mover? = some position
  · exact (notice_turn notProcess mover).2
  · have absent :
        world.processes.all[world.processes.all.length]? = none :=
      List.getElem?_eq_none_iff.mpr (Nat.le_refl _)
    have beside : Beside position _ world (world.happen .work) :=
      .step (orderly.apart_of_absent absent) mover
    rw [beside.task]
    exact ⟨notProcess, id⟩

theorem grows (orderly : InStep accord made world) (occurrence : Occurrence) :
    world.waiter.Grows (world.happen occurrence).waiter := by
  by_cases work : occurrence = .work
  · subst work
    have absent :
        world.processes.all[world.processes.all.length]? = none :=
      List.getElem?_eq_none_iff.mpr (Nat.le_refl _)
    obtain ⟨_, beside⟩ := orderly.somewhere absent
    exact beside.waiter
  · exact (Outside.happen occurrence work).waiter

theorem maker_known {id : SubscriptionId}
    (mover : world.mover? = some position)
    (fresh : world.waiter.handoffs.length ≤ id)
    (below : id < (world.happen .work).waiter.handoffs.length) :
    ∃ task, world.tasks[position]? = some task := by
  rw [← Option.ne_none_iff_exists']
  intro absent
  have notProcess : ∀ task : ProcessTask,
      world.tasks[position]? ≠ some (.process task) := by
    intro task same
    rw [absent] at same
    cases same
  rw [(notice_turn notProcess mover).1] at below
  exact Nat.not_lt_of_le fresh below

/-- A task that is a process's afterwards was that before, or both have just
been added. -/
theorem task_cases (orderly : InStep accord made world)
    (occurrence : Occurrence)
    {next : ProcessTask}
    (there : (world.happen occurrence).tasks[position]? =
      some (.process next)) :
    (∃ task, world.tasks[position]? = some (.process task)) ∨
      (world.tasks[position]? = none ∧ occurrence ≠ .work ∧
        position = world.tasks.length ∧
        next.pid = world.processes.all.length ∧
        (∃ body, next.stage = .unbuilt body) ∧
        next.pid ∈ (world.happen occurrence).processes.live ∧
        ∃ command origin startedAt,
          (world.happen occurrence).processes.all[next.pid]? =
            some (.fresh command origin startedAt position)) := by
  by_cases started : ∃ task, world.tasks[position]? = some (.process task)
  · exact .inl started
  have notProcess : ∀ task : ProcessTask,
      world.tasks[position]? ≠ some (.process task) :=
    fun task same => started ⟨task, same⟩
  refine .inr ?_
  by_cases work : occurrence = .work
  · subst work
    exact absurd there ((orderly.work_starts_none notProcess).1 next)
  cases (Outside.happen occurrence work).growth with
  | none same _ =>
      rw [same] at there
      exact absurd there (notProcess next)
  | notice stage added _ =>
      rw [added, List.getElem?_append] at there
      split at there
      · exact absurd there (notProcess next)
      · rw [List.getElem?_singleton] at there
        split at there <;> cases there
  | process task command origin startedAt body added _ found pid live
      stage =>
      rw [added, List.getElem?_append] at there
      split at there
      · exact absurd there (notProcess next)
      · rename_i beyond
        rw [List.getElem?_singleton] at there
        split at there
        · rename_i last
          cases there
          have same : position = world.tasks.length :=
            Nat.le_antisymm (Nat.le_of_sub_eq_zero last)
              (Nat.not_lt.mp beyond)
          subst same
          exact ⟨List.getElem?_eq_none_iff.mpr (Nat.le_refl _), work, rfl,
            pid, ⟨body, stage⟩, live, command, origin, startedAt, found⟩
        · cases there

theorem process_cases (orderly : InStep accord made world)
    (occurrence : Occurrence) {pid : Pid} {next : Process}
    (there : (world.happen occurrence).processes.all[pid]? = some next) :
    (∃ process, world.processes.all[pid]? = some process) ∨
      ∃ task, (world.happen occurrence).tasks[next.task]? =
        some (.process task) ∧ task.pid = pid := by
  cases here : world.processes.all[pid]? with
  | some process => exact .inl ⟨process, rfl⟩
  | none =>
      refine .inr ?_
      by_cases work : occurrence = .work
      · subst work
        obtain ⟨_, beside⟩ := orderly.somewhere here
        rw [beside.absent here] at there
        cases there
      have beyond := List.getElem?_eq_none_iff.mp here
      have below := (List.getElem?_eq_some_iff.mp there).1
      cases (Outside.happen occurrence work).growth with
      | none _ same =>
          rw [same] at below
          exact absurd below (Nat.not_lt_of_le beyond)
      | notice _ _ same =>
          rw [same] at below
          exact absurd below (Nat.not_lt_of_le beyond)
      | process task command origin startedAt body added grown found number
          live stage =>
          rw [grown] at below
          have same : task.pid = pid :=
            number.trans (Nat.le_antisymm beyond (Nat.le_of_lt_succ below))
          rw [same] at found
          cases there.symm.trans found
          refine ⟨task, ?_, same⟩
          rw [added]
          exact List.getElem?_concat_length

theorem alive_fresh (orderly : InStep accord made world)
    (occurrence : Occurrence)
    (work : occurrence ≠ .work)
    (command : CommandDef) (origin : Origin) (startedAt : Nat)
    {pid : Pid} (absent : world.processes.all[pid]? = none)
    (live : pid ∈ (world.happen occurrence).processes.live)
    {own : SubscriptionId → Prop} (nothing : ∀ id, ¬own id) :
    Alive pid own {} (.fresh command origin startedAt position)
      (world.happen occurrence) where
  live := live
  state := by simp [Process.fresh]
  killed_iff := by simp [Process.fresh]
  endings := by
    rw [World.endings, (Outside.happen occurrence work).ends]
    exact orderly.ends pid absent
  books := {
    waits := rfl
    deadlines := List.Perm.refl _
    opened := List.Sublist.refl _
    nodup := List.nodup_nil
    below := by
      intro id member
      cases member
    covers := fun id _ => .inr (nothing id) }

theorem endings_of_absent (orderly : InStep accord made world)
    (occurrence : Occurrence) {pid : Pid}
    (absent : world.processes.all[pid]? = none) :
    (world.happen occurrence).endings pid = world.endings pid := by
  by_cases work : occurrence = .work
  · subst work
    obtain ⟨_, beside⟩ := orderly.somewhere absent
    exact beside.endings
  · rw [World.endings, (Outside.happen occurrence work).ends, World.endings]

/-- What has to be looked at when the bot goes on: the tasks and processes
that are there already, those that are new, and the register. -/
theorem goOn {later : Accord} {grown : TaskId → SubscriptionId → Prop}
    {after : World} (orderly : InStep accord made world)
    (stands : ∀ (position : TaskId) (task : ProcessTask),
      world.tasks[position]? = some (.process task) →
        ∃ stage process,
          after.tasks[position]? = some (.process { task with stage }) ∧
            after.processes.all[task.pid]? = some process ∧
              process.task = position ∧
                later position { task with stage } (grown position) process
                  after)
    (known : ∀ position : TaskId, (∃ task, world.tasks[position]? = some task) →
      ∃ task, after.tasks[position]? = some task)
    (newcomer : ∀ (position : TaskId) (next : ProcessTask),
      after.tasks[position]? = some (.process next) →
        (∃ task, world.tasks[position]? = some (.process task)) ∨
          ∃ process, after.processes.all[next.pid]? = some process ∧
            process.task = position ∧
              later position next (grown position) process after)
    (launched : ∀ (pid : Pid) (next : Process),
      after.processes.all[pid]? = some next →
        (∃ process, world.processes.all[pid]? = some process) ∨
          ∃ task, after.tasks[next.task]? = some (.process task) ∧
            task.pid = pid)
    (endings : ∀ pid : Pid, world.processes.all[pid]? = none →
      after.endings pid = world.endings pid)
    (grows : world.waiter.Grows after.waiter)
    (maker : ∀ position id, grown position id → made position id ∨
      ((∃ task, world.tasks[position]? = some task) ∧
        id < after.waiter.handoffs.length)) :
    InStep later grown after where
  tasks := by
    intro position next there
    rcases newcomer position next there with ⟨task, found⟩ | new
    · obtain ⟨stage, process, set, rest⟩ := stands position task found
      cases there.symm.trans set
      exact ⟨process, rest⟩
    · exact new
  processes := by
    intro pid next there
    rcases launched pid next there with ⟨process, here⟩ | new
    · obtain ⟨task, found, rfl⟩ := orderly.processes pid process here
      obtain ⟨stage, same, set, now, sameTask, _⟩ := stands _ task found
      cases there.symm.trans now
      refine ⟨{ task with stage }, ?_, rfl⟩
      rw [sameTask]
      exact set
    · exact new
  ends := by
    intro pid absent
    cases here : world.processes.all[pid]? with
    | none => exact (endings pid here).trans (orderly.ends pid here)
    | some process =>
        obtain ⟨task, found, rfl⟩ := orderly.processes pid process here
        obtain ⟨_, _, _, now, _⟩ := stands _ task found
        rw [absent] at now
        cases now
  listed := by
    intro id registered
    rcases grows.registers id registered with before | ⟨_, below⟩
    · exact Nat.lt_of_lt_of_le (orderly.listed id before) grows.handoffs
    · exact below
  made_below := by
    intro position id holds
    rcases maker position id holds with before | ⟨_, below⟩
    · exact Nat.lt_of_lt_of_le (orderly.made_below position id before)
        grows.handoffs
    · exact below
  made_known := by
    intro position id holds
    rcases maker position id holds with before | ⟨there, _⟩
    · exact known position (orderly.made_known position id before)
    · exact known position there

theorem task_known (orderly : InStep accord made world)
    (occurrence : Occurrence)
    (stays : ∀ task : ProcessTask,
      world.tasks[position]? = some (.process task) →
        ∃ next, (world.happen occurrence).tasks[position]? = some next)
    (known : ∃ task, world.tasks[position]? = some task) :
    ∃ task, (world.happen occurrence).tasks[position]? = some task := by
  obtain ⟨task, found⟩ := known
  cases task with
  | process task => exact stays task found
  | notice stage =>
      rw [← Option.ne_none_iff_exists']
      by_cases work : occurrence = .work
      · subst work
        have notProcess : ∀ task : ProcessTask,
            world.tasks[position]? ≠ some (.process task) := by
          intro task same
          cases found.symm.trans same
        apply (orderly.work_starts_none notProcess).2
        rw [found]
        simp
      · have known := (List.getElem?_eq_some_iff.mp found).1
        rw [List.getElem?_eq_some_iff] at found
        rw [Ne, List.getElem?_eq_none_iff, Nat.not_le]
        cases (Outside.happen occurrence work).growth with
        | none same _ => rwa [same]
        | notice _ added _ =>
            rw [added, List.length_append]
            exact Nat.lt_add_right _ known
        | process _ _ _ _ _ added =>
            rw [added, List.length_append]
            exact Nat.lt_add_right _ known

/-- When something happens only the tasks that are there already have to be
looked at, for a process that has just been launched agrees with its task. -/
theorem happen {later : Accord} (orderly : InStep accord made world)
    (occurrence : Occurrence)
    (stands : ∀ (position : TaskId) (task : ProcessTask),
      world.tasks[position]? = some (.process task) →
        ∃ stage process,
          (world.happen occurrence).tasks[position]? =
              some (.process { task with stage }) ∧
            (world.happen occurrence).processes.all[task.pid]? =
                some process ∧
              process.task = position ∧
                later position { task with stage }
                  (madeAfter made ⟨world, occurrence⟩ position) process
                  (world.happen occurrence))
    (fresh : ∀ {position : TaskId} {task : ProcessTask}
      {own : SubscriptionId → Prop} {process : Process} {world : World},
      (∃ body, task.stage = .unbuilt body) →
        Agrees position task own process world →
          later position task own process world) :
    InStep later (madeAfter made ⟨world, occurrence⟩)
      (world.happen occurrence) := by
  refine orderly.goOn stands
    (fun position known => orderly.task_known occurrence
      (fun task found => ?_) known)
    (fun position next there => ?_)
    (fun pid next there => orderly.process_cases occurrence there)
    (fun pid absent => orderly.endings_of_absent occurrence absent)
    (orderly.grows occurrence) fun position id holds => ?_
  · obtain ⟨stage, process, there, _⟩ := stands position task found
    exact ⟨_, there⟩
  · rcases orderly.task_cases occurrence there with
      started | ⟨absent, work, rfl, pid, ⟨body, stage⟩, live, command,
        origin, startedAt, launched⟩
    · exact .inl started
    · refine .inr ⟨_, launched, rfl, fresh ⟨body, stage⟩ ?_⟩
      have unknown : world.processes.all[next.pid]? = none :=
        List.getElem?_eq_none_iff.mpr (Nat.le_of_eq pid.symm)
      have nothing :
          ∀ id, ¬madeAfter made ⟨world, occurrence⟩ world.tasks.length id := by
        intro id holds
        rcases holds with before | ⟨mover, _⟩
        · obtain ⟨task, found⟩ := orderly.made_known _ id before
          rw [absent] at found
          cases found
        · cases occurrence with
          | work => exact work rfl
          | _ => cases mover
      unfold Agrees
      rw [stage]
      refine ⟨orderly.alive_fresh occurrence work command origin startedAt
        unknown live nothing, fun killed => ?_⟩
      cases killed
  · refine holds.imp_right fun holds => ?_
    obtain ⟨mover, fresh, below⟩ := holds
    cases occurrence with
    | work => exact ⟨InStep.maker_known mover fresh below, below⟩
    | _ => cases mover

end InStep

theorem Agrees.turn {own grown : SubscriptionId → Prop} {process : Process}
    (found : world.tasks[position]? = some (.process task))
    (mover : world.mover? = some position)
    (gains : Gains own grown world.waiter)
    (here : world.processes.all[task.pid]? = some process)
    (sameTask : process.task = position)
    (agrees : Agrees position task own process world) :
    Stands position task grown (world.happen .work) := by
  have known : position < world.tasks.length :=
    (List.getElem?_eq_some_iff.mp found).1
  obtain ⟨floor, worked⟩ | ⟨floor, rest, entered⟩ := turn_cases mover
  · rw [worked]
    simp only [work, found]
    exact stands_work known found floor gains here sameTask agrees
  · have stillFound : (world.giveFloor position rest).tasks[position]? =
        some (.process task) := found
    rw [entered]
    simp only [enter, stillFound]
    exact stands_enter known found rest floor gains here sameTask agrees

namespace Orderly

theorem turn (orderly : Orderly made world)
    (found : world.tasks[position]? = some (.process task))
    (mover : world.mover? = some position)
    {own : SubscriptionId → Prop}
    (gains : Gains (made position) own world.waiter) :
    Stands position task own (world.happen .work) := by
  obtain ⟨process, here, sameTask, agrees⟩ := orderly.tasks position task found
  exact agrees.turn found mover gains here sameTask

theorem stands (orderly : Orderly made world)
    (found : world.tasks[position]? = some (.process task))
    (occurrence : Occurrence) :
    Stands position task (madeAfter made ⟨world, occurrence⟩ position)
      (world.happen occurrence) := by
  by_cases mover : Episode.mover? ⟨world, occurrence⟩ = some position
  · cases occurrence with
    | work =>
        apply orderly.turn found mover
        refine ⟨orderly.listed, fun id holds => ?_⟩
        rcases holds with before | ⟨_, fresh, _⟩
        · exact .inl before
        · exact .inr fresh
    | _ => cases mover
  · obtain ⟨process, here, sameTask, agrees⟩ :=
      orderly.tasks position task found
    have beside := orderly.beside found occurrence mover
    have same : madeAfter made ⟨world, occurrence⟩ position =
        made position := by
      funext id
      simp [madeAfter, mover]
    obtain ⟨next, there, nextTask, _, nextAgrees⟩ :=
      agrees.beside beside (orderly.made_below position) here sameTask
    exact ⟨task.stage, next, beside.task.trans found, there, nextTask,
      same ▸ nextAgrees⟩

theorem happen (orderly : Orderly made world) (occurrence : Occurrence) :
    Orderly (madeAfter made ⟨world, occurrence⟩)
      (world.happen occurrence) :=
  InStep.happen orderly occurrence
    (fun _ _ found => orderly.stands found occurrence)
    fun _ agrees => agrees

theorem start (config : Config) (commands : Catalogue Handler) (horizon : Nat) :
    Orderly (fun _ _ => False) (start config commands horizon) where
  tasks := by
    intro position task found
    cases found
  processes := by
    intro pid process here
    cases here
  ends := fun _ _ => rfl
  listed := by
    intro id holds
    obtain ⟨entry, member, _⟩ := holds
    cases member
  made_below := fun _ _ => False.elim
  made_known := fun _ _ => False.elim

end Orderly

/-- The subscriptions that a task has made in its turns. -/
def MadeBy (position : TaskId) (episodes : List Episode)
    (id : SubscriptionId) : Prop :=
  ∃ episode ∈ episodes, episode.mover? = some position ∧
    episode.before.waiter.handoffs.length ≤ id ∧
      id < episode.after.waiter.handoffs.length

theorem madeAfter_madeBy (episodes : List Episode) (episode : Episode) :
    madeAfter (fun position => MadeBy position episodes) episode =
      fun position => MadeBy position (episodes ++ [episode]) := by
  funext position id
  simp [madeAfter, MadeBy, or_and_right, exists_or]

/-- Every reachable state of the bot is in order. -/
theorem Run.orderly {config : Config} {commands : Catalogue Handler}
    {horizon : Nat}
    {episodes : List Episode}
    (run : Run (World.start config commands horizon) episodes world) :
    Orderly (fun position => MadeBy position episodes) world := by
  induction run with
  | start =>
      have nothing : (fun position => MadeBy position []) =
          fun _ _ => False := by
        funext position id
        simp [MadeBy]
      exact nothing ▸ Orderly.start config commands horizon
  | next occurrence _ induction =>
      exact madeAfter_madeBy _ _ ▸ induction.happen occurrence

end

end Switchboard.World
