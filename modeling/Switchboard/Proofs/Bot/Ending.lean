import Switchboard.Proofs.Bot.Activity

/-!
# The end of a process

When a body has ended its process lets go of guards and marks, comes off the
register, and its outcome is recorded.  Then the use may be given back and the
room is told.
-/

namespace Switchboard.World

variable {position : TaskId} {task : ProcessTask} {pid : Pid}
  {outcome : Outcome} {world : World}

/-- How the ends of a process are recorded. -/
def endings (pid : Pid) (world : World) : List Outcome :=
  (world.ends.filter (·.pid = pid)).map ProcessEnd.outcome

/-- The use of a process is given back unless its outcome keeps it. -/
def giveBack (reservation : Option Reservation) (outcome : Outcome)
    (world : World) : World :=
  match reservation with
  | some reservation =>
    if outcome.disposition.keepCooldown then world
    else { world with cooldowns := world.cooldowns.release reservation }
  | none => world

/-- The room is told of an outcome where there is something to tell. -/
def announce (position : TaskId) (task : ProcessTask) (chat : Chat)
    (outcome : Outcome) (world : World) : World :=
  match outcome.disposition.notice with
  | some notice =>
    let (sending, world) := world.startNotice position chat notice
    world.setStage position task (.announcing outcome sending)
  | none => world.setStage position task .over

theorem close_eq (position : TaskId) (task : ProcessTask)
    (outcome : Outcome) (world : World) :
    world.close position task outcome =
      match task.aftermath with
      | none => world.setStage position task .over
      | some aftermath =>
        (world.giveBack aftermath.reservation outcome).announce position task
          aftermath.chat outcome := by
  rfl

theorem close_of_none (aftermath : task.aftermath = none) :
    world.close position task outcome =
      world.setStage position task .over := by
  rw [close_eq, aftermath]

theorem close_of_some {aftermath : Aftermath}
    (consequence : task.aftermath = some aftermath) :
    world.close position task outcome =
      (world.giveBack aftermath.reservation outcome).announce position task
        aftermath.chat outcome := by
  rw [close_eq, consequence]

theorem closeWait_process {process : Process} (id : SubscriptionId)
    (here : world.processes.all[pid]? = some process) :
    (world.closeWait pid id).processes.all[pid]? =
      some (process.leaveWait (some id)) := by
  rw [closeWait, leaveWait, modifyProcess, ProcessTable.all_modify,
    if_pos rfl]
  exact congrArg _ here

theorem closeAll_process {process : Process} (ids : List SubscriptionId)
    (here : world.processes.all[pid]? = some process) :
    (ids.foldl (fun world id => world.closeWait pid id)
        world).processes.all[pid]? =
      some { process with
        waits := process.waits - ids.length
        deadlines := process.deadlines.filter (· ∉ ids) } := by
  induction ids generalizing world process with
  | nil => simpa using here
  | cons id rest induction =>
      rw [List.foldl_cons, induction (closeWait_process id here)]
      simp only [Process.leaveWait, List.length_cons, List.filter_filter,
        Option.some.injEq, Process.mk.injEq, true_and, and_true]
      refine ⟨by omega, List.filter_congr fun other _ => ?_⟩
      by_cases same : other = id <;> simp [same]

theorem closeAll_registers (ids : List SubscriptionId)
    (id : SubscriptionId) :
    (ids.foldl (fun world id => world.closeWait pid id)
        world).waiter.Registers id ↔
      world.waiter.Registers id ∧ id ∉ ids := by
  induction ids generalizing world with
  | nil => simp
  | cons first rest induction =>
      rw [List.foldl_cons, induction]
      refine (and_congr_left fun _ =>
        Waiter.registers_unsubscribe first id world.waiter).trans ?_
      rw [List.mem_cons, not_or, and_assoc]

theorem releaseGuards_process {process : Process}
    (here : world.processes.all[pid]? = some process) :
    (world.releaseGuards pid).processes.all[pid]? =
      some { process with
        waits := process.waits - process.guards.length - process.marks
        deadlines := process.deadlines.filter (· ∉ process.guards)
        guards := []
        marks := 0 } := by
  simp only [releaseGuards, here]
  rw [modifyProcess, ProcessTable.all_modify, if_pos rfl,
    closeAll_process process.guards here, Option.map_some]

theorem releaseGuards_books {others : SubscriptionId → Prop}
    {process : Process} (here : world.processes.all[pid]? = some process)
    (books : Books others {} process world.waiter) :
    (world.releaseGuards pid).processes.all[pid]? =
        some { process with
          waits := 0, deadlines := [], guards := [], marks := 0 } ∧
      ∀ id, (world.releaseGuards pid).waiter.Registers id → others id := by
  have counted := books.waits
  simp only [List.length_nil, Nat.zero_add] at counted
  have nothing : process.deadlines.filter (· ∉ process.guards) = [] := by
    rw [List.filter_eq_nil_iff]
    intro id member
    simpa using books.deadlines.subset member
  refine ⟨?_, fun id listed => ?_⟩
  · rw [releaseGuards_process here, nothing, counted]
    simp
  · simp only [releaseGuards, here] at listed
    obtain ⟨before, gone⟩ := (closeAll_registers process.guards id).mp listed
    exact (books.covers id before).resolve_left gone

theorem releaseGuards_rest (pid : Pid) (world : World) :
    ∃ processes waiter, world.releaseGuards pid =
      { world with processes, waiter } := by
  refine releaseGuards_induction (motive := fun after =>
    ∃ processes waiter, after = { world with processes, waiter }) ?_ ?_ ?_
  · exact ⟨world.processes, world.waiter, rfl⟩
  · rintro _ _ _ _ _ ⟨_, _, rfl⟩
    exact ⟨_, _, rfl⟩
  · rintro _ ⟨_, waiter, rfl⟩
    exact ⟨_, waiter, rfl⟩

/-- What the end of a process does to the process and its task. -/
structure Concludes (position : TaskId) (task : ProcessTask)
    (outcome : Outcome) (before after : World) : Prop where
  tasks : after.tasks =
    before.tasks.set position (.process { task with stage := .closing outcome })
  live : after.processes.live = before.processes.live.filter (· ≠ task.pid)
  endings : after.endings task.pid = before.endings task.pid ++ [outcome]
  process : ∀ process : Process,
    before.processes.all[task.pid]? = some process →
      ∃ next, after.processes.all[task.pid]? = some next ∧
        next.task = process.task ∧ next.command = process.command ∧
          next.origin = process.origin ∧ next.state = .done ∧
            next.killed = process.killed
  agenda : after.agenda = before.agenda
  deeds : after.deeds = before.deeds
  cooldowns : after.cooldowns = before.cooldowns

theorem concludes (position : TaskId) (task : ProcessTask)
    (outcome : Outcome) (world : World) :
    Concludes position task outcome world
      (world.conclude position task outcome) := by
  obtain ⟨processes, waiter, released⟩ := releaseGuards_rest task.pid world
  have frame : Frame position (· = task.pid) world
      (world.releaseGuards task.pid) := .releaseGuards (by rfl)
  unfold conclude
  refine ⟨?_, ?_, ?_, ?_, ?_, ?_, ?_⟩
  · rw [setStage, setTask, released]
  · change (world.releaseGuards task.pid).processes.live.filter _ = _
    rw [frame.live]
  · simp [World.endings, setStage, setTask, released]
  · intro process here
    have found := (ProcessTable.all_modify task.pid task.pid
      (fun process => { process with state := .done })
      (world.releaseGuards task.pid).processes).trans
        ((if_pos rfl).trans
          (congrArg (Option.map _) (releaseGuards_process here)))
    exact ⟨_, found, rfl, rfl, rfl, rfl, rfl⟩
  all_goals simp only [setStage, setTask, released]

theorem conclude_books (position : TaskId) (task : ProcessTask)
    (outcome : Outcome) {others : SubscriptionId → Prop} {process : Process}
    (here : world.processes.all[task.pid]? = some process)
    (books : Books others {} process world.waiter) :
    (world.conclude position task outcome).processes.all[task.pid]? =
        some { process with
          state := .done, waits := 0, deadlines := [], guards := []
          marks := 0 } ∧
      ∀ id, (world.conclude position task outcome).waiter.Registers id →
        others id := by
  obtain ⟨released, registers⟩ := releaseGuards_books here books
  refine ⟨?_, registers⟩
  change (ProcessTable.modify task.pid _
    (world.releaseGuards task.pid).processes).all[task.pid]? = _
  rw [ProcessTable.all_modify, if_pos rfl, released, Option.map_some]

end Switchboard.World
