import Switchboard.Proofs.Bot.Ending
import Switchboard.Proofs.Bot.Run

/-!
# What one process sees of all that is not its turn

Seen from a process and its task, everything that happens while it is not
this task's turn leaves the task, the register's word on the process and the
record of its end alone.  The process may be killed, and then its task is
woken; its subscriptions can only come off the register.
-/

namespace Switchboard.World

/-- What a task did to the gateway. -/
def deedsOf (task : TaskId) (world : World) : List Deed :=
  world.deeds.filter (·.task = task)

theorem acquire_rest (command : CommandDef) (origin : Origin)
    (world : World) :
    ∃ admission cooldowns, world.acquire command origin =
      (admission, { world with cooldowns }) := by
  unfold acquire
  split <;> exact ⟨_, _, rfl⟩

/-- What a process and its task see of something that is not their own
doing. -/
structure Beside (position : TaskId) (pid : Pid) (before after : World) :
    Prop where
  task : after.tasks[position]? = before.tasks[position]?
  live : pid ∈ after.processes.live ↔ pid ∈ before.processes.live
  endings : after.endings pid = before.endings pid
  deeds : after.deedsOf position = before.deedsOf position
  ready : position ∈ before.agenda.ready → position ∈ after.agenda.ready
  floor : after.agenda.floor = some position ↔
    before.agenda.floor = some position
  waiter : before.waiter.Grows after.waiter
  absent : before.processes.all[pid]? = none →
    after.processes.all[pid]? = none
  process : ∀ process : Process,
    before.processes.all[pid]? = some process → process.task = position →
      ∃ next, after.processes.all[pid]? = some next ∧ process.Kept next ∧
        (process.killed = false → next.killed = true →
          position ∈ after.agenda.ready)

namespace Beside

variable {position other : TaskId} {pid victim : Pid}
  {first second third world : World} {owns : Pid → Prop}

theorem unharmed {process : Process} {after : World}
    (there : after.processes.all[pid]? = some process) :
    ∃ next, after.processes.all[pid]? = some next ∧ process.Kept next ∧
      (process.killed = false → next.killed = true →
        position ∈ after.agenda.ready) := by
  refine ⟨process, there, .refl process, fun alive killed => ?_⟩
  rw [alive] at killed
  cases killed

theorem of_same {before after : World} (tasks : after.tasks = before.tasks)
    (processes : after.processes = before.processes)
    (ends : after.ends = before.ends) (deeds : after.deeds = before.deeds)
    (waiter : after.waiter = before.waiter)
    (ready : position ∈ before.agenda.ready →
      position ∈ after.agenda.ready)
    (floor : after.agenda.floor = some position ↔
      before.agenda.floor = some position) :
    Beside position pid before after where
  task := by rw [tasks]
  live := by rw [processes]
  endings := by rw [World.endings, World.endings, ends]
  deeds := by rw [deedsOf, deedsOf, deeds]
  ready := ready
  floor := floor
  waiter := waiter ▸ .refl before.waiter
  absent := by
    rw [processes]
    exact id
  process := fun _ here _ => unharmed (processes ▸ here)

theorem refl (world : World) : Beside position pid world world :=
  of_same rfl rfl rfl rfl rfl id Iff.rfl

theorem trans (one : Beside position pid first second)
    (two : Beside position pid second third) :
    Beside position pid first third where
  task := two.task.trans one.task
  live := two.live.trans one.live
  endings := two.endings.trans one.endings
  deeds := two.deeds.trans one.deeds
  ready := two.ready ∘ one.ready
  floor := two.floor.trans one.floor
  waiter := one.waiter.trans two.waiter
  absent := two.absent ∘ one.absent
  process := by
    intro process here sameTask
    obtain ⟨middle, there, begins, woken⟩ :=
      one.process process here sameTask
    obtain ⟨last, found, goesOn, wokenThen⟩ :=
      two.process middle there (begins.continues.task.trans sameTask)
    refine ⟨last, found, begins.trans goesOn, fun alive killed => ?_⟩
    cases state : middle.killed with
    | true => exact two.ready (woken alive state)
    | false => exact wokenThen state killed

theorem of_frame (frame : Frame other owns first second)
    (elsewhere : other ≠ position) (foreign : ¬owns pid) :
    Beside position pid first second where
  task := by rw [frame.tasks]
  live := by rw [frame.live]
  endings := by rw [World.endings, World.endings, frame.ends]
  deeds := by
    obtain ⟨deeds, added, own⟩ := frame.deeds
    have none : deeds.filter (·.task = position) = [] := by
      rw [List.filter_eq_nil_iff]
      intro deed member
      simpa [own deed member] using elsewhere
    rw [deedsOf, added, List.filter_append, none, List.append_nil, deedsOf]
  ready := fun waiting => frame.agenda.ready.subset waiting
  floor := by rw [frame.agenda.floor]
  waiter := frame.waiter
  absent := by
    rw [List.getElem?_eq_none_iff, List.getElem?_eq_none_iff, frame.launched]
    exact id
  process := by
    intro process here sameTask
    obtain ⟨next, there, carried⟩ := frame.processes pid process here
    refine ⟨next, there, carried.kept.resolve_left foreign, ?_⟩
    intro alive killed
    have woken := carried.struck alive killed
    rwa [carried.continues.task, sameTask] at woken

theorem of_spared (frame : Frame other (fun _ => False) first second)
    (elsewhere : other ≠ position) : Beside position pid first second :=
  of_frame frame elsewhere id

theorem of_outside (frame : ∀ task, Frame task (fun _ => False) first second) :
    Beside position pid first second :=
  of_spared (frame (position + 1)) (Nat.succ_ne_self position)

theorem setTask (elsewhere : other ≠ position) (task : Task) :
    Beside position pid world (world.setTask other task) :=
  { (refl world : Beside position pid world world) with
    task := List.getElem?_set_ne elsewhere }

theorem yieldFloor (elsewhere : world.agenda.floor ≠ some position) :
    Beside position pid world world.yieldFloor :=
  of_same rfl rfl rfl rfl rfl id
    (iff_of_false (by simp [World.yieldFloor, Agenda.yieldFloor]) elsewhere)

theorem spawn (known : position < world.tasks.length) (task : Task) :
    Beside position pid world (world.spawn task) :=
  { (of_outside fun _ => .wake world.tasks.length :
      Beside position pid world (world.wake world.tasks.length)) with
    task := List.getElem?_append_left known }

theorem register (other : pid ≠ world.processes.all.length)
    (process : Process) :
    Beside position pid world
      { world with processes := (world.processes.add process).2 } :=
  { (refl world : Beside position pid world world) with
    live := by
      simp [ProcessTable.add, other]
    absent := by
      intro nobody
      have beyond := List.getElem?_eq_none_iff.mp nobody
      rw [List.getElem?_eq_none_iff]
      simp only [ProcessTable.add, List.length_append, List.length_singleton]
      exact Nat.lt_of_le_of_ne beyond (Ne.symm other)
    process := by
      intro process here _
      have registered : pid < world.processes.all.length :=
        (List.getElem?_eq_some_iff.mp here).1
      exact unharmed ((List.getElem?_append_left registered).trans here) }

theorem launch (known : position < world.tasks.length)
    (other : pid ≠ world.processes.all.length) (command : CommandDef)
    (event : Event) (chat : Chat)
    (body : Except PanicPayload (Program Unit))
    (aftermath : Option Aftermath) :
    Beside position pid world
      (world.launch command event chat body aftermath).2 :=
  let process : Process :=
    { command, origin := event.origin, startedAt := world.wallClock,
      task := world.tasks.length }
  (register other process).trans (spawn (by exact known) _)

theorem conclude (elsewhere : other ≠ position) (task : ProcessTask)
    (foreign : task.pid ≠ pid) (outcome : Outcome) :
    Beside position pid world (world.conclude other task outcome) := by
  unfold World.conclude
  have frame : Frame other (· = task.pid) world
      (world.releaseGuards task.pid) := .releaseGuards (by rfl)
  have released : Beside position pid world (world.releaseGuards task.pid) :=
    of_frame frame elsewhere (Ne.symm foreign)
  refine (released.trans ?_).trans (setTask elsewhere _)
  exact { (refl _ : Beside position pid (world.releaseGuards task.pid) _) with
    live := by
      simp [ProcessTable.remove, Ne.symm foreign]
    endings := by
      simp [World.endings, foreign]
    absent := by
      intro nobody
      change (ProcessTable.modify task.pid _ _).all[pid]? = _
      rw [ProcessTable.all_modify, if_neg foreign, nobody]
    process := by
      intro process here _
      apply unharmed
      change (ProcessTable.modify task.pid _ _).all[pid]? = _
      rw [ProcessTable.all_modify, if_neg foreign, here] }

theorem giveUp (elsewhere : other ≠ position) (task : ProcessTask)
    (foreign : task.pid ≠ pid) (activity : Activity) (outcome : Outcome) :
    Beside position pid world
      ((world.abandon (actorOf other task) activity).conclude other task
        outcome) :=
  (of_frame (Works.abandon (actorOf other task) activity world).frame
    elsewhere (Ne.symm foreign)).trans (conclude elsewhere task foreign outcome)

theorem enterProcess (elsewhere : other ≠ position) (task : ProcessTask)
    (foreign : task.pid ≠ pid) :
    Beside position pid world (world.enterProcess other task) := by
  unfold World.enterProcess
  split
  · exact conclude elsewhere task foreign _
  · split
    · exact conclude elsewhere task foreign _
    · exact setTask elsewhere _
  · split
    · exact giveUp elsewhere task foreign _ _
    · exact refl world
  · exact refl world

theorem giveBack (reservation : Option Reservation) (outcome : Outcome) :
    Beside position pid world (world.giveBack reservation outcome) := by
  unfold World.giveBack
  split
  · split
    · exact refl world
    · exact of_same rfl rfl rfl rfl rfl id Iff.rfl
  · exact refl world

theorem announce (elsewhere : other ≠ position) (task : ProcessTask)
    (chat : Chat) (outcome : Outcome) :
    Beside position pid world (world.announce other task chat outcome) := by
  unfold World.announce
  split
  · exact (of_spared (.startNotice _ _) elsewhere).trans
      (setTask elsewhere _)
  · exact setTask elsewhere _

theorem close (elsewhere : other ≠ position) (task : ProcessTask)
    (outcome : Outcome) :
    Beside position pid world (world.close other task outcome) := by
  rw [close_eq]
  split
  · exact setTask elsewhere _
  · exact (giveBack _ _).trans (announce elsewhere task _ _)

theorem startReport (elsewhere : other ≠ position) (task : ProcessTask)
    (outcome : Outcome) :
    Beside position pid world (world.startReport other task outcome) := by
  unfold World.startReport
  split
  · exact (of_spared (.startMessage _ _) elsewhere).trans
      (setTask elsewhere _)
  · exact setTask elsewhere _

theorem workProcess (elsewhere : other ≠ position)
    (floor : world.agenda.floor = some other) (task : ProcessTask)
    (foreign : task.pid ≠ pid) :
    Beside position pid world (world.workProcess other task) := by
  have notHere : world.agenda.floor ≠ some position := by
    rw [floor]
    simpa using elsewhere
  unfold World.workProcess
  split
  · exact yieldFloor notHere
  · rename_i activity _
    have works := Works.stepActivity (actorOf other task) activity world
    have stepped := of_frame works.frame elsewhere (Ne.symm foreign)
    generalize world.stepActivity (actorOf other task) activity = result
      at stepped
    obtain ⟨progress, after⟩ := result
    cases progress with
    | done outcome => exact stepped.trans (conclude elsewhere task foreign _)
    | go next => exact stepped.trans (setTask elsewhere _)
    | blocked next =>
        have set : Beside position pid world
            (after.setStage other task (.body next)) :=
          stepped.trans (setTask elsewhere _)
        exact set.trans (yieldFloor ((not_congr set.floor).mpr notHere))
  · exact close elsewhere task _
  · split
    · exact startReport elsewhere task _
    · exact yieldFloor notHere
  · split
    · exact (of_spared (.finishMessage _) elsewhere).trans
        (setTask elsewhere _)
    · exact yieldFloor notHere
  · exact yieldFloor notHere

theorem workNotice (elsewhere : other ≠ position)
    (floor : world.agenda.floor = some other) (stage : NoticeStage) :
    Beside position pid world (world.workNotice other stage) := by
  have notHere : world.agenda.floor ≠ some position := by
    rw [floor]
    simpa using elsewhere
  unfold World.workNotice
  split
  · exact (of_spared (.startNotice _ _) elsewhere).trans
      (setTask elsewhere _)
  · split
    · exact setTask elsewhere _
    · exact yieldFloor notHere
  · exact yieldFloor notHere

/-- All other tasks of processes are about other processes. -/
def Apart (position : TaskId) (pid : Pid) (world : World) : Prop :=
  ∀ (other : TaskId) (task : ProcessTask),
    world.tasks[other]? = some (.process task) → other ≠ position →
      task.pid ≠ pid

theorem work (elsewhere : other ≠ position)
    (floor : world.agenda.floor = some other)
    (apart : Apart position pid world) :
    Beside position pid world (world.work other) := by
  unfold World.work
  split
  · rename_i task here
    exact workProcess elsewhere floor task (apart other task here elsewhere)
  · exact workNotice elsewhere floor _
  · apply yieldFloor
    rw [floor]
    simpa using elsewhere

theorem enter (elsewhere : other ≠ position)
    (apart : Apart position pid world) :
    Beside position pid world (world.enter other) := by
  unfold World.enter
  split
  · rename_i task here
    exact enterProcess elsewhere task (apart other task here elsewhere)
  · exact refl world

theorem step (apart : Apart position pid world)
    (elsewhere : world.mover? ≠ some position) :
    Beside position pid world (world.happen .work) := by
  cases floor : world.agenda.floor with
  | some other =>
      have different : other ≠ position := by
        simpa [mover?, floor] using elsewhere
      rw [happen_work_of_floor floor]
      exact work different floor apart
  | none =>
      cases ready : world.agenda.ready with
      | nil =>
          rw [happen_work_of_idle floor ready]
          exact refl world
      | cons other rest =>
          have different : other ≠ position := by
            simpa [mover?, floor, ready] using elsewhere
          rw [happen_work_of_ready floor ready]
          have stillApart : Apart position pid (world.giveFloor other rest) :=
            apart
          have given : Beside position pid world
              (world.giveFloor other rest) := by
            refine of_same rfl rfl rfl rfl rfl (fun waiting => ?_) ?_
            · rw [ready] at waiting
              exact (List.mem_cons.mp waiting).resolve_left
                (Ne.symm different)
            · rw [floor]
              simpa [giveFloor] using different
          exact given.trans (enter different stillApart)

theorem tell (known : position < world.tasks.length) (chat : Chat)
    (text : String) : Beside position pid world (world.tell chat text) :=
  spawn known _

theorem invoke (known : position < world.tasks.length)
    (other : pid ≠ world.processes.all.length)
    (entry : CatalogueEntry Handler) (event : Event) (arguments : String)
    (chat : Chat) :
    Beside position pid world
      (world.invoke entry event arguments chat).2 := by
  unfold World.invoke
  split
  · exact tell known chat _
  · obtain ⟨admission, cooldowns, acquired⟩ :=
      acquire_rest entry.definition event.origin world
    have asked : Beside position pid world { world with cooldowns } :=
      of_same rfl rfl rfl rfl rfl id Iff.rfl
    have stillKnown : position < { world with cooldowns }.tasks.length :=
      known
    have stillOther :
        pid ≠ { world with cooldowns }.processes.all.length := other
    rw [acquired]
    cases admission with
    | limited remaining => exact asked.trans (tell stillKnown _ _)
    | uncounted =>
        exact asked.trans (launch stillKnown stillOther _ _ _ _ _)
    | reserved reservation =>
        exact asked.trans (launch stillKnown stillOther _ _ _ _ _)
    | beyond => exact asked

theorem receive (known : position < world.tasks.length)
    (other : pid ≠ world.processes.all.length) (event : Event) :
    Beside position pid world (world.receive event).2 := by
  unfold World.receive
  split
  · exact refl world
  · have frame : ∀ task, Frame task (fun _ => False) world
        (world.dispatch event).2 := fun _ => .dispatch event
    have offered : Beside position pid world (world.dispatch event).2 :=
      of_outside frame
    have stillKnown : position < (world.dispatch event).2.tasks.length := by
      rw [(frame 0).tasks]
      exact known
    have stillOther :
        pid ≠ (world.dispatch event).2.processes.all.length := by
      rw [(frame 0).launched]
      exact other
    dsimp only
    split
    · apply offered.trans
      unfold World.route
      split
      · exact refl _
      · split
        · exact refl _
        · split
          · exact tell stillKnown _ _
          · exact invoke stillKnown stillOther _ _ _ _
    · exact offered

theorem happen (known : position < world.tasks.length)
    (other : pid ≠ world.processes.all.length)
    (apart : Apart position pid world) (occurrence : Occurrence)
    (elsewhere : Episode.mover? ⟨world, occurrence⟩ ≠ some position) :
    Beside position pid world (world.happen occurrence) := by
  cases occurrence with
  | work => exact step apart elsewhere
  | pass span =>
      exact of_same rfl rfl rfl rfl rfl
        (fun waiting => (Agenda.Extends.wakeAll _ _).ready.subset waiting)
        (iff_of_eq (congrArg (· = some position)
          (Agenda.Extends.wakeAll _ _).floor))
  | wallClock moment => exact of_same rfl rfl rfl rfl rfl id Iff.rfl
  | receive event => exact receive known other event
  | dispatch event => exact of_outside fun _ => .dispatch event
  | launch command event chat body =>
      exact launch known other command event chat body none
  | interrupt victim => exact of_outside fun _ => .interrupt victim
  | interruptHeld victim => exact of_outside fun _ => .interruptHeld victim
  | lift other => exact of_outside fun _ => .lift other
  | liftHeld other => exact of_outside fun _ => .liftHeld other
  | checkCooldown bucket key => exact of_same rfl rfl rfl rfl rfl id Iff.rfl
  | register name => exact of_same rfl rfl rfl rfl rfl id Iff.rfl
  | fleet change => exact of_same rfl rfl rfl rfl rfl id Iff.rfl
  | connection shred change => exact of_same rfl rfl rfl rfl rfl id Iff.rfl
  | chat chat change => exact of_same rfl rfl rfl rfl rfl id Iff.rfl

end Beside

end Switchboard.World
