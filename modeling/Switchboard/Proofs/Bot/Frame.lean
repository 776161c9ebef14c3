import Switchboard.Bot.Turn
import Switchboard.Proofs.Agenda
import Switchboard.Proofs.Process
import Switchboard.Proofs.Waiter

/-!
# What the work of a body leaves alone

A step of a body changes its own process, subscriptions, the gateway and the
fleet, and it can kill others.  It never touches settings, cooldowns, the
stages of tasks, the register of processes or the record of their ends, and
nobody loses the place in line by it.
-/

namespace Switchboard.World

/-- What has become of a process: it is the same one, others have at most
killed it, and if it has been killed, its task has been woken. -/
structure Carried (owned : Prop) (ready : List TaskId)
    (process next : Process) : Prop where
  continues : process.Continues next
  kept : owned ∨ process.Kept next
  struck : process.killed = false → next.killed = true → next.task ∈ ready

/-- What the work of a task leaves alone, and how the rest may change.  The
processes that are its own to change are those that it `owns`. -/
structure Frame (task : TaskId) (owns : Pid → Prop) (before after : World) :
    Prop where
  config : after.config = before.config
  commands : after.commands = before.commands
  wallClock : after.wallClock = before.wallClock
  cooldowns : after.cooldowns = before.cooldowns
  tasks : after.tasks = before.tasks
  ends : after.ends = before.ends
  live : after.processes.live = before.processes.live
  launched : after.processes.all.length = before.processes.all.length
  agenda : before.agenda.Extends after.agenda
  deeds : ∃ deeds, after.deeds = before.deeds ++ deeds ∧
    ∀ deed ∈ deeds, deed.task = task
  waiter : before.waiter.Grows after.waiter
  processes : ∀ (pid : Pid) (process : Process),
    before.processes.all[pid]? = some process →
      ∃ next, after.processes.all[pid]? = some next ∧
        Carried (owns pid) after.agenda.ready process next

theorem Carried.refl (owned : Prop) (ready : List TaskId)
    (process : Process) : Carried owned ready process process where
  continues := .refl process
  kept := .inr (.refl process)
  struck := by
    intro alive killed
    rw [alive] at killed
    cases killed

theorem Carried.trans {owned : Prop} {early late : List TaskId}
    {first second third : Process} (kept : early <+: late)
    (one : Carried owned early first second)
    (two : Carried owned late second third) :
    Carried owned late first third where
  continues := one.continues.trans two.continues
  kept := by
    rcases one.kept with owned | before
    · exact .inl owned
    · exact two.kept.imp_right before.trans
  struck := by
    intro alive killed
    cases state : second.killed with
    | true =>
        rw [two.continues.task]
        exact kept.subset (one.struck alive state)
    | false => exact two.struck state killed

theorem releaseGuards_induction {motive : World → Prop} {pid : Pid}
    {world : World} (start : motive world)
    (closes : ∀ process, world.processes.all[pid]? = some process →
      ∀ id ∈ process.guards, ∀ middle, motive middle →
        motive (middle.closeWait pid id))
    (forgets : ∀ middle, motive middle →
      motive (middle.modifyProcess pid fun process =>
        { process with
          guards := [], waits := process.waits - process.marks, marks := 0 })) :
    motive (world.releaseGuards pid) := by
  unfold releaseGuards
  split
  · exact start
  · rename_i process here
    refine forgets _ (List.foldlRecOn process.guards _ start ?_)
    exact fun middle kept id member => closes process here id member middle kept

namespace Frame

variable {task : TaskId} {owns : Pid → Prop} {pid : Pid}
  {first second third world : World}

theorem of_same {before after : World}
    (config : after.config = before.config)
    (commands : after.commands = before.commands)
    (wallClock : after.wallClock = before.wallClock)
    (cooldowns : after.cooldowns = before.cooldowns)
    (tasks : after.tasks = before.tasks) (ends : after.ends = before.ends)
    (processes : after.processes = before.processes)
    (waiter : after.waiter = before.waiter)
    (agenda : before.agenda.Extends after.agenda)
    (deeds : ∃ deeds, after.deeds = before.deeds ++ deeds ∧
      ∀ deed ∈ deeds, deed.task = task) :
    Frame task owns before after where
  config := config
  commands := commands
  wallClock := wallClock
  cooldowns := cooldowns
  tasks := tasks
  ends := ends
  live := by rw [processes]
  launched := by rw [processes]
  agenda := agenda
  deeds := deeds
  waiter := waiter ▸ .refl before.waiter
  processes := fun _ process here =>
    ⟨process, processes ▸ here, .refl _ _ process⟩

theorem refl (world : World) : Frame task owns world world :=
  of_same rfl rfl rfl rfl rfl rfl rfl rfl (.refl _)
    ⟨[], (List.append_nil _).symm, by simp⟩

theorem trans (one : Frame task owns first second)
    (two : Frame task owns second third) : Frame task owns first third where
  config := two.config.trans one.config
  commands := two.commands.trans one.commands
  wallClock := two.wallClock.trans one.wallClock
  cooldowns := two.cooldowns.trans one.cooldowns
  tasks := two.tasks.trans one.tasks
  ends := two.ends.trans one.ends
  live := two.live.trans one.live
  launched := two.launched.trans one.launched
  agenda := one.agenda.trans two.agenda
  deeds := by
    obtain ⟨earlier, firstDeeds, firstOwn⟩ := one.deeds
    obtain ⟨later, secondDeeds, secondOwn⟩ := two.deeds
    refine ⟨earlier ++ later, ?_, ?_⟩
    · rw [secondDeeds, firstDeeds, List.append_assoc]
    · intro deed member
      rcases List.mem_append.mp member with here | here
      · exact firstOwn deed here
      · exact secondOwn deed here
  waiter := one.waiter.trans two.waiter
  processes := by
    intro pid process here
    obtain ⟨middle, there, begins⟩ := one.processes pid process here
    obtain ⟨last, found, goesOn⟩ := two.processes pid middle there
    exact ⟨last, found, begins.trans two.agenda.ready goesOn⟩

theorem mono {fewer : Pid → Prop} (frame : Frame task fewer first second)
    (more : ∀ pid, fewer pid → owns pid) : Frame task owns first second :=
  { frame with
    processes := by
      intro pid process here
      obtain ⟨next, there, carried⟩ := frame.processes pid process here
      exact ⟨next, there, carried.continues,
        carried.kept.imp_left (more pid), carried.struck⟩ }

theorem of_agenda {agenda : Agenda} (keeps : world.agenda.Extends agenda) :
    Frame task owns world { world with agenda } :=
  of_same rfl rfl rfl rfl rfl rfl rfl rfl keeps
    ⟨[], (List.append_nil _).symm, by simp⟩

theorem of_territory {territory : Territory} :
    Frame task owns world { world with territory } :=
  of_same rfl rfl rfl rfl rfl rfl rfl rfl (.refl _)
    ⟨[], (List.append_nil _).symm, by simp⟩

theorem note (act : Act) : Frame task owns world (world.note task act) :=
  of_same rfl rfl rfl rfl rfl rfl rfl rfl (.refl _)
    ⟨[_], rfl, by simp⟩

theorem of_waiter {waiter : Waiter} (grows : world.waiter.Grows waiter) :
    Frame task owns world { world with waiter } :=
  { (refl world : Frame task owns world world) with waiter := grows }

theorem subscribe (kind : EventKind) (predicate : Event → Bool) :
    Frame task owns world (world.subscribe kind predicate).2 :=
  of_waiter (Waiter.grows_subscribe kind predicate world.waiter)

theorem unsubscribe (id : SubscriptionId) :
    Frame task owns world (world.unsubscribe id) :=
  of_waiter (Waiter.grows_unsubscribe id world.waiter)

theorem setHandoff (id : SubscriptionId) (handoff : Handoff Event) :
    Frame task owns world (world.setHandoff id handoff) :=
  of_waiter (Waiter.grows_setHandoff id handoff world.waiter)

theorem modifyProcess {change : Process → Process} (owned : owns pid)
    (continues : ∀ process : Process, process.Continues (change process))
    (killed : ∀ process : Process,
      (change process).killed = process.killed) :
    Frame task owns world (world.modifyProcess pid change) :=
  { (refl world : Frame task owns world world) with
    launched := ProcessTable.length_modify _ _ _
    processes := by
      intro other process here
      rw [World.modifyProcess, ProcessTable.all_modify, here]
      split
      · rename_i same
        refine ⟨change process, rfl, continues process,
          .inl (same ▸ owned), fun alive struck => ?_⟩
        rw [killed, alive] at struck
        cases struck
      · exact ⟨process, rfl, .refl _ _ process⟩ }

theorem enterWait (owned : owns pid) (deadline : Option SubscriptionId) :
    Frame task owns world (world.enterWait pid deadline) :=
  modifyProcess owned (fun _ => ⟨rfl, rfl, rfl, rfl, .inl ⟨rfl, rfl⟩⟩)
    fun _ => rfl

theorem leaveWait (owned : owns pid) (deadline : Option SubscriptionId) :
    Frame task owns world (world.leaveWait pid deadline) :=
  modifyProcess owned (fun _ => ⟨rfl, rfl, rfl, rfl, .inl ⟨rfl, rfl⟩⟩)
    fun _ => rfl

theorem closeWait (owned : owns pid) (id : SubscriptionId) :
    Frame task owns world (world.closeWait pid id) :=
  (unsubscribe id).trans (leaveWait owned (some id))

theorem releaseGuards (owned : owns pid) :
    Frame task owns world (world.releaseGuards pid) := by
  refine releaseGuards_induction (refl world) ?_ ?_
  · exact fun _ _ id _ _ frame => frame.trans (closeWait owned id)
  · exact fun _ frame => frame.trans (modifyProcess owned
      (fun _ => ⟨rfl, rfl, rfl, rfl, .inl ⟨rfl, rfl⟩⟩) fun _ => rfl)

theorem startMessage (chat : Chat) (text : String) :
    Frame task owns world (world.startMessage task chat text).2 :=
  (note _).trans (of_agenda ⟨rfl, rfl, List.prefix_refl _⟩)

theorem startNotice (chat : Chat) (text : String) :
    Frame task owns world (world.startNotice task chat text).2 :=
  (note _).trans (of_agenda ⟨rfl, rfl, List.prefix_refl _⟩)

theorem finishMessage (sending : Sending) :
    Frame task owns world (world.finishMessage sending).2 := by
  unfold World.finishMessage
  split
  · exact refl world
  · exact of_territory

theorem wake (woken : TaskId) : Frame task owns world (world.wake woken) :=
  of_agenda (.wake woken _)

theorem wakeWatchers (id : SubscriptionId) :
    Frame task owns world (world.wakeWatchers id) :=
  of_agenda (.wakeAll _ _)

theorem interruptHeld (victim : Pid) :
    Frame task owns world (world.interruptHeld victim).2 := by
  unfold World.interruptHeld
  cases found : world.processes.all[victim]? with
  | none => exact refl world
  | some process =>
      by_cases running : process.state = .running
      · simp only [Process.interrupt_eq_of_running running, if_true]
        exact { (wake process.task : Frame task owns world _) with
          launched := ProcessTable.length_modify _ _ _
          processes := by
            intro other before here
            rw [World.wake, World.modifyProcess, ProcessTable.all_modify]
            split
            · rename_i same
              subst other
              cases found.symm.trans here
              have killed : process.Kept process.kill :=
                .inr ⟨running, rfl⟩
              exact ⟨process.kill, by rw [found, Option.map_some],
                killed.continues, .inr killed,
                fun _ _ => Agenda.mem_ready_wake _ _⟩
            · exact ⟨before, here, .refl _ _ before⟩ }
      · simp only [Process.interrupt_eq_of_ne_running running]
        exact refl world

theorem interrupt (victim : Pid) :
    Frame task owns world (world.interrupt victim).2 := by
  unfold World.interrupt
  split
  · exact interruptHeld victim
  · exact refl world

theorem interruptEach (victims : List Pid) :
    Frame task owns world (world.interruptEach victims).2 := by
  induction victims generalizing world with
  | nil => exact refl world
  | cons victim rest induction =>
      exact (interrupt victim).trans induction

theorem liftAll (ids : List SubscriptionId) :
    Frame task owns world (world.liftAll ids) := by
  induction ids generalizing world with
  | nil => exact refl world
  | cons id rest induction =>
      exact ((setHandoff id _).trans (wakeWatchers id)).trans induction

theorem liftHeld (pid : Pid) :
    Frame task owns world (world.liftHeld pid).2 := by
  unfold World.liftHeld
  split
  · exact refl world
  · exact liftAll _

theorem lift (pid : Pid) : Frame task owns world (world.lift pid).2 := by
  unfold World.lift
  split
  · exact liftHeld pid
  · exact refl world

theorem liftEach (pids : List Pid) :
    Frame task owns world (world.liftEach pids).2 := by
  induction pids generalizing world with
  | nil => exact refl world
  | cons pid rest induction => exact (lift pid).trans induction

theorem wakeAllWatchers (ids : List SubscriptionId) :
    Frame task owns world
      (ids.foldl (fun world id => world.wakeWatchers id) world) := by
  induction ids generalizing world with
  | nil => exact refl world
  | cons id rest induction => exact (wakeWatchers id).trans induction

theorem dispatch (event : Event) :
    Frame task owns world (world.dispatch event).2 :=
  (of_waiter (Waiter.grows_dispatch event world.waiter)).trans
    (wakeAllWatchers _)

end Frame

end Switchboard.World
