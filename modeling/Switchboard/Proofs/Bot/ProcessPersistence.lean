import Switchboard.Proofs.Bot.SubscriptionReleases

/-!
# What lasts of a process

Waits and payloads come and go while a body works.  Whatever else a register
knows of a process is changed by few kinds of steps only: kills, waits that are
opened by hand, and the end of the body.  And only the resolution of clashes
makes identities leave rooms.
-/

namespace Switchboard

/-- What of a process lasts while its body works: not its waits or its
payload. -/
def Process.core (process : Process) : Process :=
  { process with waits := 0, deadlines := [], payload := none }

/-- An identity leaves a room. -/
def Act.isLeave : Act → Bool
  | .leave .. => true
  | _ => false

/-- What a call does concerns nothing lasting of any process, and no rooms. -/
def Call.isPlain : Call → Bool
  | .resolveClashes | .enterGuard | .leaveGuard | .enterMark | .leaveMark
  | .interruptSelf | .interruptAll _ | .liftAll _ => false
  | _ => true

/-- The next step concerns nothing lasting of any process, and no rooms. -/
def Activity.isPlain : Activity → Bool
  | .running (.call call _) => call.isPlain
  | .resolving _ _ => false
  | _ => true

namespace World

/-- All processes are what they were but for what does not last, and no
identity has left a room. -/
structure Discreet (before after : World) : Prop where
  cores : ∀ pid : Pid, (after.processes.all[pid]?).map Process.core =
    (before.processes.all[pid]?).map Process.core
  deeds : ∀ deed ∈ after.deeds,
    deed ∈ before.deeds ∨ deed.act.isLeave = false

namespace Discreet

variable {first second third world : World} {actor : Actor} {pid : Pid}

theorem of_same (processes : second.processes = first.processes)
    (deeds : second.deeds = first.deeds) : Discreet first second where
  cores := fun _ => by rw [processes]
  deeds := fun deed member => .inl (deeds ▸ member)

theorem refl (world : World) : Discreet world world := of_same rfl rfl

theorem trans (one : Discreet first second) (two : Discreet second third) :
    Discreet first third where
  cores := fun pid => (two.cores pid).trans (one.cores pid)
  deeds := by
    intro deed member
    rcases two.deeds deed member with before | stays
    · exact one.deeds deed before
    · exact .inr stays

theorem of_note {moment : Nat} {task : TaskId} {act : Act}
    (processes : second.processes = first.processes)
    (deeds : second.deeds = first.deeds ++ [⟨moment, task, act⟩])
    (stays : act.isLeave = false) : Discreet first second where
  cores := fun _ => by rw [processes]
  deeds := by
    intro deed member
    rw [deeds] at member
    rcases List.mem_append.mp member with before | added
    · exact .inl before
    · rw [List.mem_singleton.mp added]
      exact .inr stays

theorem of_change {pid : Pid} {change : Process → Process}
    (processes : second.processes = first.processes.modify pid change)
    (deeds : second.deeds = first.deeds)
    (lasts : ∀ process : Process, (change process).core = process.core) :
    Discreet first second where
  cores := by
    intro other
    rw [processes, ProcessTable.all_modify]
    split
    · cases first.processes.all[other]? with
      | none => rfl
      | some process => exact congrArg some (lasts process)
    · rfl
  deeds := fun _ member => .inl (deeds ▸ member)

theorem finishMessage (sending : Sending) :
    Discreet world (world.finishMessage sending).2 := by
  unfold World.finishMessage
  split
  · exact refl world
  · exact of_same rfl rfl

theorem closeWait (pid : Pid) (id : SubscriptionId) :
    Discreet world (world.closeWait pid id) :=
  of_change rfl rfl fun _ => rfl

theorem stepWait (watched : String) (wait : Wait) :
    Discreet world (world.stepWait actor watched wait).2 := by
  unfold World.stepWait
  dsimp only
  split
  · split <;> exact of_same rfl rfl
  · split
    · split <;> exact of_note rfl rfl rfl
    · exact refl world

theorem stepOpenWait (watched : String) (wait : Wait) :
    Discreet world (world.stepOpenWait actor watched wait).2 := by
  have steps : Discreet world (world.stepWait actor watched wait).2 :=
    stepWait watched wait
  unfold World.stepOpenWait
  generalize world.stepWait actor watched wait = result at steps
  obtain ⟨progress, after⟩ := result
  cases progress with
  | done result => exact steps.trans (closeWait actor.pid wait.subscription)
  | _ => exact steps

theorem startAsking (prompt : String) (timeout : Option Nat) :
    Discreet world (world.startAsking actor prompt timeout).2 :=
  of_note rfl rfl rfl

theorem stepAsking (asking : Asking) :
    Discreet world (world.stepAsking actor asking).2 := by
  unfold World.stepAsking
  cases asking with
  | prompting id timeout sending =>
      dsimp only
      split
      · have sent : Discreet world (world.finishMessage sending).2 :=
          finishMessage sending
        generalize world.finishMessage sending = result at sent
        obtain ⟨answer, after⟩ := result
        cases answer with
        | error error => exact sent.trans (of_same rfl rfl)
        | ok name => exact sent.trans (of_change rfl rfl fun _ => rfl)
      · exact refl world
  | waiting wait =>
      have steps : Discreet world (world.stepOpenWait actor "" wait).2 :=
        stepOpenWait "" wait
      dsimp only
      generalize world.stepOpenWait actor "" wait = result at steps
      obtain ⟨progress, after⟩ := result
      cases progress <;> exact steps

theorem stepConfirming (confirming : Confirming) :
    Discreet world (world.stepConfirming actor confirming).2 := by
  cases confirming with
  | prompting terms sending =>
      unfold World.stepConfirming
      dsimp only
      split
      · have sent : Discreet world (world.finishMessage sending).2 :=
          finishMessage sending
        generalize world.finishMessage sending = result at sent
        obtain ⟨answer, after⟩ := result
        cases answer with
        | error error => exact sent
        | ok prompt => exact sent.trans (of_note rfl rfl rfl)
      · exact refl world
  | reacting terms prompt reaction deletion second failure answer =>
      unfold World.stepConfirming
      dsimp only
      split
      · split
        · exact of_note rfl rfl rfl
        · split
          · exact of_change rfl rfl fun _ => rfl
          · exact of_note rfl rfl rfl
      · exact refl world
  | racing prompt reaction deletion deletionTurn =>
      cases deletionTurn with
      | false =>
          have steps : Discreet world
              (world.stepOpenWait actor prompt reaction).2 :=
            stepOpenWait prompt reaction
          unfold World.stepConfirming
          dsimp only
          generalize world.stepOpenWait actor prompt reaction = result
            at steps
          obtain ⟨progress, after⟩ := result
          cases progress with
          | done result => exact steps.trans (of_same rfl rfl)
          | _ => exact steps
      | true =>
          have steps : Discreet world
              (world.stepWait actor prompt deletion).2 :=
            stepWait prompt deletion
          unfold World.stepConfirming
          dsimp only
          generalize world.stepWait actor prompt deletion = result at steps
          obtain ⟨progress, after⟩ := result
          cases progress with
          | done result =>
              exact steps.trans (of_change rfl rfl fun _ => rfl)
          | _ => exact steps
  | asking terms asking =>
      have steps : Discreet world (world.stepAsking actor asking).2 :=
        stepAsking asking
      unfold World.stepConfirming
      dsimp only
      generalize world.stepAsking actor asking = result at steps
      obtain ⟨progress, after⟩ := result
      cases progress with
      | done answer =>
          cases answer with
          | error error => exact steps
          | ok event =>
              dsimp only
              split
              · exact steps
              · exact steps.trans (startAsking _ terms.timeout)
      | _ => exact steps

theorem perform {call : Call} (plain : call.isPlain = true)
    (next : call.Reply → Program Unit) :
    Discreet world (world.perform actor call next).2 := by
  cases call with
  | reply text | notify text | typing active | confirm prompt timeout poll =>
      exact of_note rfl rfl rfl
  | setPayload payload | wait kind predicate timeout =>
      exact of_change rfl rfl fun _ => rfl
  | ask prompt timeout => exact startAsking prompt timeout
  | sleep millis => exact of_same rfl rfl
  | listProcesses | listShreds | countContested => exact refl world
  | _ => cases plain

theorem stepActivity {activity : Activity} (plain : activity.isPlain = true) :
    Discreet world (world.stepActivity actor activity).2 := by
  cases activity with
  | running program =>
      cases program with
      | call call next => exact perform plain next
      | _ => exact refl world
  | sleeping answer next | notifying sending next => exact refl world
  | replying sending next =>
      unfold World.stepActivity
      dsimp only
      split
      · exact finishMessage sending
      · exact refl world
  | waiting wait next =>
      have steps : Discreet world (world.stepOpenWait actor "" wait).2 :=
        stepOpenWait "" wait
      unfold World.stepActivity
      dsimp only
      generalize world.stepOpenWait actor "" wait = result at steps
      obtain ⟨progress, after⟩ := result
      cases progress <;> exact steps
  | asking asking next =>
      have steps : Discreet world (world.stepAsking actor asking).2 :=
        stepAsking asking
      unfold World.stepActivity
      dsimp only
      generalize world.stepAsking actor asking = result at steps
      obtain ⟨progress, after⟩ := result
      cases progress <;> exact steps
  | confirming confirming next =>
      have steps : Discreet world (world.stepConfirming actor confirming).2 :=
        stepConfirming confirming
      unfold World.stepActivity
      dsimp only
      generalize world.stepConfirming actor confirming = result at steps
      obtain ⟨progress, after⟩ := result
      cases progress <;> exact steps
  | resolving resolving next => cases plain

theorem abandon (activity : Activity) :
    Discreet world (world.abandon actor activity) := by
  have closes : ∀ id, Discreet world (world.closeWait actor.pid id) :=
    closeWait actor.pid
  cases activity with
  | waiting wait next => exact closes wait.subscription
  | asking asking next =>
      cases asking with
      | prompting id timeout sending => exact of_same rfl rfl
      | waiting wait => exact closes wait.subscription
  | confirming confirming next =>
      cases confirming with
      | prompting terms sending => exact refl world
      | reacting terms prompt reaction deletion second failure answer =>
          exact of_same rfl rfl
      | racing prompt reaction deletion deletionTurn =>
          exact (closes reaction.subscription).trans (of_same rfl rfl)
      | asking terms asking =>
          cases asking with
          | prompting id timeout sending => exact of_same rfl rfl
          | waiting wait => exact closes wait.subscription
  | resolving resolving next => exact of_same rfl rfl
  | _ => exact refl world

end Discreet

section Guards

variable {first second world : World} {actor : Actor} {pid : Pid}
  {id : SubscriptionId}

theorem guards_of_cores (same : (second.processes.all[pid]?).map Process.core =
    (first.processes.all[pid]?).map Process.core) :
    second.guards pid = first.guards pid := by
  have through : ∀ world : World, (world.processes.all[pid]?).map
      Process.guards = ((world.processes.all[pid]?).map Process.core).map
        Process.guards := fun world => by
    rw [Option.map_map]
    rfl
  rw [guards, through, same, ← through, guards]

theorem guards_of_frame {other : TaskId} {owns : Pid → Prop}
    (frame : Frame other owns first second) (foreign : ¬owns pid) :
    second.guards pid = first.guards pid := by
  unfold guards
  cases here : first.processes.all[pid]? with
  | none =>
      rw [List.getElem?_eq_none_iff, ← frame.launched,
        ← List.getElem?_eq_none_iff] at here
      rw [here]
  | some process =>
      obtain ⟨next, there, carried⟩ := frame.processes pid process here
      rw [there]
      rcases carried.kept.resolve_left foreign with rfl | ⟨_, rfl⟩ <;> rfl

theorem guards_modifyProcess (change : Process → Process) :
    (world.modifyProcess pid change).guards pid =
      ((world.processes.all[pid]?).map (Process.guards ∘ change)).getD [] := by
  rw [guards, modifyProcess, ProcessTable.all_modify, if_pos rfl,
    Option.map_map]

theorem guards_enterGuard (member : id ∈ (world.enterGuard pid).guards pid) :
    id ∈ world.guards pid ∨ id = world.waiter.handoffs.length := by
  unfold enterGuard at member
  dsimp only at member
  rw [guards_modifyProcess, enterWait, modifyProcess, ProcessTable.all_modify,
    if_pos rfl, Option.map_map] at member
  rw [guards]
  cases here : world.processes.all[pid]? with
  | none => simp [subscribe, here] at member
  | some process =>
      have listed : id = world.waiter.handoffs.length ∨
          id ∈ process.guards := by
        simpa [subscribe, Waiter.subscribe, here, Process.enterWait]
          using member
      exact listed.symm

theorem guards_leaveGuard (member : id ∈ (world.leaveGuard pid).guards pid) :
    id ∈ world.guards pid := by
  unfold leaveGuard at member
  split at member
  · exact member
  · rename_i newest _
    rw [guards_modifyProcess, closeWait, leaveWait, modifyProcess,
      ProcessTable.all_modify, if_pos rfl, Option.map_map] at member
    rw [guards]
    cases here : world.processes.all[pid]? with
    | none => simp [unsubscribe, here] at member
    | some process =>
        have left : id ∈ process.guards.tail := by
          simpa [unsubscribe, here, Process.leaveWait] using member
        exact List.mem_of_mem_tail left

theorem guards_enterMark : (world.enterMark pid).guards pid =
    world.guards pid := by
  unfold enterMark
  rw [guards_modifyProcess, enterWait, modifyProcess, ProcessTable.all_modify,
    if_pos rfl, Option.map_map]
  rfl

theorem guards_leaveMark : (world.leaveMark pid).guards pid =
    world.guards pid := by
  unfold leaveMark
  split
  · rw [guards_modifyProcess, leaveWait, modifyProcess,
      ProcessTable.all_modify, if_pos rfl, Option.map_map]
    rfl
  · rfl

theorem processes_stepResolving (resolving : Resolving) :
    (world.stepResolving actor resolving).2.processes = world.processes := by
  have noted : ∀ (acts : List Act) (world : World),
      (acts.foldl (fun world act => world.note actor.task act)
        world).processes = world.processes := by
    intro acts
    induction acts with
    | nil => exact fun _ => rfl
    | cons act rest induction => exact fun world => induction (world.note _ act)
  unfold stepResolving
  dsimp only
  split <;> exact noted _ _

/-- A body can come by a guard in one step only, and then the guard is new. -/
theorem guards_stepActivity {activity : Activity}
    (member : id ∈ (world.stepActivity actor activity).2.guards actor.pid) :
    id ∈ world.guards actor.pid ∨
      (world.waiter.handoffs.length ≤ id ∧
        id < (world.stepActivity actor activity).2.waiter.handoffs.length) := by
  cases plain : activity.isPlain with
  | true =>
      have discreet : Discreet world (world.stepActivity actor activity).2 :=
        .stepActivity plain
      exact .inl (guards_of_cores (discreet.cores actor.pid) ▸ member)
  | false =>
      have spared : Frame actor.task (fun _ => False) world
          (world.stepActivity actor activity).2 →
          id ∈ world.guards actor.pid := fun frame =>
        guards_of_frame frame not_false ▸ member
      cases activity with
      | running program =>
          cases program with
          | call call next =>
              cases call with
              | enterGuard =>
                  refine (guards_enterGuard member).imp_right fun fresh => ?_
                  refine ⟨Nat.le_of_eq fresh.symm, ?_⟩
                  exact fresh ▸ Nat.lt_of_lt_of_eq (Nat.lt_succ_self _)
                    (Waiter.length_subscribe _ _ _).symm
              | leaveGuard => exact .inl (guards_leaveGuard member)
              | enterMark => exact .inl (guards_enterMark ▸ member)
              | leaveMark => exact .inl (guards_leaveMark ▸ member)
              | interruptSelf => exact .inl (spared (.interruptHeld _))
              | interruptAll pids => exact .inl (spared (.interruptEach pids))
              | liftAll pids => exact .inl (spared (.liftEach pids))
              | resolveClashes => exact .inl (spared (.refl world))
              | _ => cases plain
          | _ => cases plain
      | resolving resolving next =>
          have same : ∀ pid : Pid, (world.stepResolving actor
              resolving).2.processes.all[pid]? =
                world.processes.all[pid]? :=
            fun _ => by rw [processes_stepResolving]
          unfold stepActivity at member
          dsimp only at member
          generalize world.stepResolving actor resolving = result
            at same member
          obtain ⟨progress, after⟩ := result
          have unchanged : after.guards actor.pid = world.guards actor.pid :=
            guards_of_cores (congrArg _ (same actor.pid))
          cases progress <;> exact .inl (unchanged ▸ member)
      | _ => cases plain

end Guards

end World

end Switchboard
