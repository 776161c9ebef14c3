import Switchboard.Proofs.Bot.Frame
import Switchboard.Proofs.Bot.ProcessBooks

/-!
# What bodies do, operation by operation

`Works` says of a piece of work what it leaves alone and that the books of its
process go with it.  There is one statement for every operation that bodies
are built from.
-/

namespace Switchboard.World

/-- A piece of work of an actor: before it the actor's body holds `holdings`,
after it `kept`, both on top of whatever the body holds besides. -/
structure Works (actor : Actor) (holdings : Holdings) (before : World)
    (kept : Holdings) (after : World) : Prop where
  frame : Frame actor.task (· = actor.pid) before after
  books : ∀ (others : SubscriptionId → Prop) (rest : Holdings)
    (process : Process), rest.opened.Sublist rest.held →
      before.processes.all[actor.pid]? = some process →
      Books others (holdings.over rest) process before.waiter →
        ∃ next, after.processes.all[actor.pid]? = some next ∧
          Books others (kept.over rest) next after.waiter

namespace Works

variable {actor : Actor} {holdings kept last : Holdings}
  {held opened : List SubscriptionId} {world first second third : World}

theorem refl (world : World) : Works actor holdings world holdings world where
  frame := .refl world
  books := fun _ _ process _ here books => ⟨process, here, books⟩

theorem trans (one : Works actor holdings first kept second)
    (two : Works actor kept second last third) :
    Works actor holdings first last third where
  frame := one.frame.trans two.frame
  books := by
    intro others rest process sound here books
    obtain ⟨middle, there, middleBooks⟩ :=
      one.books others rest process sound here books
    exact two.books others rest middle sound there middleBooks

theorem of_spared {before after : World}
    (frame : Frame actor.task (fun _ => False) before after)
    (register : after.waiter.register = before.waiter.register) :
    Works actor holdings before holdings after where
  frame := frame.mono fun _ => False.elim
  books := by
    intro others rest process _ here books
    obtain ⟨next, there, carried⟩ := frame.processes _ process here
    refine ⟨next, there, ?_⟩
    have listed : ∀ id, after.waiter.Registers id →
        before.waiter.Registers id ∨ others id := by
      intro id listed
      rw [Waiter.Registers, register] at listed
      exact .inl listed
    rcases carried.kept.resolve_left id with rfl | ⟨_, rfl⟩
    · exact books.of_same rfl rfl rfl rfl frame.waiter.handoffs listed
    · exact books.of_same rfl rfl rfl rfl frame.waiter.handoffs listed

theorem modifyProcess {change : Process → Process}
    (continues : ∀ process : Process, process.Continues (change process))
    (killed : ∀ process : Process,
      (change process).killed = process.killed)
    (books : ∀ (others : SubscriptionId → Prop) (rest : Holdings) process,
      rest.opened.Sublist rest.held →
        Books others (holdings.over rest) process world.waiter →
          Books others (kept.over rest) (change process) world.waiter) :
    Works actor holdings world kept
      (world.modifyProcess actor.pid change) where
  frame := .modifyProcess rfl continues killed
  books := by
    intro others rest process sound here before
    refine ⟨change process, ?_, books others rest process sound before⟩
    rw [World.modifyProcess, ProcessTable.all_modify, if_pos rfl, here,
      Option.map_some]

theorem setAlarm (delay : Nat) :
    Works actor holdings world holdings (world.setAlarm delay).2 :=
  of_spared (.of_agenda ⟨rfl, rfl, List.prefix_refl _⟩) rfl

theorem note (act : Act) :
    Works actor holdings world holdings (world.note actor.task act) :=
  of_spared (.note act) rfl

theorem startMessage (chat : Chat) (text : String) :
    Works actor holdings world holdings
      (world.startMessage actor.task chat text).2 :=
  of_spared (.startMessage chat text) rfl

theorem startNotice (chat : Chat) (text : String) :
    Works actor holdings world holdings
      (world.startNotice actor.task chat text).2 :=
  of_spared (.startNotice chat text) rfl

theorem finishMessage (sending : Sending) :
    Works actor holdings world holdings (world.finishMessage sending).2 := by
  apply of_spared (.finishMessage sending)
  unfold World.finishMessage
  split <;> rfl

theorem startReaction (chat : Chat) (message key : String) :
    Works actor holdings world holdings
      (world.startReaction actor.task chat message key).2.2 :=
  (note _).trans (setAlarm (world.gateway.chatState chat).reactDelay)

theorem setTyping (chat : Chat) (active : Bool) :
    Works actor holdings world holdings
      (world.setTyping actor.task chat active) :=
  note _

theorem lookFor (chat : Chat) (message : String) :
    Works actor holdings world holdings
      (world.lookFor actor.task chat message).2 :=
  note _

theorem subscribe (kind : EventKind) (predicate : Event → Bool) :
    Works actor ⟨held, opened⟩ world
      ⟨(world.subscribe kind predicate).1 :: held, opened⟩
      (world.subscribe kind predicate).2 where
  frame := .subscribe kind predicate
  books := fun _ _ process _ here books =>
    ⟨process, here, books.subscribe kind predicate⟩

theorem unsubscribe {id : SubscriptionId} (closed : opened.Sublist held) :
    Works actor ⟨id :: held, opened⟩ world ⟨held, opened⟩
      (world.unsubscribe id) where
  frame := .unsubscribe id
  books := fun _ _ process sound here books =>
    ⟨process, here, books.unsubscribe (closed.append sound)⟩

theorem setHandoff (id : SubscriptionId) (handoff : Handoff Event) :
    Works actor holdings world holdings (world.setHandoff id handoff) :=
  of_spared (.setHandoff id handoff) rfl

theorem enterWait {id : SubscriptionId} (closed : opened.Sublist held) :
    Works actor ⟨id :: held, opened⟩ world ⟨id :: held, id :: opened⟩
      (world.enterWait actor.pid (some id)) :=
  modifyProcess (fun _ => ⟨rfl, rfl, rfl, rfl, .inl ⟨rfl, rfl⟩⟩)
    (fun _ => rfl) fun _ _ _ sound books =>
      books.enterWait (closed.append sound)

theorem startWait (id : SubscriptionId) (timeout : Option Nat)
    (liveness : Option Liveness) :
    Works actor holdings world holdings
      (world.startWait id timeout liveness).2 :=
  of_spared (.of_agenda ⟨rfl, rfl, List.prefix_refl _⟩) rfl

theorem closeWait {id : SubscriptionId} :
    Works actor ⟨id :: held, id :: opened⟩ world ⟨held, opened⟩
      (world.closeWait actor.pid id) where
  frame := .closeWait (by rfl) id
  books := by
    intro others rest process _ here books
    refine ⟨process.leaveWait (some id), ?_, books.closeWait⟩
    rw [World.closeWait, World.leaveWait, World.modifyProcess,
      ProcessTable.all_modify, if_pos rfl]
    exact congrArg _ here

theorem dropBoth {reaction deletion : SubscriptionId} :
    Works actor ⟨[reaction, deletion], []⟩ world {}
      (world.dropBoth reaction deletion) :=
  (unsubscribe (List.nil_sublist _)).trans
    (unsubscribe (List.nil_sublist _))

theorem openWait {id : SubscriptionId} (closed : opened.Sublist held)
    (timeout : Option Nat) (liveness : Option Liveness) :
    Works actor ⟨id :: held, opened⟩ world ⟨id :: held, id :: opened⟩
      ((world.enterWait actor.pid (some id)).startWait id timeout
        liveness).2 :=
  (enterWait closed).trans (startWait id timeout liveness)

theorem waiter_interruptHeld (pid : Pid) (world : World) :
    (world.interruptHeld pid).2.waiter = world.waiter := by
  unfold World.interruptHeld
  split
  · rfl
  · dsimp only
    split <;> rfl

theorem waiter_interruptEach (pids : List Pid) (world : World) :
    (world.interruptEach pids).2.waiter = world.waiter := by
  induction pids generalizing world with
  | nil => rfl
  | cons pid rest induction =>
      apply (induction (world.interrupt pid).2).trans
      unfold World.interrupt
      split
      · exact waiter_interruptHeld pid world
      · rfl

theorem register_liftAll (ids : List SubscriptionId) (world : World) :
    (world.liftAll ids).waiter.register = world.waiter.register := by
  induction ids generalizing world with
  | nil => rfl
  | cons id rest induction => exact induction _

theorem register_liftHeld (pid : Pid) (world : World) :
    (world.liftHeld pid).2.waiter.register = world.waiter.register := by
  unfold World.liftHeld
  split
  · rfl
  · exact register_liftAll _ world

theorem register_lift (pid : Pid) (world : World) :
    (world.lift pid).2.waiter.register = world.waiter.register := by
  unfold World.lift
  by_cases live : pid ∈ world.processes.live
  · rw [if_pos live]
    exact register_liftHeld pid world
  · rw [if_neg live]

theorem register_liftEach (pids : List Pid) (world : World) :
    (world.liftEach pids).2.waiter.register = world.waiter.register := by
  induction pids generalizing world with
  | nil => rfl
  | cons pid rest induction =>
      exact (induction (world.lift pid).2).trans (register_lift pid world)

theorem interruptHeld (pid : Pid) :
    Works actor holdings world holdings (world.interruptHeld pid).2 :=
  of_spared (.interruptHeld pid)
    (congrArg Waiter.register (waiter_interruptHeld pid world))

theorem interruptEach (pids : List Pid) :
    Works actor holdings world holdings (world.interruptEach pids).2 :=
  of_spared (.interruptEach pids)
    (congrArg Waiter.register (waiter_interruptEach pids world))

theorem liftEach (pids : List Pid) :
    Works actor holdings world holdings (world.liftEach pids).2 :=
  of_spared (.liftEach pids) (register_liftEach pids world)

theorem enterGuard :
    Works actor ⟨held, opened⟩ world ⟨held, opened⟩
      (world.enterGuard actor.pid) where
  frame := ((Frame.subscribe .message fun _ => false).trans
    (.enterWait (by rfl) _)).trans (.modifyProcess (by rfl)
      (fun _ => ⟨rfl, rfl, rfl, rfl, .inl ⟨rfl, rfl⟩⟩) fun _ => rfl)
  books := by
    intro others rest process _ here books
    refine ⟨_, ?_, books.enterGuard .message fun _ => false⟩
    simp only [World.enterGuard, World.enterWait, World.modifyProcess,
      ProcessTable.all_modify, World.subscribe, if_true, here]
    rfl

theorem leaveGuard :
    Works actor ⟨held, opened⟩ world ⟨held, opened⟩
      (world.leaveGuard actor.pid) := by
  unfold World.leaveGuard
  split
  · exact refl world
  · rename_i id newest
    obtain ⟨process, here, head⟩ := Option.bind_eq_some_iff.mp newest
    refine ⟨?_, fun others rest process' _ here' books => ?_⟩
    · exact (Frame.closeWait (by rfl) id).trans (.modifyProcess (by rfl)
        (fun _ => ⟨rfl, rfl, rfl, rfl, .inl ⟨rfl, rfl⟩⟩) fun _ => rfl)
    · cases here.symm.trans here'
      have guards : process.guards = id :: process.guards.tail :=
        List.eq_cons_of_mem_head? head
      refine ⟨_, ?_, books.leaveGuard guards⟩
      simp only [World.closeWait, World.leaveWait, World.modifyProcess,
        ProcessTable.all_modify, World.unsubscribe, if_true, here]
      rfl

theorem enterMark :
    Works actor holdings world holdings (world.enterMark actor.pid) where
  frame := (Frame.enterWait (by rfl) none).trans (.modifyProcess (by rfl)
    (fun _ => ⟨rfl, rfl, rfl, rfl, .inl ⟨rfl, rfl⟩⟩) fun _ => rfl)
  books := by
    intro others rest process _ here books
    refine ⟨_, ?_, books.enterMark⟩
    simp only [World.enterMark, World.enterWait, World.modifyProcess,
      ProcessTable.all_modify, if_true, here]
    rfl

theorem leaveMark :
    Works actor holdings world holdings (world.leaveMark actor.pid) := by
  unfold World.leaveMark
  split
  · rename_i marks counted
    obtain ⟨process, here, count⟩ := Option.map_eq_some_iff.mp counted
    refine ⟨?_, fun others rest process' _ here' books => ?_⟩
    · exact (Frame.leaveWait (by rfl) none).trans (.modifyProcess (by rfl)
        (fun _ => ⟨rfl, rfl, rfl, rfl, .inl ⟨rfl, rfl⟩⟩) fun _ => rfl)
    · cases here.symm.trans here'
      refine ⟨_, ?_, books.leaveMark count⟩
      simp only [World.leaveWait, World.modifyProcess,
        ProcessTable.all_modify, if_true, here]
      rfl
  · exact refl world

end Works

end Switchboard.World
