import Switchboard.Proofs.Bot.Lifting
import Switchboard.Proofs.Waiter.Moves

/-!
# How bodies conduct themselves

A step of a body lets go of subscriptions of its own only, and of none that it
still holds afterwards; it lifts deadlines in one kind of step only.
-/

namespace Switchboard

/-- What is held in the beginning and not in the end. -/
def Vigil.Releases (one two : Vigil) (id : SubscriptionId) : Prop :=
  id ∈ one.held ∧ id ∉ two.held

theorem Vigil.Releases.fresh {one two : Vigil} {id : SubscriptionId}
    {waiter : Waiter} (released : one.Releases {} id)
    (clean : one.Clean waiter)
    (fresh : ∀ id ∈ two.held, waiter.handoffs.length ≤ id) :
    one.Releases two id :=
  ⟨released.1, fun member =>
    Nat.not_lt_of_le (fresh id member) (clean.below id released.1)⟩

theorem WaitStep.moves {found : Bool} {wait : Wait} {waiter : Waiter}
    {progress : Progress Wait (Except WaitError Event)}
    {after : Handoff Event} {freed : SubscriptionId → Prop}
    (step : WaitStep found wait (waiter.handoff wait.subscription) progress
      after) (lifting : Prop)
    (may : progress.next? = none → freed wait.subscription) :
    waiter.Moves freed lifting
      (waiter.setHandoff wait.subscription after) := by
  have unchanged : waiter.Moves freed lifting (waiter.setHandoff
      wait.subscription (waiter.handoff wait.subscription)) := by
    rw [Waiter.setHandoff_handoff]
    exact .stay
  cases step with
  | received event holds =>
      refine .take (may rfl) ?_ rfl .stay
      rw [holds]
      exact nofun
  | _ => exact unchanged

namespace World

variable {actor : Actor} {world : World} {lifting : Prop}

theorem waiter_finishMessage (sending : Sending) (world : World) :
    (world.finishMessage sending).2.waiter = world.waiter := by
  unfold finishMessage
  split <;> rfl

theorem moves_stepOpenWait (actor : Actor) (lifting : Prop)
    (watched : String) (wait : Wait) (rest : List SubscriptionId)
    (clean : (wait.vigil rest).Clean world.waiter) :
    world.waiter.Moves
      ((wait.vigil rest).Releases
        ((world.stepOpenWait actor watched wait).1.vigil (Wait.vigil rest)
          ⟨rest, none⟩))
      lifting (world.stepOpenWait actor watched wait).2.waiter := by
  obtain ⟨content, holds⟩ := clean.slots wait.subscription List.mem_cons_self
  obtain ⟨handoff, step, waiter⟩ := stepWait_step actor watched wait holds
  have released : (wait.vigil rest).Releases ⟨rest, none⟩ wait.subscription :=
    ⟨List.mem_cons_self, (List.nodup_cons.mp clean.nodup).1⟩
  unfold stepOpenWait
  generalize world.stepWait actor watched wait = turn at step waiter
  obtain ⟨progress, after⟩ := turn
  cases progress with
  | done result =>
      have received := step.moves lifting fun _ => released
      exact .unsubscribe released (waiter ▸ received)
  | go next | blocked next =>
      exact waiter ▸ step.moves lifting nofun

theorem moves_stepAsking (actor : Actor) (lifting : Prop) (asking : Asking)
    (clean : asking.vigil.Clean world.waiter) :
    world.waiter.Moves
      (asking.vigil.Releases
        ((world.stepAsking actor asking).1.vigil Asking.vigil {}))
      lifting (world.stepAsking actor asking).2.waiter := by
  unfold stepAsking
  cases asking with
  | prompting id timeout sending =>
      dsimp only
      split
      · have same := waiter_finishMessage sending world
        generalize world.finishMessage sending = result at same
        obtain ⟨answer, after⟩ := result
        cases answer with
        | error error =>
            exact .unsubscribe ⟨List.mem_cons_self, nofun⟩ (same ▸ .stay)
        | ok name =>
            have stays : (((after.enterWait actor.pid (some id)).startWait id
              timeout none).2).waiter = world.waiter := same
            exact stays ▸ .stay
      · exact .stay
  | waiting wait =>
      have moves := moves_stepOpenWait actor lifting "" wait [] clean
      dsimp only
      generalize world.stepOpenWait actor "" wait = result at moves
      obtain ⟨progress, after⟩ := result
      cases progress <;> exact moves

theorem moves_startFallback {one : Vigil} (terms : ConfirmTerms)
    {start : Waiter} (clean : one.Clean start)
    (moves : start.Moves (one.Releases {}) lifting world.waiter) :
    start.Moves
      (one.Releases (world.startFallback actor terms).1.vigil) lifting
      (world.startFallback actor terms).2.waiter := by
  have later : start.Moves
      (one.Releases (world.startFallback actor terms).1.vigil) lifting
      world.waiter := by
    refine moves.mono (fun id released => released.fresh clean ?_) id
    intro fresh member
    exact List.mem_singleton.mp member ▸ moves.handoffs
  exact later.subscribe .message (isAnswer actor.invocation)

theorem moves_stepConfirming (actor : Actor) (lifting : Prop)
    (confirming : Confirming)
    (clean : confirming.vigil.Clean world.waiter) :
    world.waiter.Moves
      (confirming.vigil.Releases
        ((world.stepConfirming actor confirming).1.vigil Confirming.vigil {}))
      lifting (world.stepConfirming actor confirming).2.waiter := by
  cases confirming with
  | prompting terms sending =>
      unfold stepConfirming
      dsimp only
      split
      · have same := waiter_finishMessage sending world
        generalize world.finishMessage sending = result at same
        obtain ⟨answer, after⟩ := result
        cases answer with
        | error error => exact same ▸ .stay
        | ok prompt =>
            exact .subscribe _ _ (.subscribe _ _ (same ▸ .stay))
      · exact .stay
  | reacting terms prompt reaction deletion second failure answer =>
      unfold stepConfirming
      dsimp only
      split
      · split
        · apply moves_startFallback terms clean
          refine .unsubscribe ⟨?_, nofun⟩ (.unsubscribe ⟨?_, nofun⟩ .stay)
          · exact List.mem_cons_of_mem _ List.mem_cons_self
          · exact List.mem_cons_self
        · split <;> exact .stay
      · exact .stay
  | racing prompt reaction deletion deletionTurn =>
      cases deletionTurn with
      | false =>
          unfold stepConfirming
          have moves := moves_stepOpenWait actor lifting prompt reaction
            [deletion.subscription] clean
          dsimp only
          generalize world.stepOpenWait actor prompt reaction = result
            at moves
          obtain ⟨progress, after⟩ := result
          cases progress with
          | blocked point => exact moves
          | go point => exact moves
          | done result =>
              refine .unsubscribe ⟨?_, nofun⟩
                (moves.mono (fun id released => ⟨released.1, nofun⟩) id)
              exact List.mem_cons_of_mem _ List.mem_cons_self
      | true =>
          have held : deletion.subscription ∈
              (reaction.vigil [deletion.subscription]).held :=
            List.mem_cons_of_mem _ List.mem_cons_self
          obtain ⟨content, holds⟩ := clean.slots deletion.subscription held
          obtain ⟨handoff, step, waiter⟩ :=
            stepWait_step actor prompt deletion holds
          unfold stepConfirming
          dsimp only
          generalize world.stepWait actor prompt deletion = turn
            at step waiter
          obtain ⟨progress, after⟩ := turn
          cases progress with
          | done result =>
              refine .unsubscribe ⟨held, nofun⟩
                (.unsubscribe ⟨List.mem_cons_self, nofun⟩ ?_)
              exact waiter ▸ step.moves lifting fun _ => ⟨held, nofun⟩
          | go next | blocked next => exact waiter ▸ step.moves lifting nofun
  | asking terms asking =>
      unfold stepConfirming
      have moves := moves_stepAsking actor lifting asking clean
      dsimp only
      generalize world.stepAsking actor asking = result at moves
      obtain ⟨progress, after⟩ := result
      cases progress with
      | blocked point => exact moves
      | go point => exact moves
      | done answer =>
          cases answer with
          | error error => exact moves
          | ok event =>
              dsimp only
              split
              · exact moves
              · exact moves_startFallback terms clean moves

/-- The guards that a process holds. -/
def guards (pid : Pid) (world : World) : List SubscriptionId :=
  ((world.processes.all[pid]?).map Process.guards).getD []

theorem moves_liftAll {freed : SubscriptionId → Prop} (may : lifting)
    (ids : List SubscriptionId) (world : World) :
    world.waiter.Moves freed lifting (world.liftAll ids).waiter := by
  induction ids generalizing world with
  | nil => exact .stay
  | cons id rest induction =>
      have first : world.waiter.Moves freed lifting (wakeWatchers id
          { world with waiter := world.waiter.lift id }).waiter :=
        .lift id may .stay
      exact first.trans (induction _)

theorem moves_liftHeld {freed : SubscriptionId → Prop} (may : lifting)
    (pid : Pid) (world : World) :
    world.waiter.Moves freed lifting (world.liftHeld pid).2.waiter := by
  unfold liftHeld
  split
  · exact .stay
  · exact moves_liftAll may _ world

theorem moves_lift {freed : SubscriptionId → Prop} (may : lifting)
    (pid : Pid) (world : World) :
    world.waiter.Moves freed lifting (world.lift pid).2.waiter := by
  unfold lift
  split
  · exact moves_liftHeld may pid world
  · exact .stay

theorem moves_liftEach {freed : SubscriptionId → Prop}
    (pids : List Pid) (may : pids ≠ [] → lifting) (world : World) :
    world.waiter.Moves freed lifting (world.liftEach pids).2.waiter := by
  induction pids generalizing world with
  | nil => exact .stay
  | cons pid rest induction =>
      exact (moves_lift (may (List.cons_ne_nil pid rest)) pid world).trans
        (induction (fun _ => may (List.cons_ne_nil pid rest)) _)

/-- A subscription that a step of a body may touch: the body lets go of it, or
it is a guard of the process. -/
def Freed (pid : Pid) (one two : Vigil) (world : World)
    (id : SubscriptionId) : Prop :=
  id ∈ world.guards pid ∨ one.Releases two id

theorem moves_freed (world : World) (pid : Pid) {one two : Vigil}
    {start after : Waiter}
    (moves : start.Moves (one.Releases two) lifting after) :
    start.Moves (world.Freed pid one two) lifting after :=
  moves.mono (fun _ released => .inr released) id

theorem moves_leaveGuard {one two : Vigil} (pid : Pid) (world : World) :
    world.waiter.Moves (world.Freed pid one two) lifting
      (world.leaveGuard pid).waiter := by
  unfold leaveGuard
  split
  · exact .stay
  · rename_i id newest
    obtain ⟨process, here, head⟩ := Option.bind_eq_some_iff.mp newest
    refine .unsubscribe (.inl ?_) .stay
    rw [guards, here]
    exact List.mem_of_mem_head? head

theorem moves_perform (call : Call) (next : call.Reply → Program Unit) :
    world.waiter.Moves
      (world.Freed actor.pid {} (world.perform actor call next).1.vigil)
      (Activity.kept (.running (.call call next)) ≠ [])
      (world.perform actor call next).2.waiter := by
  cases call with
  | wait kind predicate timeout => exact .subscribe kind predicate .stay
  | ask prompt timeout =>
      exact .subscribe .message (isAnswer actor.invocation) .stay
  | enterGuard => exact .subscribe .message (fun _ => false) .stay
  | leaveGuard => exact moves_leaveGuard actor.pid world
  | leaveMark =>
      have same : (world.leaveMark actor.pid).waiter = world.waiter := by
        unfold leaveMark
        split <;> rfl
      exact same ▸ .stay
  | interruptSelf => exact Works.waiter_interruptHeld actor.pid world ▸ .stay
  | interruptAll pids =>
      have same : (world.interruptEach pids).2.waiter = world.waiter :=
        Works.waiter_interruptEach pids world
      exact same ▸ .stay
  | liftAll pids => exact moves_liftEach pids id world
  | _ => exact .stay

theorem waiter_stepResolving (actor : Actor) (resolving : Resolving)
    (world : World) :
    (world.stepResolving actor resolving).2.waiter = world.waiter := by
  unfold stepResolving
  dsimp only
  split <;> exact (Works.note_all _ _ _).2

/-- A step of a body lets go of subscriptions that it does not hold
afterwards, and of guards. -/
theorem moves_stepActivity (actor : Actor) {activity : Activity}
    (clean : activity.vigil.Clean world.waiter) :
    world.waiter.Moves
      (world.Freed actor.pid activity.vigil
        ((world.stepActivity actor activity).1.vigil Activity.vigil {}))
      (activity.kept ≠ []) (world.stepActivity actor activity).2.waiter := by
  cases activity with
  | running program =>
      cases program with
      | call call next => exact moves_perform call next
      | _ => exact .stay
  | sleeping answer next =>
      unfold stepActivity
      dsimp only
      split <;> exact .stay
  | replying sending next =>
      unfold stepActivity
      dsimp only
      split
      · exact waiter_finishMessage sending world ▸ .stay
      · exact .stay
  | notifying sending next =>
      unfold stepActivity
      dsimp only
      split <;> exact .stay
  | waiting wait next =>
      have moves := moves_stepOpenWait actor
        (Activity.kept (.waiting wait next) ≠ []) "" wait [] clean
      have wider := moves_freed world actor.pid moves
      unfold stepActivity
      dsimp only
      generalize world.stepOpenWait actor "" wait = result at wider
      obtain ⟨progress, after⟩ := result
      cases progress <;> exact wider
  | asking asking next =>
      have moves := moves_stepAsking actor
        (Activity.kept (.asking asking next) ≠ []) asking clean
      have wider := moves_freed world actor.pid moves
      unfold stepActivity
      dsimp only
      generalize world.stepAsking actor asking = result at wider
      obtain ⟨progress, after⟩ := result
      cases progress <;> exact wider
  | confirming confirming next =>
      have moves := moves_stepConfirming actor
        (Activity.kept (.confirming confirming next) ≠ []) confirming clean
      have wider := moves_freed world actor.pid moves
      unfold stepActivity
      dsimp only
      generalize world.stepConfirming actor confirming = result at wider
      obtain ⟨progress, after⟩ := result
      cases progress <;> exact wider
  | resolving resolving next =>
      have same := waiter_stepResolving actor resolving world
      unfold stepActivity
      dsimp only
      generalize world.stepResolving actor resolving = result at same
      obtain ⟨progress, after⟩ := result
      cases progress <;> exact same ▸ .stay

theorem moves_abandon (actor : Actor) (activity : Activity) (lifting : Prop)
    (world : World) :
    world.waiter.Moves (world.Freed actor.pid activity.vigil {}) lifting
      (world.abandon actor activity).waiter := by
  have lets : ∀ {id}, id ∈ activity.vigil.held →
      world.Freed actor.pid activity.vigil {} id :=
    fun member => .inr ⟨member, nofun⟩
  cases activity with
  | waiting wait next => exact .unsubscribe (lets List.mem_cons_self) .stay
  | asking asking next =>
      cases asking with
      | prompting id timeout sending | waiting wait =>
          exact .unsubscribe (lets List.mem_cons_self) .stay
  | confirming confirming next =>
      cases confirming with
      | prompting terms sending => exact .stay
      | reacting terms prompt reaction deletion second failure answer
      | racing prompt reaction deletion deletionTurn =>
          exact .unsubscribe
            (lets (List.mem_cons_of_mem _ List.mem_cons_self))
            (.unsubscribe (lets List.mem_cons_self) .stay)
      | asking terms asking =>
          cases asking with
          | prompting id timeout sending | waiting wait =>
              exact .unsubscribe (lets List.mem_cons_self) .stay
  | _ => exact .stay

theorem moves_releaseGuards {one two : Vigil} (pid : Pid) (world : World) :
    world.waiter.Moves (world.Freed pid one two) lifting
      (world.releaseGuards pid).waiter := by
  refine releaseGuards_induction (motive := fun after =>
    world.waiter.Moves (world.Freed pid one two) lifting after.waiter) .stay ?_
    fun _ moves => moves
  intro process here id member middle moves
  have guard : id ∈ world.guards pid := by
    rw [guards, here]
    exact member
  exact moves.trans (.unsubscribe (.inl guard) .stay)

end World

end Switchboard
