import Switchboard.Builtin
import Switchboard.Proofs.Bot.HeldSubscriptions

/-!
# Lifting the deadlines of a process

When the deadlines of a process are lifted, its open wait goes on without one.
It may still end with an event, with a kill, or because the message that it
probes is gone.  Whether it can time out depends on what it was doing when its
deadline was lifted: if the deadline had passed and its probe was under way,
the wait times out when the probe finds the message, for nobody looks again
at whether the deadline still counts.  In all other cases it does not.
-/

namespace Switchboard

/-- The wait of a body that looks at its handoff when the body takes its next
step, with the message that it probes. -/
def Activity.turn? : Activity → Option (String × Wait)
  | .waiting wait _ => some ("", wait)
  | .asking (.waiting wait) _ => some ("", wait)
  | .confirming (.racing prompt reaction _ false) _ => some (prompt, reaction)
  | .confirming (.asking _ (.waiting wait)) _ => some ("", wait)
  | _ => none

theorem Activity.open_of_turn {activity : Activity} {watched : String}
    {wait : Wait} (turn : activity.turn? = some (watched, wait)) :
    activity.open? = some wait := by
  unfold turn? at turn
  split at turn
  all_goals cases turn
  all_goals rfl

theorem WaitStep.timeout_iff {found : Bool} {wait : Wait}
    {handoff after : Handoff Event} {result : Except WaitError Event}
    (step : WaitStep found wait handoff (.done result) after)
    (lifted : handoff.lifted = true) :
    result = .error .timeout ↔
      wait.AtDeadline ∧ handoff.slot = .empty ∧ found = true := by
  cases step with
  | interrupted phase =>
      simp [Wait.not_atDeadline_of_listening phase]
  | received event holds => simp [holds]
  | expired _ unlifted =>
      rw [lifted] at unlifted
      cases unlifted
  | decided reason answer phase empty decides =>
      cases reason with
      | deadline =>
          have late : wait.AtDeadline := ⟨answer, phase⟩
          cases found <;> simp [late, empty]
      | tick => simp [decides rfl]

/-- The processes whose deadlines a body lifts in its next step. -/
def Activity.kept : Activity → List Pid
  | .running (.call (.liftAll pids) _) => pids
  | _ => []

theorem Activity.mem_kept {activity : Activity} {pid : Pid}
    (member : pid ∈ activity.kept) :
    ∃ pids next, activity = .running (.call (.liftAll pids) next) ∧
      pid ∈ pids := by
  unfold kept at member
  split at member
  · exact ⟨_, _, rfl, member⟩
  · cases member

/-- The body of a task, at the point at which it stands. -/
def Task.activity? : Task → Option (ProcessTask × Activity)
  | .process task =>
    match task.stage with
    | .body activity => some (task, activity)
    | _ => none
  | .notice _ => none

def Progress.result? {α β : Type} : Progress α β → Option β
  | .done result => some result
  | _ => none

/-- A wait that has come to its end: its subscription, whether the message
that it probes was there, and its result. -/
structure ClosedWait where
  subscription : SubscriptionId
  found : Bool
  result : Except WaitError Event
deriving DecidableEq

namespace World

def activity? (position : TaskId) (world : World) :
    Option (ProcessTask × Activity) :=
  world.tasks[position]?.bind Task.activity?

/-- The open wait of the body of a task, with the process of the task. -/
def openWait? (position : TaskId) (world : World) : Option (Pid × Wait) := do
  let (task, activity) ← world.activity? position
  let wait ← activity.open?
  return (task.pid, wait)

/-- The processes whose deadlines the task with the floor lifts in its next
step. -/
def kept (world : World) : List Pid :=
  ((world.agenda.floor.bind world.activity?).map (·.2.kept)).getD []

/-- The wait that ends if the task with the floor takes its next step now. -/
def closedWait? (world : World) : Option ClosedWait := do
  let position ← world.agenda.floor
  let (task, activity) ← world.activity? position
  let (watched, wait) ← activity.turn?
  let result ←
    (world.stepWait (actorOf position task) watched wait).1.result?
  return {
    subscription := wait.subscription
    found := (world.lookFor position task.chat watched).1
    result }

end World

namespace Episode

/-- The processes whose deadlines are lifted. -/
def lifts (episode : Episode) : List Pid :=
  match episode.occurrence with
  | .lift pid => [pid]
  | .liftHeld pid => [pid]
  | .work => episode.before.kept
  | _ => []

def closedWait? (episode : Episode) : Option ClosedWait :=
  match episode.occurrence with
  | .work => episode.before.closedWait?
  | _ => none

end Episode

namespace World

/-- A registered process counts a subscription among the open waits whose
deadline can be lifted. -/
def CountsOpen (pid : Pid) (id : SubscriptionId) (world : World) : Prop :=
  pid ∈ world.processes.live ∧
    ∃ process, world.processes.all[pid]? = some process ∧
      id ∈ process.deadlines

section

variable {world after : World} {position : TaskId} {task : ProcessTask}
  {activity : Activity} {wait : Wait} {pid : Pid} {id : SubscriptionId}
  {made : TaskId → SubscriptionId → Prop}

theorem activity?_eq_some (stands : world.activity? position =
    some (task, activity)) :
    world.tasks[position]? = some (.process task) ∧
      task.stage = .body activity := by
  obtain ⟨here, found, same⟩ := Option.bind_eq_some_iff.mp stands
  cases here with
  | notice stage => cases same
  | process here =>
      unfold Task.activity? at same
      dsimp only at same
      split at same
      · rename_i stage
        cases same
        exact ⟨found, stage⟩
      · cases same

theorem vigil_of_activity (stands : world.activity? position =
    some (task, activity)) : world.vigil position = activity.vigil := by
  obtain ⟨found, stage⟩ := activity?_eq_some stands
  rw [vigil_of_found found, stage]
  rfl

theorem openWait?_eq_some (opened : world.openWait? position =
    some (pid, wait)) :
    ∃ task activity, world.activity? position = some (task, activity) ∧
      task.pid = pid ∧ activity.open? = some wait := by
  obtain ⟨⟨task, activity⟩, stands, rest⟩ :=
    Option.bind_eq_some_iff.mp opened
  obtain ⟨_, open_, same⟩ := Option.bind_eq_some_iff.mp rest
  cases same
  exact ⟨task, activity, stands, rfl, open_⟩

theorem mem_kept (member : pid ∈ world.kept) :
    ∃ other task pids next, world.agenda.floor = some other ∧
      world.activity? other =
        some (task, .running (.call (.liftAll pids) next)) ∧
      pid ∈ pids := by
  unfold kept at member
  cases works : world.agenda.floor.bind world.activity? with
  | none =>
      rw [works] at member
      cases member
  | some here =>
      obtain ⟨task, activity⟩ := here
      rw [works] at member
      obtain ⟨other, floor, stands⟩ := Option.bind_eq_some_iff.mp works
      obtain ⟨pids, next, rfl, listed⟩ := Activity.mem_kept member
      exact ⟨other, task, pids, next, floor, stands, listed⟩

theorem Orderly.counts (orderly : Orderly made world)
    (stands : world.activity? position = some (task, activity))
    (opened : activity.open? = some wait) :
    world.CountsOpen task.pid wait.subscription := by
  obtain ⟨found, stage⟩ := activity?_eq_some stands
  obtain ⟨process, here, _, agrees⟩ := orderly.tasks position task found
  rw [Agrees, stage] at agrees
  obtain ⟨alive, _⟩ := agrees
  refine ⟨alive.live, process, here, alive.books.deadlines.mem_iff.mpr ?_⟩
  rw [Activity.opened_eq, opened]
  exact List.mem_append_left _ List.mem_cons_self

theorem processes_liftAll (ids : List SubscriptionId) (world : World) :
    (world.liftAll ids).processes = world.processes := by
  induction ids generalizing world with
  | nil => rfl
  | cons first rest induction => exact induction _

theorem CountsOpen.lift (counts : world.CountsOpen pid id) (other : Pid) :
    (world.lift other).2.CountsOpen pid id := by
  have same : (world.lift other).2.processes = world.processes := by
    unfold World.lift liftHeld
    split
    · cases world.processes.all[other]? with
      | none => rfl
      | some process => exact processes_liftAll process.deadlines world
    · rfl
  rw [CountsOpen, same]
  exact counts

theorem lifted_liftAll {ids : List SubscriptionId} (member : id ∈ ids)
    (below : id < world.waiter.handoffs.length) :
    ((world.liftAll ids).waiter.handoff id).lifted = true := by
  induction ids generalizing world with
  | nil => cases member
  | cons first rest induction =>
      rcases List.mem_cons.mp member with rfl | later
      · apply (supplies_liftAll rest _).lifted
        change ((world.waiter.lift id).handoff id).lifted = true
        rw [Waiter.lift, Waiter.handoff_setHandoff, if_pos ⟨rfl, below⟩]
        rfl
      · apply induction later
        exact (Waiter.length_setHandoff _ _ _).symm ▸ below

theorem lifted_liftHeld (counts : world.CountsOpen pid id)
    (below : id < world.waiter.handoffs.length) :
    ((world.liftHeld pid).2.waiter.handoff id).lifted = true := by
  obtain ⟨_, process, here, member⟩ := counts
  rw [liftHeld, here]
  exact lifted_liftAll member below

theorem lifted_lift (counts : world.CountsOpen pid id)
    (below : id < world.waiter.handoffs.length) :
    ((world.lift pid).2.waiter.handoff id).lifted = true := by
  rw [lift, if_pos counts.1]
  exact lifted_liftHeld counts below

theorem lifted_liftEach {pids : List Pid} (member : pid ∈ pids)
    (counts : world.CountsOpen pid id)
    (below : id < world.waiter.handoffs.length) :
    ((world.liftEach pids).2.waiter.handoff id).lifted = true := by
  induction pids generalizing world with
  | nil => cases member
  | cons first rest induction =>
      rcases List.mem_cons.mp member with rfl | later
      · apply (supplies_liftEach rest _).lifted
        exact lifted_lift counts below
      · apply induction later (counts.lift first)
        exact Nat.lt_of_lt_of_le below (supplies_lift first world).handoffs

theorem lifted_of_kept (kept : pid ∈ world.kept)
    (counts : world.CountsOpen pid id)
    (below : id < world.waiter.handoffs.length) :
    ((world.happen .work).waiter.handoff id).lifted = true := by
  obtain ⟨other, task, pids, next, floor, stands, member⟩ := mem_kept kept
  obtain ⟨found, stage⟩ := activity?_eq_some stands
  rw [happen_work_of_floor floor, work, found]
  dsimp only
  rw [workProcess, stage]
  exact lifted_liftEach member counts below

theorem lifted_of_lifts {episode : Episode} (lifts : pid ∈ episode.lifts)
    (counts : episode.before.CountsOpen pid id)
    (below : id < episode.before.waiter.handoffs.length) :
    (episode.after.waiter.handoff id).lifted = true := by
  obtain ⟨world, occurrence⟩ := episode
  cases occurrence with
  | work => exact lifted_of_kept lifts counts below
  | lift victim =>
      cases List.mem_singleton.mp lifts
      exact lifted_lift counts below
  | liftHeld victim =>
      cases List.mem_singleton.mp lifts
      exact lifted_liftHeld counts below
  | _ => cases lifts

theorem lifts_elsewhere {episode : Episode} (lifts : pid ∈ episode.lifts)
    (stands : episode.before.activity? position = some (task, activity))
    (opened : activity.open? = some wait) :
    episode.mover? ≠ some position := by
  obtain ⟨world, occurrence⟩ := episode
  cases occurrence with
  | work =>
      intro moves
      obtain ⟨other, _, pids, next, floor, runs, _⟩ := mem_kept lifts
      cases (mover?_of_floor floor).symm.trans moves
      cases runs.symm.trans stands
      cases opened
  | _ => simp [Episode.mover?]

theorem Unhurried.of_lifts {episode : Episode}
    (orderly : Orderly made episode.before)
    (watchful : Watchful episode.before)
    (stands : episode.before.activity? position = some (task, activity))
    (opened : activity.open? = some wait)
    (lifts : task.pid ∈ episode.lifts) :
    Unhurried position wait episode.after := by
  have vigil := vigil_of_activity stands
  have clean := watchful.clean position
  rw [vigil] at clean
  have member := clean.opened wait opened
  have below := clean.below _ member
  obtain ⟨mover, shift⟩ := orderly.shift episode.occurrence
  have grows := (shift.tends (watchful.clean mover)).handoffs
  have stays : episode.after.vigil position = activity.vigil :=
    (orderly.vigil_elsewhere episode.occurrence
      (lifts_elsewhere lifts stands opened)).trans vigil
  constructor
  · exact Nat.lt_of_lt_of_le below grows
  · exact lifted_of_lifts lifts (orderly.counts stands opened) below
  · intro other different
    have others : Watchful episode.after := watchful.shift shift
    apply others.apart position other (Ne.symm different)
    rw [stays]
    exact member
  · intro _
    rw [stays]
    exact ⟨wait, opened, .refl true wait⟩

theorem Unhurried.run {config : Config} {commands : Catalogue Handler}
    {horizon : Nat}
    {past later : List Episode}
    (run : Run (World.start config commands horizon) past world)
    (unhurried : Unhurried position wait world)
    (goesOn : Run world later after) : Unhurried position wait after := by
  induction goesOn with
  | start => exact unhurried
  | next occurrence prior induction =>
      have reached : Run _ _ _ := run.trans prior
      obtain ⟨mover, shift⟩ := reached.orderly.shift occurrence
      exact induction.shift reached.watchful shift

theorem closedWait?_eq_some {last : ClosedWait}
    (ends : world.closedWait? = some last) :
    ∃ other task activity watched wait,
      world.activity? other = some (task, activity) ∧
      activity.open? = some wait ∧ wait.subscription = last.subscription ∧
      (world.lookFor other task.chat watched).1 = last.found ∧
      (world.stepWait (actorOf other task) watched wait).1 =
        .done last.result := by
  obtain ⟨other, floor, rest⟩ := Option.bind_eq_some_iff.mp ends
  obtain ⟨⟨task, activity⟩, stands, rest⟩ := Option.bind_eq_some_iff.mp rest
  obtain ⟨⟨watched, wait⟩, turn, rest⟩ := Option.bind_eq_some_iff.mp rest
  obtain ⟨result, step, same⟩ := Option.bind_eq_some_iff.mp rest
  cases same
  refine ⟨other, task, activity, watched, wait, stands,
    Activity.open_of_turn turn, rfl, rfl, ?_⟩
  unfold Progress.result? at step
  split at step
  · rename_i done
    cases step
    exact done
  · cases step

/-- When the deadlines of a process have been lifted while a wait of its body
was open, that wait ends with a timeout in one case only: its deadline had
passed before, no event has arrived since, and the probe that was under way
finds the message. -/
theorem lifted_wait_times_out_iff {config : Config}
    {commands : Catalogue Handler} {horizon : Nat} {past later : List Episode}
    {lifting ending : Episode} {last : ClosedWait}
    (run : Run (World.start config commands horizon) past lifting.before)
    (opened : lifting.before.openWait? position = some (pid, wait))
    (lifts : pid ∈ lifting.lifts)
    (goesOn : Run lifting.after later ending.before)
    (ends : ending.closedWait? = some last)
    (same : last.subscription = wait.subscription) :
    last.result = .error .timeout ↔
      wait.AtDeadline ∧
        (ending.before.waiter.handoff wait.subscription).slot = .empty ∧
          last.found = true := by
  obtain ⟨task, activity, stands, rfl, open_⟩ := openWait?_eq_some opened
  have reached : Run (World.start config commands horizon) (past ++ [lifting])
      lifting.after := .next lifting.occurrence run
  have unhurried : Unhurried position wait ending.before :=
    (Unhurried.of_lifts run.orderly run.watchful stands open_ lifts).run
      reached goesOn
  have clean := (Run.watchful (reached.trans goesOn)).clean
  obtain ⟨before, occurrence⟩ := ending
  cases occurrence with
  | work =>
      obtain ⟨other, finisher, point, watched, final, there, openThen, own,
        looked, step⟩ := closedWait?_eq_some ends
      have vigil := vigil_of_activity there
      have cleanThen := vigil ▸ clean other
      have member := cleanThen.opened final openThen
      have known : final.subscription = wait.subscription := own.trans same
      by_cases here : other = position
      · subst here
        obtain ⟨next, found, _, follows⟩ :=
          unhurried.follows (vigil ▸ known ▸ member)
        rw [vigil] at found
        cases found.symm.trans openThen
        obtain ⟨content, holds⟩ := cleanThen.slots _ member
        obtain ⟨_, steps, _⟩ :=
          stepWait_step (actorOf other finisher) watched final holds
        rw [step] at steps
        rw [← known, ← follows rfl, ← looked]
        exact steps.timeout_iff (known ▸ unhurried.lifted)
      · have foreign := unhurried.apart other here
        rw [vigil, ← known] at foreign
        exact absurd member foreign
  | _ => cases ends

end

/-- A command that asks for confirmation, and the one that lifts deadlines. -/
def sureCommands : Catalogue Handler :=
  Catalogue.register Builtin.keepDefinition Builtin.keep
    (Catalogue.register
      { name := "sure", description := "Asks for confirmation." }
      (fun invocation => discard (invocation.confirm "sure?")) {})

/-- A confirmation has a second, and its prompt is looked for only then. -/
def sureConfig : Config where
  accounts := []
  commands := { confirmTimeout := 1, livenessPoll := 0 }
  system := { admins := ["admin"] }

/-- The command is invoked.  Looking for its prompt would take a second. -/
def sureBot : World :=
  (start sureConfig sureCommands hostHorizon).happenAll
    [.register "keeper", .fleet (.joined 0 "lobby"),
      .chat ⟨0, "lobby"⟩ fun state => { state with existsDelay := 1000 },
      .receive ⟨0, "user", "lobby", "lobby", .message "first" ".sure"⟩]

/-- An operator wants the command to go on without a deadline. -/
def keep : Occurrence :=
  .receive ⟨0, "admin", "lobby", "lobby", .message "second" ".keep 0"⟩

/-- The deadline is about to be lifted while the wait listens. -/
def keptEarly : World :=
  sureBot.happenAll (List.replicate 7 .work ++ [keep, .work])

/-- The deadline is about to be lifted while the prompt is being looked for
because the deadline has passed. -/
def keptLate : World :=
  sureBot.happenAll (List.replicate 7 .work ++
    .pass 1000 :: List.replicate 4 .work ++ [.pass 500, keep, .work])

/-- After two more seconds the command is about to read its confirmation. -/
def confirmedLate : World :=
  (keptEarly.happen .work).happenAll (List.replicate 8 .work ++
    [.pass 2000, .receive ⟨0, "user", "lobby", "lobby",
      .reaction "$sure?#1" Notice.confirmYes⟩, .work])

/-- Half a second later the command is about to learn that the prompt is
there. -/
def promptFound : World :=
  (keptLate.happen .work).happenAll
    (List.replicate 8 .work ++ [.pass 500, .work])

/-- The wait for the confirmation. -/
def confirmation : Wait where
  subscription := 1
  deadline := some ⟨1000, 3⟩
  liveness := some {}
  tick := none

/-- Kept in time the confirmation can be given long after its deadline; kept
during the probe at the deadline it times out. -/
theorem sureBot_times_out_iff :
    (∃ last, confirmedLate.closedWait? = some last ∧
      last.result ≠ .error .timeout) ∧
    ∃ last, promptFound.closedWait? = some last ∧
      last.result = .error .timeout := by
  have invoked : Run (start sureConfig sureCommands hostHorizon) _ sureBot :=
    .of_occurrences _ _
  constructor
  · have run : Run (start sureConfig sureCommands hostHorizon) _
        (Happening.mk keptEarly Occurrence.work).before :=
      invoked.trans (.of_occurrences _ _)
    have opened : (Happening.mk keptEarly Occurrence.work).before.openWait? 0 =
        some (0, confirmation) := by decide +kernel
    have goesOn : Run (Episode.after ⟨keptEarly, .work⟩) _
        (Happening.mk confirmedLate Occurrence.work).before :=
      .of_occurrences _ _
    obtain ⟨last, ends, same⟩ : ∃ last,
        Episode.closedWait? ⟨confirmedLate, .work⟩ = some last ∧
          last.subscription = confirmation.subscription :=
      Option.map_eq_some_iff.mp (by decide +kernel)
    refine ⟨last, ends, fun timedOut => ?_⟩
    obtain ⟨late, _⟩ := (lifted_wait_times_out_iff run opened
      (by decide +kernel) goesOn ends same).mp timedOut
    exact Wait.not_atDeadline_of_listening rfl late
  · have run : Run (start sureConfig sureCommands hostHorizon) _
        (Happening.mk keptLate Occurrence.work).before :=
      invoked.trans (.of_occurrences _ _)
    have opened : (Happening.mk keptLate Occurrence.work).before.openWait? 0 =
        some (0, { confirmation with
          phase := .probing .deadline ⟨2000, 7⟩ }) := by decide +kernel
    have goesOn : Run (Episode.after ⟨keptLate, .work⟩) _
        (Happening.mk promptFound Occurrence.work).before := .of_occurrences _ _
    obtain ⟨last, ends, seen⟩ : ∃ last,
        Episode.closedWait? ⟨promptFound, .work⟩ = some last ∧
          (last.subscription, last.found) =
            (confirmation.subscription, true) :=
      Option.map_eq_some_iff.mp (by decide +kernel)
    obtain ⟨same, found⟩ := Prod.mk.inj seen
    refine ⟨last, ends, (lifted_wait_times_out_iff run opened
      (by decide +kernel) goesOn ends same).mpr ?_⟩
    exact ⟨⟨_, rfl⟩, by decide +kernel, found⟩

/-- An operator can be told that a command goes on without a deadline, and the
command time out half a second later. -/
theorem keptLate_times_out :
    ∃ (past later : List Episode) (lifting ending : Episode) (wait : Wait),
    Run (start sureConfig sureCommands hostHorizon) past lifting.before ∧
    lifting.before.openWait? 0 = some (0, wait) ∧
    lifting.before.CountsOpen 0 wait.subscription ∧
    0 ∈ lifting.lifts ∧
    Run lifting.after later ending.before ∧
    ending.before.deeds.getLast?.map Deed.act =
      some (.send "keeper" "lobby" "Waiting without deadline: 0" false) ∧
    ending.before.agenda.now = lifting.before.agenda.now + 500 ∧
    ending.closedWait? =
      some ⟨wait.subscription, true, .error .timeout⟩ := by
  have run : Run (start sureConfig sureCommands hostHorizon) _ keptLate :=
    Run.trans (.of_occurrences _ _) (.of_occurrences _ _)
  have opened : keptLate.openWait? 0 = some (0, { confirmation with
      phase := .probing .deadline ⟨2000, 7⟩ }) := by decide +kernel
  obtain ⟨task, activity, stands, same, open_⟩ := openWait?_eq_some opened
  exact ⟨_, _, ⟨keptLate, .work⟩, ⟨promptFound, .work⟩, _, run, opened,
    same ▸ run.orderly.counts stands open_, by decide +kernel,
    .of_occurrences _ _, by decide +kernel, by decide +kernel,
    by decide +kernel⟩

end World

end Switchboard
