import Switchboard.Proofs.Bot.BodyTurns
import Switchboard.Proofs.Bot.Inquiry

/-!
# Waits that a body opens by hand

A body can also open waits by hand: guards and marks, which it closes by hand.
A body that never does has none, and neither has one that has ended.
-/

namespace Switchboard

/-- No wait is open that has been opened by hand. -/
def Process.Bare (process : Process) : Prop :=
  process.guards = [] ∧ process.marks = 0

/-- The next step of a body opens a wait by hand. -/
def Activity.opensByHand : Activity → Bool
  | .running (.call .enterGuard _) => true
  | .running (.call .enterMark _) => true
  | _ => false

namespace World

/-- The body of a task is about to open a wait by hand. -/
def opensByHand (position : TaskId) (world : World) : Bool :=
  world.agenda.floor = some position &&
    (world.activity? position).any (·.2.opensByHand)

/-- No wait that was opened by hand is open where the body has ended or is free
of such waits. -/
def Handwork (free : TaskId → Prop) (world : World) : Prop :=
  ∀ (pid : Pid) (process : Process), world.processes.all[pid]? = some process →
    process.state = .done ∨ free process.task → process.Bare

/-- No process opens a wait by hand, comes to its end, or is launched. -/
def StaysBare (before after : World) : Prop :=
  ∀ (pid : Pid) (next : Process), after.processes.all[pid]? = some next →
    ∃ process, before.processes.all[pid]? = some process ∧
      process.task = next.task ∧
        (next.state = .done → process.state = .done) ∧
          (process.Bare → next.Bare)

section

variable {first second third world : World} {position : TaskId}
  {task : ProcessTask} {activity : Activity} {actor : Actor}
  {free : TaskId → Prop} {made : TaskId → SubscriptionId → Prop}
  {accord : Accord}

namespace StaysBare

theorem of_same (same : second.processes = first.processes) :
    StaysBare first second := fun _ next there =>
  ⟨next, same ▸ there, rfl, id, id⟩

theorem of_discreet (discreet : Discreet first second) :
    StaysBare first second := by
  intro pid next there
  have cores := discreet.cores pid
  rw [there, Option.map_some, eq_comm, Option.map_eq_some_iff] at cores
  obtain ⟨process, here, same⟩ := cores
  have task : process.core.task = next.core.task := by rw [same]
  have state : process.core.state = next.core.state := by rw [same]
  have guards : process.core.guards = next.core.guards := by rw [same]
  have marks : process.core.marks = next.core.marks := by rw [same]
  exact ⟨process, here, task, state.trans, fun bare =>
    ⟨guards.symm.trans bare.1, marks.symm.trans bare.2⟩⟩

theorem of_kept {process next : Process} (kept : process.Kept next) :
    process.task = next.task ∧ (next.state = .done → process.state = .done) ∧
      (process.Bare → next.Bare) := by
  rcases kept with rfl | ⟨_, rfl⟩
  · exact ⟨rfl, id, id⟩
  · refine ⟨rfl, fun done => ?_, id⟩
    cases done

theorem of_spared {other : TaskId}
    (frame : Frame other (fun _ => False) first second) :
    StaysBare first second := by
  intro pid next there
  cases here : first.processes.all[pid]? with
  | none =>
      have beyond := List.getElem?_eq_none_iff.mp here
      rw [← frame.launched] at beyond
      cases (List.getElem?_eq_none_iff.mpr beyond).symm.trans there
  | some process =>
      obtain ⟨last, found, carried⟩ := frame.processes pid process here
      cases there.symm.trans found
      exact ⟨process, rfl, of_kept (carried.kept.resolve_left id)⟩

theorem handwork (stays : StaysBare first second)
    (before : Handwork free first) : Handwork free second := by
  intro pid next there either
  obtain ⟨process, here, sameTask, done, bare⟩ := stays pid next there
  refine bare (before pid process here (either.imp done fun holds => ?_))
  rwa [sameTask]

end StaysBare

theorem Discreet.startInquiry (request : Request) :
    Discreet world (world.startInquiry actor request).2 := by
  cases request with
  | wait kind predicate timeout watched liveness =>
      exact .of_change rfl rfl fun _ => rfl
  | ask prompt timeout => exact .startAsking prompt timeout
  | confirm prompt terms => exact .of_note rfl rfl rfl

theorem Discreet.stepInquiry (inquiry : Inquiry) :
    Discreet world (world.stepInquiry actor inquiry).2 := by
  cases inquiry with
  | waiting watched wait => exact .stepOpenWait watched wait
  | asking asking => exact .stepAsking asking
  | confirming confirming => exact .stepConfirming confirming

theorem Discreet.abandonInquiry (pid : Pid) (inquiry : Inquiry) :
    Discreet world (world.abandonInquiry pid inquiry) := by
  have asks : ∀ asking : Asking,
      Discreet world (world.abandonAsking pid asking) := by
    intro asking
    cases asking with
    | prompting id timeout sending => exact .of_same rfl rfl
    | waiting wait => exact .closeWait pid wait.subscription
  cases inquiry with
  | waiting watched wait => exact .closeWait pid wait.subscription
  | asking asking => exact asks asking
  | confirming confirming =>
      cases confirming with
      | prompting terms sending => exact .refl world
      | reacting terms prompt reaction deletion second failure answer =>
          exact .of_same rfl rfl
      | racing prompt reaction deletion deletionTurn =>
          have closed : Discreet world
              (world.closeWait pid reaction.subscription) := .closeWait _ _
          exact closed.trans (.of_same rfl rfl)
      | asking terms asking => exact asks asking

theorem Discreet.abandonInquiries (pid : Pid) (inquiries : List Inquiry) :
    Discreet world (world.abandonInquiries pid inquiries) := by
  induction inquiries generalizing world with
  | nil => exact .refl world
  | cons inquiry rest induction =>
      exact (abandonInquiry pid inquiry).trans induction

theorem closes_nothing {pid : Pid}
    (bare : ∀ process, world.processes.all[pid]? = some process →
      process.Bare) :
    world.leaveGuard pid = world ∧ world.leaveMark pid = world := by
  cases here : world.processes.all[pid]? with
  | none => simp [leaveGuard, leaveMark, here]
  | some process =>
      obtain ⟨guards, marks⟩ := bare process here
      simp [leaveGuard, leaveMark, here, guards, marks]

theorem StaysBare.stepActivity (byCalls : activity.opensByHand = false)
    (bare : ∀ process, world.processes.all[actor.pid]? = some process →
      process.Bare) :
    StaysBare world (world.stepActivity actor activity).2 := by
  cases plain : activity.isPlain with
  | true => exact .of_discreet (.stepActivity plain)
  | false =>
      have spared : ∀ {after : World},
          Frame actor.task (fun _ => False) world after →
            StaysBare world after := .of_spared
      cases activity with
      | running program =>
          cases program with
          | call call next =>
              have nothing := closes_nothing bare
              cases call with
              | enterGuard | enterMark => cases byCalls
              | leaveGuard => exact .of_same (congrArg _ nothing.1)
              | leaveMark => exact .of_same (congrArg _ nothing.2)
              | interruptSelf => exact spared (.interruptHeld _)
              | interruptAll pids => exact spared (.interruptEach pids)
              | liftAll pids => exact spared (.liftEach pids)
              | resolveClashes => exact .of_same rfl
              | _ => cases plain
          | _ => cases plain
      | resolving resolving next =>
          have same : (world.stepResolving actor resolving).2.processes =
              world.processes := processes_stepResolving resolving
          unfold World.stepActivity
          dsimp only
          generalize world.stepResolving actor resolving = result at same
          obtain ⟨progress, after⟩ := result
          cases progress <;> exact .of_same same
      | _ => cases plain

theorem bare_conclude {outcome : Outcome} {process : Process}
    (there : (world.conclude position task outcome).processes.all[task.pid]? =
      some process) : process.Bare := by
  have found : (world.conclude position task outcome).processes.all[task.pid]? =
      ((world.releaseGuards task.pid).processes.all[task.pid]?).map
        fun process => { process with state := .done } :=
    (ProcessTable.all_modify _ _ _ _).trans (if_pos rfl)
  rw [found, Option.map_eq_some_iff] at there
  obtain ⟨released, held, rfl⟩ := there
  cases here : world.processes.all[task.pid]? with
  | none =>
      rw [releaseGuards, here] at held
      cases here.symm.trans held
  | some before =>
      cases (releaseGuards_process here).symm.trans held
      exact ⟨rfl, rfl⟩

theorem Handwork.alone (orderly : InStep accord made world)
    (found : world.tasks[position]? = some (.process task))
    (beside : ∀ (other : TaskId) (fellow : ProcessTask), other ≠ position →
      world.tasks[other]? = some (.process fellow) →
        Beside other fellow.pid world second)
    (absent : ∀ pid : Pid, world.processes.all[pid]? = none →
      second.processes.all[pid]? = none)
    (own : ∀ process, second.processes.all[task.pid]? = some process →
      process.state = .done ∨ free process.task → process.Bare)
    (before : Handwork free world) : Handwork free second := by
  intro pid next there either
  cases here : world.processes.all[pid]? with
  | none => cases (absent pid here).symm.trans there
  | some process =>
      obtain ⟨fellow, known, rfl⟩ := orderly.processes pid process here
      by_cases same : process.task = position
      · rw [same] at known
        cases found.symm.trans known
        exact own next there either
      · obtain ⟨last, now, kept, _⟩ :=
          (beside _ fellow same known).process process here rfl
        cases there.symm.trans now
        obtain ⟨sameTask, done, bare⟩ := StaysBare.of_kept kept
        refine bare (before _ process here (either.imp done fun holds => ?_))
        rwa [sameTask]

theorem bare_step (orderly : InStep accord made world)
    (alive : ∀ process, world.processes.all[task.pid]? = some process →
      process.state ≠ .done)
    (spares : free position → world.opensByHand position = false)
    (floor : world.agenda.floor = some position)
    (stands : world.activity? position = some (task, activity))
    (before : Handwork free world) (process : Process)
    (there : (world.stepActivity (actorOf position task)
      activity).2.processes.all[task.pid]? = some process)
    (either : process.state = .done ∨ free process.task) : process.Bare := by
  obtain ⟨found, _⟩ := activity?_eq_some stands
  obtain ⟨old, here, sameTask, _⟩ := orderly.tasks position task found
  have frame :=
    (Works.stepActivity (actorOf position task) activity world).frame
  obtain ⟨next, now, carried⟩ := frame.processes _ old here
  cases there.symm.trans now
  have free : free position := by
    rcases either with done | holds
    · rcases carried.continues.life with ⟨same, _⟩ | ⟨_, struck, _⟩
      · exact absurd (same.symm.trans done) (alive old here)
      · cases struck.symm.trans done
    · rwa [carried.continues.task, sameTask] at holds
  have byCalls : activity.opensByHand = false := by
    have spared := spares free
    simpa [World.opensByHand, floor, stands] using spared
  have bare : old.Bare := before _ old here (.inr (sameTask.symm ▸ free))
  have stays : StaysBare world
      (world.stepActivity (actorOf position task) activity).2 := by
    refine .stepActivity byCalls fun process same => ?_
    cases here.symm.trans same
    exact bare
  obtain ⟨_, same, _, _, kept⟩ := stays _ process there
  cases here.symm.trans same
  exact kept bare

/-- A small step. -/
theorem Handwork.work (orderly : InStep accord made world)
    (alive : ∀ {position : TaskId} {task : ProcessTask} {activity : Activity}
      {process : Process}, world.activity? position = some (task, activity) →
        world.processes.all[task.pid]? = some process → process.state ≠ .done)
    (spares : ∀ position, free position → world.opensByHand position = false)
    (before : Handwork free world) : Handwork free (world.happen .work) := by
  cases mover : world.mover? with
  | none => rwa [happen_work_of_nobody mover]
  | some position =>
      have own : ∀ {task : ProcessTask},
          world.tasks[position]? = some (.process task) →
          (∀ process, (world.happen .work).processes.all[task.pid]? =
            some process → process.state = .done ∨ free process.task →
              process.Bare) →
          Handwork free (world.happen .work) := by
        intro task found own
        refine before.alone orderly found (fun other fellow different known =>
          orderly.beside known .work fun same => ?_) (fun pid absent => ?_) own
        · exact different (Option.some.inj (same.symm.trans mover))
        · obtain ⟨_, beside⟩ := orderly.somewhere absent
          exact beside.absent absent
      cases motion mover with
      | @body task activity stands stride =>
          obtain ⟨found, _⟩ := activity?_eq_some stands
          apply own found
          have step := fun floor => bare_step orderly
            (fun process => alive stands) (spares position) floor stands before
          generalize world.happen .work = after at stride ⊢
          cases stride with
          | steps floor stepped =>
              have step := step floor
              rw [stepped] at step
              exact step
          | rests floor stepped =>
              have step := step floor
              rw [stepped] at step
              exact step
          | ends | givenUp => exact fun process there _ => bare_conclude there
          | enters => exact fun process there => before _ process there
      | @bodiless task found passage =>
          apply own found
          generalize world.happen .work = after at passage ⊢
          cases passage with
          | fails => exact fun process there _ => bare_conclude there
          | builds => exact fun process there => before _ process there
          | tells _ told =>
              exact fun process there =>
                before _ process (told.processes ▸ there)
      | notice _ _ _ _ discreet =>
          exact (StaysBare.of_discreet discreet).handwork before

/-- Whatever happens to the bot. -/
theorem Handwork.happen (orderly : InStep accord made world)
    (alive : ∀ {position : TaskId} {task : ProcessTask} {activity : Activity}
      {process : Process}, world.activity? position = some (task, activity) →
        world.processes.all[task.pid]? = some process → process.state ≠ .done)
    (occurrence : Occurrence)
    (spares : ∀ position, free position → occurrence = .work →
      world.opensByHand position = false)
    (before : Handwork free world) :
    Handwork free (world.happen occurrence) := by
  by_cases work : occurrence = .work
  · subst work
    exact before.work orderly alive fun position holds =>
      spares position holds rfl
  intro pid next there either
  have notMover : ∀ {position : TaskId},
      Episode.mover? ⟨world, occurrence⟩ ≠ some position :=
    fun mover => work (Episode.mover?_eq_some mover).1
  cases here : world.processes.all[pid]? with
  | some process =>
      obtain ⟨fellow, known, rfl⟩ := orderly.processes pid process here
      obtain ⟨last, now, kept, _⟩ :=
        (orderly.beside known occurrence notMover).process process here rfl
      cases there.symm.trans now
      obtain ⟨sameTask, done, bare⟩ := StaysBare.of_kept kept
      refine bare (before _ process here (either.imp done fun holds => ?_))
      rwa [sameTask]
  | none =>
      obtain ⟨task, known, rfl⟩ : ∃ task, (world.happen occurrence).tasks[
          next.task]? = some (.process task) ∧ task.pid = pid := by
        rcases orderly.process_cases occurrence there with ⟨_, old⟩ | new
        · cases here.symm.trans old
        · exact new
      rcases orderly.task_cases occurrence known with
        ⟨fellow, old⟩ | ⟨_, _, _, _, _, _, _, _, _, fresh⟩
      · have same := (orderly.beside old occurrence notMover).task
        cases known.symm.trans (same.trans old)
        obtain ⟨_, found, _⟩ := orderly.tasks _ _ old
        cases here.symm.trans found
      · rw [Option.some.inj (there.symm.trans fresh)]
        exact ⟨rfl, rfl⟩

end

end World

end Switchboard
