import Switchboard.Proofs.Bot.ProcessInvariant

/-!
# From stage to stage

In its turn the task of a process stays at its stage or goes on to the next
one.  Cooldowns are touched in one turn only: when the outcome of the process
is dealt with, and the use is given back.
-/

namespace Switchboard

/-- The body has not ended. -/
inductive Stage.HasBody : Stage → Prop where
  | unbuilt (body : Except PanicPayload (Program Unit)) :
      HasBody (.unbuilt body)
  | body (activity : Activity) : HasBody (.body activity)

namespace Stage

theorem HasBody.not_dealt {stage : Stage} (body : stage.HasBody) :
    ¬stage.Dealt := by
  intro dealt
  cases body <;> cases dealt

theorem HasBody.ne_closing {stage : Stage} (body : stage.HasBody)
    (outcome : Outcome) : stage ≠ .closing outcome := by
  intro same
  subst same
  cases body

theorem Dealt.ne_closing {stage : Stage} (dealt : stage.Dealt)
    (outcome : Outcome) : stage ≠ .closing outcome := by
  intro same
  subst same
  cases dealt

end Stage

/-- The use that is given back where the outcome of the process says so. -/
def ProcessTask.reservation? (task : ProcessTask) : Option Reservation :=
  task.aftermath.bind Aftermath.reservation

namespace World

/-- Commands, the time and the cooldowns are what they were. -/
structure Steady (before after : World) : Prop where
  commands : after.commands = before.commands
  now : after.agenda.now = before.agenda.now
  cooldowns : after.cooldowns = before.cooldowns

/-- What a turn of the task of a process comes to. -/
inductive Turns (position : TaskId) (task : ProcessTask)
    (before after : World) : Prop where
  | stays : (∀ outcome, task.stage ≠ .closing outcome) →
      after.tasks[position]? = some (.process task) →
      after.endings task.pid = before.endings task.pid →
      Steady before after → Turns position task before after
  | works (activity : Activity) : task.stage.HasBody →
      after.tasks[position]? =
        some (.process { task with stage := .body activity }) →
      Steady before after → Turns position task before after
  | ends (outcome : Outcome) : task.stage.HasBody →
      after.tasks[position]? =
        some (.process { task with stage := .closing outcome }) →
      Steady before after → Turns position task before after
  | closes (outcome : Outcome) (stage : Stage) :
      task.stage = .closing outcome → stage.Dealt →
      after.tasks[position]? = some (.process { task with stage }) →
      after.endings task.pid = before.endings task.pid →
      Steady (before.giveBack task.reservation? outcome) after →
      Turns position task before after
  | tells (stage : Stage) : task.stage.Dealt → stage.Dealt →
      after.tasks[position]? = some (.process { task with stage }) →
      after.endings task.pid = before.endings task.pid →
      Steady before after → Turns position task before after

section

variable {made : TaskId → SubscriptionId → Prop}
  {first second third world : World} {position other : TaskId}
  {task next : ProcessTask} {owns : Pid → Prop} {outcome : Outcome}

namespace Steady

theorem refl (world : World) : Steady world world := ⟨rfl, rfl, rfl⟩

theorem trans (one : Steady first second) (two : Steady second third) :
    Steady first third :=
  ⟨two.commands.trans one.commands, two.now.trans one.now,
    two.cooldowns.trans one.cooldowns⟩

theorem of_frame (frame : Frame other owns first second) :
    Steady first second :=
  ⟨frame.commands, frame.agenda.now, frame.cooldowns⟩

theorem setTask (task : Task) :
    Steady world (world.setTask position task) := ⟨rfl, rfl, rfl⟩

theorem yieldFloor : Steady world world.yieldFloor := ⟨rfl, rfl, rfl⟩

theorem conclude (task : ProcessTask) (outcome : Outcome) :
    Steady world (world.conclude position task outcome) := by
  have concludes := concludes position task outcome world
  obtain ⟨processes, waiter, released⟩ := releaseGuards_rest task.pid world
  refine ⟨?_, congrArg Agenda.now concludes.agenda, concludes.cooldowns⟩
  rw [World.conclude, setStage, World.setTask, released]

theorem startReport (task : ProcessTask) (outcome : Outcome) :
    Steady world (world.startReport position task outcome) := by
  unfold World.startReport
  split
  · have sent : ∀ chat text, Frame position (fun _ => False) world
        (world.startMessage position chat text).2 := .startMessage
    exact (of_frame (sent _ _)).trans (setTask _)
  · exact setTask _

theorem announce (task : ProcessTask) (chat : Chat) (outcome : Outcome) :
    Steady world (world.announce position task chat outcome) := by
  unfold World.announce
  split
  · have sent : ∀ text, Frame position (fun _ => False) world
        (world.startNotice position chat text).2 := .startNotice chat
    exact (of_frame (sent _)).trans (setTask _)
  · exact setTask _

theorem workNotice (stage : NoticeStage) :
    Steady world (world.workNotice position stage) := by
  unfold World.workNotice
  split
  · have sent : ∀ chat text, Frame position (fun _ => False) world
        (world.startNotice position chat text).2 := .startNotice
    exact (of_frame (sent _ _)).trans (setTask _)
  · split
    · exact setTask _
    · exact yieldFloor
  · exact yieldFloor

theorem of_notice (notProcess : ∀ task : ProcessTask,
      world.tasks[position]? ≠ some (.process task))
    (mover : world.mover? = some position) :
    Steady world (world.happen .work) := by
  obtain ⟨_, worked⟩ | ⟨_, rest, entered⟩ := turn_cases mover
  · rw [worked]
    unfold World.work
    split
    · rename_i task found
      exact absurd found (notProcess task)
    · exact workNotice _
    · exact yieldFloor
  · rw [entered]
    unfold World.enter
    split
    · rename_i task found
      exact absurd found (notProcess task)
    · exact ⟨rfl, rfl, rfl⟩

end Steady

theorem giveBack_rest (reservation : Option Reservation)
    (outcome : Outcome) (world : World) :
    ∃ cooldowns,
      world.giveBack reservation outcome = { world with cooldowns } := by
  unfold giveBack
  split
  · split <;> exact ⟨_, rfl⟩
  · exact ⟨_, rfl⟩

theorem giveBack_of_refund {reservation : Reservation}
    (gives : outcome.disposition.keepCooldown = false) :
    world.giveBack (some reservation) outcome =
      { world with cooldowns := world.cooldowns.release reservation } := by
  simp [giveBack, gives]

theorem giveBack_of_kept {reservation : Option Reservation}
    (kept : ¬(reservation.isSome ∧
      outcome.disposition.keepCooldown = false)) :
    world.giveBack reservation outcome = world := by
  cases reservation with
  | none => rfl
  | some reservation =>
      have counts : outcome.disposition.keepCooldown = true := by
        simpa using kept
      simp [giveBack, counts]

theorem announce_stage (known : position < world.tasks.length)
    (task : ProcessTask) (chat : Chat) (outcome : Outcome) :
    ∃ stage : Stage, stage.Dealt ∧
      (world.announce position task chat outcome).tasks[position]? =
        some (.process { task with stage }) ∧
      (world.announce position task chat outcome).endings task.pid =
        world.endings task.pid := by
  unfold announce
  split
  · exact ⟨_, .announcing outcome _, List.getElem?_set_self known, rfl⟩
  · exact ⟨.over, .over, List.getElem?_set_self known, rfl⟩

theorem startReport_stage (known : position < world.tasks.length)
    (task : ProcessTask) (outcome : Outcome) :
    ∃ stage : Stage, stage.Dealt ∧
      (world.startReport position task outcome).tasks[position]? =
        some (.process { task with stage }) ∧
      (world.startReport position task outcome).endings task.pid =
        world.endings task.pid := by
  unfold startReport
  split
  · exact ⟨_, .reporting _, List.getElem?_set_self known, rfl⟩
  · exact ⟨.over, .over, List.getElem?_set_self known, rfl⟩

namespace Turns

theorem close (known : position < world.tasks.length)
    (stage : task.stage = .closing outcome) :
    Turns position task world (world.close position task outcome) := by
  cases consequence : task.aftermath with
  | none =>
      have nothing : task.reservation? = none := by
        rw [ProcessTask.reservation?, consequence]
        rfl
      rw [close_of_none consequence]
      refine .closes outcome .over stage .over
        (List.getElem?_set_self known) rfl ?_
      rw [nothing]
      exact .setTask _
  | some aftermath =>
      have given : task.reservation? = aftermath.reservation := by
        rw [ProcessTask.reservation?, consequence]
        rfl
      obtain ⟨cooldowns, rest⟩ :=
        giveBack_rest aftermath.reservation outcome world
      have stillKnown : position < (world.giveBack aftermath.reservation
          outcome).tasks.length := by
        rw [rest]
        exact known
      obtain ⟨next, dealt, set, endings⟩ :=
        announce_stage stillKnown task aftermath.chat outcome
      rw [close_of_some consequence]
      refine .closes outcome next stage dealt set (endings.trans ?_) ?_
      · rw [rest]
        rfl
      · rw [given]
        exact .announce task aftermath.chat outcome

theorem conclude_after {given : World} (body : task.stage.HasBody)
    (known : position < world.tasks.length)
    (tasks : given.tasks = world.tasks) (steady : Steady world given)
    (outcome : Outcome) :
    Turns position task world (given.conclude position task outcome) := by
  refine .ends outcome body ?_ (steady.trans (.conclude task outcome))
  rw [(concludes position task outcome given).tasks, tasks]
  exact List.getElem?_set_self known

theorem work (found : world.tasks[position]? = some (.process task)) :
    Turns position task world (world.workProcess position task) := by
  have known := (List.getElem?_eq_some_iff.mp found).1
  have yields : (∀ outcome, task.stage ≠ .closing outcome) →
      Turns position task world world.yieldFloor := fun notClosing =>
    .stays notClosing found rfl .yieldFloor
  unfold workProcess
  cases stage : task.stage with
  | unbuilt body => exact yields (by simp [stage])
  | body activity =>
      have body : task.stage.HasBody := stage ▸ .body activity
      have frame :=
        (Works.stepActivity (actorOf position task) activity world).frame
      dsimp only
      generalize world.stepActivity (actorOf position task) activity = result
        at frame
      obtain ⟨progress, given⟩ := result
      have stillKnown : position < given.tasks.length := by
        rw [frame.tasks]
        exact known
      cases progress with
      | done outcome =>
          exact conclude_after body known frame.tasks (.of_frame frame) outcome
      | go next =>
          exact .works next body (List.getElem?_set_self stillKnown)
            ((Steady.of_frame frame).trans (.setTask _))
      | blocked next =>
          exact .works next body (List.getElem?_set_self stillKnown)
            (((Steady.of_frame frame).trans (.setTask _)).trans .yieldFloor)
  | closing outcome => exact close known stage
  | announcing outcome sending =>
      dsimp only
      split
      · obtain ⟨next, dealt, set, endings⟩ :=
          startReport_stage known task outcome
        exact .tells next (stage ▸ .announcing outcome sending) dealt set
          endings (.startReport task outcome)
      · exact yields (by simp [stage])
  | reporting sending =>
      dsimp only
      split
      · have frame : Frame position (fun _ => False) world
            (world.finishMessage sending).2 := .finishMessage sending
        have stillKnown :
            position < (world.finishMessage sending).2.tasks.length := by
          rw [frame.tasks]
          exact known
        refine .tells .over (stage ▸ .reporting sending) .over
          (List.getElem?_set_self stillKnown) ?_
          ((Steady.of_frame frame).trans (.setTask _))
        rw [World.endings, World.endings, ← frame.ends]
        rfl
      · exact yields (by simp [stage])
  | _ => exact yields (by simp [stage])

theorem enter (rest : List TaskId)
    (found : world.tasks[position]? = some (.process task))
    (notClosing : ∀ outcome, task.stage ≠ .closing outcome) :
    Turns position task world
      ((world.giveFloor position rest).enterProcess position task) := by
  have known := (List.getElem?_eq_some_iff.mp found).1
  have steady : Steady world (world.giveFloor position rest) := ⟨rfl, rfl, rfl⟩
  have begins : Turns position task world (world.giveFloor position rest) :=
    .stays notClosing found rfl steady
  unfold enterProcess
  cases stage : task.stage with
  | unbuilt body =>
      have hasBody : task.stage.HasBody := stage ▸ .unbuilt body
      have ends : ∀ outcome, Turns position task world
          ((world.giveFloor position rest).conclude position task outcome) :=
        conclude_after hasBody known rfl steady
      cases body with
      | error payload => exact ends _
      | ok program =>
          dsimp only
          split
          · exact ends _
          · exact .works (.running program) hasBody
              (List.getElem?_set_self known) (steady.trans (.setTask _))
  | body activity =>
      have hasBody : task.stage.HasBody := stage ▸ .body activity
      dsimp only
      split
      · have frame := (Works.abandon (actorOf position task) activity
          (world.giveFloor position rest)).frame
        exact conclude_after hasBody known frame.tasks
          (steady.trans (.of_frame frame)) _
      · exact begins
  | closing outcome => exact absurd stage (notClosing outcome)
  | announcing outcome sending => exact begins
  | reporting sending => exact begins
  | _ => exact begins

end Turns

theorem Orderly.turns (orderly : Orderly made world)
    (found : world.tasks[position]? = some (.process task))
    (mover : world.mover? = some position) :
    Turns position task world (world.happen .work) := by
  obtain ⟨floor, worked⟩ | ⟨floor, rest, entered⟩ := turn_cases mover
  · rw [worked]
    simp only [World.work, found]
    exact .work found
  · have stillFound : (world.giveFloor position rest).tasks[position]? =
        some (.process task) := found
    rw [entered]
    simp only [World.enter, stillFound]
    refine .enter rest found fun outcome stage => ?_
    obtain ⟨process, _, _, agrees⟩ := orderly.tasks position task found
    unfold Agrees at agrees
    rw [stage, floor] at agrees
    cases agrees.2

/-- A process has finished: the task is past its body, and the end of the
process has been dealt with. -/
def Finished (pid : Pid) (outcome : Outcome) (world : World) : Prop :=
  ∃ (position : TaskId) (task : ProcessTask),
    world.tasks[position]? = some (.process task) ∧ task.pid = pid ∧
      task.stage.Dealt ∧ world.endings pid = [outcome]

/-- The end of a process is about to be dealt with. -/
def Closing (position : TaskId) (task : ProcessTask) (outcome : Outcome)
    (world : World) : Prop :=
  world.agenda.floor = some position ∧
    world.tasks[position]? = some (.process task) ∧
      task.stage = .closing outcome

theorem Closing.unique {ending : Outcome}
    (closing : Closing position task outcome world)
    (alike : Closing other next ending world) :
    other = position ∧ next = task ∧ ending = outcome := by
  obtain ⟨floor, found, stage⟩ := closing
  obtain ⟨floor', found', stage'⟩ := alike
  cases floor.symm.trans floor'
  cases found.symm.trans found'
  cases stage.symm.trans stage'
  exact ⟨rfl, rfl, rfl⟩

theorem Closing.not_finished (orderly : Orderly made world)
    (closing : Closing position task outcome world) (ending : Outcome) :
    ¬Finished task.pid ending world := by
  intro holds
  obtain ⟨other, next, found, same, dealt, _⟩ := holds
  cases orderly.unique closing.2.1 found same
  exact dealt.ne_closing outcome closing.2.2

namespace Orderly

/-- The end of a known process is dealt with in the turn of its task only. -/
theorem dealt_happen (orderly : Orderly made world)
    (found : world.tasks[position]? = some (.process task))
    (occurrence : Occurrence) :
    (∃ next : ProcessTask, (world.happen occurrence).tasks[position]? =
        some (.process next) ∧ next.stage.Dealt ∧
          (world.happen occurrence).endings task.pid = [outcome]) ↔
      (task.stage.Dealt ∧ world.endings task.pid = [outcome]) ∨
        (occurrence = .work ∧ Closing position task outcome world) := by
  obtain ⟨process, _, _, agrees⟩ := orderly.tasks position task found
  by_cases mover : Episode.mover? ⟨world, occurrence⟩ = some position
  · obtain ⟨rfl, moves⟩ := Episode.mover?_eq_some mover
    cases orderly.turns found moves with
    | stays notClosing set endings _ =>
        simp [set, endings, Closing, notClosing]
    | works activity body set _ =>
        simp only [set, Closing, body.ne_closing outcome, body.not_dealt,
          and_false, false_and, or_false, iff_false]
        intro holds
        obtain ⟨next, same, dealt, _⟩ := holds
        cases same
        cases dealt
    | ends ending body set _ =>
        simp only [set, Closing, body.ne_closing outcome, body.not_dealt,
          and_false, false_and, or_false, iff_false]
        intro holds
        obtain ⟨next, same, dealt, _⟩ := holds
        cases same
        cases dealt
    | closes ending next stage dealt set endings _ =>
        unfold Agrees at agrees
        rw [stage] at agrees
        have before : ¬(Stage.closing ending).Dealt := by
          intro dealt
          cases dealt
        rw [endings, agrees.1.endings]
        simp [set, dealt, Closing, stage, before, agrees.2, found]
    | tells next before dealt set endings _ =>
        simp [set, endings, before, dealt, Closing,
          before.ne_closing outcome]
  · have beside := orderly.beside found occurrence mover
    have notClosing :
        ¬(occurrence = .work ∧ Closing position task outcome world) := by
      intro holds
      obtain ⟨rfl, floor, _⟩ := holds
      exact mover (mover?_of_floor floor)
    simp [beside.task, beside.endings, found, notClosing]

theorem finished_happen (orderly : Orderly made world)
    (occurrence : Occurrence) (pid : Pid) (outcome : Outcome) :
    Finished pid outcome (world.happen occurrence) ↔
      Finished pid outcome world ∨ (occurrence = .work ∧
        ∃ (position : TaskId) (task : ProcessTask),
          Closing position task outcome world ∧ task.pid = pid) := by
  constructor
  · intro holds
    obtain ⟨position, next, there, rfl, dealt, endings⟩ := holds
    rcases orderly.task_cases occurrence there with
      ⟨task, found⟩ | ⟨_, _, _, _, ⟨body, stage⟩, _⟩
    · obtain ⟨stage, process, set, _⟩ := orderly.stands found occurrence
      cases there.symm.trans set
      rcases (orderly.dealt_happen found occurrence).mp
        ⟨_, there, dealt, endings⟩ with ⟨before, ending⟩ | ⟨work, closing⟩
      · exact .inl ⟨position, task, found, rfl, before, ending⟩
      · exact .inr ⟨work, position, task, closing, rfl⟩
    · rw [stage] at dealt
      cases dealt
  · have onward : ∀ (position : TaskId) (task : ProcessTask),
        world.tasks[position]? = some (.process task) → task.pid = pid →
          ((task.stage.Dealt ∧ world.endings task.pid = [outcome]) ∨
            (occurrence = .work ∧ Closing position task outcome world)) →
          Finished pid outcome (world.happen occurrence) := by
      rintro position task found rfl either
      obtain ⟨next, there, dealt, endings⟩ :=
        (orderly.dealt_happen found occurrence).mpr either
      obtain ⟨stage, _, set, _⟩ := orderly.stands found occurrence
      cases there.symm.trans set
      exact ⟨position, _, there, rfl, dealt, endings⟩
    rintro (⟨position, task, found, rfl, dealt, endings⟩ |
      ⟨work, position, task, closing, same⟩)
    · exact onward position task found rfl (.inl ⟨dealt, endings⟩)
    · exact onward position task closing.2.1 same (.inr ⟨work, closing⟩)

/-- A small step touches cooldowns only where the end of a process is dealt
with. -/
theorem work_cases (orderly : Orderly made world) :
    (Steady world (world.happen .work) ∧
      ∀ position task outcome, ¬Closing position task outcome world) ∨
      ∃ (position : TaskId) (task : ProcessTask) (outcome : Outcome),
        Closing position task outcome world ∧
          Steady (world.giveBack task.reservation? outcome)
            (world.happen .work) := by
  cases mover : world.mover? with
  | none =>
      refine .inl ⟨?_, fun position task outcome closing => ?_⟩
      · cases floor : world.agenda.floor with
        | some other => simp [mover?, floor] at mover
        | none =>
            cases ready : world.agenda.ready with
            | nil =>
                rw [happen_work_of_idle floor ready]
                exact .refl world
            | cons other rest => simp [mover?, floor, ready] at mover
      · rw [mover?_of_floor closing.1] at mover
        cases mover
  | some position =>
      have here : ∀ {other : TaskId} {task : ProcessTask} {outcome : Outcome},
          Closing other task outcome world → other = position := by
        intro other task outcome closing
        exact Option.some.inj ((mover?_of_floor closing.1).symm.trans mover)
      by_cases started :
          ∃ task, world.tasks[position]? = some (.process task)
      · obtain ⟨task, found⟩ := started
        have steady : (∀ outcome, task.stage ≠ .closing outcome) →
            Steady world (world.happen .work) →
              Steady world (world.happen .work) ∧
                ∀ position task outcome,
                  ¬Closing position task outcome world := by
          refine fun notClosing steady => ⟨steady, ?_⟩
          intro other task outcome closing
          cases here closing
          cases found.symm.trans closing.2.1
          exact notClosing outcome closing.2.2
        cases orderly.turns found mover with
        | stays notClosing _ _ steadily =>
            exact .inl (steady notClosing steadily)
        | works activity body _ steadily =>
            exact .inl (steady body.ne_closing steadily)
        | ends ending body _ steadily =>
            exact .inl (steady body.ne_closing steadily)
        | closes outcome next stage _ _ _ steadily =>
            obtain ⟨process, _, _, agrees⟩ :=
              orderly.tasks position task found
            unfold Agrees at agrees
            rw [stage] at agrees
            exact .inr ⟨position, task, outcome, ⟨agrees.2, found, stage⟩,
              steadily⟩
        | tells next before _ _ _ steadily =>
            exact .inl (steady before.ne_closing steadily)
      · have notProcess : ∀ task : ProcessTask,
            world.tasks[position]? ≠ some (.process task) :=
          fun task found => started ⟨task, found⟩
        refine .inl ⟨.of_notice notProcess mover, ?_⟩
        intro other task outcome closing
        cases here closing
        exact notProcess task closing.2.1

end Orderly

end

end World

end Switchboard
