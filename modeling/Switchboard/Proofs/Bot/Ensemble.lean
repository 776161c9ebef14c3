import Switchboard.Proofs.Bot.BodyTurns
import Switchboard.Proofs.Bot.Inquiry

/-!
# Bodies that await several things at a time

An ensemble is a bot together with the inquiries that its bodies have begun
beside the points at which they stand.  A body may begin, step and drop its
inquiries at any moment, and it may end at any moment at which it has the
floor, be it by a panic.  When a body ends, by itself or by a kill, all that it
awaits is dropped with it.
-/

namespace Switchboard

/-- A bot, and what each body awaits beside the point at which it stands. -/
structure Ensemble where
  bot : World
  inquiries : List (TaskId × Inquiry) := []

/-- Something that happens to an ensemble. -/
inductive EnsembleEvent where
  | happens (occurrence : Occurrence)
  /-- A body begins to await something. -/
  | begins (position : TaskId) (request : Request)
  /-- A body gets round to something that it awaits. -/
  | steps (index : Nat)
  /-- A body drops something that it awaits. -/
  | drops (index : Nat)
  /-- A body that has the floor ends halfway. -/
  | ends (position : TaskId) (outcome : Outcome)

namespace World

/-- The body that ends with the next small step: its program has come to its
end, or the body has been killed and gets the floor. -/
def endingBody? (world : World) : Option TaskId := do
  let position ← world.mover?
  let (task, activity) ← world.activity? position
  let ends :=
    match world.agenda.floor with
    | some _ => activity.end?.isSome
    | none => world.isKilled task.pid
  if ends then some position else none

end World

namespace Ensemble

/-- What the inquiries of a body are. -/
def inquiriesOf (position : TaskId) (inquiries : List (TaskId × Inquiry)) :
    List Inquiry :=
  inquiries.filterMap fun (other, inquiry) =>
    if other = position then some inquiry else none

/-- A body drops all its inquiries. -/
def letGo (position : TaskId) (ensemble : Ensemble) : Ensemble :=
  match ensemble.bot.activity? position with
  | none => ensemble
  | some (task, _) =>
    { bot := ensemble.bot.abandonInquiries task.pid
        (inquiriesOf position ensemble.inquiries)
      inquiries := ensemble.inquiries.filter (·.1 ≠ position) }

/-- The body that ends with the occurrence has dropped all its inquiries. -/
def clear (occurrence : Occurrence) (ensemble : Ensemble) : Ensemble :=
  match occurrence, ensemble.bot.endingBody? with
  | .work, some position => ensemble.letGo position
  | _, _ => ensemble

/-- A body ends where it stands. -/
def close (position : TaskId) (outcome : Outcome) (ensemble : Ensemble) :
    Ensemble :=
  match ensemble.bot.activity? position with
  | none => ensemble
  | some (task, activity) =>
    { ensemble with
      bot := (ensemble.bot.abandon (World.actorOf position task)
        activity).conclude position task outcome }

/-- An ensemble after something has happened. -/
def happen (event : EnsembleEvent) (ensemble : Ensemble) : Ensemble :=
  match event with
  | .happens occurrence =>
    let ensemble := ensemble.clear occurrence
    { ensemble with bot := ensemble.bot.happen occurrence }
  | .begins position request =>
    match ensemble.bot.activity? position with
    | none => ensemble
    | some (task, _) =>
      let (inquiry, bot) :=
        ensemble.bot.startInquiry (World.actorOf position task) request
      { bot, inquiries := (position, inquiry) :: ensemble.inquiries }
  | .steps index =>
    match ensemble.inquiries[index]? with
    | none => ensemble
    | some (position, inquiry) =>
      match ensemble.bot.activity? position with
      | none => ensemble
      | some (task, _) =>
        let (next, bot) :=
          ensemble.bot.stepInquiry (World.actorOf position task) inquiry
        { bot
          inquiries := next.toList.map (position, ·) ++
            ensemble.inquiries.eraseIdx index }
  | .drops index =>
    match ensemble.inquiries[index]? with
    | none => ensemble
    | some (position, inquiry) =>
      match ensemble.bot.activity? position with
      | none => ensemble
      | some (task, _) =>
        { bot := ensemble.bot.abandonInquiry task.pid inquiry
          inquiries := ensemble.inquiries.eraseIdx index }
  | .ends position outcome =>
    if ensemble.bot.agenda.floor = some position then
      (ensemble.letGo position).close position outcome
    else ensemble

/-- The task whose body makes the subscriptions that come with an event. -/
def maker? (event : EnsembleEvent) (ensemble : Ensemble) : Option TaskId :=
  match event with
  | .happens occurrence => Episode.mover? ⟨ensemble.bot, occurrence⟩
  | .begins position _ => some position
  | .steps index => (ensemble.inquiries[index]?).map (·.1)
  | _ => none

end Ensemble

namespace World
/-- What the stage of a task says about its process when the body holds other
things besides. -/
def AgreesOver (held : TaskId → Holdings) : Accord :=
  fun position task own process world =>
    match task.stage with
    | .body activity =>
      Alive task.pid own (activity.holdings.over (held position)) process
          world ∧
        (process.killed = true → position ∈ world.agenda.ready)
    | _ => Agrees position task own process world

section

variable {held later : TaskId → Holdings} {accord after : Accord}
  {made grown : TaskId → SubscriptionId → Prop}
  {own : SubscriptionId → Prop} {position : TaskId} {task : ProcessTask}
  {activity : Activity} {process : Process} {world next : World}

theorem AgreesOver.body (stage : task.stage = .body activity) :
    AgreesOver held position task own process world ↔
      Alive task.pid own (activity.holdings.over (held position)) process
          world ∧
        (process.killed = true → position ∈ world.agenda.ready) := by
  rw [AgreesOver, stage]

theorem AgreesOver.of_nothing
    (nothing : (∃ activity, task.stage = .body activity) →
      held position = {}) :
    AgreesOver held position task own process world ↔
      Agrees position task own process world := by
  unfold AgreesOver
  split
  · rename_i activity stage
    rw [nothing ⟨activity, stage⟩, Holdings.over_nothing, Agrees, stage]
  · exact Iff.rfl

theorem AgreesOver.beside (same : later position = held position)
    (beside : Beside position task.pid world next)
    (below : ∀ id, own id → id < world.waiter.handoffs.length)
    (here : world.processes.all[task.pid]? = some process)
    (sameTask : process.task = position)
    (agrees : AgreesOver held position task own process world) :
    ∃ found, next.processes.all[task.pid]? = some found ∧
      found.task = position ∧
        AgreesOver later position task own found next := by
  by_cases body : ∃ activity, task.stage = .body activity
  · obtain ⟨activity, stage⟩ := body
    obtain ⟨alive, waiting⟩ := (AgreesOver.body stage).mp agrees
    obtain ⟨found, there, kept, struck⟩ :=
      beside.process process here sameTask
    refine ⟨found, there, kept.continues.task.trans sameTask,
      (AgreesOver.body stage).mpr ⟨?_, fun killed => ?_⟩⟩
    · exact same.symm ▸ alive.beside beside below kept
    · cases state : process.killed with
      | true => exact beside.ready (waiting state)
      | false => exact struck state killed
  · have plain : ∀ {held : TaskId → Holdings} {process : Process}
        {world : World}, AgreesOver held position task own process world ↔
          Agrees position task own process world :=
      AgreesOver.of_nothing fun holds => absurd holds body
    obtain ⟨found, there, nextTask, _, kept⟩ :=
      (plain.mp agrees).beside beside below here sameTask
    exact ⟨found, there, nextTask, plain.mpr kept⟩

/-- Only one task and its process are touched. -/
theorem InStep.alone (orderly : InStep accord made world)
    (found : world.tasks[position]? = some (.process task))
    (own : ∃ stage process,
      next.tasks[position]? = some (.process { task with stage }) ∧
        next.processes.all[task.pid]? = some process ∧
          process.task = position ∧
            after position { task with stage } (grown position) process next)
    (beside : ∀ (other : TaskId) (pid : Pid), other ≠ position →
      pid ≠ task.pid → Beside other pid world next)
    (others : ∀ (other : TaskId) (fellow : ProcessTask) (process : Process),
      other ≠ position → Beside other fellow.pid world next →
        world.processes.all[fellow.pid]? = some process →
          process.task = other →
            accord other fellow (made other) process world →
              ∃ process, next.processes.all[fellow.pid]? = some process ∧
                process.task = other ∧
                  after other fellow (grown other) process next)
    (maker : ∀ other id, grown other id → made other id ∨
      (other = position ∧ id < next.waiter.handoffs.length)) :
    InStep after grown next := by
  have away : Beside (position + 1) (task.pid + 1) world next :=
    beside _ _ (Nat.succ_ne_self _) (Nat.succ_ne_self _)
  have elsewhere : ∀ other : TaskId, other ≠ position →
      next.tasks[other]? = world.tasks[other]? := fun other different =>
    (beside other (task.pid + 1) different (Nat.succ_ne_self _)).task
  have foreign : ∀ pid : Pid, world.processes.all[pid]? = none →
      Beside (position + 1) pid world next := by
    intro pid absent
    refine beside _ _ (Nat.succ_ne_self _) ?_
    rintro rfl
    obtain ⟨_, here, _⟩ := orderly.tasks position task found
    cases here.symm.trans absent
  refine orderly.goOn (fun other fellow there => ?_)
    (fun other known => ?_) (fun other fellow there => ?_)
    (fun pid process there => ?_)
    (fun pid absent => (foreign pid absent).endings)
    away.waiter fun other id holds => ?_
  · by_cases same : other = position
    · subst same
      cases found.symm.trans there
      exact own
    · obtain ⟨process, here, sameTask, agrees⟩ :=
        orderly.tasks other fellow there
      have apart : fellow.pid ≠ task.pid :=
        orderly.apart found other fellow there same
      obtain ⟨last, now, lastTask, kept⟩ := others other fellow process same
        (beside other fellow.pid same apart) here sameTask agrees
      exact ⟨fellow.stage, last, (elsewhere other same).trans there, now,
        lastTask, kept⟩
  · by_cases same : other = position
    · subst same
      obtain ⟨_, _, there, _⟩ := own
      exact ⟨_, there⟩
    · rwa [elsewhere other same]
  · by_cases same : other = position
    · exact .inl ⟨task, same ▸ found⟩
    · exact .inl ⟨fellow, (elsewhere other same) ▸ there⟩
  · cases here : world.processes.all[pid]? with
    | some process => exact .inl ⟨process, rfl⟩
    | none =>
        rw [(foreign pid here).absent here] at there
        cases there
  · refine (maker other id holds).imp_right ?_
    rintro ⟨rfl, below⟩
    exact ⟨⟨_, found⟩, below⟩

end

end World

end Switchboard
