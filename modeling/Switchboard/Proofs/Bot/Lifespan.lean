import Switchboard.Proofs.Bot.Kill
import Switchboard.Proofs.Bot.Register

/-!
# The life of processes along a run

Processes get the numbers 0, 1, 2 and so on.  The register lists those whose
body has not ended, a kill is accepted from a listed and running process only,
and the exit handlers are called one after the other as the bodies end.
-/

namespace Switchboard

namespace ProcessTable

/-- All views of a register show the same processes, in the order of their
numbers. -/
structure Coherent (table : ProcessTable) : Prop where
  ascending : (table.list.map Prod.fst).Pairwise (· < ·)
  listed : ∀ pid, pid ∈ table.list.map Prod.fst ↔ pid ∈ table.live
  get : ∀ pid process,
    table.get? pid = some process ↔ (pid, process) ∈ table.list
  size : table.size = table.list.length
  isEmpty : table.isEmpty = true ↔ table.list = []

theorem mem_list {table : ProcessTable} {pid : Pid} {process : Process} :
    (pid, process) ∈ table.list ↔
      pid ∈ table.live ∧ table.all[pid]? = some process := by
  unfold list
  rw [List.mem_filterMap]
  constructor
  · rintro ⟨other, member, found⟩
    obtain ⟨_, here, same⟩ := Option.map_eq_some_iff.mp found
    cases same
    exact ⟨member, here⟩
  · rintro ⟨member, here⟩
    exact ⟨pid, member, by rw [here]; rfl⟩

theorem get?_eq_some_iff {table : ProcessTable} {pid : Pid}
    {process : Process} :
    table.get? pid = some process ↔
      pid ∈ table.live ∧ table.all[pid]? = some process := by
  unfold get?
  split <;> simp [*]

theorem map_fst_list {table : ProcessTable}
    (known : ∀ pid ∈ table.live, pid < table.all.length) :
    table.list.map Prod.fst = table.live := by
  unfold list
  rw [List.map_filterMap]
  refine (List.filterMap_congr fun pid member => ?_).trans
    List.filterMap_some
  rw [List.getElem?_eq_getElem (known pid member)]
  rfl

theorem Coherent.of_ascending {table : ProcessTable}
    (ascending : table.live.Pairwise (· < ·))
    (known : ∀ pid ∈ table.live, pid < table.all.length) :
    table.Coherent := by
  have same := map_fst_list known
  refine ⟨same ▸ ascending, fun pid => by rw [same],
    fun pid process => get?_eq_some_iff.trans mem_list.symm, ?_, ?_⟩
  · rw [ProcessTable.size, ← same, List.length_map]
  · rw [ProcessTable.isEmpty, ← same, List.isEmpty_iff, List.map_eq_nil_iff]

end ProcessTable

namespace World

variable {world : World} {pid other : Pid} {pids : List Pid}

theorem interruptHeld_iff :
    (world.interruptHeld pid).1 = true ↔ IsRunning pid world := by
  refine ⟨fun answer => (interruptHeld_accepted answer).1, ?_⟩
  rintro ⟨process, here, running⟩
  simp [interruptHeld, here, Process.interrupt_eq_of_running running]

theorem interrupt_iff :
    (world.interrupt pid).1 = true ↔
      pid ∈ world.processes.live ∧ IsRunning pid world := by
  unfold interrupt
  split
  · rename_i live
    simp [interruptHeld_iff, live]
  · rename_i gone
    simp [gone]

theorem interruptHeld_of_refused
    (refused : (world.interruptHeld pid).1 = false) :
    (world.interruptHeld pid).2 = world := by
  unfold interruptHeld at refused ⊢
  split
  · rfl
  · rename_i process here
    by_cases running : process.state = .running
    · simp [here, Process.interrupt_eq_of_running running] at refused
    · simp [Process.interrupt_eq_of_ne_running running]

theorem interrupt_of_refused (refused : (world.interrupt pid).1 = false) :
    (world.interrupt pid).2 = world := by
  unfold interrupt at refused ⊢
  split at refused
  · rename_i live
    rw [if_pos live]
    exact interruptHeld_of_refused refused
  · rename_i gone
    rw [if_neg gone]

theorem isRunning_interruptHeld
    (accepted : (world.interruptHeld pid).1 = true) :
    IsRunning other (world.interruptHeld pid).2 ↔
      IsRunning other world ∧ other ≠ pid := by
  obtain ⟨process, here, running⟩ := interruptHeld_iff.mp accepted
  have after : (world.interruptHeld pid).2.processes.all =
      (world.processes.modify pid fun _ => process.kill).all := by
    simp [interruptHeld, here, Process.interrupt_eq_of_running running, wake,
      modifyProcess]
  unfold IsRunning
  rw [after, ProcessTable.all_modify]
  by_cases same : pid = other
  · subst same
    simp [here, Process.kill]
  · simp [same, Ne.symm same]

theorem isRunning_interrupt (accepted : (world.interrupt pid).1 = true) :
    IsRunning other (world.interrupt pid).2 ↔
      IsRunning other world ∧ other ≠ pid := by
  have live := (interrupt_iff.mp accepted).1
  unfold interrupt at accepted ⊢
  rw [if_pos live] at accepted ⊢
  exact isRunning_interruptHeld accepted

theorem mem_interruptEach :
    pid ∈ (world.interruptEach pids).1.1 ↔
      pid ∈ pids ∧ pid ∈ world.processes.live ∧ IsRunning pid world := by
  induction pids generalizing world with
  | nil => simp [interruptEach]
  | cons first rest induction =>
      cases answer : (world.interrupt first).1 with
      | false =>
          have same := interrupt_of_refused answer
          have refused : ¬(first ∈ world.processes.live ∧
              IsRunning first world) := by
            rw [← interrupt_iff, answer]
            simp
          simp only [interruptEach, answer, same, Bool.false_eq_true,
            if_false, induction, List.mem_cons]
          constructor
          · rintro ⟨member, struck⟩
            exact ⟨.inr member, struck⟩
          · rintro ⟨rfl | member, struck⟩
            · exact absurd struck refused
            · exact ⟨member, struck⟩
      | true =>
          have frame : Frame 0 (fun _ => False) world
              (world.interrupt first).2 := .interrupt first
          have struck := interrupt_iff.mp answer
          simp only [interruptEach, answer, if_true, List.mem_cons, induction,
            isRunning_interrupt answer, frame.live]
          constructor
          · rintro (rfl | ⟨member, live, running, _⟩)
            · exact ⟨.inl rfl, struck⟩
            · exact ⟨.inr member, live, running⟩
          · rintro ⟨same | member, live, running⟩
            · exact .inl same
            · by_cases same : pid = first
              · exact .inl same
              · exact .inr ⟨member, live, running, same⟩

theorem nodup_interruptEach : (world.interruptEach pids).1.1.Nodup := by
  induction pids generalizing world with
  | nil => simp [interruptEach]
  | cons first rest induction =>
      cases answer : (world.interrupt first).1 with
      | false =>
          simp only [interruptEach, answer, Bool.false_eq_true, if_false]
          exact induction
      | true =>
          simp only [interruptEach, answer, if_true]
          refine List.nodup_cons.mpr ⟨fun again => ?_, induction⟩
          have running := (mem_interruptEach.mp again).2.2
          exact ((isRunning_interrupt answer).mp running).2 rfl

/-- The processes that are killed by the next small step of a body. -/
def struck (world : World) : List Pid :=
  match world.agenda.floor.bind (world.processTask? ·) with
  | none => []
  | some task =>
    match task.stage with
    | .body (.running (.call (.interruptAll pids) _)) =>
      (world.interruptEach pids).1.1
    | .body (.running (.call .interruptSelf _)) =>
      if (world.interruptHeld task.pid).1 then [task.pid] else []
    | _ => []

end World

/-- The processes that are asked to be killed, with the answer that they were
running. -/
def Episode.kills : Episode → List Pid
  | ⟨before, .interrupt pid⟩ => if (before.interrupt pid).1 then [pid] else []
  | ⟨before, .interruptHeld pid⟩ =>
    if (before.interruptHeld pid).1 then [pid] else []
  | ⟨before, .work⟩ => before.struck
  | _ => []

namespace World

variable {made : TaskId → SubscriptionId → Prop} {world : World}
  {position : TaskId} {task : ProcessTask} {pid : Pid}
  {own : SubscriptionId → Prop} {process : Process}

theorem Agrees.alive_or_ended
    (agrees : Agrees position task own process world) :
    (∃ holdings, Alive task.pid own holdings process world ∧
        (process.killed = true → position ∈ world.agenda.ready)) ∨
      (¬task.stage.HasBody ∧
        ∃ outcome, Ended task.pid own outcome process world) := by
  unfold Agrees at agrees
  cases stage : task.stage with
  | unbuilt | body =>
      rw [stage] at agrees
      exact .inl ⟨_, agrees⟩
  | closing =>
      rw [stage] at agrees
      exact .inr ⟨nofun, _, agrees.1⟩
  | announcing =>
      rw [stage] at agrees
      exact .inr ⟨nofun, _, agrees⟩
  | _ =>
      rw [stage] at agrees
      exact .inr ⟨nofun, agrees⟩

theorem Agrees.state_iff (agrees : Agrees position task own process world) :
    process.state = .done ↔ task.pid ∉ world.processes.live := by
  rcases agrees.alive_or_ended with ⟨_, alive, _⟩ | ⟨_, _, ended⟩
  · exact iff_of_false alive.state (not_not.mpr alive.live)
  · exact iff_of_true ended.state ended.gone

theorem Agrees.not_running (agrees : Agrees position task own process world)
    (killed : process.killed = true) : process.state ≠ .running := by
  rcases agrees.alive_or_ended with ⟨_, alive, _⟩ | ⟨_, _, ended⟩
  · simp [alive.killed_iff.mp killed]
  · simp [ended.state]

theorem Agrees.live_of_hasBody (body : task.stage.HasBody)
    (agrees : Agrees position task own process world) :
    task.pid ∈ world.processes.live := by
  rcases agrees.alive_or_ended with ⟨_, alive, _⟩ | ⟨noBody, _⟩
  · exact alive.live
  · exact absurd body noBody

theorem processTask?_eq_some_iff :
    world.processTask? position = some task ↔
      world.tasks[position]? = some (.process task) := by
  unfold processTask?
  split
  · rename_i other found
    simp [found]
  · rename_i notProcess
    simp only [reduceCtorEq, false_iff]
    exact notProcess task

/-- The body of a process ends with the outcome that it is given. -/
def BodyEnds (pid : Pid) (outcome : Outcome) (world : World) : Prop :=
  ∃ (position : TaskId) (task : ProcessTask),
    world.mover? = some position ∧
      world.tasks[position]? = some (.process task) ∧ task.pid = pid ∧
        task.stage.Ends (world.isKilled pid) outcome

theorem bodyEnds_of_ended? {outcome : Outcome}
    (ended : world.ended? = some (pid, outcome)) :
    BodyEnds pid outcome world := by
  unfold ended? at ended
  split at ended
  · rename_i position floor
    obtain ⟨task, taken, ends⟩ := Option.bind_eq_some_iff.mp ended
    obtain ⟨_, ends, same⟩ := Option.map_eq_some_iff.mp ends
    cases same
    exact ⟨position, task, mover?_of_floor floor,
      processTask?_eq_some_iff.mp taken, rfl, .of_work ends⟩
  · rename_i floor
    obtain ⟨task, located, ends⟩ := Option.bind_eq_some_iff.mp ended
    obtain ⟨position, ready, taken⟩ := Option.bind_eq_some_iff.mp located
    obtain ⟨_, ends, same⟩ := Option.map_eq_some_iff.mp ends
    cases same
    exact ⟨position, task, by simp [mover?, floor, ready],
      processTask?_eq_some_iff.mp taken, rfl, .of_turn ends⟩

namespace Orderly

theorem agrees (orderly : Orderly made world)
    (here : world.processes.all[pid]? = some process) :
    ∃ task : ProcessTask, task.pid = pid ∧
      Agrees process.task task (made process.task) process world := by
  obtain ⟨task, found, rfl⟩ := orderly.processes pid process here
  obtain ⟨same, known, _, agrees⟩ := orderly.tasks _ task found
  cases here.symm.trans known
  exact ⟨task, rfl, agrees⟩

theorem done_iff (orderly : Orderly made world)
    (here : world.processes.all[pid]? = some process) :
    process.state = .done ↔ pid ∉ world.processes.live := by
  obtain ⟨task, rfl, agrees⟩ := orderly.agrees here
  exact agrees.state_iff

theorem not_isRunning (orderly : Orderly made world)
    (killed : world.isKilled pid = true) : ¬IsRunning pid world := by
  rintro ⟨process, here, running⟩
  obtain ⟨task, rfl, agrees⟩ := orderly.agrees here
  refine agrees.not_running ?_ running
  simpa [isKilled, here] using killed

theorem isRunning_of_ready_eq_nil (orderly : Orderly made world)
    (ready : world.agenda.ready = [])
    (here : world.processes.all[pid]? = some process)
    (live : pid ∈ world.processes.live) : IsRunning pid world := by
  obtain ⟨task, rfl, agrees⟩ := orderly.agrees here
  rcases agrees.alive_or_ended with ⟨_, alive, waits⟩ | ⟨_, _, ended⟩
  · refine ⟨process, here, ?_⟩
    have spared : process.state ≠ .interrupted := fun killed => by
      have waiting := waits (alive.killed_iff.mpr killed)
      rw [ready] at waiting
      cases waiting
    cases state : process.state with
    | running => rfl
    | interrupted => exact absurd state spared
    | done => exact absurd state alive.state
  · exact absurd live ended.gone

theorem live_of_bodyEnds (orderly : Orderly made world) {outcome : Outcome}
    (ends : BodyEnds pid outcome world) : pid ∈ world.processes.live := by
  obtain ⟨position, task, _, found, rfl, stage⟩ := ends
  obtain ⟨_, _, _, agrees⟩ := orderly.tasks position task found
  exact agrees.live_of_hasBody stage.hasBody

theorem gone_of_owed? (orderly : Orderly made world) {outcome : Outcome}
    (owed : world.owed? = some (pid, outcome)) :
    pid ∉ world.processes.live := by
  unfold owed? at owed
  obtain ⟨task, found, closes⟩ := Option.bind_eq_some_iff.mp owed
  obtain ⟨position, _, found⟩ := Option.bind_eq_some_iff.mp found
  obtain ⟨_, closes, same⟩ := Option.map_eq_some_iff.mp closes
  obtain ⟨process, _, _, agrees⟩ :=
    orderly.tasks position task (processTask?_eq_some_iff.mp found)
  unfold Agrees at agrees
  cases stage : task.stage with
  | closing outcome =>
      rw [stage] at agrees
      cases same
      exact agrees.1.gone
  | _ =>
      rw [stage] at closes
      cases closes

end Orderly

/-- It has been launched and is not running any more. -/
def Stopped (pid : Pid) (world : World) : Prop :=
  ∃ process, world.processes.all[pid]? = some process ∧
    process.state ≠ .running

theorem mem_struck (member : pid ∈ world.struck) :
    IsRunning pid world ∧ (world.happen .work).isKilled pid = true := by
  unfold struck at member
  split at member
  · cases member
  · rename_i task located
    obtain ⟨position, floor, taken⟩ := Option.bind_eq_some_iff.mp located
    have found := processTask?_eq_some_iff.mp taken
    split at member
    · rename_i pids next stage
      exact Episode.Accepts.body floor found stage member |> accepted
    · rename_i next stage
      split at member
      · rename_i answer
        obtain rfl := List.mem_singleton.mp member
        obtain ⟨running, killed⟩ := interruptHeld_accepted answer
        refine ⟨running, ?_⟩
        rw [happen_work_of_floor floor, work, found]
        dsimp only
        rw [workProcess, stage]
        exact killed
      · cases member
    · cases member

theorem nodup_struck : world.struck.Nodup := by
  unfold struck
  split
  · exact .nil
  · split
    · exact nodup_interruptEach
    · split <;> simp
    · exact .nil

theorem nodup_kills (episode : Episode) : episode.kills.Nodup := by
  obtain ⟨before, occurrence⟩ := episode
  unfold Episode.kills
  split
  · split <;> simp
  · split <;> simp
  · exact nodup_struck
  · exact .nil

namespace Orderly

theorem kills_happen (orderly : Orderly made world) {occurrence : Occurrence}
    (killed : pid ∈ Episode.kills ⟨world, occurrence⟩) :
    IsRunning pid world ∧ Stopped pid (world.happen occurrence) := by
  have struck : IsRunning pid world ∧
      (world.happen occurrence).isKilled pid = true := by
    cases occurrence with
    | work => exact mem_struck killed
    | interrupt other =>
        obtain ⟨answer, same⟩ := by simpa [Episode.kills] using killed
        subst same
        exact interrupt_accepted answer
    | interruptHeld other =>
        obtain ⟨answer, same⟩ := by simpa [Episode.kills] using killed
        subst same
        exact interruptHeld_accepted answer
    | _ => cases killed
  obtain ⟨running, final⟩ := struck
  obtain ⟨process, here, _⟩ := id running
  obtain ⟨next, there, _⟩ :=
    (orderly.logged occurrence).processes pid process here
  refine ⟨running, next, there, fun state => ?_⟩
  exact (orderly.happen occurrence).not_isRunning final ⟨next, there, state⟩

theorem stopped_happen (orderly : Orderly made world)
    (occurrence : Occurrence) (stopped : Stopped pid world) :
    Stopped pid (world.happen occurrence) := by
  obtain ⟨process, here, state⟩ := stopped
  obtain ⟨next, there, moves⟩ :=
    (orderly.logged occurrence).processes pid process here
  refine ⟨next, there, fun running => ?_⟩
  rw [running] at moves
  generalize process.state = former at moves state
  cases moves
  exact state rfl

end Orderly

/-- Who is launched, in order. -/
def launches (history : List Episode) : List Pid :=
  history.filterMap Episode.launched?

/-- Whose body ends and how, in order. -/
def bodyEnds (history : List Episode) : List (Pid × Outcome) :=
  history.filterMap Episode.ended?

/-- Whose exit handler is called and with what outcome, in order. -/
def exits (history : List Episode) : List (Pid × Outcome) :=
  history.filterMap Episode.exited?

/-- Whose kill is accepted, in order. -/
def kills (history : List Episode) : List Pid :=
  history.flatMap Episode.kills

/-- What a history tells of the processes. -/
structure Chronicle (history : List Episode) (last : World) : Prop where
  /-- Every launch gets the next number. -/
  numbers : launches history = List.range last.processes.all.length
  /-- A process is listed from its launch until its body ends. -/
  listed : last.processes.live =
    (launches history).filter fun pid =>
      !(bodyEnds history).any (·.1 = pid)
  once : ((bodyEnds history).map Prod.fst).Nodup
  launched : ∀ ending ∈ bodyEnds history, ending.1 ∈ launches history
  recorded : last.ends.map ProcessEnd.verdict = bodyEnds history
  /-- Every end of a body is handled, before anything else goes on. -/
  handled : bodyEnds history = exits history ++ last.owed?.toList
  killedOnce : (kills history).Nodup
  stopped : ∀ pid ∈ kills history, Stopped pid last

theorem launches_concat (history : List Episode) (episode : Episode) :
    launches (history ++ [episode]) =
      launches history ++ episode.launched?.toList := by
  simp [launches, List.filterMap_eq_flatMap_toList]

theorem bodyEnds_concat (history : List Episode) (episode : Episode) :
    bodyEnds (history ++ [episode]) =
      bodyEnds history ++ episode.ended?.toList := by
  simp [bodyEnds, List.filterMap_eq_flatMap_toList]

theorem exits_concat (history : List Episode) (episode : Episode) :
    exits (history ++ [episode]) =
      exits history ++ episode.exited?.toList := by
  simp [exits, List.filterMap_eq_flatMap_toList]

namespace Chronicle

variable {history : List Episode}

theorem start (config : Config) (commands : Catalogue Handler) (horizon : Nat) :
    Chronicle [] (World.start config commands horizon) := by
  constructor <;> simp [launches, bodyEnds, exits, kills, World.start, owed?]

theorem mem_live (chronicle : Chronicle history world) :
    pid ∈ world.processes.live ↔
      pid ∈ launches history ∧ pid ∉ (bodyEnds history).map Prod.fst := by
  rw [chronicle.listed, List.mem_filter, Bool.not_eq_true', List.any_eq_false]
  simp only [decide_eq_true_eq, List.mem_map, not_exists, not_and]

theorem launched_fresh (chronicle : Chronicle history world)
    {occurrence : Occurrence}
    (launched : Episode.launched? ⟨world, occurrence⟩ = some pid)
    (orderly : Orderly made world) : pid ∉ launches history := by
  have numbers := (orderly.logged occurrence).numbers
  rw [launched, ← chronicle.numbers] at numbers
  have once := numbers ▸ List.nodup_range
  exact fun again =>
    List.disjoint_of_nodup_append once again (List.mem_singleton.mpr rfl)

theorem ends_once (chronicle : Chronicle history world)
    (orderly : Orderly made world) {occurrence : Occurrence}
    {ending : Pid × Outcome}
    (ended : ending ∈ (Episode.ended? ⟨world, occurrence⟩).toList) :
    ending.1 ∈ launches history ∧
      ending.1 ∉ (bodyEnds history).map Prod.fst := by
  have ended := Option.mem_toList.mp ended
  refine chronicle.mem_live.mp ?_
  cases occurrence with
  | work => exact orderly.live_of_bodyEnds (bodyEnds_of_ended? ended)
  | _ => cases ended

theorem launched_before (chronicle : Chronicle history world)
    (orderly : Orderly made world) {occurrence : Occurrence}
    {ending : Pid × Outcome}
    (ended : ending ∈ bodyEnds (history ++ [⟨world, occurrence⟩])) :
    ending.1 ∈ launches history := by
  rw [bodyEnds_concat, List.mem_append] at ended
  rcases ended with before | now
  · exact chronicle.launched ending before
  · exact (chronicle.ends_once orderly now).1

theorem next (orderly : Orderly made world)
    (chronicle : Chronicle history world) (occurrence : Occurrence) :
    Chronicle (history ++ [⟨world, occurrence⟩])
      (world.happen occurrence) := by
  have logged := orderly.logged occurrence
  have fresh : ∀ pid ∈ (Episode.launched? ⟨world, occurrence⟩).toList,
      pid ∉ launches history := fun pid member =>
    chronicle.launched_fresh (Option.mem_toList.mp member) orderly
  have launched := launches_concat history ⟨world, occurrence⟩
  have ended := bodyEnds_concat history ⟨world, occurrence⟩
  have handled := exits_concat history ⟨world, occurrence⟩
  have killed : kills (history ++ [⟨world, occurrence⟩]) =
      kills history ++ Episode.kills ⟨world, occurrence⟩ := by
    simp [kills]
  constructor
  · rw [launched, logged.numbers, ← chronicle.numbers]
  · rw [launched, logged.live, chronicle.listed, List.filter_append]
    congr 1
    · rw [ended, List.filter_filter]
      refine List.filter_congr fun pid _ => ?_
      rw [List.any_append, Bool.not_or, Bool.and_comm]
      cases Episode.ended? ⟨world, occurrence⟩ <;> simp
    · refine (List.filter_eq_self.mpr fun pid member => ?_).symm
      rw [Bool.not_eq_true', List.any_eq_false]
      rintro ending former here
      obtain rfl := of_decide_eq_true here
      exact fresh _ member (chronicle.launched_before orderly former)
  · rw [ended, List.map_append, List.nodup_append]
    refine ⟨chronicle.once, ?_, ?_⟩
    · cases Episode.ended? ⟨world, occurrence⟩ <;> simp
    · rintro former before last after rfl
      obtain ⟨ending, now, rfl⟩ := List.mem_map.mp after
      exact (chronicle.ends_once orderly now).2 before
  · rw [launched]
    exact fun ending member =>
      List.mem_append_left _ (chronicle.launched_before orderly member)
  · rw [ended, logged.ends, chronicle.recorded]
  · rw [ended, handled, List.append_assoc, ← logged.owed, ← List.append_assoc]
    exact congrArg (· ++ _) chronicle.handled
  · rw [killed]
    refine List.nodup_append.mpr ⟨chronicle.killedOnce, nodup_kills _, ?_⟩
    rintro pid before last now rfl
    obtain ⟨process, here, state⟩ := chronicle.stopped pid before
    obtain ⟨_, there, running⟩ := (orderly.kills_happen now).1
    cases here.symm.trans there
    exact state running
  · rw [killed]
    intro pid member
    rcases List.mem_append.mp member with before | now
    · exact orderly.stopped_happen occurrence (chronicle.stopped pid before)
    · exact (orderly.kills_happen now).2

end Chronicle

/-- What holds of the register at any moment. -/
structure Standing (world : World) : Prop where
  coherent : world.processes.Coherent
  done : ∀ (pid : Pid) (process : Process),
    world.processes.all[pid]? = some process →
      (process.state = .done ↔ pid ∉ world.processes.live)
  interrupt : ∀ pid : Pid, (world.interrupt pid).1 = true ↔
    pid ∈ world.processes.live ∧ IsRunning pid world
  interruptHeld : ∀ pid : Pid,
    (world.interruptHeld pid).1 = true ↔ IsRunning pid world
  interruptEach : ∀ (pid : Pid) (pids : List Pid),
    pid ∈ (world.interruptEach pids).1.1 ↔
      pid ∈ pids ∧ pid ∈ world.processes.live ∧ IsRunning pid world

/-- What holds of all that happens. -/
structure Regular (episode : Episode) : Prop where
  logged : Logged episode.launched? episode.ended? episode.exited?
    episode.before episode.after
  ends : ∀ (pid : Pid) (outcome : Outcome),
    episode.ended? = some (pid, outcome) →
      pid ∈ episode.before.processes.live ∧
        BodyEnds pid outcome episode.before
  exits : ∀ (pid : Pid) (outcome : Outcome),
    episode.exited? = some (pid, outcome) →
      pid ∉ episode.before.processes.live
  kills : ∀ pid ∈ episode.kills,
    IsRunning pid episode.before ∧ Stopped pid episode.after

theorem Orderly.regular (orderly : Orderly made world)
    (occurrence : Occurrence) : Regular ⟨world, occurrence⟩ where
  logged := orderly.logged occurrence
  ends := by
    intro pid outcome ended
    cases occurrence with
    | work =>
        have ends := bodyEnds_of_ended? ended
        exact ⟨orderly.live_of_bodyEnds ends, ends⟩
    | _ => cases ended
  exits := by
    intro pid outcome exited
    cases occurrence with
    | work => exact orderly.gone_of_owed? exited
    | _ => cases exited
  kills := fun _ killed => orderly.kills_happen killed

theorem Chronicle.standing {history : List Episode}
    (chronicle : Chronicle history world) (orderly : Orderly made world) :
    Standing world where
  coherent := by
    refine .of_ascending ?_ fun pid live => ?_
    · rw [chronicle.listed, chronicle.numbers]
      exact List.pairwise_lt_range.sublist List.filter_sublist
    · have launched := (chronicle.mem_live.mp live).1
      rw [chronicle.numbers] at launched
      exact List.mem_range.mp launched
  done := fun _ _ here => orderly.done_iff here
  interrupt := fun _ => interrupt_iff
  interruptHeld := fun _ => interruptHeld_iff
  interruptEach := fun _ _ => mem_interruptEach

/-- The life of processes.  The launches give the numbers 0, 1, 2 and so on.
A process is on the register from its launch until its body ends, which
happens once at most: by itself, by a panic, or by a kill.  Its state is done
just if it is off the register, and it never goes back.  The exit handlers are
called with the outcomes of the bodies in the order in which these end, each
when its process is off the register.  A kill is accepted once at most, from a
process that is listed and running, and all views of the register agree.  When
all tasks have settled, every end has been handled and whoever is listed
runs. -/
theorem process_lifecycle {config : Config} {commands : Catalogue Handler}
    {horizon : Nat}
    {history : List Episode} {last : World}
    (run : Run (World.start config commands horizon) history last) :
    Chronicle history last ∧ Standing last ∧
      (∀ episode ∈ history, Regular episode) ∧
        (Machine.step last = none → exits history = bodyEnds history ∧
          ∀ pid ∈ last.processes.live, IsRunning pid last) := by
  have lived : Chronicle history last ∧
      ∀ episode ∈ history, Regular episode := by
    induction run with
    | start => exact ⟨.start config commands horizon, by simp⟩
    | @next earlier middle occurrence prior induction =>
        obtain ⟨chronicle, regular⟩ := induction
        have orderly := Run.orderly prior
        refine ⟨chronicle.next orderly occurrence, fun episode => ?_⟩
        rw [List.mem_append, List.mem_singleton]
        rintro (before | rfl)
        · exact regular episode before
        · exact orderly.regular occurrence
  obtain ⟨chronicle, regular⟩ := lived
  refine ⟨chronicle, chronicle.standing run.orderly, regular, ?_⟩
  intro settled
  obtain ⟨floor, ready⟩ := step_eq_none_iff.mp settled
  constructor
  · have handled := chronicle.handled
    rw [owed?_of_no_floor floor] at handled
    simpa using handled.symm
  · intro pid live
    have launched := (chronicle.mem_live.mp live).1
    rw [chronicle.numbers] at launched
    exact run.orderly.isRunning_of_ready_eq_nil ready
      (List.getElem?_eq_getElem (List.mem_range.mp launched)) live

/-- Four processes: one cannot be built, one is killed before it starts, one
is killed where it waits, and one waits on. -/
def fatefulOccurrences : List Occurrence :=
  let command : CommandDef := { name := "task", description := "A task." }
  let event : Event := ⟨0, "user", "lobby", "lobby", .message "first" ".task"⟩
  let launch (body : Except PanicPayload (Program Unit)) : Occurrence :=
    .launch command event ⟨0, "lobby"⟩ body
  let patient : Program Unit := .call (.sleep 10) fun _ => .result ()
  [launch (.error (.text "no")), launch (.ok patient), launch (.ok patient),
    launch (.ok patient), .interrupt 1] ++ List.replicate 14 .work ++
      [.interrupt 1, .interrupt 2, .interruptHeld 2] ++
        List.replicate 4 .work

/-- The launches get different numbers, two of the four kills are accepted,
and all exit handlers are called that have to be. -/
theorem fateful_lifecycle :
    let history :=
      (start { accounts := [] } {} hostHorizon).history fatefulOccurrences
    launches history = [0, 1, 2, 3] ∧ kills history = [1, 2] ∧
      bodyEnds history =
        [(0, .error (.internal ⟨"command panicked: no", []⟩)),
          (1, .error .interrupted), (2, .error .interrupted)] ∧
          exits history = bodyEnds history := by
  intro history
  have run : Run (start { accounts := [] } {} hostHorizon) history
      ((start { accounts := [] } {} hostHorizon).happenAll
        fatefulOccurrences) :=
    .of_occurrences _ _
  have settled : Machine.step
      ((start { accounts := [] } {} hostHorizon).happenAll
        fatefulOccurrences) = none :=
    step_eq_none_iff.mpr ⟨by decide +kernel, by decide +kernel⟩
  exact ⟨by decide +kernel, by decide +kernel, by decide +kernel,
    ((process_lifecycle run).2.2.2 settled).1⟩

end World

end Switchboard
