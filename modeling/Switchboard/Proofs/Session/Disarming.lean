import Switchboard.Proofs.Session.Fate

/-!
# An interrupt that never fires

Whether the interrupt of a wait can still be fired makes no difference as long
as nobody fires it: a session in which it has been given up goes on just like
one in which it has not.
-/

namespace Switchboard

/-- Nobody can fire the interrupt of a wait any more. -/
def SessionWait.unarmed (entry : SessionWait) : SessionWait :=
  { entry with disarmed := true }

namespace Session

/-- Nobody can fire the interrupt of a task any more. -/
def disarmed (task : TaskId) (session : Session) : Session :=
  session.modifyWait task SessionWait.unarmed

variable {task worker : TaskId} {session : Session} {entry : SessionWait}

section Lists

variable {change other : SessionWait → SessionWait}

theorem modify_comm (waits : List SessionWait)
    (commute : ∀ entry, change (other entry) = other (change entry))
    (task worker : TaskId) :
    (waits.modify task other).modify worker change =
      (waits.modify worker change).modify task other := by
  apply List.ext_getElem?
  intro position
  simp only [List.getElem?_modify]
  cases waits[position]? with
  | none => rfl
  | some entry =>
      by_cases first : task = position <;>
        by_cases second : worker = position <;> simp [first, second, commute]

theorem modify_append_left {waits : List SessionWait}
    (known : task < waits.length) (more : List SessionWait) :
    (waits ++ more).modify task change =
      waits.modify task change ++ more := by
  apply List.ext_getElem?
  intro position
  rw [List.getElem?_modify]
  by_cases inside : position < waits.length
  · rw [List.getElem?_append_left inside, List.getElem?_append_left,
      List.getElem?_modify]
    rw [List.length_modify]
    exact inside
  · have beyond : waits.length ≤ position := Nat.le_of_not_lt inside
    have other : task ≠ position :=
      Nat.ne_of_lt (Nat.lt_of_lt_of_le known beyond)
    rw [List.getElem?_append_right beyond, List.getElem?_append_right,
      List.length_modify]
    · simp [other]
    · rw [List.length_modify]
      exact beyond

end Lists

theorem map_disarmed {α : Type} (reading : SessionWait → α)
    (same : ∀ entry, reading (SessionWait.unarmed entry) = reading entry)
    (task : TaskId) (session : Session) :
    (session.disarmed task).waits.map reading =
      session.waits.map reading := by
  apply List.ext_getElem?
  intro position
  simp only [disarmed, modifyWait, List.getElem?_map, List.getElem?_modify]
  cases session.waits[position]? with
  | none => rfl
  | some entry => by_cases here : task = position <;> simp [here, same]

theorem locate?_eq (name : String) (session : Session) :
    session.locate? name =
      (((session.waits.map SessionWait.name).zipIdx.filter
        (·.1 = name)).getLast?).map (·.2) := by
  rw [locate?, List.zipIdx_map, List.filter_map, List.getLast?_map,
    Option.map_map]
  rfl

theorem watcher?_map (id : SubscriptionId) (session : Session) :
    session.watcher? id =
      (session.waits.map fun entry =>
        (entry.subscription, entry.isActive)).findIdx? fun reading =>
          reading.1 = id && reading.2 := by
  rw [watcher?, List.findIdx?_map]
  rfl

theorem alarms_eq (session : Session) :
    Machine.alarms session =
      (session.waits.map SessionWait.alarms).zipIdx.flatMap
        fun (alarms, task) => alarms.map (·, task) := by
  rw [List.zipIdx_map, List.flatMap_map]
  rfl

theorem locate?_disarmed (name : String) (task : TaskId)
    (session : Session) :
    (session.disarmed task).locate? name = session.locate? name := by
  rw [locate?_eq, locate?_eq, map_disarmed SessionWait.name fun _ => rfl]

theorem watcher?_disarmed (id : SubscriptionId) (task : TaskId)
    (session : Session) :
    (session.disarmed task).watcher? id = session.watcher? id := by
  rw [watcher?_map, watcher?_map, map_disarmed _ fun _ => rfl]

theorem alarms_disarmed (task : TaskId) (session : Session) :
    Machine.alarms (session.disarmed task) = Machine.alarms session := by
  rw [alarms_eq, alarms_eq, map_disarmed SessionWait.alarms fun _ => rfl]

theorem wakeWatcher_disarmed (id : SubscriptionId) (task : TaskId)
    (session : Session) :
    (session.disarmed task).wakeWatcher id =
      (session.wakeWatcher id).disarmed task := by
  rw [wakeWatcher, watcher?_disarmed, wakeWatcher]
  split <;> rfl

theorem modifyWait_disarmed {change : SessionWait → SessionWait}
    (commute : ∀ entry, change (SessionWait.unarmed entry) =
      SessionWait.unarmed (change entry))
    (worker task : TaskId) (session : Session) :
    (session.disarmed task).modifyWait worker change =
      (session.modifyWait worker change).disarmed task := by
  rw [disarmed, modifyWait, modifyWait, disarmed, modifyWait, modifyWait,
    modify_comm _ commute]

theorem getElem?_disarmed (task : TaskId)
    (found : session.waits[worker]? = some entry) :
    ∃ disarmed, (session.disarmed task).waits[worker]? =
        some { entry with disarmed } ∧
      disarmed = if task = worker then true else entry.disarmed := by
  by_cases own : task = worker
  · refine ⟨true, ?_, (if_pos own).symm⟩
    simp [disarmed, modifyWait, found, own, SessionWait.unarmed]
  · refine ⟨entry.disarmed, ?_, (if_neg own).symm⟩
    simp [disarmed, modifyWait, found, own]

theorem getElem?_disarmed_eq_none (task : TaskId)
    (missing : session.waits[worker]? = none) :
    (session.disarmed task).waits[worker]? = none := by
  simpa [disarmed, modifyWait] using missing

theorem setStage_disarmed (stage : WaitStage) (worker task : TaskId)
    (session : Session) :
    (session.disarmed task).setStage worker stage =
      (session.setStage worker stage).disarmed task := by
  rw [setStage, setStage, modifyWait_disarmed]
  intro entry
  rfl

theorem finish_disarmed (result : Except WaitError Event)
    (worker task : TaskId) (entry : SessionWait) (session : Session) :
    (session.disarmed task).finish worker entry result =
      (session.finish worker entry result).disarmed task := by
  rw [finish, finish, setStage_disarmed]
  rfl

theorem discard_disarmed (worker task : TaskId) (entry : SessionWait)
    (session : Session) :
    (session.disarmed task).discard worker entry =
      (session.discard worker entry).disarmed task := by
  rw [discard, discard, setStage_disarmed]
  rfl

theorem setHandoff_disarmed (id : SubscriptionId) (handoff : Handoff Event)
    (task : TaskId) (session : Session) :
    (session.disarmed task).setHandoff id handoff =
      (session.setHandoff id handoff).disarmed task :=
  rfl

theorem advance_disarmed (wait : Wait) (worker task : TaskId)
    (entry : SessionWait) (session : Session) :
    (session.disarmed task).advance worker entry wait =
      (session.advance worker entry wait).disarmed task := by
  have agenda : (session.disarmed task).agenda = session.agenda := rfl
  have waiter : (session.disarmed task).waiter = session.waiter := rfl
  have alive : ∀ flag, (session.disarmed task).alive flag =
      session.alive flag := fun _ => rfl
  have probed : ∀ probes, { session.disarmed task with probes } =
      disarmed task { session with probes } := fun _ => rfl
  rw [advance, advance]
  simp only [agenda, waiter, alive]
  cases wait.phase with
  | listening =>
      dsimp only
      split
      · rw [setHandoff_disarmed, finish_disarmed]
      · rw [setHandoff_disarmed, setStage_disarmed]
        rfl
      · rfl
  | probing reason answer =>
      dsimp only
      split
      · split
        · rw [← finish_disarmed]
          rfl
        · rw [← setStage_disarmed]
          rfl
      · rfl

theorem work_disarmed (worker task : TaskId) (session : Session) :
    (session.disarmed task).work worker =
      (session.work worker).disarmed task := by
  rw [work, work]
  cases found : session.waits[worker]? with
  | none =>
      rw [getElem?_disarmed_eq_none task found]
      rfl
  | some entry =>
      obtain ⟨flag, there, _⟩ := getElem?_disarmed task found
      rw [there]
      dsimp only
      cases entry.stage with
      | subscribed | ended => rfl
      | fresh timeout =>
          dsimp only
          split
          · rw [← discard_disarmed]
            rfl
          · rw [← setStage_disarmed]
            rfl
      | active wait =>
          dsimp only
          split
          · rw [← discard_disarmed]
            rfl
          · rw [← advance_disarmed]
            rfl

theorem step_disarmed (task : TaskId) (session : Session) :
    (session.disarmed task).happen .work =
      (session.happen .work).disarmed task := by
  rcases session.work_cases with ⟨worker, floor, works⟩ |
    ⟨worker, rest, floor, ready, enters⟩ | ⟨settled, same⟩
  · have floor' : (session.disarmed task).agenda.floor = some worker := floor
    rw [works, happen_work_of_floor floor', work_disarmed]
  · have floor' : (session.disarmed task).agenda.floor = none := floor
    have ready' : (session.disarmed task).agenda.ready = worker :: rest :=
      ready
    rw [enters, happen_work_of_ready floor' ready']
    rfl
  · have settled' : (session.disarmed task).Settled := settled
    rw [same, happen_work_of_settled settled']

theorem subscribe_disarmed (known : task < session.waits.length)
    (name : String) (kind : EventKind) (predicate : Event → Bool) :
    ((session.disarmed task).subscribe name kind predicate).2 =
      (session.subscribe name kind predicate).2.disarmed task := by
  rw [subscribe, subscribe, disarmed, disarmed, modifyWait, modifyWait]
  dsimp only
  rw [modify_append_left known]

theorem startWait_disarmed (task : TaskId) (name : String)
    (timeout : Option Nat) (watch : Option Watch) (session : Session) :
    (session.disarmed task).startWait name timeout watch =
      (session.startWait name timeout watch).disarmed task := by
  rw [startWait, startWait, locate?_disarmed]
  cases session.locate? name with
  | none => rfl
  | some owner =>
      have stage : ((session.disarmed task).waits[owner]?).map
          SessionWait.stage = (session.waits[owner]?).map
            SessionWait.stage := by
        rw [← List.getElem?_map, ← List.getElem?_map,
          map_disarmed SessionWait.stage fun _ => rfl]
      dsimp only
      rw [stage]
      split
      · rw [modifyWait_disarmed]
        · rfl
        · intro entry
          rfl
      · rfl

theorem wakeWatchers_disarmed (ids : List SubscriptionId) (task : TaskId)
    (session : Session) :
    ids.foldl (fun session id => session.wakeWatcher id)
        (session.disarmed task) =
      (ids.foldl (fun session id => session.wakeWatcher id)
        session).disarmed task := by
  induction ids generalizing session with
  | nil => rfl
  | cons id rest induction =>
      rw [List.foldl_cons, wakeWatcher_disarmed, induction, List.foldl_cons]

theorem lift_disarmed (task : TaskId) (name : String) (session : Session) :
    (session.disarmed task).lift name =
      (session.lift name).disarmed task := by
  rw [lift, lift, locate?_disarmed]
  cases session.locate? name with
  | none => rfl
  | some owner =>
      dsimp only [Option.bind_some]
      cases found : session.waits[owner]? with
      | none => rw [getElem?_disarmed_eq_none task found]
      | some entry =>
          obtain ⟨flag, there, _⟩ := getElem?_disarmed task found
          rw [there]
          dsimp only
          rw [← wakeWatcher_disarmed]
          rfl

theorem drop_disarmed (task : TaskId) (name : String) (session : Session) :
    (session.disarmed task).drop name =
      (session.drop name).disarmed task := by
  rw [drop, drop, locate?_disarmed]
  cases session.locate? name with
  | none => rfl
  | some owner =>
      dsimp only
      cases found : session.waits[owner]? with
      | none => rw [getElem?_disarmed_eq_none task found]
      | some entry =>
          obtain ⟨flag, there, _⟩ := getElem?_disarmed task found
          rw [there]
          dsimp only
          cases entry.stage with
          | subscribed =>
              dsimp only
              rw [setStage_disarmed]
              rfl
          | fresh _ | active _ =>
              dsimp only
              rw [modifyWait_disarmed]
              · rfl
              · intro other
                rfl
          | ended => rfl

theorem interrupt_disarmed {name : String}
    (calm : Episode.interrupt? task ⟨session, .interrupt name⟩ = none) :
    (session.disarmed task).interrupt name =
      (session.interrupt name).disarmed task := by
  rw [interrupt, interrupt, locate?_disarmed]
  cases located : session.locate? name with
  | none => rfl
  | some owner =>
      dsimp only
      cases found : session.waits[owner]? with
      | none => rw [getElem?_disarmed_eq_none task found]
      | some entry =>
          obtain ⟨flag, there, armed⟩ := getElem?_disarmed task found
          have same : flag = entry.disarmed := by
            by_cases own : task = owner
            · subst own
              have given : entry.disarmed = true := by
                simpa [Episode.interrupt?, located, found] using calm
              rw [armed, if_pos rfl, given]
            · rw [armed, if_neg own]
          rw [there, same]
          dsimp only
          split
          · rfl
          · rw [← wakeWatcher_disarmed, ← modifyWait_disarmed]
            intro other
            rfl

theorem happen_disarmed {occurrence : Occurrence}
    (known : task < session.waits.length)
    (calm : Episode.interrupt? task ⟨session, occurrence⟩ = none) :
    (session.disarmed task).happen occurrence =
      (session.happen occurrence).disarmed task := by
  cases occurrence with
  | work => exact step_disarmed task session
  | pass span =>
      simp only [happen, Machine.ring, Machine.dueTasks, alarms_disarmed]
      rfl
  | subscribe name kind predicate =>
      exact subscribe_disarmed known name kind predicate
  | startWait name timeout watch =>
      exact startWait_disarmed task name timeout watch session
  | dispatch event =>
      exact wakeWatchers_disarmed (session.waiter.dispatch event).1 task
        { session with waiter := (session.waiter.dispatch event).2 }
  | lift name => exact lift_disarmed task name session
  | interrupt name => exact interrupt_disarmed calm
  | disarm name =>
      rw [happen, happen, disarm, disarm, locate?_disarmed]
      cases session.locate? name with
      | none => rfl
      | some owner =>
          dsimp only
          rw [modifyWait_disarmed]
          intro entry
          rfl
  | drop name => exact drop_disarmed task name session
  | setFlag flag alive => rfl
  | pace worker delay =>
      rw [happen, happen, pace, pace, modifyWait_disarmed]
      intro entry
      rfl

theorem happenAll_disarmed {past : List Episode} {rest : List Occurrence}
    (kept : Kept past session) (known : task < session.waits.length)
    (calm : ∀ episode ∈ session.history rest,
      episode.interrupt? task = none) :
    (session.disarmed task).happenAll rest =
      (session.happenAll rest).disarmed task := by
  induction rest generalizing past session with
  | nil => rfl
  | cons occurrence rest induction =>
      have later : task < (session.happen occurrence).waits.length := by
        have before : Kept past (Happening.mk session occurrence).before := kept
        obtain ⟨next, there, _⟩ :=
          before.fate (List.getElem?_eq_getElem known)
        exact (List.getElem?_eq_some_iff.mp there).1
      have now := happen_disarmed known
        (calm ⟨session, occurrence⟩ List.mem_cons_self)
      have after := induction (kept.happen occurrence) later
        fun episode member => calm episode (List.mem_cons_of_mem _ member)
      change happenAll rest ((session.disarmed task).happen occurrence) = _
      rw [now]
      exact after

/-- Where the interrupt of a wait never fires again, giving it up makes no
difference to anything that happens. -/
theorem Run.happenAll_disarm {episodes : List Episode} {name : String}
    {rest : List Occurrence} (run : Run {} episodes session)
    (located : session.locate? name = some task)
    (calm : ∀ episode ∈ session.history rest,
      episode.interrupt? task = none) :
    session.happenAll (.disarm name :: rest) =
      (session.happenAll rest).disarmed task := by
  have gives : session.happen (.disarm name) = session.disarmed task := by
    rw [happen, disarm, located]
    rfl
  change happenAll rest (session.happen (.disarm name)) = _
  rw [gives]
  exact happenAll_disarmed run.kept (locate?_known located) calm

end Session

end Switchboard
