import Switchboard.Fleet.Sweeps
import Switchboard.Proofs.Agenda
import Switchboard.Proofs.Fleet.Resolution
import Switchboard.Proofs.Run

/-!
# Runs of clash resolution beside each other

Any number of runs of clash resolution share a fleet and a lock.  They are
started and cancelled at any moment, also while one of them has the floor, and
the gateway may let leaves take any time and fail or succeed.  Apart from the
runs nobody changes the fleet.  Everything that can happen is one of four
things: nothing that matters, a step of a run, the end of a run, or that a run
is given up.
-/

namespace Switchboard

/-- An identity has left a room because a run asked it to. -/
structure Departure where
  task : TaskId
  room : String
  shred : ShredId
deriving DecidableEq, Repr

namespace Departure

/-- Who has left which room, whoever asked for it. -/
def pair (departure : Departure) : String × ShredId :=
  (departure.room, departure.shred)

def of (task : TaskId) (pair : String × ShredId) : Departure :=
  { task, room := pair.1, shred := pair.2 }

end Departure

/-- Who has left which room by these records, in their order. -/
def departed (records : List Resolution) : List (String × ShredId) :=
  records.flatMap fun record => record.left.map (record.room, ·)

/-- The leave that a deed records, if it was one that succeeded. -/
def Deed.leave? (deed : Deed) : Option (TaskId × String) :=
  match deed.act with
  | .leave _ room false => some (deed.task, room)
  | _ => none

namespace Lock

variable {lock : Lock} {task other : TaskId}

theorem holder_request (held : lock.holder = some other) :
    (lock.request task).2.holder = some other := by
  simp [request, held]

theorem holder_of_granted (granted : (lock.request task).1 = true) :
    (lock.request task).2.holder = some task := by
  unfold request at granted ⊢
  split <;> simp_all

theorem holder_withdraw (held : lock.holder = some other)
    (apart : other ≠ task) : (lock.withdraw task).2.holder = some other := by
  simp [withdraw, held, apart]

end Lock

namespace Resolving

variable {task other : TaskId} {agenda : Agenda} {territory after : Territory}
  {stage next : Resolving}

/-- The leave that succeeds now, given the floor: the room, and who leaves
it. -/
def departing? (agenda : Agenda) : Resolving → Option (String × ShredId)
  | .leaving _ _ current _ loser none answer =>
    if agenda.isDue answer then some (current.room, loser) else none
  | _ => none

theorem departing?_eq_none (unplanned : ¬stage.IsPlanned) :
    stage.departing? agenda = none := by
  cases stage with
  | fresh | queued => rfl
  | nextRoom | nextLoser | leaving => exact absurd trivial unplanned

/-- The run changes the fleet only by letting somebody leave; it keeps record
of it, and the gateway does too. -/
structure Accountable (task : TaskId) (agenda : Agenda)
    (territory : Territory) (stage next : Resolving) : Prop where
  fleet : (stage.step task agenda territory).territory.fleet =
    match stage.departing? agenda with
    | some (room, loser) => territory.fleet.left loser room
    | none => territory.fleet
  records : departed next.records =
    departed stage.records ++ (stage.departing? agenda).toList
  deeds : ((stage.step task agenda territory).acts.map fun act =>
      ({ moment := agenda.now, task, act } : Deed)).filterMap Deed.leave? =
    (stage.departing? agenda).toList.map fun pair => (task, pair.1)

theorem accountable
    (moved : (stage.step task agenda territory).move = .go next) :
    Accountable task agenda territory stage next := by
  cases stage with
  | fresh =>
      have moves := Moves.of_step moved
      constructor
      · rfl
      · cases moves <;> rfl
      · rfl
  | queued =>
      have moves := Moves.of_step moved
      constructor
      · rfl
      · cases moves
        rfl
      · rfl
  | nextRoom finished rest =>
      have moves := Moves.of_step moved
      cases moves with
      | skipRoom room => exact ⟨rfl, by simp [records, departing?], rfl⟩
      | enterRoom room keeper losers =>
          refine ⟨rfl, ?_, rfl⟩
          simp [records, departing?, departed]
  | nextLoser finished rest current losers =>
      cases losers with
      | nil =>
          cases moved
          exact ⟨rfl, by simp [records, departing?], rfl⟩
      | cons loser losers =>
          simp only [step] at moved
          split at moved
          · rename_i absent
            cases moved
            constructor <;>
              simp [step, absent, records, departing?]
          · rename_i connection found
            cases moved
            constructor <;>
              simp [step, found, records, departing?]
  | leaving finished rest current losers loser failure answer =>
      simp only [step] at moved
      split at moved
      · rename_i due
        cases failure with
        | none =>
            cases moved
            constructor <;>
              simp [step, due, settleLeave, records, departing?, departed,
                Deed.leave?]
        | some reason =>
            cases moved
            constructor <;>
              simp [step, due, settleLeave, records, departing?, departed,
                Deed.leave?]
      · cases moved

theorem rests_of_wait
    (waits : (stage.step task agenda territory).move = .wait) :
    stage.departing? agenda = none ∧
      (stage.step task agenda territory).territory = territory ∧
        (stage.step task agenda territory).acts = [] := by
  rcases waits_of_step waits with ⟨rfl, _⟩ | ⟨alarm, own, early⟩
  · exact ⟨rfl, rfl, rfl⟩
  · cases stage with
    | leaving finished rest current losers loser failure answer =>
        cases List.mem_singleton.mp own
        refine ⟨?_, by simp [step, early], by simp [step, early]⟩
        cases failure <;> simp [departing?, early]
    | fresh | queued | nextRoom | nextLoser => cases own

theorem release_of_done {resolutions : List Resolution}
    (ended : (stage.step task agenda territory).move = .done resolutions) :
    stage = .nextRoom resolutions [] ∧
      (stage.step task agenda territory).territory =
        { territory with lock := territory.lock.release.2 } ∧
      (stage.step task agenda territory).acts = [] := by
  obtain ⟨rfl, _⟩ := done_of_step ended
  exact ⟨rfl, rfl, rfl⟩

theorem Moves.lock (moves : Moves task agenda territory stage next after)
    (planned : stage.IsPlanned) : after.lock = territory.lock := by
  cases moves with
  | queue | planAtOnce | planInTurn => exact planned.elim
  | skipRoom | enterRoom | finishRoom | skipLoser | evict | left | failed =>
      rfl

theorem holder_step (held : territory.lock.holder = some other)
    (moved : (stage.step task agenda territory).move = .go next) :
    (stage.step task agenda territory).territory.lock.holder =
      some other := by
  by_cases planned : stage.IsPlanned
  · rw [(Moves.of_step moved).lock planned, held]
  · cases stage with
    | fresh => exact Lock.holder_request held
    | queued => exact held
    | nextRoom | nextLoser | leaving => exact absurd trivial planned

theorem holder_of_plan (unplanned : ¬stage.IsPlanned)
    (moved : (stage.step task agenda territory).move = .go next)
    (planned : next.IsPlanned) :
    (stage.step task agenda territory).territory.lock.holder = some task := by
  cases stage with
  | fresh =>
      simp only [step, ResolveMove.go.injEq] at moved ⊢
      subst next
      split at planned
      · rename_i granted
        exact Lock.holder_of_granted granted
      · exact planned.elim
  | queued =>
      simp only [step] at moved
      split at moved
      · assumption
      · cases moved
  | nextRoom | nextLoser | leaving => exact absurd trivial unplanned

theorem Moves.isPlanned (moves : Moves task agenda territory stage next after)
    (planned : stage.IsPlanned) : next.IsPlanned := by
  cases moves with
  | queue | planAtOnce | planInTurn => exact planned.elim
  | skipRoom | enterRoom | finishRoom | skipLoser | evict | left | failed =>
      trivial

end Resolving

namespace Sweeps

/-- Something that happens to a machine of runs. -/
inductive Occurrence where
  /-- The run with the floor makes a small step, or the first in line gets the
  floor. -/
  | work
  /-- Time goes on, and the alarms of the moment reached ring. -/
  | pass (span : Nat)
  | start (name : String)
  | cancel (task : TaskId)
  /-- The settings of a connection change. -/
  | connection (shred : ShredId) (change : Connection → Connection)

/-- The machine after something has happened. -/
def happen (occurrence : Occurrence) (state : Sweeps) : Sweeps :=
  match occurrence with
  | .work => (Machine.step state).getD state
  | .pass span => Machine.ring (state.agenda.now + span) state
  | .start name => state.start name
  | .cancel task => state.cancel task
  | .connection shred change =>
    state.modifyGateway (·.modifyConnection shred change)

/-- Where a run stands that has not ended. -/
def stage? (task : TaskId) (state : Sweeps) : Option Resolving :=
  (state.sweeps[task]?).bind Sweep.stage

def Idle (state : Sweeps) : Prop :=
  ∀ sweep ∈ state.sweeps, sweep.stage = none

instance (state : Sweeps) : Decidable state.Idle :=
  inferInstanceAs (Decidable (∀ sweep ∈ _, _))

/-- The leave that a run has asked for and that has not come to its end. -/
def leaving? (task : TaskId) (state : Sweeps) : Option (String × ShredId) :=
  (state.stage? task).bind Resolving.evicting?

/-- The run has made its plan and has not ended. -/
def Plans (task : TaskId) (state : Sweeps) : Prop :=
  ∃ stage, state.stage? task = some stage ∧ stage.IsPlanned

/-- The run with the floor has been cancelled and is about to be given up. -/
def GivesUp (task : TaskId) (state : Sweeps) : Prop :=
  state.agenda.floor = some task ∧ ∃ sweep ∈ state.sweeps[task]?,
    sweep.cancelled = true ∧ sweep.stage ≠ none

instance (task : TaskId) (state : Sweeps) : Decidable (state.GivesUp task) :=
  inferInstanceAs (Decidable (_ ∧ ∃ sweep ∈ _, _))

/-- Who leaves a room in the next small step. -/
def departure? (state : Sweeps) : Option Departure := do
  let task ← state.agenda.floor
  let sweep ← state.sweeps[task]?
  guard (!sweep.cancelled)
  let stage ← sweep.stage
  let pair ← stage.departing? state.agenda
  return .of task pair

/-- Something that happened, and the machine before it. -/
abbrev Episode := Happening Occurrence Sweeps

namespace Episode

def departure? : Episode → Option Departure
  | ⟨before, .work⟩ => before.departure?
  | _ => none

end Episode

/-- Who has left a room, in the course of time. -/
def departures (episodes : List Episode) : List Departure :=
  episodes.filterMap Episode.departure?

/-- The machine after a sequence of occurrences. -/
abbrev happenAll (occurrences : List Occurrence) (state : Sweeps) : Sweeps :=
  Switchboard.happenAll happen occurrences state

/-- What happens in the course of a sequence of occurrences. -/
abbrev history (occurrences : List Occurrence) (state : Sweeps) :
    List Episode :=
  Switchboard.history happen occurrences state

/-- How the runs can go on, with all that happened on the way. -/
abbrev Run (start : Sweeps) : List Episode → Sweeps → Prop :=
  Switchboard.Run happen start

section Change

variable {before after state : Sweeps} {task : TaskId} {sweep : Sweep}
  {stage : Option Resolving}

/-- What can happen, told by what becomes of the runs and of what they work
on. -/
inductive Change (before after : Sweeps) (departure : Option Departure) :
    Prop where
  | rests :
      (∀ task, after.stage? task = before.stage? task ∨
        (before.sweeps.length ≤ task ∧ after.stage? task = some .fresh)) →
      before.sweeps.length ≤ after.sweeps.length →
      (∃ gateway : Gateway, gateway.connections.length =
          before.territory.gateway.connections.length ∧
        after.territory = { before.territory with gateway }) →
      after.ended = before.ended → after.deeds = before.deeds →
      departure = none → Change before after departure
  | moves (task : TaskId) (stage next : Resolving) :
      before.stage? task = some stage →
      (stage.step task before.agenda before.territory).move = .go next →
      after.sweeps = (before.setStage task (some next)).sweeps →
      after.territory =
        (stage.step task before.agenda before.territory).territory →
      after.ended = before.ended →
      after.deeds = before.deeds ++
        (stage.step task before.agenda before.territory).acts.map
          ({ moment := before.agenda.now, task, act := · }) →
      departure = (stage.departing? before.agenda).map (.of task) →
      Change before after departure
  | ends (task : TaskId) (ending : SweepEnd) :
      before.stage? task = some (.nextRoom ending.resolutions []) →
      after.sweeps = (before.setStage task none).sweeps →
      after.territory = { before.territory with
        lock := before.territory.lock.release.2 } →
      after.ended = before.ended ++ [ending] → after.deeds = before.deeds →
      departure = none → Change before after departure
  | givesUp (task : TaskId) (stage : Resolving) :
      before.stage? task = some stage → before.GivesUp task →
      after.sweeps = (before.setStage task none).sweeps →
      after.territory = { before.territory with
        lock := (before.territory.lock.withdraw task).2 } →
      after.ended = before.ended → after.deeds = before.deeds →
      departure = none → Change before after departure

theorem stage?_eq (found : state.sweeps[task]? = some sweep) :
    state.stage? task = sweep.stage := by
  simp [stage?, found]

theorem stage?_setStage (stood : before.stage? task ≠ none)
    (set : after.sweeps = (before.setStage task stage).sweeps)
    (other : TaskId) : after.stage? other =
      if task = other then stage else before.stage? other := by
  unfold stage? at stood ⊢
  rw [set, setStage, List.getElem?_modify]
  by_cases own : task = other
  · subst own
    cases found : before.sweeps[task]? with
    | none => simp [found] at stood
    | some sweep => simp
  · cases before.sweeps[other]? <;> simp [own]

theorem length_setStage
    (set : after.sweeps = (before.setStage task stage).sweeps) :
    after.sweeps.length = before.sweeps.length := by
  rw [set, setStage, List.length_modify]

theorem Change.of_same (sweeps : after.sweeps = before.sweeps)
    (territory : after.territory = before.territory)
    (ended : after.ended = before.ended) (deeds : after.deeds = before.deeds) :
    Change before after none :=
  .rests (fun task => .inl (by rw [stage?, sweeps, stage?]))
    (by rw [sweeps]) ⟨_, rfl, territory⟩ ended deeds rfl

theorem departure?_of_floor (floor : state.agenda.floor = some task)
    (found : state.sweeps[task]? = some sweep) :
    state.departure? = if sweep.cancelled then none else
      (sweep.stage.bind (·.departing? state.agenda)).map (.of task) := by
  cases cancelled : sweep.cancelled <;> cases stands : sweep.stage <;>
    simp [departure?, floor, found, cancelled, stands, guard,
      Option.map_eq_bind]

theorem change_advance {stage : Resolving} (name : String)
    (stands : state.stage? task = some stage) :
    Change state (state.advance task name stage)
      ((stage.departing? state.agenda).map (.of task)) := by
  unfold advance
  dsimp only
  split
  · rename_i waits
    obtain ⟨nobody, territory, acts⟩ := Resolving.rests_of_wait waits
    rw [nobody]
    exact .of_same rfl territory rfl (by simp [yieldFloor, acts])
  · rename_i next moved
    exact .moves task stage next stands moved rfl rfl rfl rfl rfl
  · rename_i resolutions ended
    obtain ⟨rfl, territory, acts⟩ := Resolving.release_of_done ended
    exact .ends task _ stands rfl territory rfl
      (by simp [setStage, yieldFloor, acts]) rfl

theorem change_work (floor : state.agenda.floor = some task) :
    Change state (state.work task) state.departure? := by
  unfold work
  cases found : state.sweeps[task]? with
  | none =>
      have nobody : state.departure? = none := by
        simp [departure?, floor, found]
      exact nobody ▸ .of_same rfl rfl rfl rfl
  | some sweep =>
      have stands := stage?_eq found
      rw [departure?_of_floor floor found]
      dsimp only
      cases own : sweep.stage with
      | none =>
          rw [Option.bind_none, Option.map_none, ite_self]
          exact .of_same rfl rfl rfl rfl
      | some stage =>
          rw [own] at stands
          cases cancelled : sweep.cancelled with
          | false => exact change_advance sweep.name stands
          | true =>
              exact .givesUp task stage stands
                ⟨floor, sweep, found, cancelled, by simp [own]⟩
                rfl rfl rfl rfl rfl

theorem change_happen (state : Sweeps) (occurrence : Occurrence) :
    Change state (state.happen occurrence)
      (Episode.departure? ⟨state, occurrence⟩) := by
  cases occurrence with
  | work =>
      rw [Episode.departure?]
      cases floor : state.agenda.floor with
      | some task =>
          have step : Machine.step state = some (state.work task) :=
            Machine.step_of_floor floor
          rw [happen, step, Option.getD_some]
          exact change_work floor
      | none =>
          have nobody : state.departure? = none := by simp [departure?, floor]
          rw [nobody, happen]
          cases ready : state.agenda.ready with
          | nil =>
              have step : Machine.step state = none :=
                Machine.step_of_idle floor ready
              rw [step]
              exact .of_same rfl rfl rfl rfl
          | cons first rest =>
              have step : Machine.step state = some { state with agenda :=
                  { state.agenda with ready := rest, floor := some first } } :=
                Machine.step_of_ready floor ready
              rw [step]
              exact .of_same rfl rfl rfl rfl
  | pass span => exact .of_same rfl rfl rfl rfl
  | start name =>
      refine .rests (fun task => ?_) (by simp [happen, Sweeps.start])
        ⟨_, rfl, rfl⟩ rfl rfl rfl
      rcases Nat.lt_trichotomy task state.sweeps.length with
        below | same | above
      · left
        simp [stage?, happen, Sweeps.start, List.getElem?_append_left below]
      · right
        simp [stage?, happen, Sweeps.start, same]
      · left
        have outside : state.sweeps[task]? = none :=
          List.getElem?_eq_none above.le
        rw [stage?, stage?, outside, happen, Sweeps.start,
          List.getElem?_eq_none]
        simpa using Nat.succ_le_of_lt above
  | cancel task =>
      refine .rests (fun other => .inl ?_)
        (by simp [happen, Sweeps.cancel]) ⟨_, rfl, rfl⟩ rfl rfl rfl
      unfold stage?
      rw [happen, Sweeps.cancel, List.getElem?_modify]
      cases state.sweeps[other]? with
      | none => rfl
      | some sweep => by_cases same : task = other <;> simp [same]
  | connection shred change =>
      exact .rests (fun task => .inl rfl) le_rfl
        ⟨_, List.length_modify .., rfl⟩ rfl rfl rfl

end Change

end Sweeps

end Switchboard
