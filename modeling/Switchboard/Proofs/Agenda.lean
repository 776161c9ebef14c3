import Mathlib.Data.List.Basic
import Switchboard.Agenda

/-!
# Waking keeps the line

Whoever stands in line for the floor keeps the place there while others are
woken; time does not go on meanwhile, and the floor stays where it is.  A
machine has settled when nobody has the floor or stands in line for it.
-/

namespace Switchboard

namespace Agenda

/-- Time stands still, the floor stays where it is, and nobody loses the
place in line. -/
structure Extends (before after : Agenda) : Prop where
  now : after.now = before.now
  floor : after.floor = before.floor
  ready : before.ready <+: after.ready

namespace Extends

theorem refl (agenda : Agenda) : agenda.Extends agenda :=
  ⟨rfl, rfl, List.prefix_refl _⟩

theorem trans {first second third : Agenda} (one : first.Extends second)
    (two : second.Extends third) : first.Extends third :=
  ⟨two.now.trans one.now, two.floor.trans one.floor,
    one.ready.trans two.ready⟩

theorem wake (task : TaskId) (agenda : Agenda) :
    agenda.Extends (agenda.wake task) := by
  unfold Agenda.wake
  split
  · exact refl agenda
  · exact ⟨rfl, rfl, List.prefix_append _ _⟩

theorem wakeAll (tasks : List TaskId) (agenda : Agenda) :
    agenda.Extends (agenda.wakeAll tasks) := by
  induction tasks generalizing agenda with
  | nil => exact refl agenda
  | cons task rest induction =>
      exact (wake task agenda).trans (induction (agenda.wake task))

end Extends

theorem mem_ready_wake (task : TaskId) (agenda : Agenda) :
    task ∈ (agenda.wake task).ready := by
  unfold wake
  split
  · assumption
  · simp

theorem mem_ready_wakeAll {task : TaskId} {tasks : List TaskId}
    (member : task ∈ tasks) (agenda : Agenda) :
    task ∈ (agenda.wakeAll tasks).ready := by
  induction tasks generalizing agenda with
  | nil => cases member
  | cons first rest induction =>
      rcases List.mem_cons.mp member with rfl | later
      · apply (Extends.wakeAll rest _).ready.subset
        exact mem_ready_wake task agenda
      · exact induction later (agenda.wake first)

theorem ready_of_wake {task other : TaskId} {agenda : Agenda}
    (member : other ∈ (agenda.wake task).ready) :
    other ∈ agenda.ready ∨ other = task := by
  unfold wake at member
  split at member
  · exact .inl member
  · exact (List.mem_append.mp member).imp_right List.mem_singleton.mp

theorem ready_of_wakeAll {task : TaskId} {tasks : List TaskId}
    {agenda : Agenda} (member : task ∈ (agenda.wakeAll tasks).ready) :
    task ∈ agenda.ready ∨ task ∈ tasks := by
  induction tasks generalizing agenda with
  | nil => exact .inl member
  | cons first rest induction =>
      have later : task ∈ ((agenda.wake first).wakeAll rest).ready := member
      rcases induction later with before | listed
      · refine (ready_of_wake before).imp_right fun same => ?_
        exact same ▸ List.mem_cons_self
      · exact .inr (List.mem_cons_of_mem _ listed)

theorem serial_wake (task : TaskId) (agenda : Agenda) :
    (agenda.wake task).serial = agenda.serial := by
  unfold wake
  split <;> rfl

theorem serial_wakeAll (tasks : List TaskId) (agenda : Agenda) :
    (agenda.wakeAll tasks).serial = agenda.serial := by
  induction tasks generalizing agenda with
  | nil => rfl
  | cons first rest induction =>
      exact (induction (agenda.wake first)).trans (serial_wake first agenda)

end Agenda

namespace Machine

variable {σ : Type} [Machine σ] {state : σ} {task : TaskId}

theorem step_of_floor (floor : (Machine.agenda state).floor = some task) :
    Machine.step state = some (Machine.work task state) := by
  simp [step, floor]

theorem step_of_ready {rest : List TaskId}
    (floor : (Machine.agenda state).floor = none)
    (ready : (Machine.agenda state).ready = task :: rest) :
    Machine.step state = some (Machine.enter task
      (Machine.setAgenda { Machine.agenda state with
        ready := rest, floor := some task } state)) := by
  simp [step, floor, ready]

theorem step_of_idle (floor : (Machine.agenda state).floor = none)
    (ready : (Machine.agenda state).ready = []) :
    Machine.step state = none := by
  simp [step, floor, ready]

theorem step_eq_none_iff :
    Machine.step state = none ↔ (Machine.agenda state).floor = none ∧
      (Machine.agenda state).ready = [] := by
  constructor
  · intro settled
    cases floor : (Machine.agenda state).floor with
    | some task =>
        rw [step_of_floor floor] at settled
        cases settled
    | none =>
        cases ready : (Machine.agenda state).ready with
        | nil => exact ⟨rfl, rfl⟩
        | cons task rest =>
            rw [step_of_ready floor ready] at settled
            cases settled
  · intro free
    exact step_of_idle free.1 free.2

theorem mem_dueTasks {moment : Nat} :
    task ∈ Machine.dueTasks moment state ↔
      ∃ alarm, (alarm, task) ∈ Machine.alarms state ∧ alarm.due = moment := by
  constructor
  · intro member
    obtain ⟨⟨alarm, woken⟩, sorted, rfl⟩ := List.mem_map.mp member
    obtain ⟨set, due⟩ := List.mem_filter.mp (List.mem_mergeSort.mp sorted)
    exact ⟨alarm, set, by simpa using due⟩
  · rintro ⟨alarm, set, due⟩
    apply List.mem_map.mpr
    refine ⟨(alarm, task), List.mem_mergeSort.mpr ?_, rfl⟩
    exact List.mem_filter.mpr ⟨set, by simpa using due⟩

end Machine

end Switchboard
