import Mathlib.Data.List.Basic
import Switchboard.Process

/-!
# How a process goes on

While bodies work a process stays the same process, and all that can befall
it is to be killed while it is running.  What others cannot do to it is told
by `Kept`, what it cannot do itself by `Continues`.
-/

namespace Switchboard

namespace Process

/-- A process that has just been launched. -/
def fresh (command : CommandDef) (origin : Origin) (startedAt : Nat)
    (task : TaskId) : Process :=
  { command, origin, startedAt, task }

/-- A running process, killed. -/
def kill (process : Process) : Process :=
  { process with state := .interrupted, killed := true }

theorem interrupt_eq_of_running {process : Process}
    (running : process.state = .running) :
    process.interrupt = (true, process.kill) := by
  simp [interrupt, running, kill]

theorem interrupt_eq_of_ne_running {process : Process}
    (notRunning : process.state ≠ .running) :
    process.interrupt = (false, process) := by
  unfold interrupt
  split
  · contradiction
  · rfl

/-- Others have left the process alone, or have killed it. -/
def Kept (before after : Process) : Prop :=
  after = before ∨ (before.state = .running ∧ after = before.kill)

/-- Still the same process; it may have been killed. -/
structure Continues (before after : Process) : Prop where
  command : after.command = before.command
  origin : after.origin = before.origin
  startedAt : after.startedAt = before.startedAt
  task : after.task = before.task
  life : (after.state = before.state ∧ after.killed = before.killed) ∨
    (before.state = .running ∧ after.state = .interrupted ∧
      after.killed = true)

namespace Kept

variable {first second third : Process}

theorem refl (process : Process) : Kept process process := .inl rfl

theorem trans (one : Kept first second) (two : Kept second third) :
    Kept first third := by
  rcases one with rfl | ⟨running, rfl⟩
  · exact two
  · rcases two with rfl | ⟨again, _⟩
    · exact .inr ⟨running, rfl⟩
    · cases again

theorem continues (kept : Kept first second) : Continues first second := by
  rcases kept with rfl | ⟨running, rfl⟩
  · exact ⟨rfl, rfl, rfl, rfl, .inl ⟨rfl, rfl⟩⟩
  · exact ⟨rfl, rfl, rfl, rfl, .inr ⟨running, rfl, rfl⟩⟩

end Kept

namespace Continues

variable {first second third : Process}

theorem refl (process : Process) : Continues process process :=
  (Kept.refl process).continues

theorem trans (one : Continues first second)
    (two : Continues second third) : Continues first third where
  command := two.command.trans one.command
  origin := two.origin.trans one.origin
  startedAt := two.startedAt.trans one.startedAt
  task := two.task.trans one.task
  life := by
    rcases one.life with ⟨state, killed⟩ | ⟨running, state, killed⟩
    · rw [← state, ← killed]
      exact two.life
    · rcases two.life with ⟨sameState, sameKilled⟩ | ⟨again, _⟩
      · exact .inr ⟨running, sameState.trans state, sameKilled.trans killed⟩
      · rw [state] at again
        cases again

theorem killed_of_killed (continues : Continues first second)
    (killed : first.killed = true) : second.killed = true := by
  rcases continues.life with ⟨_, same⟩ | ⟨_, _, struck⟩
  · exact same.trans killed
  · exact struck

end Continues

end Process

namespace ProcessTable

theorem all_modify (pid other : Pid) (change : Process → Process)
    (table : ProcessTable) :
    (table.modify pid change).all[other]? =
      if pid = other then (table.all[other]?).map change
      else table.all[other]? := by
  rw [modify, List.getElem?_modify]
  split
  · rfl
  · exact id_map _

@[simp] theorem length_modify (pid : Pid) (change : Process → Process)
    (table : ProcessTable) :
    (table.modify pid change).all.length = table.all.length := by
  simp [modify]

end ProcessTable

end Switchboard
