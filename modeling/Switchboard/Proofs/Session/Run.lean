import Mathlib.Data.List.Permutation
import Switchboard.Proofs.Agenda
import Switchboard.Proofs.Run
import Switchboard.Waiter.Session

/-!
# Runs of waits

A run is any sequence of small steps of the waits, of moments in time, and of
occurrences from outside.  What comes from outside can come at any moment,
also in the middle of a wait's turn.  The probes of one wait can take different
times, and the flags that they look at can change at any moment.

A run is prompt when alarms ring at their moments: time passes only when all
waits have settled, and never beyond an alarm that is still to ring.
-/

namespace Switchboard.Session

/-- Something that happens to the waits on one waiter. -/
inductive Occurrence where
  /-- The wait with the floor takes a small step, or the first in line gets
  the floor. -/
  | work
  /-- Time goes on, and the alarms of the moment reached ring. -/
  | pass (span : Nat)
  | subscribe (name : String) (kind : EventKind) (predicate : Event → Bool)
  | startWait (name : String) (timeout : Option Nat) (watch : Option Watch)
  | dispatch (event : Event)
  | lift (name : String)
  | interrupt (name : String)
  | disarm (name : String)
  | drop (name : String)
  | setFlag (flag : String) (alive : Bool)
  /-- The probes that a wait starts from now on take another time. -/
  | pace (task : TaskId) (delay : Nat)

/-- From now on the probes of a wait take the given time. -/
def pace (task : TaskId) (delay : Nat) (session : Session) : Session :=
  session.modifyWait task fun entry =>
    { entry with watch := entry.watch.map ({ · with delay }) }

/-- The session after something has happened. -/
def happen (occurrence : Occurrence) (session : Session) : Session :=
  match occurrence with
  | .work => (Machine.step session).getD session
  | .pass span => Machine.ring (session.agenda.now + span) session
  | .subscribe name kind predicate =>
    (session.subscribe name kind predicate).2
  | .startWait name timeout watch => session.startWait name timeout watch
  | .dispatch event => (session.dispatch event).2
  | .lift name => session.lift name
  | .interrupt name => session.interrupt name
  | .disarm name => session.disarm name
  | .drop name => session.drop name
  | .setFlag flag alive => session.setFlag flag alive
  | .pace task delay => session.pace task delay

/-- The wait has just been taken out of the line and given the floor. -/
def giveFloor (task : TaskId) (rest : List TaskId) (session : Session) :
    Session :=
  { session with
    agenda := { session.agenda with ready := rest, floor := some task } }

def Settled (session : Session) : Prop :=
  session.agenda.floor = none ∧ session.agenda.ready = []

instance (session : Session) : Decidable session.Settled :=
  inferInstanceAs (Decidable (_ ∧ _))

theorem step_eq_none_iff {session : Session} :
    Machine.step session = none ↔ session.Settled :=
  Machine.step_eq_none_iff

section Work

variable {session : Session} {task : TaskId} {rest : List TaskId}

theorem happen_work_of_floor (floor : session.agenda.floor = some task) :
    session.happen .work = session.work task := by
  have step : Machine.step session = some (session.work task) :=
    Machine.step_of_floor floor
  rw [happen, step, Option.getD_some]

theorem happen_work_of_ready (floor : session.agenda.floor = none)
    (ready : session.agenda.ready = task :: rest) :
    session.happen .work = session.giveFloor task rest := by
  have step : Machine.step session = some (session.giveFloor task rest) :=
    Machine.step_of_ready floor ready
  rw [happen, step, Option.getD_some]

theorem happen_work_of_settled (settled : session.Settled) :
    session.happen .work = session := by
  rw [happen, step_eq_none_iff.mpr settled, Option.getD_none]

theorem work_cases (session : Session) :
    (∃ task, session.agenda.floor = some task ∧
        session.happen .work = session.work task) ∨
      (∃ task rest, session.agenda.floor = none ∧
        session.agenda.ready = task :: rest ∧
          session.happen .work = session.giveFloor task rest) ∨
        (session.Settled ∧ session.happen .work = session) := by
  cases floor : session.agenda.floor with
  | some task => exact .inl ⟨task, rfl, happen_work_of_floor floor⟩
  | none =>
      cases ready : session.agenda.ready with
      | nil =>
          have settled : session.Settled := ⟨floor, ready⟩
          exact .inr (.inr ⟨settled, happen_work_of_settled settled⟩)
      | cons task rest =>
          exact .inr (.inl ⟨task, rest, rfl, rfl,
            happen_work_of_ready floor ready⟩)

end Work

/-- Waits have been woken, and nothing else has changed. -/
def Woken (before after : Session) : Prop :=
  ∃ agenda, before.agenda.Extends agenda ∧ after = { before with agenda }

namespace Woken

variable {first second third : Session}

theorem refl (session : Session) : session.Woken session :=
  ⟨session.agenda, .refl _, rfl⟩

theorem trans (one : first.Woken second) (two : second.Woken third) :
    first.Woken third := by
  obtain ⟨_, longer, rfl⟩ := one
  obtain ⟨agenda, further, rfl⟩ := two
  exact ⟨agenda, longer.trans further, rfl⟩

theorem wake (task : TaskId) (session : Session) :
    session.Woken (session.wake task) :=
  ⟨_, .wake task session.agenda, rfl⟩

theorem wakeWatcher (id : SubscriptionId) (session : Session) :
    session.Woken (session.wakeWatcher id) := by
  unfold Session.wakeWatcher
  split
  · exact wake _ session
  · exact refl session

theorem wakeWatchers (ids : List SubscriptionId) (session : Session) :
    session.Woken
      (ids.foldl (fun session id => session.wakeWatcher id) session) := by
  induction ids generalizing session with
  | nil => exact refl session
  | cons id rest induction =>
      exact (wakeWatcher id session).trans
        (induction (session.wakeWatcher id))

theorem dispatch (event : Event) (session : Session) :
    Woken { session with waiter := (session.waiter.dispatch event).2 }
      (session.dispatch event).2 :=
  wakeWatchers (session.waiter.dispatch event).1 _

end Woken

/-- Something that happened, and the session before it. -/
abbrev Episode := Happening Occurrence Session

namespace Episode

def after (episode : Episode) : Session :=
  episode.before.happen episode.occurrence

def moment (episode : Episode) : Nat := episode.before.agenda.now

/-- The wait of a task ends, as the session records it. -/
def Ends (task : TaskId) (result : Except WaitError Event)
    (episode : Episode) : Prop :=
  episode.occurrence = .work ∧ episode.before.agenda.floor = some task ∧
    ∃ entry, episode.before.waits[task]? = some entry ∧
      episode.after.ended = episode.before.ended ++
        [{ moment := episode.moment, name := entry.name, result }]

/-- Time passes only when all waits have settled, and not beyond an alarm. -/
def Prompt (episode : Episode) : Prop :=
  match episode.occurrence with
  | .pass span => episode.before.Settled ∧
      ∀ alarm ∈ Machine.alarms episode.before,
        alarm.1.due ≤ episode.moment ∨ episode.moment + span ≤ alarm.1.due
  | _ => True

instance : (episode : Episode) → Decidable episode.Prompt
  | ⟨_, .pass _⟩ => inferInstanceAs (Decidable (_ ∧ _))
  | ⟨_, .work⟩ | ⟨_, .subscribe ..⟩ | ⟨_, .startWait ..⟩ | ⟨_, .dispatch _⟩
  | ⟨_, .lift _⟩ | ⟨_, .interrupt _⟩ | ⟨_, .disarm _⟩ | ⟨_, .drop _⟩
  | ⟨_, .setFlag ..⟩ | ⟨_, .pace ..⟩ => .isTrue trivial

theorem after_of_pass {episode : Episode} {span : Nat}
    (passes : episode.occurrence = .pass span) :
    episode.after.waiter = episode.before.waiter ∧
      episode.after.agenda.now = episode.before.agenda.now + span := by
  have longer := Agenda.Extends.wakeAll
    (Machine.dueTasks (episode.before.agenda.now + span) episode.before)
    { episode.before.agenda with now := episode.before.agenda.now + span }
  rw [after, passes]
  exact ⟨rfl, longer.now⟩

end Episode

/-- The session after a sequence of occurrences. -/
abbrev happenAll (occurrences : List Occurrence) (session : Session) :
    Session :=
  Switchboard.happenAll happen occurrences session

/-- What happens in the course of a sequence of occurrences. -/
abbrev history (occurrences : List Occurrence) (session : Session) :
    List Episode :=
  Switchboard.history happen occurrences session

/-- How a session can go on, with all that happened on the way. -/
abbrev Run (start : Session) : List Episode → Session → Prop :=
  Switchboard.Run happen start

end Switchboard.Session
