import Switchboard.Proofs.Session.Pending
import Switchboard.Proofs.Session.Verdict

/-!
# The probes of a wait

A wait has one probe under way at a time, however long that takes: it starts
another one only after an answer that lets it go on, which only a probe made for
a tick can give.  A wait that has ended or has been dropped starts none.
-/

namespace Switchboard.Session

/-- The probe that a task has under way: its reason, and when it answers. -/
def probing? (task : TaskId) (session : Session) :
    Option (ProbeReason × Alarm) :=
  (session.waits[task]?).bind SessionWait.probe?

/-- A probe that was started, and why. -/
structure Probe where
  moment : Nat
  reason : ProbeReason
deriving DecidableEq, Repr

/-- A probe for a task is started. -/
def Episode.probe? (task : TaskId) (episode : Episode) : Option Probe :=
  if episode.before.probing? task = none then
    (episode.after.probing? task).map fun probe => ⟨episode.moment, probe.1⟩
  else none

variable {task : TaskId} {episodes past middle : List Episode}
  {episode : Episode} {session start before after : Session}
  {entry next : SessionWait} {wait : Wait} {reason : ProbeReason}
  {answer : Alarm}

section Fates

theorem probing?_eq (found : session.waits[task]? = some entry) :
    session.probing? task = entry.probe? := by
  rw [probing?, found, Option.bind_some]

theorem Episode.probe?_eq_some {probe : Probe} :
    episode.probe? task = some probe ↔
      episode.before.probing? task = none ∧
        probe.moment = episode.moment ∧
        ∃ answer,
          episode.after.probing? task = some (probe.reason, answer) := by
  unfold Episode.probe?
  constructor
  · intro started
    rw [Option.ite_none_right_eq_some, Option.map_eq_some_iff] at started
    obtain ⟨idle, ⟨reason, answer⟩, there, rfl⟩ := started
    exact ⟨idle, rfl, answer, there⟩
  · rintro ⟨idle, now, answer, there⟩
    obtain ⟨moment, reason⟩ := probe
    dsimp only at now there
    rw [if_pos idle, there, now]
    rfl

theorem probe?_of_active (active : entry.stage = .active wait)
    (phase : wait.phase = .probing reason answer) :
    entry.probe? = some (reason, answer) :=
  probe?_eq_some.mpr ⟨wait, active, phase⟩

theorem probe?_of_ended (ended : entry.stage = .ended) :
    entry.probe? = none := by
  rw [SessionWait.probe?, ended]

theorem Turn.pursues (turn : Turn task entry episode.before after)
    (works : episode.occurrence = .work)
    (floor : episode.before.agenda.floor = some task)
    (found : episode.before.waits[task]? = some entry)
    (there : after.waits[task]? = some next)
    (underway : entry.probe? = some (reason, answer)) :
    next.probe? = some (reason, answer) ∨ next.stage = .ended ∨
      next.probe? = none ∧ reason = .tick ∧
        episode.check? task = some ⟨episode.moment, .tick, true⟩ ∧
        answer.due ≤ episode.moment := by
  obtain ⟨wait, active, phase⟩ := probe?_eq_some.mp underway
  cases turn with
  | rests | waits =>
      obtain rfl := Option.some.inj (found.symm.trans there)
      exact .inl underway
  | discards | ends =>
      obtain rfl := eq_change_of_modify found there
      exact .inr (.inl rfl)
  | begins _ stage =>
      rw [active] at stage
      cases stage
  | probes other _ stage _ listens =>
      rw [active] at stage
      cases stage
      rw [phase] at listens
      cases listens
  | resumes other _ _ stage kept also due alive =>
      obtain rfl := eq_change_of_modify found there
      rw [active] at stage
      cases stage
      rw [phase] at also
      cases also
      refine .inr (.inr ⟨rfl, rfl, ?_, of_decide_eq_true due⟩)
      rw [check?_of_floor works floor found]
      simp [answer?, underway, kept, due, alive, Episode.moment]

theorem Fate.pursues (fate : Fate task episodes episode entry next)
    (found : episode.before.waits[task]? = some entry)
    (there : episode.after.waits[task]? = some next)
    (underway : entry.probe? = some (reason, answer)) :
    next.probe? = some (reason, answer) ∨ next.stage = .ended ∨
      next.probe? = none ∧ reason = .tick ∧
        episode.check? task = some ⟨episode.moment, .tick, true⟩ ∧
        answer.due ≤ episode.moment := by
  cases fate with
  | beside _ alike =>
      left
      rw [probe?_of_stage alike.stage]
      exact underway
  | passes | matched | lifted | interrupted | dropped => exact .inl underway
  | starts _ _ _ subscribed =>
      rw [SessionWait.probe?, subscribed] at underway
      cases underway
  | withdrawn => exact .inr (.inl rfl)
  | finished _ _ ended => exact .inr (.inl ended)
  | works _ works floor turn =>
      exact turn.pursues works floor found there underway

/-- What a wait that starts a probe is like: it is not dropped, its interrupt
has not fired, there is no match in its slot, and it has cause for the
probe. -/
structure Sets (task : TaskId) (before : Session) (reason : ProbeReason)
    (answer : Alarm) (wait : Wait) (entry next : SessionWait) : Prop where
  active : entry.stage = .active wait
  undropped : entry.dropped = false
  listens : wait.phase = .listening
  calm : entry.interrupted = false
  empty : (before.waiter.handoff task).slot = .empty
  cause : wait.Probes before.agenda (before.waiter.handoff task) reason
  next : next = { entry with
    stage := .active
      (wait.probing reason answer before.agenda.countAlarm) }

theorem Fate.sets (fate : Fate task episodes episode entry next)
    (found : episode.before.waits[task]? = some entry)
    (there : episode.after.waits[task]? = some next)
    (listens : entry.probe? = none)
    (started : next.probe? = some (reason, answer)) :
    ∃ wait, Sets task episode.before reason answer wait entry next := by
  cases fate with
  | beside _ alike =>
      rw [probe?_of_stage alike.stage, listens] at started
      cases started
  | passes | matched | lifted | interrupted | dropped =>
      cases listens.symm.trans started
  | starts | withdrawn => cases started
  | finished _ _ ended =>
      rw [probe?_of_ended ended] at started
      cases started
  | works _ _ _ turn =>
      generalize reached : episode.after = after at turn there
      cases turn with
      | rests | waits =>
          obtain rfl := Option.some.inj (found.symm.trans there)
          cases listens.symm.trans started
      | discards | ends | begins | resumes =>
          obtain rfl := eq_change_of_modify found there
          cases started
      | probes wait cause active kept phase calm empty causes =>
          obtain rfl := eq_change_of_modify found there
          have same : cause = reason ∧ episode.before.agenda.alarmIn
              ((entry.watch.map Watch.delay).getD 0) = answer := by
            cases cause <;> simpa [SessionWait.probe?, Wait.probing] using
              started
          obtain ⟨rfl, rfl⟩ := same
          exact ⟨wait, active, kept, phase, calm, empty, causes, rfl⟩

end Fates

/-- What has become of a probe that was started: it is under way yet, or it has
let the wait go on, or the wait has ended. -/
inductive Pursued (task : TaskId) (reason : ProbeReason) (answer : Alarm)
    (middle : List Episode) (entry : SessionWait) : Prop where
  | underway : entry.probe? = some (reason, answer) →
      Pursued task reason answer middle entry
  | answered (answering : Episode) (moment : Nat) : reason = .tick →
      answering ∈ middle →
      answering.check? task = some ⟨moment, .tick, true⟩ →
      answer.due ≤ moment → Pursued task reason answer middle entry
  | finished : entry.stage = .ended → Pursued task reason answer middle entry

section Turns

variable {first second : Episode} {later : List Episode} {one two : Probe}

theorem Pursued.fate (pursued : Pursued task reason answer middle entry)
    (fate : Fate task episodes episode entry next)
    (found : episode.before.waits[task]? = some entry)
    (there : episode.after.waits[task]? = some next) :
    Pursued task reason answer (middle ++ [episode]) next := by
  cases pursued with
  | underway underway =>
      rcases fate.pursues found there underway with
        still | ended | ⟨_, tick, answers, due⟩
      · exact .underway still
      · exact .finished ended
      · exact .answered episode episode.moment tick
          (List.mem_append_right _ List.mem_cons_self) answers due
  | answered answering moment tick member answers due =>
      exact .answered answering moment tick (List.mem_append_left _ member)
        answers due
  | finished ended => exact .finished (fate.ended found there ended)

theorem Fate.isOver (fate : Fate task episodes episode entry next)
    (found : episode.before.waits[task]? = some entry)
    (there : episode.after.waits[task]? = some next) (gone : entry.Over) :
    next.Over := by
  rcases gone with ended | dropped
  · exact .inl (fate.ended found there ended)
  · cases fate with
    | beside _ alike => exact .inr (alike.dropped.trans dropped)
    | passes | starts | matched | lifted | interrupted => exact .inr dropped
    | dropped => exact .inr rfl
    | withdrawn => exact .inl rfl
    | finished _ _ ended => exact .inl ended
    | works _ _ _ turn =>
        generalize episode.after = after at turn there
        cases turn with
        | rests | waits =>
            obtain rfl := Option.some.inj (found.symm.trans there)
            exact .inr dropped
        | discards | ends =>
            obtain rfl := eq_change_of_modify found there
            exact .inl rfl
        | begins | probes | resumes =>
            obtain rfl := eq_change_of_modify found there
            exact .inr dropped

theorem Kept.over_of_leaves (kept : Kept episodes episode.before)
    (leaves : episode.Leaves task ∨ episode.Drops task) :
    ∃ next, episode.after.waits[task]? = some next ∧ next.Over := by
  rcases leaves with leaves | drops
  · obtain ⟨entry, found⟩ := leaves.found
    obtain ⟨next, there, _⟩ := kept.fate found
    exact ⟨next, there, .inl (kept.ended_of_leaves leaves there)⟩
  · obtain ⟨name, _, located⟩ := id drops
    have found := List.getElem?_eq_getElem (locate?_known located)
    obtain ⟨next, there, _⟩ := kept.fate found
    rcases drops.heeded found there with ended | ⟨_, dropped, _⟩
    · exact ⟨next, there, .inl ended⟩
    · exact ⟨next, there, .inr dropped⟩

/-- A probe is started by a wait that is there and is not over. -/
theorem Run.sets (run : Run {} episodes episode.before)
    (started : episode.probe? task = some one) :
    one.moment = episode.moment ∧ ∃ entry next answer wait,
      episode.before.waits[task]? = some entry ∧
      episode.after.waits[task]? = some next ∧
      next.probe? = some (one.reason, answer) ∧
      Sets task episode.before one.reason answer wait entry next := by
  obtain ⟨idle, now, answer, there⟩ := Episode.probe?_eq_some.mp started
  refine ⟨now, ?_⟩
  obtain ⟨next, last, probing⟩ := Option.bind_eq_some_iff.mp there
  cases found : episode.before.waits[task]? with
  | none =>
      obtain ⟨_, _, rfl⟩ := run.kept.newcomer found last
      cases probing
  | some entry =>
      obtain ⟨same, also, fate⟩ := run.kept.fate found
      obtain rfl := Option.some.inj (also.symm.trans last)
      rw [probing?_eq found] at idle
      obtain ⟨wait, sets⟩ := fate.sets found also idle probing
      exact ⟨entry, _, answer, wait, rfl, last, probing, sets⟩

theorem Sets.not_over (sets : Sets task before reason answer wait entry next) :
    ¬entry.Over := by
  rintro (ended | dropped)
  · rw [sets.active] at ended
    cases ended
  · rw [sets.undropped] at dropped
    cases dropped

/-- A wait that is over starts no probe. -/
theorem Run.none_after_end
    (run : Run {} (past ++ first :: (middle ++ second :: later)) session)
    (leaves : first.Leaves task ∨ first.Drops task) :
    second.probe? task = none := by
  obtain ⟨toFirst, fromFirst⟩ := run.split
  have reached := fromFirst.split.1
  obtain ⟨next, there, gone⟩ := (Run.kept toFirst).over_of_leaves leaves
  have prior : Run {} (past ++ [first]) first.after :=
    toFirst.next first.occurrence
  obtain ⟨current, here, still⟩ := prior.follows reached
    (motive := fun _ _ entry => entry.Over) there gone
    fun _ _ _ _ _ found there fate gone => fate.isOver found there gone
  cases started : second.probe? task with
  | none => rfl
  | some probe =>
      obtain ⟨_, entry, _, _, _, found, _, _, sets⟩ :=
        Run.sets (prior.trans reached) started
      obtain rfl := Option.some.inj (found.symm.trans here)
      exact absurd still sets.not_over

/-- Between two probes of a wait the first one has answered, and has let the
wait go on. -/
theorem Run.answered_between
    (run : Run {} (past ++ first :: (middle ++ second :: later)) session)
    (started : first.probe? task = some one)
    (startedAgain : second.probe? task = some two) :
    one.reason = .tick ∧ ∃ answer, first.after.probing? task =
      some (.tick, answer) ∧ ∃ answering ∈ middle, ∃ moment,
        answering.check? task = some ⟨moment, .tick, true⟩ ∧
          answer.due ≤ moment := by
  obtain ⟨toFirst, fromFirst⟩ := run.split
  have reached := fromFirst.split.1
  obtain ⟨_, entry, next, answer, _, _, there, probing, _⟩ :=
    Run.sets toFirst started
  have prior : Run {} (past ++ [first]) first.after :=
    toFirst.next first.occurrence
  obtain ⟨current, here, pursued⟩ := prior.follows reached
    (motive := fun middle _ entry =>
      Pursued task one.reason answer middle entry)
    there (.underway probing)
    fun _ _ _ _ _ found there fate pursued => pursued.fate fate found there
  obtain ⟨_, last, _, _, _, found, _, _, sets⟩ :=
    Run.sets (prior.trans reached) startedAgain
  obtain rfl := Option.some.inj (found.symm.trans here)
  cases pursued with
  | underway underway =>
      have idle := (Episode.probe?_eq_some.mp startedAgain).1
      rw [probing?_eq found, underway] at idle
      cases idle
  | finished ended => exact absurd (.inl ended) sets.not_over
  | answered answering moment tick member answers due =>
      refine ⟨tick, answer, ?_, answering, member, moment, answers, due⟩
      rw [probing?_eq there, probing, tick]

end Turns

end Switchboard.Session
