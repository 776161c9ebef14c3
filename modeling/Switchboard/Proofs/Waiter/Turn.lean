import Mathlib.Data.List.Basic
import Switchboard.Waiter.Wait

/-!
# The turn of a wait

What a wait does with its turn, told by what its handoff holds.  An interrupt
goes before everything else, an event before the deadline, and the deadline
before a probe that is due.  An event that arrives during a probe goes before
what the probe found.
-/

namespace Switchboard

/-- What a slot holds that a value has or has not been put into, and that
nobody has emptied. -/
def Slot.holding {α : Type} : Option α → Slot α
  | none => .empty
  | some content => .value content

@[simp] theorem Slot.holding_none {α : Type} :
    (Slot.holding none : Slot α) = .empty := rfl

@[simp] theorem Slot.holding_some {α : Type} (content : α) :
    Slot.holding (some content) = .value content := rfl

namespace Handoff

variable {α : Type} {handoff : Handoff α} {value : α}

theorem tryReceive_of_empty (empty : handoff.slot = .empty) :
    handoff.tryReceive = (none, handoff) := by
  simp [tryReceive, empty]

theorem tryReceive_of_value (holds : handoff.slot = .value value) :
    handoff.tryReceive =
      (some (.ok value), { handoff with slot := .taken }) := by
  simp [tryReceive, holds]

theorem receive_of_value (passed : Bool)
    (holds : handoff.slot = .value value) :
    handoff.receive passed =
      (some (.ok value), { handoff with slot := .taken }) := by
  simp [receive, tryReceive_of_value holds]

theorem receive_of_empty (passed : Bool) (empty : handoff.slot = .empty) :
    handoff.receive passed =
      (if passed && !handoff.lifted then some (.error .timeout) else none,
        handoff) := by
  rw [receive, tryReceive_of_empty empty]
  dsimp only
  split <;> rfl

theorem timeout_of_receive_error {held : Option α}
    (holds : handoff.slot = .holding held) {passed : Bool}
    {reason : HandoffError}
    (fails : (handoff.receive passed).1 = some (.error reason)) :
    reason = .timeout := by
  cases held with
  | none =>
      rw [receive_of_empty passed holds] at fails
      dsimp only at fails
      split at fails
      · cases fails
        rfl
      · cases fails
  | some value =>
      rw [receive_of_value passed holds] at fails
      cases fails

end Handoff

namespace Wait

variable {agenda : Agenda} {handoff : Handoff Event} {wait : Wait}
  {event : Event} {reason : ProbeReason} {alive : Bool}

/-- The deadline has passed and has not been lifted. -/
def expired (agenda : Agenda) (handoff : Handoff Event) (wait : Wait) :
    Bool :=
  wait.deadline.any agenda.isDue && !handoff.lifted

def probes (agenda : Agenda) (wait : Wait) : Bool :=
  wait.tick.any agenda.isDue

/-- Why a wait ends now.  `alive` is what a probe that answers now finds. -/
inductive Concludes (agenda : Agenda) (interrupted alive : Bool)
    (handoff : Handoff Event) (wait : Wait) :
    Except WaitError Event → Prop where
  | interrupted : wait.phase = .listening → interrupted = true →
      Concludes agenda interrupted alive handoff wait (.error .interrupted)
  | event (event : Event) : wait.phase = .listening → interrupted = false →
      handoff.slot = .value event →
      Concludes agenda interrupted alive handoff wait (.ok event)
  | timeout : wait.phase = .listening → interrupted = false →
      handoff.slot = .empty → wait.expired agenda handoff = true →
      wait.liveness = none →
      Concludes agenda interrupted alive handoff wait (.error .timeout)
  | lateEvent (reason : ProbeReason) (answer : Alarm) (event : Event) :
      wait.phase = .probing reason answer → agenda.isDue answer = true →
      (reason = .tick → alive = false) → handoff.slot = .value event →
      Concludes agenda interrupted alive handoff wait (.ok event)
  | found (reason : ProbeReason) (answer : Alarm) :
      wait.phase = .probing reason answer → agenda.isDue answer = true →
      (reason = .tick → alive = false) → handoff.slot = .empty →
      Concludes agenda interrupted alive handoff wait
        (.error (if alive then .timeout else .resourceGone))

/-- There is nothing for a wait to do now. -/
inductive Idles (agenda : Agenda) (interrupted : Bool)
    (handoff : Handoff Event) (wait : Wait) : Prop where
  | listening : wait.phase = .listening → interrupted = false →
      handoff.slot = .empty → wait.expired agenda handoff = false →
      wait.probes agenda = false → Idles agenda interrupted handoff wait
  | probing (reason : ProbeReason) (answer : Alarm) :
      wait.phase = .probing reason answer → agenda.isDue answer = false →
      Idles agenda interrupted handoff wait

/-- A wait has cause to start a probe now. -/
inductive Probes (agenda : Agenda) (handoff : Handoff Event) (wait : Wait) :
    ProbeReason → Prop where
  | deadline : wait.expired agenda handoff = true →
      wait.liveness.isSome = true → Probes agenda handoff wait .deadline
  | tick : wait.expired agenda handoff = false → wait.probes agenda = true →
      Probes agenda handoff wait .tick

/-- A bound on the small steps that a wait can take before it has nothing to
do or has ended. -/
def effort (agenda : Agenda) (wait : Wait) : Nat :=
  match wait.phase with
  | .listening => if wait.probes agenda then 4 else 2
  | .probing .deadline _ => 1
  | .probing .tick _ => if wait.probes agenda then 5 else 3

@[simp] theorem subscription_probing (reason : ProbeReason)
    (answer : Alarm) (agenda : Agenda) (wait : Wait) :
    (wait.probing reason answer agenda).subscription = wait.subscription := by
  cases reason <;> rfl

theorem lifted_of_expired (expired : wait.expired agenda handoff = true) :
    handoff.lifted = false := by
  simp only [Wait.expired, Bool.and_eq_true, Bool.not_eq_true'] at expired
  exact expired.2

theorem deadline_of_expired (expired : wait.expired agenda handoff = true) :
    ∃ alarm, wait.deadline = some alarm ∧ alarm.due ≤ agenda.now := by
  simp only [Wait.expired, Bool.and_eq_true] at expired
  obtain ⟨alarm, set, due⟩ := (Option.any_eq_true _ _).mp expired.1
  exact ⟨alarm, set, of_decide_eq_true due⟩

theorem lt_deadline (patient : wait.expired agenda handoff = false)
    (bound : handoff.lifted = false) {alarm : Alarm}
    (set : wait.deadline = some alarm) : agenda.now < alarm.due := by
  simpa [Wait.expired, set, bound, Agenda.isDue] using patient

theorem tick_of_probes (due : wait.probes agenda = true) :
    ∃ alarm, wait.tick = some alarm ∧ alarm.due ≤ agenda.now := by
  obtain ⟨alarm, set, rings⟩ := (Option.any_eq_true _ _).mp due
  exact ⟨alarm, set, of_decide_eq_true rings⟩

theorem lt_tick (quiet : wait.probes agenda = false) {alarm : Alarm}
    (set : wait.tick = some alarm) : agenda.now < alarm.due := by
  simpa [Wait.probes, set, Agenda.isDue] using quiet

theorem listen_of_interrupted :
    wait.listen agenda true handoff =
      (.ended (.error .interrupted), handoff) := rfl

theorem listen_of_value (holds : handoff.slot = .value event) :
    wait.listen agenda false handoff =
      (.ended (.ok event), { handoff with slot := .taken }) := by
  simp [listen, Handoff.receive_of_value _ holds]

theorem listen_of_expired (empty : handoff.slot = .empty)
    (expired : wait.expired agenda handoff = true) :
    wait.listen agenda false handoff =
      (if wait.liveness.isSome then .probe .deadline
        else .ended (.error .timeout), handoff) := by
  unfold Wait.expired at expired
  rw [listen, Handoff.receive_of_empty _ empty, if_pos expired]
  simp only [Bool.false_eq_true, if_false]
  split <;> rfl

theorem listen_of_empty (empty : handoff.slot = .empty)
    (patient : wait.expired agenda handoff = false) :
    wait.listen agenda false handoff =
      (if wait.probes agenda then .probe .tick else .idle, handoff) := by
  unfold Wait.expired at patient
  rw [listen, Handoff.receive_of_empty _ empty]
  simp only [patient, Bool.false_eq_true, if_false]
  change (if wait.probes agenda = true then _ else _) = _
  split <;> rfl

theorem lateMatch_of_empty (empty : handoff.slot = .empty) :
    lateMatch handoff = (none, handoff) := by
  simp [lateMatch, Handoff.tryReceive_of_empty empty]

theorem lateMatch_of_value (holds : handoff.slot = .value event) :
    lateMatch handoff = (some event, { handoff with slot := .taken }) := by
  simp [lateMatch, Handoff.tryReceive_of_value holds]

theorem probed_of_alive : probed .tick true handoff = (none, handoff) := rfl

theorem probed_of_value (holds : handoff.slot = .value event)
    (decides : reason = .tick → alive = false) :
    probed reason alive handoff =
      (some (.ok event), { handoff with slot := .taken }) := by
  cases reason with
  | tick => simp [probed, decides rfl, lateMatch_of_value holds]
  | deadline => simp [probed, lateMatch_of_value holds]

theorem probed_of_empty (empty : handoff.slot = .empty)
    (decides : reason = .tick → alive = false) :
    probed reason alive handoff =
      (some (.error (if alive then .timeout else .resourceGone)),
        handoff) := by
  cases reason with
  | tick => simp [probed, decides rfl, lateMatch_of_empty empty]
  | deadline => simp [probed, lateMatch_of_empty empty]

theorem effort_le (agenda : Agenda) (wait : Wait) : wait.effort agenda ≤ 5 := by
  unfold effort
  split
  · split <;> omega
  · omega
  · split <;> omega

theorem effort_pos (agenda : Agenda) (wait : Wait) :
    0 < wait.effort agenda := by
  unfold effort
  split
  · split <;> omega
  · omega
  · split <;> omega

theorem effort_listening (phase : wait.phase = .listening)
    (agenda : Agenda) :
    wait.effort agenda = if wait.probes agenda then 4 else 2 := by
  simp [effort, phase]

theorem effort_tick {answer : Alarm}
    (phase : wait.phase = .probing .tick answer) (agenda : Agenda) :
    wait.effort agenda = if wait.probes agenda then 5 else 3 := by
  simp [effort, phase]

theorem not_due_of_period {setting later : Agenda}
    (same : later.now = setting.now) (liveness : Option Liveness) :
    ((Liveness.period? liveness).map setting.alarmIn).any later.isDue =
      false := by
  cases period : Liveness.period? liveness with
  | none => rfl
  | some span =>
      have positive := (Option.filter_eq_some_iff.mp period).2
      simp only [decide_eq_true_eq] at positive
      simp only [Option.map_some, Option.any_some, Agenda.isDue,
        Agenda.alarmIn, same, decide_eq_false_iff_not]
      omega

theorem effort_probing {setting later : Agenda} {answer : Alarm}
    (phase : wait.phase = .listening)
    (cause : wait.Probes agenda handoff reason)
    (same : later.now = setting.now) :
    (wait.probing reason answer setting).effort later <
      wait.effort agenda := by
  rw [effort_listening phase]
  cases cause with
  | deadline =>
      change 1 < _
      split <;> omega
  | tick patient due =>
      rw [effort_tick rfl, Wait.probes, Wait.probing,
        not_due_of_period same, if_pos due]
      decide

theorem effort_resumed {answer : Alarm}
    (phase : wait.phase = .probing .tick answer) (agenda : Agenda) :
    ({ wait with phase := .listening } : Wait).effort agenda <
      wait.effort agenda := by
  rw [effort_tick phase, effort_listening rfl]
  change (if wait.probes agenda = true then 4 else 2) < _
  split <;> omega

end Wait

end Switchboard
