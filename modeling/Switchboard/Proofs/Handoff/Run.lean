import Switchboard.Handoff.Receivers
import Switchboard.Proofs.Agenda
import Switchboard.Proofs.Run
import Switchboard.Proofs.Waiter.Turn

/-!
# Runs of receivers

A run is any sequence of small steps of the receivers of one handoff, of
moments in time, and of what others do to the handoff.  What comes from outside
can come at any moment, also between a receiver's getting the floor and its
looking at the handoff.
-/

namespace Switchboard

variable {α : Type}

/-- What is received from a slot; nothing is as long as it is empty. -/
def Slot.outcome? : Slot α → Option (Except HandoffError α)
  | .empty => none
  | .value held => some (.ok held)
  | .error reason => some (.error (.failed reason))
  | .taken => some (.error .alreadyTaken)

theorem Slot.outcome?_eq_none_iff {slot : Slot α} :
    slot.outcome? = none ↔ slot = .empty := by
  cases slot <;> simp [outcome?]

/-- The slot when somebody has tried to receive from it. -/
def Slot.tried : Slot α → Slot α
  | .empty => .empty
  | _ => .taken

/-- What a slot holds that has just been filled. -/
def Slot.filled : Except String α → Slot α
  | .ok held => .value held
  | .error reason => .error reason

namespace Handoff

variable {handoff : Handoff α}

theorem tryReceive_eq (handoff : Handoff α) :
    handoff.tryReceive =
      (handoff.slot.outcome?, { handoff with slot := handoff.slot.tried }) := by
  obtain ⟨slot, lifted⟩ := handoff
  cases slot <;> rfl

theorem receive_of_outcome {outcome : Except HandoffError α} (passed : Bool)
    (holds : handoff.slot.outcome? = some outcome) :
    handoff.receive passed =
      (some outcome, { handoff with slot := .taken }) := by
  obtain ⟨slot, lifted⟩ := handoff
  cases slot <;> cases holds <;> rfl

theorem resolve_of_empty (content : Slot α) (empty : handoff.slot = .empty) :
    handoff.resolve content = (true, { handoff with slot := content }) := by
  simp [resolve, empty]

theorem resolve_of_ne_empty (content : Slot α)
    (filled : handoff.slot ≠ .empty) :
    handoff.resolve content = (false, handoff) := by
  unfold resolve
  split
  · rename_i empty
    exact absurd empty filled
  · rfl

theorem isResolved_iff : handoff.isResolved = true ↔ handoff.slot ≠ .empty := by
  unfold isResolved
  split <;> simp_all

end Handoff

namespace Receivers

/-- Something that happens to a handoff and its receivers. -/
inductive Occurrence (α : Type) where
  /-- The receiver with the floor has its turn, or the first in line gets the
  floor. -/
  | work
  /-- Time goes on, and the alarms of the moment reached ring. -/
  | pass (span : Nat)
  | send (value : α)
  | throw (reason : String)
  | lift
  | tryReceive
  | start (name : String) (timeout : Option Nat)
  | drop (name : String)

/-- What is put into the handoff, if it is still empty. -/
def Occurrence.offer? : Occurrence α → Option (Except String α)
  | .send value => some (.ok value)
  | .throw reason => some (.error reason)
  | _ => none

/-- The receivers after something has happened. -/
def happen (occurrence : Occurrence α) (state : Receivers α) : Receivers α :=
  match occurrence with
  | .work => (Machine.step state).getD state
  | .pass span => Machine.ring (state.agenda.now + span) state
  | .send value => (state.send value).2
  | .throw reason => (state.throw reason).2
  | .lift => state.lift
  | .tryReceive => state.tryReceive.2
  | .start name timeout => state.start name timeout
  | .drop name => state.drop name

/-- Something that happened, and the receivers before it. -/
abbrev Episode (α : Type) := Happening (Occurrence α) (Receivers α)

namespace Episode

def after (episode : Episode α) : Receivers α :=
  episode.before.happen episode.occurrence

def moment (episode : Episode α) : Nat := episode.before.agenda.now

/-- Whether what is put in is accepted. -/
def answer? : Episode α → Option Bool
  | ⟨before, .send value⟩ => some (before.send value).1
  | ⟨before, .throw reason⟩ => some (before.throw reason).1
  | _ => none

/-- The end of a receiver, as it is recorded. -/
def reception? : Episode α → Option (Reception α)
  | ⟨before, .work⟩ => (before.happen .work).ended[before.ended.length]?
  | _ => none

end Episode

/-- The receivers after a sequence of occurrences. -/
abbrev happenAll (occurrences : List (Occurrence α)) (state : Receivers α) :
    Receivers α :=
  Switchboard.happenAll happen occurrences state

/-- What happens in the course of a sequence of occurrences. -/
abbrev history (occurrences : List (Occurrence α)) (state : Receivers α) :
    List (Episode α) :=
  Switchboard.history happen occurrences state

/-- How receivers can go on, with all that happened on the way. -/
abbrev Run (start : Receivers α) : List (Episode α) → Receivers α → Prop :=
  Switchboard.Run happen start

section Turn

variable {state after : Receivers α} {task other : TaskId}
  {receiver : Receiver} {name : String} {deadline : Option Alarm}

def Settled (state : Receivers α) : Prop :=
  state.agenda.floor = none ∧ state.agenda.ready = []

instance (state : Receivers α) : Decidable state.Settled :=
  inferInstanceAs (Decidable (_ ∧ _))

/-- The receiver is about to have a turn. -/
def Attends (task : TaskId) (state : Receivers α) : Prop :=
  state.agenda.floor = some task ∨ task ∈ state.agenda.ready

/-- The first in line has just got the floor. -/
def giveFloor (task : TaskId) (rest : List TaskId) (state : Receivers α) :
    Receivers α :=
  { state with
    agenda := { state.agenda with ready := rest, floor := some task } }

theorem happen_work_of_floor (floor : state.agenda.floor = some task) :
    state.happen .work = state.work task := by
  have step : Machine.step state = some (state.work task) :=
    Machine.step_of_floor floor
  rw [happen, step, Option.getD_some]

theorem work_cases (state : Receivers α) :
    (∃ task, state.agenda.floor = some task ∧
        state.happen .work = state.work task) ∨
      (∃ task rest, state.agenda.floor = none ∧
        state.agenda.ready = task :: rest ∧
          state.happen .work = state.giveFloor task rest) ∨
        (state.Settled ∧ state.happen .work = state) := by
  cases floor : state.agenda.floor with
  | some task => exact .inl ⟨task, rfl, happen_work_of_floor floor⟩
  | none =>
      cases ready : state.agenda.ready with
      | nil =>
          have step : Machine.step state = none :=
            Machine.step_of_idle floor ready
          refine .inr (.inr ⟨⟨floor, ready⟩, ?_⟩)
          rw [happen, step, Option.getD_none]
      | cons task rest =>
          have step : Machine.step state = some (state.giveFloor task rest) :=
            Machine.step_of_ready floor ready
          refine .inr (.inl ⟨task, rest, rfl, rfl, ?_⟩)
          rw [happen, step, Option.getD_some]

/-- The moment of a deadline; zero means none. -/
def dueFrom (begun : Nat) (timeout : Option Nat) : Option Nat :=
  (timeout.filter (0 < ·)).map (begun + ·)

/-- The deadline that a receiver looks at when it has its turn. -/
inductive Minds (agenda : Agenda) (receiver : Receiver) :
    Option Alarm → Prop where
  | fresh {timeout : Option Nat} {deadline : Option Alarm} :
      receiver.stage = .fresh timeout →
      deadline.map Alarm.due = dueFrom agenda.now timeout →
      Minds agenda receiver deadline
  | waiting {deadline : Option Alarm} :
      receiver.stage = .waiting deadline → Minds agenda receiver deadline

/-- The deadline has passed and has not been lifted. -/
def Expired (deadline : Option Alarm) (state : Receivers α) : Prop :=
  (∃ due ∈ deadline.map Alarm.due, due ≤ state.agenda.now) ∧
    state.handoff.lifted = false

/-- What a receiver finds that looks at the handoff. -/
inductive Looks (task : TaskId) (name : String) (deadline : Option Alarm)
    (before after : Receivers α) : Prop where
  | blocks : before.handoff.slot = .empty → ¬before.Expired deadline →
      after.receivers =
        before.receivers.modify task ({ · with stage := .waiting deadline }) →
      after.handoff = before.handoff → after.ended = before.ended →
      Looks task name deadline before after
  | timesOut : before.handoff.slot = .empty → before.Expired deadline →
      after.receivers =
        before.receivers.modify task ({ · with stage := .ended }) →
      after.handoff = before.handoff →
      after.ended =
        before.ended ++ [⟨before.agenda.now, name, .error .timeout⟩] →
      Looks task name deadline before after
  | receives (outcome : Except HandoffError α) :
      before.handoff.slot.outcome? = some outcome →
      after.receivers =
        before.receivers.modify task ({ · with stage := .ended }) →
      after.handoff = { before.handoff with slot := .taken } →
      after.ended = before.ended ++ [⟨before.agenda.now, name, outcome⟩] →
      Looks task name deadline before after

theorem agenda_look :
    (state.look task name deadline).agenda = state.agenda := by
  unfold look
  dsimp only
  split <;> rfl

theorem looks_look (state : Receivers α) :
    Looks task name deadline state (state.look task name deadline) := by
  have expired : (deadline.any state.agenda.isDue && !state.handoff.lifted) =
      true ↔ state.Expired deadline := by
    rw [Bool.and_eq_true, Option.any_eq_true, Expired]
    simp [Agenda.isDue]
  unfold look
  dsimp only
  cases found : state.handoff.slot.outcome? with
  | some outcome =>
      rw [Handoff.receive_of_outcome _ found]
      exact .receives outcome found rfl rfl rfl
  | none =>
      have empty := Slot.outcome?_eq_none_iff.mp found
      rw [Handoff.receive_of_empty _ empty]
      by_cases passed : state.Expired deadline
      · rw [if_pos (expired.mpr passed)]
        exact .timesOut empty passed rfl rfl rfl
      · rw [if_neg (mt expired.mp passed)]
        exact .blocks empty passed rfl rfl rfl

theorem Looks.of_agenda {agenda : Agenda}
    (now : agenda.now = state.agenda.now)
    (looks : Looks task name deadline { state with agenda } after) :
    Looks task name deadline state after := by
  have expired : Expired deadline { state with agenda } ↔
      state.Expired deadline := by
    simp only [Expired, now]
  cases looks with
  | blocks empty open_ receivers handoff ended =>
      exact .blocks empty (mt expired.mpr open_) receivers handoff ended
  | timesOut empty passed receivers handoff ended =>
      exact .timesOut empty (expired.mp passed) receivers handoff (now ▸ ended)
  | receives outcome found receivers handoff ended =>
      exact .receives outcome found receivers handoff (now ▸ ended)

/-- What a receiver does with its turn. -/
inductive Turn (task : TaskId) (before after : Receivers α) : Prop where
  | idles : (∀ receiver, before.receivers[task]? = some receiver →
        receiver.dropped = false ∧ receiver.stage = .ended) →
      after.receivers = before.receivers → after.handoff = before.handoff →
      after.ended = before.ended → Turn task before after
  | leaves (receiver : Receiver) :
      before.receivers[task]? = some receiver → receiver.dropped = true →
      after.receivers =
        before.receivers.modify task ({ · with stage := .ended }) →
      after.handoff = before.handoff → after.ended = before.ended →
      Turn task before after
  | looks (receiver : Receiver) (deadline : Option Alarm) :
      before.receivers[task]? = some receiver → receiver.dropped = false →
      Minds before.agenda receiver deadline →
      Looks task receiver.name deadline before after → Turn task before after

theorem agenda_work (task : TaskId) (state : Receivers α) :
    (state.work task).agenda.now = state.agenda.now ∧
      (state.work task).agenda.floor = none ∧
        (state.work task).agenda.ready = state.agenda.ready := by
  unfold work
  dsimp only
  split
  · exact ⟨rfl, rfl, rfl⟩
  · split
    · exact ⟨rfl, rfl, rfl⟩
    · split <;> (try rw [agenda_look]) <;> exact ⟨rfl, rfl, rfl⟩

theorem turn_work (task : TaskId) (state : Receivers α) :
    Turn task state (state.work task) := by
  have looks : ∀ {receiver : Receiver} {agenda : Agenda}
      {deadline : Option Alarm}, agenda.now = state.agenda.now →
        Looks task receiver.name deadline state
          (Receivers.look task receiver.name deadline
            { state with agenda }) := fun now =>
    .of_agenda now (looks_look _)
  unfold work
  dsimp only
  split
  · rename_i absent
    refine .idles (fun receiver found => ?_) rfl rfl rfl
    rw [absent] at found
    cases found
  · rename_i receiver found
    split
    · rename_i dropped
      exact .leaves receiver found dropped rfl rfl rfl
    · rename_i kept
      have kept : receiver.dropped = false := by simpa using kept
      cases stage : receiver.stage with
      | fresh timeout =>
          cases timeout with
          | none =>
              exact .looks receiver none found kept (.fresh stage rfl)
                (looks rfl)
          | some span =>
              cases span with
              | zero =>
                  exact .looks receiver none found kept (.fresh stage rfl)
                    (looks rfl)
              | succ span =>
                  exact .looks receiver (some _) found kept
                    (.fresh stage rfl) (looks rfl)
      | waiting deadline =>
          exact .looks receiver deadline found kept (.waiting stage)
            (looks rfl)
      | ended =>
          refine .idles (fun other same => ?_) rfl rfl rfl
          cases found.symm.trans same
          exact ⟨kept, stage⟩

theorem Turn.receivers (turn : Turn task state after) :
    after.receivers = state.receivers ∨ ∃ stage, after.receivers =
      state.receivers.modify task ({ · with stage }) := by
  cases turn with
  | idles _ same => exact .inl same
  | leaves _ _ _ changed => exact .inr ⟨_, changed⟩
  | looks _ _ _ _ _ looks =>
      cases looks with
      | blocks _ _ changed => exact .inr ⟨_, changed⟩
      | timesOut _ _ changed => exact .inr ⟨_, changed⟩
      | receives _ _ changed => exact .inr ⟨_, changed⟩

theorem Turn.handoff (turn : Turn task state after) :
    after.handoff = state.handoff ∨ (state.handoff.slot ≠ .empty ∧
      after.handoff = { state.handoff with slot := .taken }) := by
  cases turn with
  | idles _ _ same => exact .inl same
  | leaves _ _ _ _ same => exact .inl same
  | looks _ _ _ _ _ looks =>
      cases looks with
      | blocks _ _ _ same => exact .inl same
      | timesOut _ _ _ same => exact .inl same
      | receives outcome found _ taken =>
          refine .inr ⟨fun empty => ?_, taken⟩
          rw [Slot.outcome?_eq_none_iff.mpr empty] at found
          cases found

theorem Turn.elsewhere (turn : Turn task state after) (apart : task ≠ other) :
    after.receivers[other]? = state.receivers[other]? := by
  rcases turn.receivers with same | ⟨stage, changed⟩
  · rw [same]
  · rw [changed, List.getElem?_modify_ne _ _ apart]

theorem Turn.slot_eq_empty_iff (turn : Turn task state after) :
    after.handoff.slot = .empty ↔ state.handoff.slot = .empty := by
  rcases turn.handoff with same | ⟨filled, taken⟩
  · rw [same]
  · rw [taken]
    exact iff_of_false (by simp) filled

theorem Turn.lifted (turn : Turn task state after) :
    after.handoff.lifted = state.handoff.lifted := by
  rcases turn.handoff with same | ⟨_, taken⟩
  · rw [same]
  · rw [taken]

theorem Turn.keeps (turn : Turn task state after)
    (found : state.receivers[task]? = some receiver) :
    ∃ stage, after.receivers[task]? = some { receiver with stage } := by
  rcases turn.receivers with same | ⟨stage, changed⟩
  · exact ⟨receiver.stage, by rw [same, found]⟩
  · refine ⟨stage, ?_⟩
    rw [changed, List.getElem?_modify_eq, found, Option.map_eq_map,
      Option.map_some]

theorem Turn.own (turn : Turn task state after)
    (found : after.receivers[task]? = some receiver) :
    receiver.stage = .ended ∨ (after.handoff.slot = .empty ∧
      ∃ deadline, receiver.stage = .waiting deadline) := by
  have stage : ∀ stage : ReceiverStage, after.receivers =
      state.receivers.modify task ({ · with stage }) →
        receiver.stage = stage := by
    intro stage same
    rw [same, List.getElem?_modify_eq] at found
    obtain ⟨former, _, rfl⟩ := Option.map_eq_some_iff.mp found
    rfl
  cases turn with
  | idles ended receivers =>
      rw [receivers] at found
      exact .inl (ended receiver found).2
  | leaves _ _ _ receivers => exact .inl (stage _ receivers)
  | looks _ deadline _ _ _ looks =>
      cases looks with
      | blocks empty _ receivers handoff =>
          exact .inr ⟨handoff ▸ empty, deadline, stage _ receivers⟩
      | timesOut _ _ receivers => exact .inl (stage _ receivers)
      | receives _ _ receivers => exact .inl (stage _ receivers)

end Turn

section Outside

variable {state before after : Receivers α} {task : TaskId}
  {receiver next : Receiver} {occurrence : Occurrence α}
  {content : Except String α}

theorem happen_offer_of_empty (offers : occurrence.offer? = some content)
    (empty : state.handoff.slot = .empty) :
    Episode.answer? ⟨state, occurrence⟩ = some true ∧
      state.happen occurrence = wakeWaiting
        { state with
          handoff := { state.handoff with slot := .filled content } } := by
  cases occurrence with
  | send value =>
      cases offers
      have resolved := Handoff.resolve_of_empty (.value value) empty
      simp [Episode.answer?, happen, send, Handoff.send, resolved, Slot.filled]
  | throw reason =>
      cases offers
      have resolved := Handoff.resolve_of_empty (.error reason) empty
      simp [Episode.answer?, happen, throw, Handoff.throw, resolved,
        Slot.filled]
  | _ => cases offers

theorem happen_offer_of_filled (offers : occurrence.offer? = some content)
    (filled : state.handoff.slot ≠ .empty) :
    Episode.answer? ⟨state, occurrence⟩ = some false ∧
      state.happen occurrence = state := by
  cases occurrence with
  | send value =>
      have refused := Handoff.resolve_of_ne_empty (.value value) filled
      simp [Episode.answer?, happen, send, Handoff.send, refused]
  | throw reason =>
      have refused := Handoff.resolve_of_ne_empty (.error reason) filled
      simp [Episode.answer?, happen, throw, Handoff.throw, refused]
  | _ => cases offers

def Occurrence.span : Occurrence α → Nat
  | .pass span => span
  | _ => 0

/-- The receivers stand where they stood, and nobody loses the place in
line. -/
structure Outside (occurrence : Occurrence α) (before after : Receivers α) :
    Prop where
  agenda : Agenda.Extends
    { before.agenda with now := before.agenda.now + occurrence.span }
    after.agenda
  lifted : after.handoff.lifted = true ↔
    before.handoff.lifted = true ∨ occurrence = .lift
  ended : after.ended = before.ended
  receivers : ∀ (task : TaskId) (receiver : Receiver),
    before.receivers[task]? = some receiver →
      ∃ next, after.receivers[task]? = some next ∧
        next.stage = receiver.stage ∧ next.name = receiver.name ∧
          (next.dropped = false → receiver.dropped = false)
  newcomers : ∀ (task : TaskId) (receiver : Receiver),
    before.receivers[task]? = none → after.receivers[task]? = some receiver →
      (∃ timeout, receiver.stage = .fresh timeout) ∧ after.Attends task

theorem Outside.of_same {after : Receivers α}
    (receivers : after.receivers = state.receivers)
    (ended : after.ended = state.ended)
    (agenda : Agenda.Extends
      { state.agenda with now := state.agenda.now + occurrence.span }
      after.agenda)
    (lifted : after.handoff.lifted = true ↔
      state.handoff.lifted = true ∨ occurrence = .lift) :
    Outside occurrence state after where
  agenda := agenda
  lifted := lifted
  ended := ended
  receivers := by
    intro task receiver found
    exact ⟨receiver, receivers ▸ found, rfl, rfl, id⟩
  newcomers := by
    intro task receiver absent found
    rw [receivers, absent] at found
    cases found

theorem Outside.offer (offers : occurrence.offer? = some content) :
    Outside occurrence state (state.happen occurrence) := by
  have span : occurrence.span = 0 := by
    cases occurrence <;> first | rfl | cases offers
  have notLift : occurrence ≠ .lift := by
    rintro rfl
    cases offers
  by_cases empty : state.handoff.slot = .empty
  · rw [(happen_offer_of_empty offers empty).2]
    refine .of_same rfl rfl ?_ (by simp [wakeWaiting, notLift])
    rw [span]
    exact .wakeAll _ _
  · rw [(happen_offer_of_filled offers empty).2]
    refine .of_same rfl rfl ?_ (by simp [notLift])
    rw [span]
    exact .refl _

theorem outside_happen (state : Receivers α) (notWork : occurrence ≠ .work) :
    Outside occurrence state (state.happen occurrence) := by
  cases occurrence with
  | work => exact absurd rfl notWork
  | pass span =>
      exact .of_same rfl rfl (.wakeAll _ _) (by simp [happen, Machine.ring,
        Machine.setAgenda])
  | send value => exact .offer rfl
  | throw reason => exact .offer rfl
  | lift =>
      exact .of_same rfl rfl (.wakeAll _ _) (by simp [happen,
        Receivers.lift, Handoff.lift, wakeWaiting])
  | tryReceive =>
      change Outside _ state state.tryReceive.2
      rw [tryReceive, Handoff.tryReceive_eq]
      exact .of_same rfl rfl (.refl _) (by simp)
  | start name timeout =>
      refine ⟨.wake _ _, by simp [happen, Receivers.start], rfl, ?_, ?_⟩
      · intro task receiver found
        have known := (List.getElem?_eq_some_iff.mp found).1
        exact ⟨receiver, (List.getElem?_append_left known).trans found, rfl,
          rfl, id⟩
      · intro task receiver absent found
        have beyond := List.getElem?_eq_none_iff.mp absent
        have added : [Receiver.mk name (.fresh timeout) false][task -
            state.receivers.length]? = some receiver :=
          (List.getElem?_append_right beyond).symm.trans found
        obtain ⟨here, rfl⟩ := List.getElem?_eq_some_iff.mp added
        have last : task = state.receivers.length := Nat.le_antisymm
          (Nat.sub_eq_zero_iff_le.mp (Nat.lt_one_iff.mp here)) beyond
        subst last
        exact ⟨⟨timeout, by simp⟩, .inr (Agenda.mem_ready_wake _ _)⟩
  | drop name =>
      change Outside _ state (state.drop name)
      unfold drop
      split
      · exact .of_same rfl rfl (.refl _) (by simp)
      · rename_i dropped _
        refine ⟨.wake _ _, by simp, rfl, ?_, ?_⟩
        · intro task receiver found
          dsimp only
          rw [List.getElem?_modify, found]
          by_cases here : dropped = task
          · exact ⟨{ receiver with dropped := true }, by simp [here], rfl,
              rfl, by simp⟩
          · exact ⟨receiver, by simp [here], rfl, rfl, id⟩
        · intro task receiver absent found
          dsimp only at found
          rw [List.getElem?_modify, absent] at found
          cases found

theorem Attends.of_outside (outside : Outside occurrence before after)
    (attends : before.Attends task) : after.Attends task := by
  rcases attends with floor | ready
  · exact .inl (outside.agenda.floor.trans floor)
  · exact .inr (outside.agenda.ready.subset ready)

theorem mem_waiting : task ∈ state.waiting ↔ ∃ receiver deadline,
    state.receivers[task]? = some receiver ∧
      receiver.stage = .waiting deadline := by
  unfold waiting
  rw [List.mem_filterMap]
  constructor
  · rintro ⟨⟨receiver, position⟩, member, here⟩
    have found := List.mk_mem_zipIdx_iff_getElem?.mp member
    cases stage : receiver.stage with
    | waiting deadline =>
        simp only [stage] at here
        cases here
        exact ⟨receiver, deadline, found, stage⟩
    | _ => simp [stage] at here
  · rintro ⟨receiver, deadline, found, stage⟩
    refine ⟨(receiver, task), List.mk_mem_zipIdx_iff_getElem?.mpr found, ?_⟩
    simp [stage]

theorem attends_wakeWaiting {deadline : Option Alarm}
    (found : state.receivers[task]? = some receiver)
    (stage : receiver.stage = .waiting deadline) :
    state.wakeWaiting.Attends task :=
  .inr (Agenda.mem_ready_wakeAll
    (mem_waiting.mpr ⟨receiver, deadline, found, stage⟩) state.agenda)

theorem receiver_happen (occurrence : Occurrence α)
    (found : state.receivers[task]? = some receiver) :
    ∃ next, (state.happen occurrence).receivers[task]? = some next ∧
      (next.dropped = false → receiver.dropped = false) ∧
        ((occurrence = .work → state.agenda.floor ≠ some task) →
          next.stage = receiver.stage) := by
  by_cases works : occurrence = .work
  · subst works
    obtain ⟨holder, floor, worked⟩ | ⟨_, _, _, _, given⟩ | ⟨_, rests⟩ :=
      work_cases state
    · have turn := turn_work holder state
      rw [worked, floor]
      by_cases here : holder = task
      · subst here
        obtain ⟨stage, there⟩ := turn.keeps found
        exact ⟨_, there, id, fun elsewhere => absurd rfl (elsewhere rfl)⟩
      · exact ⟨receiver, (turn.elsewhere here).trans found, id, fun _ => rfl⟩
    · exact ⟨receiver, by rw [given]; exact found, id, fun _ => rfl⟩
    · exact ⟨receiver, by rw [rests]; exact found, id, fun _ => rfl⟩
  · obtain ⟨next, there, stage, _, kept⟩ :=
      (outside_happen state works).receivers task receiver found
    exact ⟨next, there, kept, fun _ => stage⟩

theorem now_happen (occurrence : Occurrence α) (state : Receivers α) :
    (state.happen occurrence).agenda.now =
      state.agenda.now + occurrence.span := by
  by_cases works : occurrence = .work
  · subst works
    obtain ⟨task, _, worked⟩ | ⟨_, _, _, _, given⟩ | ⟨_, rests⟩ :=
      work_cases state
    · rw [worked]
      exact (agenda_work task state).1
    · rw [given]
      rfl
    · rw [rests]
      rfl
  · exact (outside_happen state works).agenda.now

theorem lifted_happen (occurrence : Occurrence α) (state : Receivers α) :
    (state.happen occurrence).handoff.lifted = true ↔
      state.handoff.lifted = true ∨ occurrence = .lift := by
  by_cases works : occurrence = .work
  · subst works
    have same : (state.happen .work).handoff.lifted =
        state.handoff.lifted := by
      obtain ⟨task, _, worked⟩ | ⟨_, _, _, _, given⟩ | ⟨_, rests⟩ :=
        work_cases state
      · rw [worked]
        exact (turn_work task state).lifted
      · rw [given]
        rfl
      · rw [rests]
    simp [same]
  · exact (outside_happen state works).lifted

end Outside

section Attention

variable {state : Receivers α} {task : TaskId} {receiver : Receiver}

/-- Whoever has just been started is about to have a turn, and so is everyone
who waits when something has been put in. -/
structure Attentive (state : Receivers α) : Prop where
  fresh : ∀ (task : TaskId) (receiver : Receiver) (timeout : Option Nat),
    state.receivers[task]? = some receiver →
      receiver.stage = .fresh timeout → state.Attends task
  waiting : ∀ (task : TaskId) (receiver : Receiver) (deadline : Option Alarm),
    state.receivers[task]? = some receiver →
      receiver.stage = .waiting deadline → state.handoff.slot ≠ .empty →
        state.Attends task

theorem Attends.not_settled (attends : state.Attends task) :
    ¬state.Settled := by
  rintro ⟨floor, ready⟩
  rcases attends with holds | waits
  · rw [floor] at holds
    cases holds
  · rw [ready] at waits
    cases waits

theorem Attends.work (attends : state.Attends task)
    (elsewhere : state.agenda.floor ≠ some task) :
    (state.happen .work).Attends task := by
  have waits : task ∈ state.agenda.ready := attends.resolve_left elsewhere
  obtain ⟨other, _, worked⟩ | ⟨first, rest, _, ready, given⟩ | ⟨_, rests⟩ :=
    work_cases state
  · rw [worked]
    exact .inr ((agenda_work other state).2.2 ▸ waits)
  · rw [given]
    rw [ready] at waits
    rcases List.mem_cons.mp waits with rfl | later
    · exact .inl rfl
    · exact .inr later
  · rw [rests]
    exact attends

namespace Attentive

theorem start : Attentive ({} : Receivers α) := by
  constructor <;> simp

theorem work (attentive : Attentive state) :
    Attentive (state.happen .work) := by
  obtain ⟨holder, floor, worked⟩ | ⟨first, rest, floor, ready, given⟩ |
    ⟨_, rests⟩ := work_cases state
  · have turn := turn_work holder state
    rw [← worked] at turn
    constructor
    · intro task receiver timeout found stage
      by_cases here : holder = task
      · subst here
        rcases turn.own found with ended | ⟨_, deadline, waits⟩
        · rw [stage] at ended
          cases ended
        · rw [stage] at waits
          cases waits
      · rw [turn.elsewhere here] at found
        refine (attentive.fresh task receiver timeout found stage).work ?_
        rw [floor]
        simpa using here
    · intro task receiver deadline found stage filled
      by_cases here : holder = task
      · subst here
        rcases turn.own found with ended | ⟨empty, _⟩
        · rw [stage] at ended
          cases ended
        · exact absurd empty filled
      · rw [turn.elsewhere here] at found
        have filled := mt turn.slot_eq_empty_iff.mpr filled
        refine (attentive.waiting task receiver deadline found stage
          filled).work ?_
        rw [floor]
        simpa using here
  · have free : ∀ task, state.agenda.floor ≠ some task := by simp [floor]
    constructor
    · intro task receiver timeout found stage
      rw [given] at found
      exact (attentive.fresh task receiver timeout found stage).work
        (free task)
    · intro task receiver deadline found stage filled
      rw [given] at found filled
      exact (attentive.waiting task receiver deadline found stage
        filled).work (free task)
  · rw [rests]
    exact attentive

theorem outside {occurrence : Occurrence α} (attentive : Attentive state)
    (notWork : occurrence ≠ .work)
    (wakes : (state.happen occurrence).handoff.slot ≠ .empty →
      state.handoff.slot = .empty → ∀ (task : TaskId) (receiver : Receiver)
        (deadline : Option Alarm),
          state.receivers[task]? = some receiver →
            receiver.stage = .waiting deadline →
              (state.happen occurrence).Attends task) :
    Attentive (state.happen occurrence) := by
  have outside := outside_happen state notWork
  constructor
  · intro task receiver timeout found stage
    cases former : state.receivers[task]? with
    | none => exact (outside.newcomers task receiver former found).2
    | some before =>
        obtain ⟨next, there, same, _⟩ :=
          outside.receivers task before former
        cases found.symm.trans there
        exact (attentive.fresh task before timeout former
          (same.symm.trans stage)).of_outside outside
  · intro task receiver deadline found stage filled
    cases former : state.receivers[task]? with
    | none => exact (outside.newcomers task receiver former found).2
    | some before =>
        obtain ⟨next, there, same, _⟩ :=
          outside.receivers task before former
        cases found.symm.trans there
        by_cases empty : state.handoff.slot = .empty
        · exact wakes filled empty task before deadline former
            (same.symm.trans stage)
        · exact (attentive.waiting task before deadline former
            (same.symm.trans stage) empty).of_outside outside

end Attentive

/-- How many small steps it takes at most until everyone waits. -/
def effort (state : Receivers α) : Nat :=
  2 * state.agenda.ready.length + state.agenda.floor.toList.length

theorem effort_work (busy : ¬state.Settled) :
    (state.happen .work).effort < state.effort := by
  obtain ⟨task, floor, worked⟩ | ⟨task, rest, floor, ready, given⟩ |
    ⟨settled, _⟩ := work_cases state
  · obtain ⟨_, free, same⟩ := agenda_work task state
    rw [worked, effort, effort, free, same, floor]
    simp
  · rw [given, effort, effort, floor, ready]
    simp only [giveFloor, List.length_cons, Option.toList_some,
      Option.toList_none, List.length_nil]
    omega
  · exact absurd settled busy

theorem exists_settled (state : Receivers α) :
    ∃ steps, (state.happenAll (List.replicate steps .work)).Settled := by
  induction effort : state.effort using Nat.strongRecOn generalizing state with
  | _ bound induction =>
      by_cases settled : state.Settled
      · exact ⟨0, settled⟩
      · subst effort
        obtain ⟨steps, reached⟩ :=
          induction _ (effort_work settled) (state.happen .work) rfl
        exact ⟨steps + 1, reached⟩

end Attention

end Receivers

end Switchboard
