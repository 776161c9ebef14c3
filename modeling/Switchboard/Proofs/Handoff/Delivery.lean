import Switchboard.Proofs.Handoff.Run

/-!
# A handoff delivers once

Only the first value or error that is put into a handoff is accepted, and it is
handed out once at most, to whoever receives first.  Until then it is kept,
whatever becomes of other receivers, and whoever comes later finds it taken.
-/

namespace Switchboard

variable {α : Type}

/-- What somebody gets to whom the content of a handoff is handed out. -/
def handedOut (content : Except String α) : Except HandoffError α :=
  content.mapError HandoffError.failed

/-- The content that is handed out with an outcome, if there is any. -/
def handout? : Except HandoffError α → Option (Except String α)
  | .ok held => some (.ok held)
  | .error (.failed reason) => some (.error reason)
  | .error _ => none

theorem handout?_handedOut (content : Except String α) :
    handout? (handedOut content) = some content := by
  cases content <;> rfl

theorem Slot.outcome?_filled (content : Except String α) :
    (Slot.filled content).outcome? = some (handedOut content) := by
  cases content <;> rfl

theorem Slot.filled_ne_empty (content : Except String α) :
    Slot.filled content ≠ .empty := by
  cases content <;> simp [filled]

namespace Receivers

namespace Episode

/-- What somebody receives, or why he does not. -/
def outcome? : Episode α → Option (Except HandoffError α)
  | ⟨before, .tryReceive⟩ => before.tryReceive.1
  | ⟨before, .work⟩ =>
    (reception? ⟨before, .work⟩).map Reception.outcome
  | _ => none

/-- The content that is handed out. -/
def handout? (episode : Episode α) : Option (Except String α) :=
  episode.outcome?.bind Switchboard.handout?

end Episode

/-- What has been put in first. -/
def offered (history : List (Episode α)) : Option (Except String α) :=
  (history.filterMap (·.occurrence.offer?)).head?

/-- What has been handed out, in order. -/
def handouts (history : List (Episode α)) : List (Except String α) :=
  history.filterMap Episode.handout?

/-- What the next one receives, given what has been put in first and what has
been handed out. -/
def due : Option (Except String α) → List (Except String α) →
    Except HandoffError α
  | none, _ => .error .timeout
  | some content, [] => handedOut content
  | some _, _ :: _ => .error .alreadyTaken

/-- What is in the slot, told by what has been put in first and what has been
handed out. -/
inductive Delivered (history : List (Episode α)) (last : Receivers α) :
    Prop where
  | empty : offered history = none → handouts history = [] →
      last.handoff.slot = .empty → Delivered history last
  | kept (content : Except String α) : offered history = some content →
      handouts history = [] → last.handoff.slot = .filled content →
      Delivered history last
  | handedOut (content : Except String α) : offered history = some content →
      handouts history = [content] → last.handoff.slot = .taken →
      Delivered history last

/-- What happens is what has to, given what has happened before. -/
structure Fair (history : List (Episode α)) (episode : Episode α) : Prop where
  /-- What is put in is accepted just if nothing has been put in before. -/
  answers : episode.occurrence.offer?.isSome →
    episode.answer? = some (offered history).isNone
  refuses : episode.answer? = some false → episode.after = episode.before
  /-- Whoever receives something gets what is due. -/
  receives : ∀ outcome, episode.outcome? = some outcome →
    outcome = due (offered history) (handouts history)
  /-- Whoever tries gets it as soon as something has been put in. -/
  tries : episode.occurrence = .tryReceive → episode.outcome? =
    (offered history).map fun _ => due (offered history) (handouts history)
  /-- So does every receiver at its next turn. -/
  turns : ∀ (task : TaskId) (receiver : Receiver),
    episode.occurrence = .work → episode.before.agenda.floor = some task →
      episode.before.receivers[task]? = some receiver →
        receiver.dropped = false → receiver.stage ≠ .ended →
          (offered history).isSome →
            episode.reception? = some ⟨episode.moment, receiver.name,
              due (offered history) (handouts history)⟩

section Steps

variable {state after : Receivers α} {task other : TaskId}
  {occurrence : Occurrence α} {content : Except String α}

theorem Turn.recorded (turn : Turn task state after) :
    (after.ended = state.ended ∧ after.handoff.slot = state.handoff.slot) ∨
      ∃ name outcome,
        after.ended = state.ended ++ [⟨state.agenda.now, name, outcome⟩] ∧
          (state.handoff.slot = .empty ∧ state.handoff.lifted = false ∧
              after.handoff.slot = .empty ∧ outcome = .error .timeout ∨
            state.handoff.slot.outcome? = some outcome ∧
              after.handoff.slot = .taken) := by
  cases turn with
  | idles _ _ handoff ended => exact .inl ⟨ended, handoff ▸ rfl⟩
  | leaves _ _ _ _ handoff ended => exact .inl ⟨ended, handoff ▸ rfl⟩
  | looks receiver deadline _ _ _ looks =>
      cases looks with
      | blocks _ _ _ handoff ended => exact .inl ⟨ended, handoff ▸ rfl⟩
      | timesOut empty expired _ handoff ended =>
          refine .inr ⟨_, _, ended, .inl ⟨empty, expired.2, ?_, rfl⟩⟩
          rw [handoff, empty]
      | receives outcome found _ handoff ended =>
          exact .inr ⟨_, _, ended, .inr ⟨found, by rw [handoff]⟩⟩

theorem reception?_of_same
    (same : (state.happen .work).ended = state.ended) :
    Episode.reception? ⟨state, .work⟩ = none := by
  simp [Episode.reception?, same]

theorem reception?_of_added {reception : Reception α}
    (added : (state.happen .work).ended = state.ended ++ [reception]) :
    Episode.reception? ⟨state, .work⟩ = some reception := by
  simp [Episode.reception?, added]

/-- What is received tells what the slot held and holds now. -/
inductive Receives (state after : Receivers α) :
    Option (Except HandoffError α) → Prop where
  | nothing : after.handoff.slot = state.handoff.slot →
      Receives state after none
  | timeout : state.handoff.slot = .empty → after.handoff.slot = .empty →
      Receives state after (some (.error .timeout))
  | content {outcome : Except HandoffError α} :
      state.handoff.slot.outcome? = some outcome →
      after.handoff.slot = .taken → Receives state after (some outcome)

theorem receives_work (state : Receivers α) :
    Receives state (state.happen .work)
      (Episode.outcome? ⟨state, .work⟩) := by
  obtain ⟨task, _, worked⟩ | ⟨task, rest, _, _, given⟩ | ⟨_, rests⟩ :=
    work_cases state
  · have turn := turn_work task state
    rw [← worked] at turn
    obtain ⟨same, slot⟩ | ⟨name, outcome, added, held⟩ := turn.recorded
    · rw [Episode.outcome?, reception?_of_same same]
      exact .nothing slot
    · rw [Episode.outcome?, reception?_of_added added]
      obtain ⟨empty, _, still, rfl⟩ | ⟨found, taken⟩ := held
      · exact .timeout empty still
      · exact .content found taken
  · rw [Episode.outcome?, reception?_of_same (by rw [given]; rfl), given]
    exact .nothing rfl
  · rw [Episode.outcome?, reception?_of_same (by rw [rests]), rests]
    exact .nothing rfl

theorem receives (state : Receivers α) (offers : occurrence.offer? = none) :
    Receives state (state.happen occurrence)
      (Episode.outcome? ⟨state, occurrence⟩) := by
  cases occurrence with
  | work => exact receives_work state
  | tryReceive =>
      have tried : state.tryReceive = (state.handoff.slot.outcome?,
          { state with handoff :=
            { state.handoff with slot := state.handoff.slot.tried } }) := by
        rw [tryReceive, Handoff.tryReceive_eq]
      rw [Episode.outcome?, happen, tried]
      cases found : state.handoff.slot.outcome? with
      | none =>
          apply Receives.nothing
          rw [Slot.outcome?_eq_none_iff.mp found]
          rfl
      | some outcome =>
          apply Receives.content found
          cases slot : state.handoff.slot with
          | empty =>
              rw [slot] at found
              cases found
          | _ => rfl
  | send | throw => cases offers
  | drop name =>
      apply Receives.nothing
      change (state.drop name).handoff.slot = _
      unfold drop
      split <;> rfl
  | _ => exact .nothing rfl

section Law

variable {history : List (Episode α)} {episode : Episode α}

theorem offered_concat (history : List (Episode α)) (episode : Episode α) :
    offered (history ++ [episode]) =
      (offered history).or episode.occurrence.offer? := by
  simp [offered, List.filterMap_eq_flatMap_toList]

theorem handouts_concat (history : List (Episode α)) (episode : Episode α) :
    handouts (history ++ [episode]) =
      handouts history ++ episode.handout?.toList := by
  simp [handouts, List.filterMap_eq_flatMap_toList]

theorem outcome?_of_offer (offers : occurrence.offer? = some content) :
    Episode.outcome? ⟨state, occurrence⟩ = none := by
  cases occurrence <;> first | rfl | cases offers

namespace Delivered

theorem slot_eq_empty_iff (delivered : Delivered history state) :
    state.handoff.slot = .empty ↔ offered history = none := by
  cases delivered with
  | empty nobody _ slot => simp [nobody, slot]
  | kept content first _ slot =>
      simp [first, slot, Slot.filled_ne_empty]
  | handedOut content first _ slot => simp [first, slot]

theorem filled_iff (delivered : Delivered history state) :
    state.handoff.slot ≠ .empty ↔ (offered history).isSome = true := by
  rw [Option.isSome_iff_ne_none]
  exact delivered.slot_eq_empty_iff.not

theorem outcome?_eq (delivered : Delivered history state)
    {outcome : Except HandoffError α}
    (found : state.handoff.slot.outcome? = some outcome) :
    outcome = due (offered history) (handouts history) := by
  cases delivered with
  | empty _ _ slot =>
      rw [slot] at found
      cases found
  | kept content first nothing slot =>
      rw [slot, Slot.outcome?_filled] at found
      cases found
      rw [first, nothing, due]
  | handedOut content first once slot =>
      rw [slot] at found
      cases found
      rw [first, once, due]

theorem offer (delivered : Delivered history state)
    (offers : occurrence.offer? = some content) :
    Delivered (history ++ [⟨state, occurrence⟩])
      (state.happen occurrence) := by
  have handed : handouts (history ++ [⟨state, occurrence⟩]) =
      handouts history := by
    simp [handouts_concat, Episode.handout?, outcome?_of_offer offers]
  have first := offered_concat history ⟨state, occurrence⟩
  have refused : state.handoff.slot ≠ .empty →
      state.happen occurrence = state := fun filled =>
    (happen_offer_of_filled offers filled).2
  cases delivered with
  | empty nobody nothing slot =>
      refine .kept content ?_ (handed.trans nothing) ?_
      · rw [first, nobody, offers]
        rfl
      · rw [(happen_offer_of_empty offers slot).2]
        rfl
  | kept former before nothing slot =>
      refine .kept former ?_ (handed.trans nothing) ?_
      · rw [first, before]
        rfl
      · rw [refused (slot ▸ Slot.filled_ne_empty former), slot]
  | handedOut former before once slot =>
      refine .handedOut former ?_ (handed.trans once) ?_
      · rw [first, before]
        rfl
      · rw [refused (by simp [slot]), slot]

/-- Somebody receives, or nobody does. -/
theorem receive (delivered : Delivered history state)
    (offers : occurrence.offer? = none) :
    Delivered (history ++ [⟨state, occurrence⟩])
      (state.happen occurrence) := by
  have first : offered (history ++ [⟨state, occurrence⟩]) =
      offered history := by
    simp [offered_concat, offers]
  have handed := handouts_concat history ⟨state, occurrence⟩
  rw [Episode.handout?] at handed
  have same : (Episode.outcome? ⟨state, occurrence⟩).bind handout? = none →
      (state.happen occurrence).handoff.slot = state.handoff.slot →
        Delivered (history ++ [⟨state, occurrence⟩])
          (state.happen occurrence) := by
    intro nothing slot
    rw [nothing, Option.toList_none, List.append_nil] at handed
    cases delivered with
    | empty nobody none_ empty =>
        exact .empty (first.trans nobody) (handed.trans none_)
          (slot.trans empty)
    | kept content before none_ filled =>
        exact .kept content (first.trans before) (handed.trans none_)
          (slot.trans filled)
    | handedOut content before once taken =>
        exact .handedOut content (first.trans before) (handed.trans once)
          (slot.trans taken)
  have received := receives state offers
  generalize Episode.outcome? ⟨state, occurrence⟩ = outcome? at *
  cases received with
  | nothing slot => exact same rfl slot
  | timeout empty still => exact same rfl (still.trans empty.symm)
  | @content outcome found taken =>
      cases delivered with
      | empty _ _ slot =>
          rw [slot] at found
          cases found
      | kept content before nothing slot =>
          rw [slot, Slot.outcome?_filled] at found
          cases found
          rw [Option.bind_some, handout?_handedOut, nothing] at handed
          exact .handedOut content (first.trans before) handed taken
      | handedOut content before once slot =>
          rw [slot] at found
          cases found
          exact same rfl (taken.trans slot.symm)

end Delivered

theorem Run.delivered {last : Receivers α} (run : Run {} history last) :
    Delivered history last := by
  induction run with
  | start => exact .empty rfl rfl rfl
  | next occurrence _ induction =>
      cases offers : occurrence.offer? with
      | some content => exact induction.offer offers
      | none => exact induction.receive offers

theorem still_empty (offers : occurrence.offer? = none)
    (empty : state.handoff.slot = .empty) :
    (state.happen occurrence).handoff.slot = .empty := by
  have received := receives state offers
  generalize Episode.outcome? ⟨state, occurrence⟩ = outcome? at received
  cases received with
  | nothing same => exact same.trans empty
  | timeout _ still => exact still
  | content found =>
      rw [empty] at found
      cases found

theorem Attentive.happen (attentive : Attentive state)
    (occurrence : Occurrence α) : Attentive (state.happen occurrence) := by
  by_cases works : occurrence = .work
  · subst works
    exact attentive.work
  · refine attentive.outside works ?_
    intro filled empty task receiver deadline found stage
    cases offers : occurrence.offer? with
    | some content =>
        rw [(happen_offer_of_empty offers empty).2]
        exact attends_wakeWaiting found stage
    | none => exact absurd (still_empty offers empty) filled

theorem Run.attentive {last : Receivers α} (run : Run {} history last) :
    Attentive last := by
  induction run with
  | start => exact .start
  | next occurrence _ induction => exact induction.happen occurrence

theorem ended_happen (occurrence : Occurrence α) (state : Receivers α) :
    (state.happen occurrence).ended = state.ended ++
      (Episode.reception? ⟨state, occurrence⟩).toList := by
  by_cases works : occurrence = .work
  · subst works
    have added : ∃ added : Option (Reception α),
        (state.happen .work).ended = state.ended ++ added.toList := by
      obtain ⟨task, _, worked⟩ | ⟨_, _, _, _, given⟩ | ⟨_, rests⟩ :=
        work_cases state
      · have turn := turn_work task state
        rw [← worked] at turn
        obtain ⟨same, _⟩ | ⟨name, outcome, added, _⟩ := turn.recorded
        · exact ⟨none, by simpa using same⟩
        · exact ⟨some _, added⟩
      · exact ⟨none, by rw [given]; simp [giveFloor]⟩
      · exact ⟨none, by rw [rests]; simp⟩
    obtain ⟨added, recorded⟩ := added
    cases added with
    | none =>
        rw [reception?_of_same (by simpa using recorded)]
        exact recorded
    | some reception =>
        rw [reception?_of_added recorded]
        exact recorded
  · have none_ : Episode.reception? ⟨state, occurrence⟩ = none := by
      cases occurrence with
      | work => exact absurd rfl works
      | _ => rfl
    rw [none_, (outside_happen _ works).ended]
    simp

theorem Delivered.fair (delivered : Delivered history state)
    (occurrence : Occurrence α) : Fair history ⟨state, occurrence⟩ where
  answers := by
    intro offers
    obtain ⟨content, offers⟩ := Option.isSome_iff_exists.mp offers
    by_cases empty : state.handoff.slot = .empty
    · rw [(happen_offer_of_empty offers empty).1,
        delivered.slot_eq_empty_iff.mp empty]
      rfl
    · rw [(happen_offer_of_filled offers empty).1]
      obtain ⟨former, before⟩ :=
        Option.isSome_iff_exists.mp (delivered.filled_iff.mp empty)
      rw [before]
      rfl
  refuses := by
    intro refused
    cases offers : occurrence.offer? with
    | none => cases occurrence <;> first | cases refused | cases offers
    | some content =>
        by_cases empty : state.handoff.slot = .empty
        · rw [(happen_offer_of_empty offers empty).1] at refused
          cases refused
        · exact (happen_offer_of_filled offers empty).2
  receives := by
    intro outcome received
    cases offers : occurrence.offer? with
    | some content =>
        rw [outcome?_of_offer offers] at received
        cases received
    | none =>
        have receives := receives state offers
        rw [received] at receives
        cases receives with
        | timeout empty =>
            rw [delivered.slot_eq_empty_iff.mp empty]
            rfl
        | content found => exact delivered.outcome?_eq found
  tries := by
    rintro rfl
    have tried : Episode.outcome? ⟨state, .tryReceive⟩ =
        state.handoff.slot.outcome? := by
      rw [Episode.outcome?, tryReceive, Handoff.tryReceive_eq]
    rw [tried]
    cases found : state.handoff.slot.outcome? with
    | none =>
        have empty := Slot.outcome?_eq_none_iff.mp found
        rw [delivered.slot_eq_empty_iff.mp empty]
        rfl
    | some outcome =>
        have filled : state.handoff.slot ≠ .empty := by
          intro empty
          rw [empty] at found
          cases found
        obtain ⟨content, before⟩ :=
          Option.isSome_iff_exists.mp (delivered.filled_iff.mp filled)
        rw [delivered.outcome?_eq found, before]
        rfl
  turns := by
    rintro task receiver rfl floor found kept open_ first
    have filled := delivered.filled_iff.mpr first
    have turn := turn_work task state
    rw [← happen_work_of_floor floor] at turn
    cases turn with
    | idles ended => exact absurd (ended receiver found).2 open_
    | leaves other there dropped =>
        cases found.symm.trans there
        rw [kept] at dropped
        cases dropped
    | looks other _ there _ _ looks =>
        cases found.symm.trans there
        cases looks with
        | blocks empty => exact absurd empty filled
        | timesOut empty => exact absurd empty filled
        | receives outcome held _ _ added =>
            rw [reception?_of_added added, ← delivered.outcome?_eq held]
            rfl

end Law

theorem Attentive.ended (attentive : Attentive state)
    (filled : state.handoff.slot ≠ .empty) (settled : state.Settled) :
    ∀ receiver ∈ state.receivers, receiver.stage = .ended := by
  intro receiver member
  obtain ⟨task, found⟩ := List.mem_iff_getElem?.mp member
  cases stage : receiver.stage with
  | fresh timeout =>
      have attends := attentive.fresh task receiver timeout found stage
      exact absurd settled attends.not_settled
  | waiting deadline =>
      have attends :=
        attentive.waiting task receiver deadline found stage filled
      exact absurd settled attends.not_settled
  | ended => rfl

end Steps

/-- A handoff delivers once.  Of all that is put in only the first is accepted,
and the rest changes nothing.  It is handed out once at most, and until then it
is in the slot, whoever has been dropped or has timed out; whoever receives next
gets it, and whoever comes later finds it taken.  When everyone waits nobody
waits for what has been put in. -/
theorem single_delivery {history : List (Episode α)} {last : Receivers α}
    (run : Run {} history last) :
    last.ended = history.filterMap Episode.reception? ∧
      Delivered history last ∧
      (∀ occurrence, Fair history ⟨last, occurrence⟩) ∧
      ((offered history).isSome → last.Settled →
        ∀ receiver ∈ last.receivers, receiver.stage = .ended) := by
  have delivered := run.delivered
  refine ⟨?_, delivered, delivered.fair, ?_⟩
  · induction run with
    | start => rfl
    | next occurrence prior induction =>
        rw [ended_happen, induction (Run.delivered prior)]
        simp [List.filterMap_eq_flatMap_toList]
  · intro first settled
    exact run.attentive.ended (delivered.filled_iff.mpr first) settled

/-- One receiver times out, one is dropped, and two race for the value. -/
def racingOccurrences : List (Occurrence String) :=
  [.start "late" (some 5), .start "lost" none, .work, .work, .work, .work,
    .pass 5, .work, .work, .drop "lost", .start "first" none,
    .start "second" (some 7), .work, .work, .work, .work, .work, .work,
    .send "value", .throw "error", .work, .work, .work, .work, .tryReceive]

/-- The value is handed out once, and all others find it taken. -/
theorem racing_delivered :
    let history := history racingOccurrences {}
    (history.filterMap Episode.answer? = [true, false]) ∧
      ((happenAll racingOccurrences {}).ended.map fun end_ =>
          (end_.name, end_.outcome)) =
        [("late", .error .timeout), ("first", .ok "value"),
          ("second", .error .alreadyTaken)] ∧
        Delivered history (happenAll racingOccurrences {}) := by
  intro history
  have run : Run {} history (happenAll racingOccurrences {}) :=
    .of_occurrences _ _
  exact ⟨by decide +kernel, by decide +kernel, (single_delivery run).2.1⟩

end Receivers

end Switchboard
