import Switchboard.Proofs.Session.History

/-!
# The first match is never lost

A wait that ends with an event ends with its first match: the first event of
its kind that satisfies its predicate and was offered after the subscription
was made.  Once there is a first match only the interrupt can keep the wait
from ending with it.  This holds however long probes take, so also where the
match arrives before the wait starts or while a probe is in progress.
-/

namespace Switchboard.Session

variable {episodes : List Episode} {episode : Episode}
  {before after session : Session} {task : TaskId}
  {result : Except WaitError Event} {event : Event}

/-- The subscription of a task, its registration and its wait are as they
were. -/
structure Untouched (task : TaskId) (before after : Session) : Prop where
  wait : after.waits[task]? = before.waits[task]?
  handoff : after.waiter.handoff task = before.waiter.handoff task
  registered : ∀ (kind : EventKind) (predicate : Event → Bool),
    ⟨task, predicate⟩ ∈ after.waiter.registered kind ↔
      ⟨task, predicate⟩ ∈ before.waiter.registered kind

/-- The subscription still stands, and the event that is offered next is its
first match. -/
def NewlyMatched (event : Event) (task : TaskId) (episodes : List Episode)
    (session : Session) : Prop :=
  session.Stands task ∧ firstMatch? task episodes = none ∧
    firstMatch? task (episodes ++ [⟨session, .dispatch event⟩]) =
      some (session.agenda.now, event)

namespace Kept

theorem matched_of_slot (kept : Kept episodes session)
    (stands : session.Stands task)
    (holds : (session.waiter.handoff task).slot = .value event) :
    ∃ moment, firstMatch? task episodes = some (moment, event) := by
  rw [kept.slots task stands] at holds
  cases first : firstMatch? task episodes with
  | none =>
      rw [first] at holds
      cases holds
  | some found =>
      rw [first] at holds
      cases holds
      exact ⟨found.1, rfl⟩

theorem slot_of_matched (kept : Kept episodes session)
    (stands : session.Stands task) {moment : Nat}
    (first : firstMatch? task episodes = some (moment, event)) :
    (session.waiter.handoff task).slot = .value event := by
  rw [kept.slots task stands, first]
  rfl

theorem ends_with_first_match (kept : Kept episodes episode.before)
    (ends : episode.Ends task (.ok event)) :
    ∃ moment, firstMatch? task episodes = some (moment, event) := by
  obtain ⟨entry, wait, found, stage, _, concludes⟩ := kept.concludes ends
  have stands : episode.before.Stands task := by
    refine ⟨entry, found, ?_⟩
    simp [stage]
  cases concludes with
  | event _ _ _ holds => exact kept.matched_of_slot stands holds
  | lateEvent _ _ _ _ _ _ holds => exact kept.matched_of_slot stands holds

theorem match_or_interrupted (kept : Kept episodes episode.before)
    (ends : episode.Ends task result) {moment : Nat}
    (first : firstMatch? task episodes = some (moment, event)) :
    result = .ok event ∨ result = .error .interrupted := by
  obtain ⟨entry, wait, found, stage, _, concludes⟩ := kept.concludes ends
  have stands : episode.before.Stands task := by
    refine ⟨entry, found, ?_⟩
    simp [stage]
  have holds := kept.slot_of_matched stands first
  cases concludes with
  | interrupted => exact .inr rfl
  | event _ _ _ same | lateEvent _ _ _ _ _ _ same =>
      left
      rw [holds] at same
      cases same
      rfl
  | timeout _ _ empty | found _ _ _ _ _ empty =>
      rw [holds] at empty
      cases empty

theorem fails_only_at_deadline (kept : Kept episodes session)
    {entry : SessionWait} {wait : Wait} {passed : Bool}
    {reason : HandoffError} (found : session.waits[task]? = some entry)
    (stage : entry.stage = .active wait)
    (fails : ((session.waiter.handoff wait.subscription).receive passed).1 =
      some (.error reason)) :
    reason = .timeout := by
  have own := (kept.own task entry found).2 wait stage
  have stands : session.Stands task := by
    refine ⟨entry, found, ?_⟩
    simp [stage]
  rw [own] at fails
  exact Handoff.timeout_of_receive_error (kept.slots task stands) fails

theorem mem_takers_iff (kept : Kept episodes session) :
    task ∈ session.waiter.takers event ↔
      session.NewlyMatched event task episodes := by
  unfold NewlyMatched
  constructor
  · intro member
    obtain ⟨stands, unmatched, _⟩ := kept.mem_takers.mp member
    refine ⟨stands, unmatched, ?_⟩
    rw [kept.firstMatch?_dispatched event stands, if_pos member]
  · rintro ⟨stands, unmatched, matched⟩
    rw [kept.firstMatch?_dispatched event stands] at matched
    split at matched
    · assumption
    · rw [unmatched] at matched
      cases matched

theorem untouched (kept : Kept episodes session)
    (spared : task ∉ session.waiter.takers event) :
    Untouched task session (session.dispatch event).2 := by
  obtain ⟨agenda, _, after⟩ := Woken.dispatch event session
  have wanting := kept.wanting event.kind
  rw [after]
  constructor
  · rfl
  · exact (Waiter.handoff_dispatch wanting task).trans (if_neg spared)
  · intro kind predicate
    obtain ⟨_, listed⟩ := Waiter.register_fillAll event
      (session.waiter.takers event) kept.tidy
    have filtered : (session.waiter.dispatch event).2.registered kind =
        (session.waiter.registered kind).filter
          (·.id ∉ session.waiter.takers event) := by
      rw [Waiter.dispatch_eq wanting]
      exact listed kind
    dsimp only
    rw [filtered]
    simp [spared]

theorem dispatch_count (kept : Kept episodes session) (event : Event) :
    (session.dispatch event).1 = (session.waiter.takers event).length := by
  rw [Session.dispatch, Waiter.dispatch_eq (kept.wanting event.kind)]

end Kept

/-- In every run a wait that ends with an event ends with its first match,
and a wait that has had a match ends with it or by its interrupt.  Giving up
at the deadline is the only way in which looking at a handoff fails.  An
event that is offered is counted once for each subscription that still stands
and whose first match it is, and no other subscription changes. -/
theorem first_match_never_lost (run : Run {} episodes session) :
    (∀ (earlier later : List Episode) (episode : Episode) (task : TaskId)
        (result : Except WaitError Event),
      episodes = earlier ++ episode :: later → episode.Ends task result →
        (∀ event, result = .ok event →
          ∃ moment, firstMatch? task earlier = some (moment, event)) ∧
        ∀ moment event, firstMatch? task earlier = some (moment, event) →
          result = .ok event ∨ result = .error .interrupted) ∧
    (∀ (task : TaskId) (entry : SessionWait) (wait : Wait) (passed : Bool)
        (reason : HandoffError), session.waits[task]? = some entry →
      entry.stage = .active wait →
        ((session.waiter.handoff wait.subscription).receive passed).1 =
          some (.error reason) → reason = .timeout) ∧
    ∀ event, ∃ taken : List TaskId, taken.Nodup ∧
      (∀ task, task ∈ taken ↔ session.NewlyMatched event task episodes) ∧
      (session.dispatch event).1 = taken.length ∧
      ∀ other ∉ taken, Untouched other session (session.dispatch event).2 := by
  have kept := run.kept
  refine ⟨?_, ?_, ?_⟩
  · intro earlier later episode task result split ends
    subst split
    have keptBefore := Run.kept run.split.1
    constructor
    · intro event same
      subst same
      exact keptBefore.ends_with_first_match ends
    · intro moment event first
      exact keptBefore.match_or_interrupted ends first
  · intro task entry wait passed reason found stage fails
    exact kept.fails_only_at_deadline found stage fails
  · intro event
    refine ⟨session.waiter.takers event, ?_, ?_, ?_, ?_⟩
    · exact (kept.wanting event.kind).takers.1
    · intro task
      exact kept.mem_takers_iff
    · exact kept.dispatch_count event
    · intro other spared
      exact kept.untouched spared

/-- A greeting that arrives while a wait looks after its resource. -/
def lateGreeting : Event :=
  ⟨0, "user", "lobby", "lobby", .message "first" "hello"⟩

/-- A wait of 300 ms whose probe at the deadline takes 500 ms. -/
def slowCheck : List Occurrence :=
  [.subscribe "a" .message fun _ => true,
    .startWait "a" (some 300) (some ⟨"resource", none, 500⟩),
    .work, .work, .work, .pass 300, .work, .work, .work]

/-- The greeting is offered during the probe at the deadline, and the wait
that goes on after the probe ends with it. -/
theorem slowCheck_first_match_kept :
    let answered := slowCheck ++ [.dispatch lateGreeting, .pass 500, .work]
    (∃ task, NewlyMatched lateGreeting task (history slowCheck {})
      (happenAll slowCheck {})) ∧
    Episode.Ends 0 (.ok lateGreeting) ⟨happenAll answered {}, .work⟩ ∧
    ∃ moment, firstMatch? 0 (history answered {}) =
      some (moment, lateGreeting) := by
  intro answered
  have ends : Episode.Ends 0 (.ok lateGreeting)
      ⟨happenAll answered {}, .work⟩ := by
    refine ⟨rfl, by decide_cbv, (happenAll answered {}).waits.head
      (by decide_cbv), by decide_cbv, ?_⟩
    cbv
  refine ⟨?_, ends, ?_⟩
  · obtain ⟨_, _, counted⟩ :=
      first_match_never_lost (.of_occurrences slowCheck _)
    obtain ⟨taken, _, matched, count, _⟩ := counted lateGreeting
    have one : ((happenAll slowCheck {}).dispatch lateGreeting).1 = 1 := by
      decide_cbv
    obtain ⟨task, rfl⟩ := List.length_eq_one_iff.mp (count.symm.trans one)
    exact ⟨task, (matched task).mp (List.mem_singleton_self task)⟩
  · obtain ⟨kept, _⟩ :=
      first_match_never_lost (.of_occurrences (answered ++ [.work]) _)
    obtain ⟨ok, _⟩ := kept _ [] _ 0 (.ok lateGreeting)
      (history_append happen answered [.work] {}) ends
    exact ok lateGreeting rfl

end Switchboard.Session
