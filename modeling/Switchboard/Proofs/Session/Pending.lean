import Switchboard.Proofs.Session.Fate
import Switchboard.Proofs.Waiter.Moves

/-!
# Who is on the register

The register lists exactly the subscriptions that have not been handed an
event, that nobody has let go of, and whose wait has not ended, each of them
once and under its own kind.
-/

namespace Switchboard

namespace Waiter

variable {register : List (EventKind × List Subscription)}
  {kind : EventKind} {subscription : Subscription} {waiter : Waiter}
  {id : SubscriptionId}

theorem Tidy.listed_eq (tidy : Tidy register)
    {entry : EventKind × List Subscription} (member : entry ∈ register) :
    listed entry.1 register = entry.2 := by
  have kinds := tidy.kinds
  clear tidy
  induction register with
  | nil => cases member
  | cons first rest induction =>
      rw [List.map_cons, List.nodup_cons] at kinds
      rw [listed_cons]
      rcases List.mem_cons.mp member with rfl | later
      · rw [if_pos rfl]
      · have different : first.1 ≠ entry.1 := fun same =>
          kinds.1 (same ▸ List.mem_map_of_mem later)
        rw [if_neg different]
        exact induction later kinds.2

theorem exists_entry_of_mem_listed
    (member : subscription ∈ listed kind register) :
    ∃ subscriptions, (kind, subscriptions) ∈ register ∧
      subscription ∈ subscriptions := by
  induction register with
  | nil => cases member
  | cons first rest induction =>
      rw [listed_cons] at member
      split at member
      · rename_i same
        exact ⟨first.2, by rw [← same]; exact List.mem_cons_self, member⟩
      · obtain ⟨subscriptions, there, here⟩ := induction member
        exact ⟨subscriptions, List.mem_cons_of_mem _ there, here⟩

theorem Tidy.mem_listed_iff (tidy : Tidy register) :
    subscription ∈ listed kind register ↔
      ∃ subscriptions, (kind, subscriptions) ∈ register ∧
        subscription ∈ subscriptions := by
  refine ⟨exists_entry_of_mem_listed, ?_⟩
  rintro ⟨subscriptions, there, here⟩
  rw [tidy.listed_eq there]
  exact here

theorem Tidy.mem_entire_iff (tidy : Tidy register) :
    subscription ∈ entire register ↔
      ∃ kind, subscription ∈ listed kind register := by
  rw [entire, List.mem_flatMap]
  constructor
  · rintro ⟨entry, there, here⟩
    exact ⟨entry.1, tidy.mem_listed_iff.mpr ⟨entry.2, there, here⟩⟩
  · rintro ⟨kind, member⟩
    obtain ⟨subscriptions, there, here⟩ := tidy.mem_listed_iff.mp member
    exact ⟨(kind, subscriptions), there, here⟩

theorem registers_iff_mem_entire :
    waiter.Registers id ↔
      ∃ subscription ∈ entire waiter.register, subscription.id = id := by
  simp only [Registers, entire, List.mem_flatMap]
  constructor
  · rintro ⟨entry, there, subscription, here, same⟩
    exact ⟨subscription, ⟨entry, there, here⟩, same⟩
  · rintro ⟨subscription, ⟨entry, there, here⟩, same⟩
    exact ⟨entry, there, subscription, here, same⟩

theorem pending_eq (waiter : Waiter) :
    waiter.pending = (entire waiter.register).length := rfl

theorem Tidy.nodup_entire (tidy : Tidy register)
    (nodup : ∀ kind, ((listed kind register).map Subscription.id).Nodup)
    (apart : ∀ kind other one two, one ∈ listed kind register →
      two ∈ listed other register → one.id = two.id → kind = other) :
    ((entire register).map Subscription.id).Nodup := by
  rw [entire, List.map_flatMap, List.nodup_flatMap]
  constructor
  · intro entry member
    rw [← tidy.listed_eq member]
    exact nodup entry.1
  · have kinds := List.pairwise_map.mp tidy.kinds
    apply kinds.imp_of_mem
    intro one two here there different
    rw [Function.onFun, List.disjoint_left]
    intro id first second
    obtain ⟨a, listedOne, rfl⟩ := List.mem_map.mp first
    obtain ⟨b, listedTwo, same⟩ := List.mem_map.mp second
    apply different
    apply apart one.1 two.1 a b
    · rw [tidy.listed_eq here]
      exact listedOne
    · rw [tidy.listed_eq there]
      exact listedTwo
    · exact same.symm

end Waiter

namespace Session

namespace Episode

/-- A subscription is handed the event that is offered. -/
def Resolves (id : SubscriptionId) (episode : Episode) : Prop :=
  ∃ event, episode.occurrence = .dispatch event ∧
    id ∈ (episode.before.waiter.dispatch event).1

/-- A wait goes away without a result: it is dropped before it was started, or
it gets the floor and has been dropped. -/
def LetsGo (task : TaskId) (episode : Episode) : Prop :=
  (episode.Drops task ∧
    ∃ entry, episode.before.waits[task]? = some entry ∧
      entry.stage = .subscribed) ∨
  (episode.occurrence = .work ∧ episode.before.agenda.floor = some task ∧
    ∃ entry, episode.before.waits[task]? = some entry ∧
      entry.stage ≠ .subscribed ∧ entry.stage ≠ .ended ∧
      entry.dropped = true)

/-- A wait ends with a result or goes away without one. -/
def Leaves (task : TaskId) (episode : Episode) : Prop :=
  (∃ result, episode.Ends task result) ∨ episode.LetsGo task

end Episode

/-- A subscription that has not been handed an event, has not been let go of,
and whose wait has not ended. -/
structure Open (id : SubscriptionId) (episodes : List Episode) : Prop where
  unresolved : ∀ episode ∈ episodes, ¬episode.Resolves id
  unended : ∀ episode ∈ episodes, ∀ result, ¬episode.Ends id result
  held : ∀ episode ∈ episodes, ¬episode.LetsGo id

section

variable {task : TaskId} {episodes : List Episode} {episode : Episode}
  {session : Session} {entry next : SessionWait} {event : Event}

theorem Episode.Leaves.found (leaves : episode.Leaves task) :
    ∃ entry, episode.before.waits[task]? = some entry := by
  rcases leaves with ⟨_, _, _, entry, found, _⟩ |
    ⟨_, entry, found, _⟩ | ⟨_, _, entry, found, _⟩
  all_goals exact ⟨entry, found⟩

theorem Turn.leaves (turn : Turn task entry episode.before episode.after)
    (works : episode.occurrence = .work)
    (floor : episode.before.agenda.floor = some task)
    (found : episode.before.waits[task]? = some entry)
    (there : episode.after.waits[task]? = some next)
    (ended : next.stage = .ended) :
    entry.stage = .ended ∨ episode.Leaves task := by
  generalize reached : episode.after = after at turn there
  cases turn with
  | rests | waits =>
      obtain rfl := Option.some.inj (found.symm.trans there)
      exact .inl ended
  | discards started going given =>
      exact .inr (.inr (.inr ⟨works, floor, entry, found, started, going,
        given⟩))
  | ends wait result =>
      refine .inr (.inl ⟨result, works, floor, entry, found, ?_⟩)
      rw [reached]
      rfl
  | begins | probes | resumes =>
      obtain rfl := eq_change_of_modify found there
      cases ended

theorem Fate.leaves (fate : Fate task episodes episode entry next)
    (found : episode.before.waits[task]? = some entry)
    (there : episode.after.waits[task]? = some next)
    (ended : next.stage = .ended) :
    entry.stage = .ended ∨ episode.Leaves task := by
  cases fate with
  | beside _ alike => exact .inl (alike.stage.symm.trans ended)
  | passes | matched | lifted | interrupted | dropped => exact .inl ended
  | starts => cases ended
  | withdrawn drops subscribed =>
      exact .inr (.inr (.inl ⟨drops, entry, found, subscribed⟩))
  | finished _ before => exact .inl before
  | works _ works floor turn =>
      exact turn.leaves works floor found there ended

theorem Kept.ended_of_ends (kept : Kept episodes episode.before)
    {result : Except WaitError Event} (ends : episode.Ends task result)
    (there : episode.after.waits[task]? = some next) :
    next.stage = .ended := by
  obtain ⟨before, occurrence⟩ := episode
  obtain ⟨works, floor, entry, found, recorded⟩ := ends
  dsimp only at works floor found kept
  subst works
  rw [Episode.after, happen_work_of_floor floor] at recorded there
  have turn := kept.turn found
  generalize before.work task = after at turn recorded there
  cases turn with
  | ends =>
      obtain rfl := eq_change_of_modify found there
      rfl
  | _ =>
      have none : before.ended = before.ended ++ [_] := recorded
      simp at none

theorem Kept.ended_of_letsGo (kept : Kept episodes episode.before)
    (goes : episode.LetsGo task)
    (there : episode.after.waits[task]? = some next) :
    next.stage = .ended := by
  obtain ⟨before, occurrence⟩ := episode
  rcases goes with ⟨⟨name, drops, located⟩, entry, found, subscribed⟩ |
    ⟨works, floor, entry, found, started, going, dropped⟩
  · dsimp only at drops located found
    subst drops
    have after : Episode.after ⟨before, .drop name⟩ =
        before.drop name := rfl
    rw [after] at there
    rcases drop_cases located found with
      ⟨_, gone⟩ | ⟨ended, _⟩ | ⟨started, _⟩
    · rw [gone] at there
      obtain rfl := eq_change_of_modify found there
      rfl
    · rw [ended] at subscribed
      cases subscribed
    · exact absurd subscribed started
  · dsimp only at works floor found kept
    subst works
    rw [Episode.after, happen_work_of_floor floor] at there
    have turn := kept.turn found
    generalize before.work task = after at turn there
    cases turn with
    | rests idle => exact absurd idle (not_or.mpr ⟨started, going⟩)
    | discards =>
        obtain rfl := eq_change_of_modify found there
        rfl
    | begins _ _ held | ends _ _ _ _ _ held | probes _ _ _ held
    | resumes _ _ _ _ held | waits _ _ held =>
        cases dropped.symm.trans held

theorem Kept.ended_of_leaves (kept : Kept episodes episode.before)
    (leaves : episode.Leaves task)
    (there : episode.after.waits[task]? = some next) :
    next.stage = .ended := by
  rcases leaves with ⟨result, ends⟩ | goes
  · exact kept.ended_of_ends ends there
  · exact kept.ended_of_letsGo goes there

theorem Kept.stands_after (kept : Kept episodes episode.before)
    (found : episode.before.waits[task]? = some entry) :
    episode.after.Stands task ↔
      episode.before.Stands task ∧ ¬episode.Leaves task := by
  obtain ⟨next, there, fate⟩ := kept.fate found
  constructor
  · rintro ⟨same, also, going⟩
    obtain rfl := Option.some.inj (also.symm.trans there)
    refine ⟨⟨entry, found, fun ended => ?_⟩, fun leaves => ?_⟩
    · exact going (fate.ended found there ended)
    · exact going (kept.ended_of_leaves leaves there)
  · rintro ⟨⟨same, also, going⟩, stays⟩
    obtain rfl := Option.some.inj (also.symm.trans found)
    refine ⟨next, there, fun ended => ?_⟩
    rcases fate.leaves found there ended with before | leaves
    · exact going before
    · exact stays leaves

theorem Kept.resolves_iff (kept : Kept episodes session) :
    Episode.Resolves task ⟨session, .dispatch event⟩ ↔
      task ∈ session.waiter.takers event := by
  have taken : (session.waiter.dispatch event).1 =
      session.waiter.takers event := by
    rw [Waiter.dispatch_eq (kept.wanting event.kind)]
  constructor
  · rintro ⟨same, dispatched, member⟩
    cases dispatched
    exact taken ▸ member
  · intro member
    exact ⟨event, rfl, taken.symm ▸ member⟩

theorem Kept.known_of_resolves (kept : Kept episodes episode.before)
    (resolves : episode.Resolves task) :
    task < episode.before.waits.length := by
  obtain ⟨before, occurrence⟩ := episode
  obtain ⟨event, dispatched, _⟩ := resolves
  dsimp only at dispatched kept ⊢
  subst dispatched
  obtain ⟨_, below⟩ := (kept.wanting event.kind).takers
  rw [← kept.handoffs]
  exact below task (kept.resolves_iff.mp ⟨event, rfl, ‹_›⟩)

theorem Run.length_le {earlier later : List Episode}
    (run : Run {} (earlier ++ episode :: later) session) :
    episode.before.waits.length ≤ session.waits.length := by
  rw [← run.kept.asked, ← (Run.kept run.split.1).asked, wishes, wishes,
    List.filterMap_append, List.length_append]
  exact Nat.le_add_right _ _

/-- What has been handed an event or has left has been there. -/
theorem Run.known (run : Run {} episodes session) (member : episode ∈ episodes)
    (happened : episode.Resolves task ∨ episode.Leaves task) :
    task < session.waits.length := by
  obtain ⟨earlier, later, rfl⟩ := List.append_of_mem member
  apply Nat.lt_of_lt_of_le _ run.length_le
  rcases happened with resolves | leaves
  · exact (Run.kept run.split.1).known_of_resolves resolves
  · obtain ⟨entry, found⟩ := leaves.found
    exact (List.getElem?_eq_some_iff.mp found).1

/-- Whoever was not there before has not left, and does not leave. -/
theorem Run.stays_of_absent (run : Run {} episodes episode.before)
    (absent : episode.before.waits[task]? = none) :
    ∀ other ∈ episodes ++ [episode], ¬other.Leaves task := by
  intro other member leaves
  rcases List.mem_append.mp member with past | now
  · exact Nat.not_lt.mpr (List.getElem?_eq_none_iff.mp absent)
      (run.known past (.inr leaves))
  · cases List.mem_singleton.mp now
    obtain ⟨entry, here⟩ := leaves.found
    cases absent.symm.trans here

theorem Kept.stands_of_absent (kept : Kept episodes episode.before)
    (absent : episode.before.waits[task]? = none) :
    episode.after.Stands task ↔ task < episode.after.waits.length := by
  constructor
  · rintro ⟨next, there, _⟩
    exact (List.getElem?_eq_some_iff.mp there).1
  · intro below
    have there := List.getElem?_eq_getElem below
    obtain ⟨_, name, new⟩ := kept.newcomer absent there
    exact ⟨_, there, by rw [new]; simp⟩

/-- A wait goes on as long as it has not left. -/
theorem Run.stands_iff (run : Run {} episodes session) :
    session.Stands task ↔ task < (wishes episodes).length ∧
      ∀ episode ∈ episodes, ¬episode.Leaves task := by
  induction run with
  | start =>
      constructor
      · rintro ⟨entry, found, _⟩
        cases found
      · rintro ⟨below, _⟩
        cases below
  | @next earlier before occurrence run induction =>
      have kept : Kept earlier (Happening.mk before occurrence).before :=
        Run.kept run
      cases found : before.waits[task]? with
      | some entry =>
          have known := (List.getElem?_eq_some_iff.mp found).1
          have stands := kept.stands_after found
          have below : task < (wishes earlier).length := by
            rw [kept.asked]
            exact known
          have later : task <
              (wishes (earlier ++ [⟨before, occurrence⟩])).length := by
            rw [wishes, List.filterMap_append, List.length_append]
            exact Nat.lt_of_lt_of_le below (Nat.le_add_right _ _)
          rw [induction] at stands
          simp only [below, true_and] at stands
          simp only [later, true_and, List.forall_mem_append,
            List.forall_mem_singleton]
          exact stands
      | none =>
          rw [(kept.happen occurrence).asked]
          exact (kept.stands_of_absent found).trans
            (and_iff_left (Run.stays_of_absent run found)).symm

theorem Kept.unmatched_concat (kept : Kept episodes episode.before)
    (stands : episode.before.Stands task) :
    firstMatch? task (episodes ++ [episode]) = none ↔
      firstMatch? task episodes = none ∧ ¬episode.Resolves task := by
  obtain ⟨before, occurrence⟩ := episode
  cases occurrence with
  | dispatch event =>
      rw [kept.firstMatch?_dispatched event stands, kept.resolves_iff]
      split
      · rename_i taken
        simp [taken]
      · rename_i refused
        simp [refused]
  | subscribe name kind predicate =>
      rw [kept.firstMatch?_subscribe]
      simp [Episode.Resolves]
  | _ =>
      rw [firstMatch?_append_quiet rfl rfl]
      simp [Episode.Resolves]

/-- Whoever still waits has been handed an event just if there was one for
it. -/
theorem Run.unmatched_iff (run : Run {} episodes session)
    (stands : session.Stands task) :
    firstMatch? task episodes = none ↔
      ∀ episode ∈ episodes, ¬episode.Resolves task := by
  induction run with
  | start => simp [firstMatch?, wishes]
  | @next earlier before occurrence run induction =>
      have kept : Kept earlier (Happening.mk before occurrence).before :=
        Run.kept run
      cases found : before.waits[task]? with
      | some entry =>
          have stood := ((kept.stands_after found).mp stands).1
          rw [List.forall_mem_append, List.forall_mem_singleton,
            ← induction stood]
          exact kept.unmatched_concat stood
      | none =>
          -- A subscription that is made in this step has heard of nothing.
          have beyond := List.getElem?_eq_none_iff.mp found
          have nothing := firstMatch?_of_no_offers (kept.unheard task beyond)
          obtain ⟨next, there, _⟩ := stands
          obtain ⟨⟨name, kind, predicate, subscribes⟩, _⟩ :=
            kept.newcomer found there
          dsimp only at subscribes
          subst subscribes
          rw [kept.firstMatch?_subscribe, nothing]
          refine iff_of_true rfl fun episode member resolves => ?_
          rcases List.mem_append.mp member with past | now
          · exact Nat.not_lt.mpr beyond (Run.known run past (.inl resolves))
          · cases List.mem_singleton.mp now
            obtain ⟨_, dispatched, _⟩ := resolves
            cases dispatched

/-- The wait has been dropped, and has ended or is about to. -/
def Heeds (task : TaskId) (entry : SessionWait) (session : Session) : Prop :=
  entry.stage = .ended ∨
    (entry.stage ≠ .subscribed ∧ entry.dropped = true ∧
      session.Attends task)

theorem Episode.Drops.heeded (drops : episode.Drops task)
    (found : episode.before.waits[task]? = some entry)
    (there : episode.after.waits[task]? = some next) :
    Heeds task next episode.after := by
  obtain ⟨before, occurrence⟩ := episode
  obtain ⟨name, dropped, located⟩ := drops
  dsimp only at dropped located found
  subst dropped
  have after : Episode.after ⟨before, .drop name⟩ = before.drop name := rfl
  rw [after] at there ⊢
  rcases drop_cases located found with
    ⟨_, gone⟩ | ⟨ended, same⟩ | ⟨started, marked⟩
  · rw [gone] at there
    obtain rfl := eq_change_of_modify found there
    exact .inl rfl
  · rw [same] at there
    obtain rfl := Option.some.inj (found.symm.trans there)
    exact .inl ended
  · rw [marked] at there ⊢
    obtain rfl := eq_change_of_modify found there
    exact .inr ⟨started, rfl, attends_wake task _⟩

theorem attends_after_pass {span : Nat}
    (passes : episode.occurrence = .pass span)
    (attends : episode.before.Attends task) : episode.after.Attends task := by
  obtain ⟨before, occurrence⟩ := episode
  dsimp only at passes attends
  subst passes
  have longer := Agenda.Extends.wakeAll
    (Machine.dueTasks (before.agenda.now + span) before)
    { before.agenda with now := before.agenda.now + span }
  rcases attends with floor | ready
  · exact .inl (longer.floor.trans floor)
  · exact .inr (longer.ready.subset ready)

theorem Fate.heeds (fate : Fate task episodes episode entry next)
    (found : episode.before.waits[task]? = some entry)
    (there : episode.after.waits[task]? = some next)
    (heeds : Heeds task entry episode.before) :
    Heeds task next episode.after := by
  rcases heeds with ended | ⟨started, dropped, attends⟩
  · exact .inl (fate.ended found there ended)
  · cases fate with
    | beside _ alike steady =>
        refine .inr ⟨?_, ?_, steady.attends attends⟩
        · rw [alike.stage]
          exact started
        · rw [alike.dropped]
          exact dropped
    | passes span passes =>
        exact .inr ⟨started, dropped, attends_after_pass passes attends⟩
    | starts _ _ _ subscribed => exact absurd subscribed started
    | matched _ _ steady | lifted _ steady | interrupted _ steady =>
        exact .inr ⟨started, dropped, steady.attends attends⟩
    | dropped _ _ steady =>
        exact .inr ⟨started, rfl, steady.attends attends⟩
    | withdrawn _ subscribed => exact absurd subscribed started
    | finished _ _ ended => exact .inl ended
    | works _ _ floor turn =>
        left
        generalize episode.after = after at turn there
        cases turn with
        | rests idle =>
            obtain rfl := Option.some.inj (found.symm.trans there)
            exact idle.resolve_left started
        | discards =>
            obtain rfl := eq_change_of_modify found there
            rfl
        | begins _ _ held | ends _ _ _ _ _ held | probes _ _ _ held
        | resumes _ _ _ _ held | waits _ _ held =>
            cases dropped.symm.trans held

theorem Run.heeds (run : Run {} episodes session)
    (found : session.waits[task]? = some entry)
    (dropped : Dropped task episodes) : Heeds task entry session := by
  induction run generalizing entry with
  | start => cases found
  | @next earlier before occurrence run induction =>
      have kept : Kept earlier (Happening.mk before occurrence).before :=
        Run.kept run
      obtain ⟨episode, member, drops⟩ := dropped
      rcases List.mem_append.mp member with past | now
      · have known : task < before.waits.length := by
          obtain ⟨first, rest, rfl⟩ := List.append_of_mem past
          obtain ⟨name, _, located⟩ := drops
          exact Nat.lt_of_lt_of_le (locate?_known located) (Run.length_le run)
        have here := List.getElem?_eq_getElem known
        obtain ⟨next, there, fate⟩ := kept.fate here
        obtain rfl := Option.some.inj (there.symm.trans found)
        exact fate.heeds here there
          (induction here ⟨episode, past, drops⟩)
      · cases List.mem_singleton.mp now
        obtain ⟨name, _, located⟩ := id drops
        have here := List.getElem?_eq_getElem (locate?_known located)
        exact Episode.Drops.heeded drops here found

/-- A wait goes away only if it has been dropped. -/
theorem Run.dropped_of_letsGo (run : Run {} episodes session)
    (member : episode ∈ episodes) (goes : episode.LetsGo task) :
    Dropped task episodes := by
  obtain ⟨earlier, later, rfl⟩ := List.append_of_mem member
  rcases goes with ⟨drops, _⟩ |
    ⟨_, _, entry, found, _, going, dropped⟩
  · exact ⟨episode, member, drops⟩
  · have past := run.split.1
    rcases Run.finished_cases past found (.inr dropped) with
      ⟨culprit, before, drops⟩ | ⟨ending, before, result, ends⟩
    · exact ⟨culprit, List.mem_append_left _ before, drops⟩
    · have stands : episode.before.Stands task := ⟨entry, found, going⟩
      exact absurd (Or.inl ⟨result, ends⟩)
        (((Run.stands_iff past).mp stands).2 ending before)

/-- When all waits have settled every wait that was dropped has ended. -/
theorem Run.not_stands_of_dropped (run : Run {} episodes session)
    (settled : session.Settled) (dropped : Dropped task episodes) :
    ¬session.Stands task := by
  rintro ⟨entry, found, going⟩
  rcases run.heeds found dropped with ended | ⟨_, _, attends⟩
  · exact going ended
  · exact attends.not_settled settled

theorem open_iff :
    Open task episodes ↔ (∀ episode ∈ episodes, ¬episode.Resolves task) ∧
      ∀ episode ∈ episodes, ¬episode.Leaves task := by
  constructor
  · intro open_
    refine ⟨open_.unresolved, fun episode member leaves => ?_⟩
    rcases leaves with ⟨result, ends⟩ | goes
    · exact open_.unended episode member result ends
    · exact open_.held episode member goes
  · rintro ⟨unresolved, going⟩
    exact ⟨unresolved,
      fun episode member result ends =>
        going episode member (.inl ⟨result, ends⟩),
      fun episode member goes => going episode member (.inr goes)⟩

/-- What the register lists for a kind. -/
theorem Run.mem_listed_iff (run : Run {} episodes session) {kind : EventKind}
    {subscription : Subscription} :
    subscription ∈ session.waiter.registered kind ↔
      (wishes episodes)[subscription.id]? =
          some ⟨kind, subscription.predicate⟩ ∧
        Open subscription.id episodes := by
  rw [run.kept.registered, open_iff]
  constructor
  · rintro ⟨asks, stands, unmatched⟩
    exact ⟨asks, (run.unmatched_iff stands).mp unmatched,
      (run.stands_iff.mp stands).2⟩
  · rintro ⟨asks, unresolved, going⟩
    have stands : session.Stands subscription.id :=
      run.stands_iff.mpr ⟨(List.getElem?_eq_some_iff.mp asks).1, going⟩
    exact ⟨asks, stands, (run.unmatched_iff stands).mpr unresolved⟩

theorem Run.registers_iff (run : Run {} episodes session) :
    session.waiter.Registers task ↔
      task < (wishes episodes).length ∧ Open task episodes := by
  rw [Waiter.registers_iff_mem_entire]
  simp only [run.kept.tidy.mem_entire_iff, ← Waiter.registered_eq,
    run.mem_listed_iff]
  constructor
  · rintro ⟨subscription, ⟨kind, asks, open_⟩, rfl⟩
    exact ⟨(List.getElem?_eq_some_iff.mp asks).1, open_⟩
  · rintro ⟨below, open_⟩
    exact ⟨⟨task, (wishes episodes)[task].predicate⟩,
      ⟨(wishes episodes)[task].kind, List.getElem?_eq_getElem below, open_⟩,
      rfl⟩

theorem Run.nodup_entire (run : Run {} episodes session) :
    ((Waiter.entire session.waiter.register).map Subscription.id).Nodup := by
  apply run.kept.tidy.nodup_entire run.kept.nodup
  intro kind other one two listed also same
  obtain ⟨asks, _⟩ := run.mem_listed_iff.mp listed
  obtain ⟨asksToo, _⟩ := run.mem_listed_iff.mp also
  rw [same] at asks
  exact congrArg Wish.kind (Option.some.inj (asks.symm.trans asksToo))

/-- Whoever has been handed an event is off the register from then on. -/
theorem Run.not_registers_of_resolves (run : Run {} episodes session)
    (member : episode ∈ episodes) (resolves : episode.Resolves task) :
    ¬session.waiter.Registers task := fun listed =>
  (run.registers_iff.mp listed).2.unresolved episode member resolves

/-- When all waits have settled only the requests to drop a wait count. -/
theorem Run.open_iff_of_settled (run : Run {} episodes session)
    (settled : session.Settled) (known : task < (wishes episodes).length) :
    Open task episodes ↔
      (∀ episode ∈ episodes, ¬episode.Resolves task) ∧
      (∀ episode ∈ episodes, ∀ result, ¬episode.Ends task result) ∧
      ¬Dropped task episodes := by
  constructor
  · intro open_
    refine ⟨open_.unresolved, open_.unended, fun dropped => ?_⟩
    have going := (open_iff.mp open_).2
    exact run.not_stands_of_dropped settled dropped
      (run.stands_iff.mpr ⟨known, going⟩)
  · rintro ⟨unresolved, unended, held⟩
    exact ⟨unresolved, unended, fun episode member goes =>
      held (run.dropped_of_letsGo member goes)⟩

/-- In every run the register lists, each once and under its own kind and with
no empty entry, exactly the open subscriptions.  So as many are pending as are
open; whoever has been handed an event is off the register before anything else
happens and stays off it; and when nobody is open any more, as when all waits
have ended, the register is empty.  Only a wait that is dropped goes away
without a result, and once all waits have settled all that were dropped have
gone. -/
theorem register_lists_open (run : Run {} episodes session) :
    Waiter.Tidy session.waiter.register ∧
    ((Waiter.entire session.waiter.register).map Subscription.id).Nodup ∧
    (∀ kind subscription,
      (∃ subscriptions, (kind, subscriptions) ∈ session.waiter.register ∧
        subscription ∈ subscriptions) ↔
      (wishes episodes)[subscription.id]? =
          some ⟨kind, subscription.predicate⟩ ∧
        Open subscription.id episodes) ∧
    (∃ ids : List SubscriptionId, ids.Nodup ∧
      (∀ id, id ∈ ids ↔
        id < (wishes episodes).length ∧ Open id episodes) ∧
      session.waiter.pending = ids.length) ∧
    (∀ earlier later episode id, episodes = earlier ++ episode :: later →
      episode.Resolves id →
        (∀ next ∈ later, ¬next.before.waiter.Registers id) ∧
        ¬session.waiter.Registers id) ∧
    ((∀ id < (wishes episodes).length, ¬Open id episodes) →
      session.waiter.register = []) ∧
    (∀ id, ∀ episode ∈ episodes, episode.LetsGo id → Dropped id episodes) ∧
    (session.Settled → ∀ id < (wishes episodes).length,
      (Open id episodes ↔
        (∀ episode ∈ episodes, ¬episode.Resolves id) ∧
        (∀ episode ∈ episodes, ∀ result, ¬episode.Ends id result) ∧
        ¬Dropped id episodes)) := by
  have tidy := run.kept.tidy
  refine ⟨tidy, run.nodup_entire, ?_, ?_, ?_, ?_, ?_, ?_⟩
  · intro kind subscription
    rw [← tidy.mem_listed_iff, ← Waiter.registered_eq, run.mem_listed_iff]
  · refine ⟨(Waiter.entire session.waiter.register).map Subscription.id,
      run.nodup_entire, fun id => ?_, ?_⟩
    · rw [List.mem_map, ← Waiter.registers_iff_mem_entire, run.registers_iff]
    · rw [Waiter.pending_eq, List.length_map]
  · rintro earlier later episode id rfl resolves
    refine ⟨fun next member => ?_, ?_⟩
    · obtain ⟨between, rest, rfl⟩ := List.append_of_mem member
      rw [← List.cons_append, ← List.append_assoc] at run
      apply Run.not_registers_of_resolves run.split.1 _ resolves
      exact List.mem_append_right _ List.mem_cons_self
    · apply run.not_registers_of_resolves _ resolves
      exact List.mem_append_right _ List.mem_cons_self
  · intro nobody
    by_contra filled
    obtain ⟨entry, rest, cons⟩ := List.exists_cons_of_ne_nil filled
    have member : entry ∈ session.waiter.register := by simp [cons]
    obtain ⟨subscription, here⟩ :=
      List.exists_mem_of_ne_nil _ (tidy.filled entry member)
    obtain ⟨below, open_⟩ :=
      run.registers_iff.mp ⟨entry, member, subscription, here, rfl⟩
    exact nobody _ below open_
  · intro id episode member goes
    exact run.dropped_of_letsGo member goes
  · intro settled id known
    exact run.open_iff_of_settled settled known

end

/-- A wait for a message, one for a reaction, and one that is too choosy and
has 100 ms. -/
def threeWaits : List Occurrence :=
  [.subscribe "a" .message fun _ => true,
    .subscribe "b" .reaction fun _ => true,
    .subscribe "c" .message fun _ => false,
    .startWait "c" (some 100) none, .work, .work, .work]

/-- A wait that is dropped at once, and the deadline of the choosy one. -/
def twoLeave : List Occurrence :=
  [.subscribe "d" .deletion fun _ => true, .drop "d", .pass 100, .work, .work]

def hello : Event :=
  ⟨0, "user", "lobby", "lobby", .message "first" "hello"⟩

/-- Of four subscriptions one is handed a message, one is dropped, one runs
into its deadline, and one is left on the register. -/
theorem threeWaits_one_open :
    let episodes := history threeWaits {} ++
      ⟨happenAll threeWaits {}, .dispatch hello⟩ ::
        history twoLeave ((happenAll threeWaits {}).happen (.dispatch hello))
    let session := happenAll (threeWaits ++ .dispatch hello :: twoLeave) {}
    session.Settled ∧ session.waiter.pending = 1 ∧
      (∃ id, id < (wishes episodes).length ∧ Open id episodes) ∧
      ¬session.waiter.Registers 0 := by
  intro episodes session
  have run : Run {} episodes session :=
    .of_split threeWaits twoLeave (.dispatch hello) _
  obtain ⟨_, _, _, ⟨ids, _, open_, count⟩, gone, _⟩ := register_lists_open run
  have settled : (happenAll (threeWaits ++ .dispatch hello :: twoLeave)
      {}).Settled := by decide_cbv
  have one : (happenAll (threeWaits ++ .dispatch hello :: twoLeave)
      {}).waiter.pending = 1 := by decide_cbv
  have resolves : Episode.Resolves 0
      ⟨happenAll threeWaits {}, .dispatch hello⟩ :=
    ⟨hello, rfl, by decide_cbv⟩
  obtain ⟨id, rfl⟩ := List.length_eq_one_iff.mp (count.symm.trans one)
  exact ⟨settled, one, ⟨id, (open_ id).mp (List.mem_singleton_self id)⟩,
    (gone _ _ _ 0 rfl resolves).2⟩

end Session

end Switchboard
