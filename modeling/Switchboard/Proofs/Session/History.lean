import Switchboard.Proofs.Session.Turn

/-!
# The register and the history

What subscriptions ask for and which events were offered to them is read off
the history of a run.  The first event that a subscription asks for and that
was offered since it was made is its first match.  As long as the wait on a
subscription has not ended its handoff holds the first match and nothing else,
and it is on the register until there is one.
-/

namespace Switchboard

namespace Session

namespace Episode

/-- What the subscription asks for that is made. -/
def wish? (episode : Episode) : Option Wish :=
  match episode.occurrence with
  | .subscribe _ kind predicate => some { kind, predicate }
  | _ => none

/-- The event that is offered while the subscription of a task exists, with
its moment. -/
def offer? (task : TaskId) (episode : Episode) : Option (Nat × Event) :=
  match episode.occurrence with
  | .dispatch event =>
    if task < episode.before.waits.length then some (episode.moment, event)
    else none
  | _ => none

end Episode

/-- What the subscriptions ask for, in the order in which they were made. -/
def wishes (episodes : List Episode) : List Wish :=
  episodes.filterMap Episode.wish?

/-- The events offered since the subscription of a task was made. -/
def offers (task : TaskId) (episodes : List Episode) : List (Nat × Event) :=
  episodes.filterMap (Episode.offer? task)

/-- The first event offered since a subscription was made that it asks for,
with its moment. -/
def firstMatch? (task : TaskId) (episodes : List Episode) :
    Option (Nat × Event) :=
  (wishes episodes)[task]?.bind fun wish =>
    (offers task episodes).find? (wish.accepts ·.2)

section Histories

variable {task : TaskId} {episodes : List Episode} {episode : Episode}
  {wish : Wish} {event : Event} {session : Session}

theorem wishes_append_silent (silent : episode.wish? = none) :
    wishes (episodes ++ [episode]) = wishes episodes := by
  simp [wishes, silent]

theorem offers_append_unheard (unheard : episode.offer? task = none) :
    offers task (episodes ++ [episode]) = offers task episodes := by
  simp [offers, unheard]

theorem firstMatch?_append_quiet (silent : episode.wish? = none)
    (unheard : episode.offer? task = none) :
    firstMatch? task (episodes ++ [episode]) = firstMatch? task episodes := by
  rw [firstMatch?, wishes_append_silent silent,
    offers_append_unheard unheard, firstMatch?]

theorem firstMatch?_dispatch (asks : (wishes episodes)[task]? = some wish)
    (known : task < session.waits.length) :
    firstMatch? task (episodes ++ [⟨session, .dispatch event⟩]) =
      (firstMatch? task episodes).or
        (if wish.accepts event then some (session.agenda.now, event)
          else none) := by
  have offered : Episode.offer? task ⟨session, .dispatch event⟩ =
      some (session.agenda.now, event) := by
    simp [Episode.offer?, known, Episode.moment]
  have silent : Episode.wish? ⟨session, .dispatch event⟩ = none := rfl
  rw [firstMatch?, wishes_append_silent silent, firstMatch?, asks]
  simp only [Option.bind_some, offers, List.filterMap_append,
    List.find?_append, List.filterMap_cons, offered, List.filterMap_nil,
    List.find?_cons, List.find?_nil]
  cases wish.accepts event <;> rfl

theorem firstMatch?_of_no_offers (nothing : offers task episodes = []) :
    firstMatch? task episodes = none := by
  simp [firstMatch?, nothing]

end Histories

/-- The wait on a subscription has not ended. -/
def Stands (task : TaskId) (session : Session) : Prop :=
  ∃ entry, session.waits[task]? = some entry ∧ entry.stage ≠ .ended

/-- What a session keeps, told by the history that led to it. -/
structure Kept (episodes : List Episode) (session : Session) : Prop where
  asked : (wishes episodes).length = session.waits.length
  handoffs : session.waiter.handoffs.length = session.waits.length
  unheard : ∀ task, session.waits.length ≤ task → offers task episodes = []
  own : ∀ (task : TaskId) (entry : SessionWait),
    session.waits[task]? = some entry → entry.subscription = task ∧
      ∀ wait, entry.stage = .active wait → wait.subscription = task
  slots : ∀ task, session.Stands task →
    (session.waiter.handoff task).slot =
      .holding ((firstMatch? task episodes).map (·.2))
  tidy : Waiter.Tidy session.waiter.register
  nodup : ∀ kind,
    ((session.waiter.registered kind).map Subscription.id).Nodup
  registered : ∀ (kind : EventKind) (subscription : Subscription),
    subscription ∈ session.waiter.registered kind ↔
      (wishes episodes)[subscription.id]? =
          some ⟨kind, subscription.predicate⟩ ∧
        session.Stands subscription.id ∧
          firstMatch? subscription.id episodes = none

end Session

/-- The wait is the same and has ended if it had ended before. -/
structure SessionWait.Continues (entry next : SessionWait) : Prop where
  subscription : next.subscription = entry.subscription
  ended : next.stage = .ended ↔ entry.stage = .ended
  own : ∀ wait, next.stage = .active wait →
    wait.subscription = entry.subscription ∨ ∃ before : Wait,
      entry.stage = .active before ∧
        wait.subscription = before.subscription

theorem SessionWait.Continues.of_stage {entry next : SessionWait}
    (subscription : next.subscription = entry.subscription)
    (stage : next.stage = entry.stage) : entry.Continues next where
  subscription := subscription
  ended := by rw [stage]
  own := fun wait active => .inr ⟨wait, stage ▸ active, rfl⟩

namespace Session

variable {episodes : List Episode} {episode : Episode}
  {before after session : Session} {task other : TaskId}
  {entry : SessionWait} {change : SessionWait → SessionWait}

theorem modify_cases {waits : List SessionWait}
    (there : (waits.modify task change)[other]? = some entry) :
    (other ≠ task ∧ waits[other]? = some entry) ∨
      (other = task ∧ ∃ old, waits[task]? = some old ∧ entry = change old) := by
  rw [List.getElem?_modify] at there
  obtain ⟨old, here, rfl⟩ := Option.map_eq_some_iff.mp there
  by_cases same : task = other
  · subst same
    exact .inr ⟨rfl, old, here, by simp⟩
  · exact .inl ⟨Ne.symm same, by simpa [same] using here⟩

theorem getElem?_modify_self {waits : List SessionWait}
    (here : waits[task]? = some entry) :
    (waits.modify task change)[task]? = some (change entry) := by
  simp [here]

theorem eq_change_of_modify {waits : List SessionWait} {next : SessionWait}
    (here : waits[task]? = some entry)
    (there : (waits.modify task change)[task]? = some next) :
    next = change entry :=
  Option.some.inj (there.symm.trans (getElem?_modify_self here))

theorem getElem?_modify_of_ne {waits : List SessionWait}
    (different : other ≠ task) :
    (waits.modify task change)[other]? = waits[other]? := by
  simp [Ne.symm different]

theorem wishes_subscribe (name : String) (kind : EventKind)
    (predicate : Event → Bool) :
    wishes (episodes ++ [⟨session, .subscribe name kind predicate⟩]) =
      wishes episodes ++ [⟨kind, predicate⟩] := by
  simp [wishes, Episode.wish?]

theorem Stands.below (stands : session.Stands task) :
    task < session.waits.length := by
  obtain ⟨entry, found, _⟩ := stands
  exact (List.getElem?_eq_some_iff.mp found).1

namespace Kept

theorem start : Kept [] {} where
  asked := rfl
  handoffs := rfl
  unheard := fun _ _ => rfl
  own := by
    intro task entry found
    cases found
  slots := by
    intro task stands
    obtain ⟨entry, found, _⟩ := stands
    cases found
  tidy := ⟨List.nodup_nil, by simp⟩
  nodup := fun _ => List.nodup_nil
  registered := by
    intro kind subscription
    constructor
    · intro member
      cases member
    · rintro ⟨asks, _⟩
      cases asks

/-- Nothing is heard, and no wait ends. -/
theorem goesOn (kept : Kept episodes before)
    (silent : episode.wish? = none)
    (unheard : ∀ task, episode.offer? task = none)
    (waits : after.waits = before.waits.modify task change)
    (continues : ∀ entry, before.waits[task]? = some entry →
      entry.Continues (change entry))
    (slots : ∀ id, (after.waiter.handoff id).slot =
      (before.waiter.handoff id).slot)
    (handoffs : after.waiter.handoffs.length =
      before.waiter.handoffs.length)
    (register : after.waiter.register = before.waiter.register) :
    Kept (episodes ++ [episode]) after := by
  have stands : ∀ other, after.Stands other ↔ before.Stands other := by
    intro other
    unfold Stands
    rw [waits]
    constructor
    · rintro ⟨next, there, notEnded⟩
      rcases modify_cases there with ⟨_, here⟩ | ⟨rfl, old, here, rfl⟩
      · exact ⟨next, here, notEnded⟩
      · exact ⟨old, here, (not_congr (continues old here).ended).mp notEnded⟩
    · rintro ⟨old, here, notEnded⟩
      by_cases same : other = task
      · subst same
        exact ⟨_, getElem?_modify_self here,
          (not_congr (continues old here).ended).mpr notEnded⟩
      · exact ⟨old, (getElem?_modify_of_ne same).trans here, notEnded⟩
  have length : after.waits.length = before.waits.length := by
    rw [waits, List.length_modify]
  constructor
  · rw [wishes_append_silent silent, kept.asked, length]
  · rw [handoffs, kept.handoffs, length]
  · intro other beyond
    rw [offers_append_unheard (unheard other)]
    exact kept.unheard other (length ▸ beyond)
  · intro other next there
    rw [waits] at there
    rcases modify_cases there with ⟨_, here⟩ | ⟨rfl, old, here, rfl⟩
    · exact kept.own other next here
    · obtain ⟨subscription, owns⟩ := kept.own other old here
      have goes := continues old here
      refine ⟨goes.subscription.trans subscription, fun wait active => ?_⟩
      rcases goes.own wait active with same | ⟨earlier, stage, same⟩
      · exact same.trans subscription
      · exact same.trans (owns earlier stage)
  · intro other standing
    rw [slots, firstMatch?_append_quiet silent (unheard other)]
    exact kept.slots other ((stands other).mp standing)
  · rw [register]
    exact kept.tidy
  · intro kind
    rw [Waiter.registered_eq, register]
    exact kept.nodup kind
  · intro kind subscription
    rw [Waiter.registered_eq, register, wishes_append_silent silent,
      stands, firstMatch?_append_quiet silent (unheard _)]
    exact kept.registered kind subscription

/-- One wait ends, and its subscription comes off the register. -/
theorem ends (kept : Kept episodes before)
    (silent : episode.wish? = none)
    (unheard : ∀ task, episode.offer? task = none)
    (waits : after.waits = before.waits.modify task fun entry =>
      { entry with stage := .ended })
    (slots : ∀ id, id ≠ task → after.waiter.handoff id =
      before.waiter.handoff id)
    (handoffs : after.waiter.handoffs.length =
      before.waiter.handoffs.length)
    (register : after.waiter.register =
      Waiter.strike task before.waiter.register) :
    Kept (episodes ++ [episode]) after := by
  have stands : ∀ other, after.Stands other ↔
      before.Stands other ∧ other ≠ task := by
    intro other
    unfold Stands
    rw [waits]
    constructor
    · rintro ⟨next, there, notEnded⟩
      rcases modify_cases there with ⟨different, here⟩ | ⟨_, old, _, rfl⟩
      · exact ⟨⟨next, here, notEnded⟩, different⟩
      · exact absurd rfl notEnded
    · rintro ⟨⟨old, here, notEnded⟩, different⟩
      exact ⟨old, (getElem?_modify_of_ne different).trans here, notEnded⟩
  have length : after.waits.length = before.waits.length := by
    rw [waits, List.length_modify]
  have listed : ∀ kind, after.waiter.registered kind =
      (before.waiter.registered kind).filter (·.id ≠ task) := by
    intro kind
    rw [Waiter.registered_eq, register]
    exact Waiter.listed_strike kept.tidy.kinds kind task
  constructor
  · rw [wishes_append_silent silent, kept.asked, length]
  · rw [handoffs, kept.handoffs, length]
  · intro other beyond
    rw [offers_append_unheard (unheard other)]
    exact kept.unheard other (length ▸ beyond)
  · intro other next there
    rw [waits] at there
    rcases modify_cases there with ⟨_, here⟩ | ⟨rfl, old, here, rfl⟩
    · exact kept.own other next here
    · refine ⟨(kept.own other old here).1, fun wait active => ?_⟩
      cases active
  · intro other standing
    obtain ⟨stood, different⟩ := (stands other).mp standing
    rw [slots other different, firstMatch?_append_quiet silent
      (unheard other)]
    exact kept.slots other stood
  · rw [register]
    exact kept.tidy.strike task
  · intro kind
    rw [listed]
    exact (kept.nodup kind).sublist (List.filter_sublist.map _)
  · intro kind subscription
    rw [listed, List.mem_filter, kept.registered kind subscription,
      wishes_append_silent silent, stands,
      firstMatch?_append_quiet silent (unheard _), decide_eq_true_eq]
    constructor
    · rintro ⟨⟨asks, stood, unmatched⟩, different⟩
      exact ⟨asks, ⟨stood, different⟩, unmatched⟩
    · rintro ⟨asks, ⟨stood, different⟩, unmatched⟩
      exact ⟨⟨asks, stood, unmatched⟩, different⟩

theorem firstMatch?_subscribe (kept : Kept episodes session) (name : String)
    (kind : EventKind) (predicate : Event → Bool) (task : TaskId) :
    firstMatch? task
        (episodes ++ [⟨session, .subscribe name kind predicate⟩]) =
      firstMatch? task episodes := by
  have unheard : offers task
      (episodes ++ [⟨session, .subscribe name kind predicate⟩]) =
        offers task episodes :=
    offers_append_unheard rfl
  by_cases known : task < session.waits.length
  · rw [firstMatch?, wishes_subscribe, unheard, firstMatch?,
      List.getElem?_append_left (kept.asked ▸ known)]
  · have nothing := kept.unheard task (Nat.not_lt.mp known)
    rw [firstMatch?_of_no_offers (unheard.trans nothing),
      firstMatch?_of_no_offers nothing]

theorem waits_subscribe (kept : Kept episodes session) (name : String)
    (kind : EventKind) (predicate : Event → Bool) :
    (session.subscribe name kind predicate).2.waits =
      session.waits ++ [{ name, subscription := session.waits.length }] := by
  rw [← kept.handoffs]
  rfl

theorem stands_subscribe (kept : Kept episodes session) (name : String)
    (kind : EventKind) (predicate : Event → Bool) (task : TaskId) :
    (session.subscribe name kind predicate).2.Stands task ↔
      session.Stands task ∨ task = session.waits.length := by
  unfold Stands
  rw [kept.waits_subscribe]
  rcases Nat.lt_trichotomy task session.waits.length with
    known | rfl | beyond
  · rw [List.getElem?_append_left known]
    simp [Nat.ne_of_lt known]
  · simp
  · have absent : ∀ list : List SessionWait, list.length ≤ task →
        list[task]? = none := fun list => List.getElem?_eq_none
    rw [absent _ (by simp; omega), absent _ (Nat.le_of_lt beyond)]
    simp [Nat.ne_of_gt beyond]

theorem register_subscribe (kept : Kept episodes session) (name : String)
    (kind : EventKind) (predicate : Event → Bool) :
    (session.subscribe name kind predicate).2.waiter.register =
      Waiter.enlist kind ⟨session.waits.length, predicate⟩
        session.waiter.register := by
  rw [← kept.handoffs]
  rfl

theorem registered_subscribe (kept : Kept episodes session) (name : String)
    (kind : EventKind) (predicate : Event → Bool) (other : EventKind) :
    (session.subscribe name kind predicate).2.waiter.registered other =
      if kind = other then session.waiter.registered other ++
        [⟨session.waits.length, predicate⟩]
      else session.waiter.registered other := by
  rw [Waiter.registered_eq, kept.register_subscribe, Waiter.listed_enlist]
  rfl

theorem id_ne_length (kept : Kept episodes session) {kind : EventKind}
    {subscription : Subscription}
    (member : subscription ∈ session.waiter.registered kind) :
    subscription.id ≠ session.waits.length := by
  obtain ⟨_, stood, _⟩ := (kept.registered kind subscription).mp member
  exact Nat.ne_of_lt stood.below

/-- The register after a subscription. -/
theorem mem_registered_subscribe (kept : Kept episodes session)
    (name : String) (kind : EventKind) (predicate : Event → Bool)
    (other : EventKind) (subscription : Subscription) :
    subscription ∈
        (session.subscribe name kind predicate).2.waiter.registered other ↔
      (wishes episodes ++ [⟨kind, predicate⟩])[subscription.id]? =
          some ⟨other, subscription.predicate⟩ ∧
        (session.Stands subscription.id ∨
          subscription.id = session.waits.length) ∧
        firstMatch? subscription.id episodes = none := by
  have before := kept.registered other subscription
  rw [kept.registered_subscribe]
  by_cases new : subscription.id = session.waits.length
  · have absent : subscription ∉ session.waiter.registered other :=
      fun member => kept.id_ne_length member new
    have nothing := firstMatch?_of_no_offers
      (kept.unheard subscription.id (Nat.le_of_eq new.symm))
    have last : (wishes episodes ++
        [⟨kind, predicate⟩])[subscription.id]? =
          some ⟨kind, predicate⟩ := by
      rw [new, ← kept.asked]
      exact List.getElem?_concat_length
    rw [last, nothing]
    obtain ⟨id, wanted⟩ := subscription
    dsimp only at new
    subst new
    by_cases same : kind = other
    · subst same
      simp [absent, eq_comm]
    · simp [absent, same]
  · have old : (wishes episodes ++
        [⟨kind, predicate⟩])[subscription.id]? =
          (wishes episodes)[subscription.id]? := by
      have length := kept.asked
      rcases Nat.lt_or_gt_of_ne new with known | beyond
      · exact List.getElem?_append_left (length ▸ known)
      · rw [List.getElem?_eq_none (by simp; omega),
          List.getElem?_eq_none (by omega)]
    have notLast : subscription ≠ ⟨session.waits.length, predicate⟩ := by
      rintro rfl
      exact new rfl
    rw [old]
    simp only [new, or_false]
    rw [← before]
    split <;> simp [notLast]

/-- A subscription is made. -/
theorem subscribe (kept : Kept episodes session) (name : String)
    (kind : EventKind) (predicate : Event → Bool) :
    Kept (episodes ++ [⟨session, .subscribe name kind predicate⟩])
      (session.subscribe name kind predicate).2 := by
  have waits := kept.waits_subscribe name kind predicate
  have matched := kept.firstMatch?_subscribe name kind predicate
  have handoffs : (session.subscribe name kind predicate).2.waiter.handoffs =
      session.waiter.handoffs ++ [({} : Handoff Event)] := rfl
  constructor
  · rw [wishes_subscribe, waits]
    simp [kept.asked]
  · rw [handoffs, waits]
    simp [kept.handoffs]
  · intro task beyond
    rw [offers_append_unheard rfl]
    apply kept.unheard
    rw [waits, List.length_append] at beyond
    omega
  · intro task entry there
    rw [waits] at there
    rcases Nat.lt_trichotomy task session.waits.length with
      known | rfl | beyond
    · rw [List.getElem?_append_left known] at there
      exact kept.own task entry there
    · rw [List.getElem?_concat_length] at there
      cases there
      refine ⟨rfl, fun wait active => ?_⟩
      cases active
    · rw [List.getElem?_eq_none (by simp; omega)] at there
      cases there
  · intro task standing
    have same : (session.subscribe name kind predicate).2.waiter.handoff
        task = session.waiter.handoff task :=
      Waiter.handoff_subscribe kind predicate task session.waiter
    rw [same, matched]
    rcases (kept.stands_subscribe name kind predicate task).mp standing with
      stood | rfl
    · exact kept.slots task stood
    · rw [firstMatch?_of_no_offers (kept.unheard _ (Nat.le_refl _)),
        Waiter.handoff, List.getElem?_eq_none (Nat.le_of_eq kept.handoffs)]
      rfl
  · rw [kept.register_subscribe]
    exact kept.tidy.enlist kind _
  · intro other
    rw [kept.registered_subscribe]
    split
    · rw [List.map_append, List.nodup_append]
      refine ⟨kept.nodup other, by simp, ?_⟩
      intro id old last final same
      obtain ⟨subscription, member, rfl⟩ := List.mem_map.mp old
      have here : last = session.waits.length := by simpa using final
      exact kept.id_ne_length member (same.trans here)
    · exact kept.nodup other
  · intro other subscription
    rw [kept.mem_registered_subscribe, wishes_subscribe,
      kept.stands_subscribe, matched]

section Dispatch

variable {event : Event}

theorem wanting (kept : Kept episodes session) (kind : EventKind) :
    Waiter.Wanting (session.waiter.registered kind) session.waiter where
  nodup := kept.nodup kind
  below := by
    intro subscription member
    obtain ⟨_, stands, _⟩ := (kept.registered kind subscription).mp member
    rw [kept.handoffs]
    exact stands.below
  empty := by
    intro subscription member
    obtain ⟨_, stands, unmatched⟩ :=
      (kept.registered kind subscription).mp member
    rw [kept.slots subscription.id stands, unmatched]
    rfl

theorem mem_takers (kept : Kept episodes session) :
    task ∈ session.waiter.takers event ↔ session.Stands task ∧
      firstMatch? task episodes = none ∧
        ∃ wish, (wishes episodes)[task]? = some wish ∧
          wish.accepts event = true := by
  unfold Waiter.takers
  constructor
  · intro member
    obtain ⟨subscription, listed, rfl⟩ := List.mem_map.mp member
    obtain ⟨registered, wants⟩ := List.mem_filter.mp listed
    obtain ⟨asks, stands, unmatched⟩ :=
      (kept.registered event.kind subscription).mp registered
    refine ⟨stands, unmatched, _, asks, ?_⟩
    simp [Wish.accepts, wants]
  · rintro ⟨stands, unmatched, ⟨kind, predicate⟩, asks, accepts⟩
    obtain ⟨rfl, wants⟩ : event.kind = kind ∧ predicate event = true := by
      simpa [Wish.accepts] using accepts
    apply List.mem_map.mpr
    refine ⟨⟨task, predicate⟩, ?_, rfl⟩
    apply List.mem_filter.mpr
    constructor
    · apply (kept.registered event.kind ⟨task, predicate⟩).mpr
      exact ⟨asks, stands, unmatched⟩
    · exact wants

theorem firstMatch?_dispatched (kept : Kept episodes session)
    (event : Event) (stands : session.Stands task) :
    firstMatch? task (episodes ++ [⟨session, .dispatch event⟩]) =
      if task ∈ session.waiter.takers event then
        some (session.agenda.now, event)
      else firstMatch? task episodes := by
  have known : task < (wishes episodes).length := by
    rw [kept.asked]
    exact stands.below
  have asks := List.getElem?_eq_getElem known
  rw [firstMatch?_dispatch asks stands.below]
  cases first : firstMatch? task episodes with
  | some found =>
      have absent : task ∉ session.waiter.takers event := by
        intro member
        obtain ⟨_, unmatched, _⟩ := kept.mem_takers.mp member
        simp [first] at unmatched
      simp [absent]
  | none =>
      have taken : task ∈ session.waiter.takers event ↔
          ((wishes episodes)[task]).accepts event = true := by
        rw [kept.mem_takers]
        simp [stands, first, known]
      simp [taken]

/-- An event is offered. -/
theorem dispatch (kept : Kept episodes session) (event : Event) :
    Kept (episodes ++ [⟨session, .dispatch event⟩])
      (session.dispatch event).2 := by
  obtain ⟨agenda, _, after⟩ := Woken.dispatch event session
  rw [after]
  have wanting := kept.wanting event.kind
  obtain ⟨nodup, below⟩ := wanting.takers
  have silent : Episode.wish? ⟨session, .dispatch event⟩ = none := rfl
  obtain ⟨tidy, listed⟩ :=
    Waiter.register_fillAll event (session.waiter.takers event) kept.tidy
  have registered : ∀ kind, (session.waiter.dispatch event).2.registered
      kind = (session.waiter.registered kind).filter
        (·.id ∉ session.waiter.takers event) := by
    intro kind
    rw [Waiter.dispatch_eq wanting]
    exact listed kind
  constructor
  · rw [wishes_append_silent silent]
    exact kept.asked
  · dsimp only
    rw [Waiter.dispatch_eq wanting, Waiter.length_fillAll]
    exact kept.handoffs
  · intro task beyond
    have unheard : Episode.offer? task ⟨session, .dispatch event⟩ = none :=
      if_neg (Nat.not_lt.mpr beyond)
    rw [offers_append_unheard unheard]
    exact kept.unheard task beyond
  · exact kept.own
  · intro task stands
    dsimp only
    rw [kept.firstMatch?_dispatched event stands,
      Waiter.handoff_dispatch wanting]
    split
    · rfl
    · exact kept.slots task stands
  · dsimp only
    rw [Waiter.dispatch_eq wanting]
    exact tidy
  · intro kind
    dsimp only
    rw [registered]
    exact (kept.nodup kind).sublist (List.filter_sublist.map _)
  · intro kind subscription
    have stands : Stands subscription.id { session with
        waiter := (session.waiter.dispatch event).2, agenda } ↔
          session.Stands subscription.id := Iff.rfl
    dsimp only
    rw [registered, List.mem_filter, kept.registered,
      wishes_append_silent silent, stands, decide_eq_true_eq]
    constructor
    · rintro ⟨⟨asks, stood, unmatched⟩, refuses⟩
      rw [kept.firstMatch?_dispatched event stood, if_neg refuses]
      exact ⟨asks, stood, unmatched⟩
    · rintro ⟨asks, stood, unmatched⟩
      rw [kept.firstMatch?_dispatched event stood] at unmatched
      split at unmatched
      · cases unmatched
      · rename_i refuses
        exact ⟨⟨asks, stood, unmatched⟩, refuses⟩

end Dispatch

section Happen

theorem holdsSlots (kept : Kept episodes before)
    (silent : episode.wish? = none)
    (unheard : ∀ task, episode.offer? task = none)
    (waits : after.waits = before.waits)
    (slots : ∀ id, (after.waiter.handoff id).slot =
      (before.waiter.handoff id).slot)
    (handoffs : after.waiter.handoffs.length =
      before.waiter.handoffs.length)
    (register : after.waiter.register = before.waiter.register) :
    Kept (episodes ++ [episode]) after := by
  have same : after.waits = before.waits.modify 0 id := by
    rw [waits, List.modify_id]
  apply kept.goesOn silent unheard same _ slots handoffs register
  intro entry _
  exact .of_stage rfl rfl

theorem still (kept : Kept episodes before)
    (silent : episode.wish? = none)
    (unheard : ∀ task, episode.offer? task = none)
    (waits : after.waits = before.waits)
    (waiter : after.waiter = before.waiter) :
    Kept (episodes ++ [episode]) after := by
  apply kept.holdsSlots silent unheard waits <;> simp [waiter]

theorem modifies (kept : Kept episodes before)
    (silent : episode.wish? = none)
    (unheard : ∀ task, episode.offer? task = none)
    (waits : after.waits = before.waits.modify task change)
    (waiter : after.waiter = before.waiter)
    (continues : ∀ entry, before.waits[task]? = some entry →
      entry.Continues (change entry)) :
    Kept (episodes ++ [episode]) after := by
  apply kept.goesOn silent unheard waits continues
  · intro id
    rw [waiter]
  · rw [waiter]
  · rw [waiter]

theorem turn (kept : Kept episodes session)
    (found : session.waits[task]? = some entry) :
    Turn task entry session (session.work task) := by
  obtain ⟨_, own⟩ := kept.own task entry found
  exact Session.turn found own fun notEnded =>
    kept.slots task ⟨entry, found, notEnded⟩

theorem finishes (kept : Kept episodes before)
    (found : before.waits[task]? = some entry)
    (silent : episode.wish? = none)
    (unheard : ∀ task, episode.offer? task = none)
    (waits : after.waits = (before.setStage task .ended).waits)
    (slots : ∀ id, id ≠ task → after.waiter.handoff id =
      before.waiter.handoff id)
    (handoffs : after.waiter.handoffs.length =
      before.waiter.handoffs.length)
    (register : after.waiter.register =
      Waiter.strike entry.subscription before.waiter.register) :
    Kept (episodes ++ [episode]) after := by
  apply kept.ends silent unheard waits slots handoffs
  rw [register, (kept.own task entry found).1]

/-- A small step of the wait with the floor. -/
theorem work (kept : Kept episodes session)
    (found : session.waits[task]? = some entry)
    (turn : Turn task entry session after) :
    Kept (episodes ++ [⟨session, .work⟩]) after := by
  have silent : Episode.wish? ⟨session, .work⟩ = none := rfl
  have unheard : ∀ task, Episode.offer? task ⟨session, .work⟩ = none :=
    fun _ => rfl
  have here : ∀ old, session.waits[task]? = some old → old = entry := by
    intro old also
    exact Option.some.inj (also.symm.trans found)
  cases turn with
  | rests | waits => exact kept.still silent unheard rfl rfl
  | discards =>
      exact kept.finishes found silent unheard rfl (fun _ _ => rfl) rfl rfl
  | begins timeout stage =>
      apply kept.modifies silent unheard
      · rfl
      · rfl
      · intro old also
        obtain rfl := here old also
        constructor
        · rfl
        · simp [stage]
        · intro wait active
          cases active
          exact .inl rfl
  | ends wait result handoff probes =>
      apply kept.finishes found silent unheard
      · rfl
      · intro id different
        exact Waiter.handoff_setHandoff_of_ne (Ne.symm different)
      · exact Waiter.length_setHandoff _ _ _
      · rfl
  | probes wait reason stage =>
      apply kept.modifies silent unheard
      · rfl
      · rfl
      · intro old also
        obtain rfl := here old also
        constructor
        · rfl
        · simp [stage]
        · intro next active
          cases active
          exact .inr ⟨wait, stage, Wait.subscription_probing _ _ _ _⟩
  | resumes wait answer probes stage =>
      apply kept.modifies silent unheard
      · rfl
      · rfl
      · intro old also
        obtain rfl := here old also
        constructor
        · rfl
        · simp [stage]
        · intro next active
          cases active
          exact .inr ⟨wait, stage, rfl⟩

theorem concludes {result : Except WaitError Event}
    (kept : Kept episodes episode.before)
    (ends : episode.Ends task result) :
    ∃ entry wait, episode.before.waits[task]? = some entry ∧
      entry.stage = .active wait ∧ entry.dropped = false ∧
        wait.Concludes episode.before.agenda entry.interrupted
          (episode.before.finds entry)
          (episode.before.waiter.handoff task) result := by
  obtain ⟨before, occurrence⟩ := episode
  obtain ⟨works, floor, entry, found, recorded⟩ := ends
  dsimp only at works floor found kept ⊢
  subst works
  rw [Episode.after, happen_work_of_floor floor] at recorded
  generalize reached : before.work task = after at recorded
  have turn : Turn task entry before after := reached ▸ kept.turn found
  cases turn with
  | ends wait other handoff probes stage dropped concludes =>
      have same := List.append_cancel_left recorded
      simp only [List.cons.injEq, WaitEnd.mk.injEq] at same
      obtain ⟨⟨_, _, rfl⟩, _⟩ := same
      exact ⟨entry, wait, found, stage, dropped, concludes⟩
  | _ =>
      have none : before.ended = before.ended ++ [_] := recorded
      simp at none

/-- Whatever happens to a session, it keeps what its history tells. -/
theorem happen (kept : Kept episodes session) (occurrence : Occurrence) :
    Kept (episodes ++ [⟨session, occurrence⟩])
      (session.happen occurrence) := by
  cases occurrence with
  | work =>
      rcases work_cases session with
        ⟨task, _, after⟩ | ⟨task, rest, _, _, after⟩ | ⟨_, after⟩
      · rw [after]
        cases found : session.waits[task]? with
        | some entry => exact kept.work found (kept.turn found)
        | none =>
            apply kept.still rfl (fun _ => rfl) <;> simp [Session.work, found,
              yieldFloor]
      · rw [after]
        exact kept.still rfl (fun _ => rfl) rfl rfl
      · rw [after]
        exact kept.still rfl (fun _ => rfl) rfl rfl
  | pass span => exact kept.still rfl (fun _ => rfl) rfl rfl
  | subscribe name kind predicate => exact kept.subscribe name kind predicate
  | startWait name timeout watch =>
      rw [Session.happen, startWait]
      split
      · exact kept.still rfl (fun _ => rfl) rfl rfl
      · rename_i task _
        split
        · rename_i stage
          apply kept.modifies rfl (fun _ => rfl)
          · rfl
          · rfl
          · intro entry found
            have subscribed : entry.stage = .subscribed := by
              simpa [found] using stage
            constructor
            · rfl
            · simp [subscribed]
            · intro wait active
              cases active
        · exact kept.still rfl (fun _ => rfl) rfl rfl
  | dispatch event => exact kept.dispatch event
  | lift name =>
      rw [Session.happen, lift]
      split
      · exact kept.still rfl (fun _ => rfl) rfl rfl
      · rename_i entry _
        obtain ⟨agenda, _, after⟩ := Woken.wakeWatcher entry.subscription
          { session with waiter := session.waiter.lift entry.subscription }
        rw [after]
        apply kept.holdsSlots rfl (fun _ => rfl)
        · rfl
        · intro other
          exact Waiter.slot_lift entry.subscription other session.waiter
        · exact Waiter.length_setHandoff _ _ _
        · rfl
  | interrupt name =>
      rw [Session.happen, interrupt]
      split
      · exact kept.still rfl (fun _ => rfl) rfl rfl
      · rename_i task _
        split
        · exact kept.still rfl (fun _ => rfl) rfl rfl
        · rename_i entry _
          split
          · exact kept.still rfl (fun _ => rfl) rfl rfl
          · obtain ⟨agenda, _, after⟩ := Woken.wakeWatcher entry.subscription
              (session.modifyWait task fun entry =>
                { entry with interrupted := true })
            rw [after]
            apply kept.modifies rfl (fun _ => rfl)
            · rfl
            · rfl
            · intro entry _
              exact .of_stage rfl rfl
  | disarm name =>
      rw [Session.happen, disarm]
      split
      · exact kept.still rfl (fun _ => rfl) rfl rfl
      · apply kept.modifies rfl (fun _ => rfl)
        · rfl
        · rfl
        · intro entry _
          exact .of_stage rfl rfl
  | drop name =>
      rw [Session.happen, drop]
      split
      · exact kept.still rfl (fun _ => rfl) rfl rfl
      · rename_i task _
        split
        · exact kept.still rfl (fun _ => rfl) rfl rfl
        · rename_i entry found
          split
          · exact kept.finishes found rfl (fun _ => rfl) rfl
              (fun _ _ => rfl) rfl rfl
          · apply kept.modifies rfl (fun _ => rfl)
            · rfl
            · rfl
            · intro entry _
              exact .of_stage rfl rfl
          · apply kept.modifies rfl (fun _ => rfl)
            · rfl
            · rfl
            · intro entry _
              exact .of_stage rfl rfl
          · exact kept.still rfl (fun _ => rfl) rfl rfl
  | setFlag flag alive => exact kept.still rfl (fun _ => rfl) rfl rfl
  | pace task delay =>
      apply kept.modifies rfl (fun _ => rfl)
      · rfl
      · rfl
      · intro entry _
        exact .of_stage rfl rfl

end Happen

end Kept

/-- Every session that a run leads to keeps what the run's history tells. -/
theorem Run.kept (run : Run {} episodes session) : Kept episodes session := by
  induction run with
  | start => exact .start
  | next occurrence _ kept => exact kept.happen occurrence

end Session

end Switchboard
