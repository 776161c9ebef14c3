import Switchboard.Proofs.Bot.SubscriptionCustody

/-!
# What a body has been given

A body that holds a subscription has been given the first event that was
offered since it was made and that it asks for, and nothing else.  As long as
there is none, the subscription is on the register.
-/

namespace Switchboard

namespace World

/-- The events that are offered in the course of what happens and that a
subscription asks for, with their moments. -/
def offers (wish : Wish) (episodes : List Episode) : List (Nat × Event) :=
  episodes.filterMap fun episode =>
    (episode.offered?.filter wish.accepts).map (episode.before.agenda.now, ·)

/-- The first event that is offered and that a subscription asks for. -/
def firstOffer? (wish : Wish) (episodes : List Episode) : Option Event :=
  (offers wish episodes).head?.map Prod.snd

/-- A body holds a subscription that it made before all of the given
happened: what was offered first is in the handoff, and as long as nothing
was, the subscription is on the register. -/
structure Awaits (position : TaskId) (id : SubscriptionId) (wish : Wish)
    (since : List Episode) (world : World) : Prop where
  held : id ∈ (world.vigil position).held
  slot : (world.waiter.handoff id).slot = .holding (firstOffer? wish since)
  listed : ∀ (kind : EventKind) (subscription : Subscription),
    subscription.id = id → (subscription ∈ world.waiter.registered kind ↔
      kind = wish.kind ∧ subscription.predicate = wish.predicate ∧
        firstOffer? wish since = none)

section

variable {world : World} {position : TaskId} {id : SubscriptionId}
  {wish : Wish} {since earlier later : List Episode} {event : Event}
  {made : TaskId → SubscriptionId → Prop} {occurrence : Occurrence}
  {waiter : Waiter} {episode : Episode}

theorem offers_append (wish : Wish) (earlier later : List Episode) :
    offers wish (earlier ++ later) =
      offers wish earlier ++ offers wish later :=
  List.filterMap_append

theorem firstOffer?_append (wish : Wish) (earlier later : List Episode) :
    firstOffer? wish (earlier ++ later) =
      (firstOffer? wish earlier).or (firstOffer? wish later) := by
  rw [firstOffer?, offers_append, List.head?_append, firstOffer?, firstOffer?]
  cases (offers wish earlier).head? <;> rfl

theorem firstOffer?_single (wish : Wish) (episode : Episode) :
    firstOffer? wish [episode] = episode.offered?.filter wish.accepts := by
  unfold firstOffer? offers
  cases wanted : episode.offered?.filter wish.accepts with
  | none => simp [wanted]
  | some event => simp [wanted]

theorem offered_of_firstOffer? (first : firstOffer? wish since = some event) :
    ∃ episode ∈ since, episode.offered? = some event ∧
      wish.accepts event = true := by
  obtain ⟨⟨moment, found⟩, head, rfl⟩ := Option.map_eq_some_iff.mp first
  obtain ⟨episode, member, offer⟩ :=
    List.mem_filterMap.mp (List.mem_of_mem_head? head)
  obtain ⟨other, wanted, same⟩ := Option.map_eq_some_iff.mp offer
  cases same
  exact ⟨episode, member, Option.filter_eq_some_iff.mp wanted⟩

theorem firstOffer?_ne_none :
    firstOffer? wish since ≠ none ↔ ∃ episode ∈ since, ∃ event,
      episode.offered? = some event ∧ wish.accepts event = true := by
  constructor
  · intro some
    obtain ⟨event, first⟩ := Option.ne_none_iff_exists'.mp some
    obtain ⟨episode, member, offered⟩ := offered_of_firstOffer? first
    exact ⟨episode, member, event, offered⟩
  · rintro ⟨episode, member, event, offered, accepts⟩ none
    have nothing : offers wish since = [] := by
      simpa [firstOffer?] using none
    have quiet := List.filterMap_eq_nil_iff.mp nothing episode member
    simp [offered, Option.filter_some, accepts] at quiet

theorem Awaits.fresh (sound : waiter.Sound)
    (subscribed : world.waiter =
      (waiter.subscribe wish.kind wish.predicate).2)
    (held : waiter.handoffs.length ∈ (world.vigil position).held) :
    Awaits position waiter.handoffs.length wish [] world where
  held := held
  slot := by
    rw [subscribed, Waiter.handoff_subscribe]
    simp [Waiter.handoff, firstOffer?, offers]
  listed := by
    intro kind subscription here
    have absent : subscription ∉ waiter.registered kind := fun member =>
      Nat.ne_of_lt ((sound.registered kind).below subscription member) here
    rw [subscribed, Waiter.registered_eq, Waiter.subscribe,
      Waiter.listed_enlist, ← Waiter.registered_eq]
    obtain ⟨number, predicate⟩ := subscription
    cases here
    by_cases same : wish.kind = kind
    · subst same
      simp [absent, firstOffer?, offers]
    · simp [absent, same, Ne.symm same]

namespace Awaits

theorem taker_iff (awaits : Awaits position id wish since world) :
    id ∈ world.waiter.takers event ↔
      wish.accepts event = true ∧ firstOffer? wish since = none := by
  unfold Wish.accepts
  constructor
  · intro taker
    obtain ⟨subscription, wants, here⟩ := List.mem_map.mp taker
    obtain ⟨member, takes⟩ := List.mem_filter.mp wants
    obtain ⟨kind, predicate, none⟩ :=
      (awaits.listed event.kind subscription here).mp member
    rw [← predicate]
    exact ⟨by simpa [kind] using takes, none⟩
  · rintro ⟨accepts, none⟩
    have wanted : event.kind = wish.kind ∧ wish.predicate event = true := by
      simpa using accepts
    have member : (⟨id, wish.predicate⟩ : Subscription) ∈
        world.waiter.registered event.kind :=
      (awaits.listed event.kind _ rfl).mpr ⟨wanted.1, rfl, none⟩
    exact List.mem_map.mpr
      ⟨_, List.mem_filter.mpr ⟨member, wanted.2⟩, rfl⟩

/-- As long as the body holds the subscription, it has been given what was
offered first. -/
theorem happen (awaits : Awaits position id wish since world)
    (guarded : Guarded world) (orderly : Orderly made world)
    (watchful : Watchful world)
    (still : id ∈ ((world.happen occurrence).vigil position).held) :
    Awaits position id wish (since ++ [⟨world, occurrence⟩])
      (world.happen occurrence) := by
  have later := firstOffer?_append wish since [⟨world, occurrence⟩]
  rw [firstOffer?_single] at later
  cases offered : Episode.offered? ⟨world, occurrence⟩ with
  | none =>
      have keeps : (Happening.mk world occurrence).before.waiter.Keeps id
          (Episode.after ⟨world, occurrence⟩).waiter :=
        guarded.keeps orderly watchful offered awaits.held still
      rw [offered, Option.filter_none, Option.or_none] at later
      constructor
      · exact still
      · rw [later]
        exact keeps.slot.trans awaits.slot
      · intro kind subscription here
        rw [later]
        exact (keeps.listed kind subscription here).trans
          (awaits.listed kind subscription here)
  | some event =>
      have waiter : (world.happen occurrence).waiter = _ :=
        waiter_offered offered
      have taker := @taker_iff _ _ _ _ _ event awaits
      rw [offered] at later
      by_cases takes : id ∈ world.waiter.takers event
      · obtain ⟨accepts, none⟩ := taker.mp takes
        rw [none, Option.filter_some, if_pos accepts, Option.none_or] at later
        constructor
        · exact still
        · rw [later, waiter, Waiter.handoff_dispatch
            (guarded.sound.registered event.kind), if_pos takes]
          rfl
        · rintro kind subscription rfl
          rw [later, waiter, guarded.sound.registered_dispatch]
          simp [takes]
      · have same : firstOffer? wish (since ++ [⟨world, occurrence⟩]) =
            firstOffer? wish since := by
          rw [later]
          cases first : firstOffer? wish since with
          | some other => rfl
          | none =>
              have refuses : ¬wish.accepts event = true :=
                fun accepts => takes (taker.mpr ⟨accepts, first⟩)
              simp [Option.filter_some, refuses]
        constructor
        · exact still
        · rw [same, waiter, Waiter.handoff_dispatch
            (guarded.sound.registered event.kind), if_neg takes]
          exact awaits.slot
        · rintro kind subscription rfl
          rw [same, waiter, guarded.sound.registered_dispatch,
            ← awaits.listed kind subscription rfl]
          simp [takes]

theorem first_of_value (awaits : Awaits position id wish since world)
    (holds : (world.waiter.handoff id).slot = .value event) :
    firstOffer? wish since = some event := by
  rw [awaits.slot] at holds
  cases first : firstOffer? wish since with
  | none =>
      rw [first] at holds
      cases holds
  | some other =>
      rw [first] at holds
      cases holds
      rfl

theorem none_of_empty (awaits : Awaits position id wish since world)
    (empty : (world.waiter.handoff id).slot = .empty) :
    firstOffer? wish since = none := by
  rw [awaits.slot] at empty
  cases first : firstOffer? wish since with
  | none => rfl
  | some other =>
      rw [first] at empty
      cases empty

end Awaits

end

end World

end Switchboard
