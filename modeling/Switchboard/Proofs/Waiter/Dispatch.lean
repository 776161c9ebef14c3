import Mathlib.Data.List.Nodup
import Switchboard.Proofs.Waiter

/-!
# Who takes an event

A register without empty or repeated kinds is told by what it lists for each
kind.  An event that is offered fills the handoffs of those listed
subscriptions of its kind that want it, takes them off the register, and
leaves every other subscription alone.
-/

namespace Switchboard

/-- What a subscription asks for. -/
structure Wish where
  kind : EventKind
  predicate : Event → Bool

def Wish.accepts (wish : Wish) (event : Event) : Bool :=
  decide (event.kind = wish.kind) && wish.predicate event

namespace Waiter

/-- Every kind has at most one entry, and no entry is empty. -/
structure Tidy (register : List (EventKind × List Subscription)) : Prop where
  kinds : (register.map Prod.fst).Nodup
  filled : ∀ entry ∈ register, entry.2 ≠ []

/-- What a register lists for a kind. -/
def listed (kind : EventKind)
    (register : List (EventKind × List Subscription)) : List Subscription :=
  ((register.find? (·.1 = kind)).map (·.2)).getD []

section Register

variable {register : List (EventKind × List Subscription)}
  {kind other : EventKind} {subscription : Subscription}
  {id : SubscriptionId}

theorem registered_eq (kind : EventKind) (waiter : Waiter) :
    waiter.registered kind = listed kind waiter.register := rfl

theorem listed_cons (kind : EventKind)
    (entry : EventKind × List Subscription) :
    listed kind (entry :: register) =
      if entry.1 = kind then entry.2 else listed kind register := by
  by_cases same : entry.1 = kind <;> simp [listed, same]

theorem listed_of_absent (absent : kind ∉ register.map Prod.fst) :
    listed kind register = [] := by
  have none : register.find? (·.1 = kind) = none := by
    rw [List.find?_eq_none]
    intro entry member same
    apply absent
    have here : entry.1 = kind := by simpa using same
    exact here ▸ List.mem_map_of_mem member
  simp [listed, none]

theorem mem_kinds_of_strike
    (member : kind ∈ (strike id register).map Prod.fst) :
    kind ∈ register.map Prod.fst := by
  obtain ⟨entry, kept, rfl⟩ := List.mem_map.mp member
  obtain ⟨old, before, rfl⟩ := List.mem_map.mp (List.mem_of_mem_filter kept)
  exact List.mem_map.mpr ⟨old, before, rfl⟩

theorem strike_cons (id : SubscriptionId)
    (entry : EventKind × List Subscription) :
    strike id (entry :: register) =
      if entry.2.filter (·.id ≠ id) = [] then strike id register
      else (entry.1, entry.2.filter (·.id ≠ id)) :: strike id register := by
  by_cases empty : entry.2.filter (·.id ≠ id) = []
  · rw [if_pos empty, strike, List.map_cons, List.filter_cons_of_neg]
    · rfl
    · rw [empty]
      simp
  · rw [if_neg empty, strike, List.map_cons, List.filter_cons_of_pos]
    · rfl
    · simpa using empty

theorem listed_strike (kinds : (register.map Prod.fst).Nodup)
    (kind : EventKind) (id : SubscriptionId) :
    listed kind (strike id register) =
      (listed kind register).filter (·.id ≠ id) := by
  induction register with
  | nil => rfl
  | cons entry rest induction =>
      rw [List.map_cons, List.nodup_cons] at kinds
      have later := induction kinds.2
      rw [strike_cons, listed_cons]
      by_cases same : entry.1 = kind
      · rw [if_pos same]
        split
        · rename_i empty
          rw [empty]
          apply listed_of_absent
          intro member
          exact kinds.1 (same ▸ mem_kinds_of_strike member)
        · rw [listed_cons, if_pos same]
      · rw [if_neg same]
        split
        · exact later
        · rw [listed_cons, if_neg same]
          exact later

theorem Tidy.strike (tidy : Tidy register) (id : SubscriptionId) :
    Tidy (strike id register) where
  kinds := by
    have kept : ((register.map fun entry =>
        (entry.1, entry.2.filter (·.id ≠ id))).map Prod.fst).Nodup := by
      rw [List.map_map]
      exact tidy.kinds
    exact kept.sublist (List.filter_sublist.map Prod.fst)
  filled := by
    intro entry member empty
    have filled := (List.mem_filter.mp member).2
    rw [empty] at filled
    cases filled

theorem listed_enlist (kind other : EventKind)
    (subscription : Subscription) :
    listed kind (enlist other subscription register) =
      if other = kind then listed kind register ++ [subscription]
      else listed kind register := by
  induction register with
  | nil =>
      rw [enlist, listed_cons]
      rfl
  | cons entry rest induction =>
      rw [enlist]
      by_cases same : entry.1 = other
      · rw [if_pos same, listed_cons, listed_cons]
        subst same
        split <;> rfl
      · rw [if_neg same, listed_cons, listed_cons, induction]
        by_cases here : entry.1 = kind
        · have different : other ≠ kind := fun also =>
            same (here.trans also.symm)
          simp [here, different]
        · simp [here]

theorem mem_kinds_enlist (kind : EventKind) :
    kind ∈ (enlist other subscription register).map Prod.fst ↔
      kind = other ∨ kind ∈ register.map Prod.fst := by
  induction register with
  | nil => simp [enlist]
  | cons entry rest induction =>
      rw [enlist]
      split
      · rename_i same
        simp [same]
      · rw [List.map_cons, List.mem_cons, induction, List.map_cons,
          List.mem_cons]
        exact or_left_comm

theorem Tidy.enlist (tidy : Tidy register) (kind : EventKind)
    (subscription : Subscription) :
    Tidy (enlist kind subscription register) := by
  induction register with
  | nil => exact ⟨by simp [Waiter.enlist], by simp [Waiter.enlist]⟩
  | cons entry rest induction =>
      have kinds := tidy.kinds
      rw [List.map_cons, List.nodup_cons] at kinds
      have later := induction ⟨kinds.2, fun entry member =>
        tidy.filled entry (List.mem_cons_of_mem _ member)⟩
      rw [Waiter.enlist]
      by_cases same : entry.1 = kind
      · rw [if_pos same]
        constructor
        · rw [List.map_cons, List.nodup_cons]
          exact ⟨same ▸ kinds.1, kinds.2⟩
        · intro other member
          rcases List.mem_cons.mp member with rfl | member
          · simp
          · exact tidy.filled other (List.mem_cons_of_mem _ member)
      · rw [if_neg same]
        constructor
        · rw [List.map_cons, List.nodup_cons]
          refine ⟨fun member => ?_, later.kinds⟩
          rcases (mem_kinds_enlist _).mp member with here | before
          · exact same here
          · exact kinds.1 before
        · intro other member
          rcases List.mem_cons.mp member with rfl | member
          · exact tidy.filled _ List.mem_cons_self
          · exact later.filled other member

end Register

section Handoffs

variable {waiter : Waiter} {id other : SubscriptionId}

theorem handoff_setHandoff (id other : SubscriptionId)
    (handoff : Handoff Event) (waiter : Waiter) :
    (waiter.setHandoff id handoff).handoff other =
      if id = other ∧ id < waiter.handoffs.length then handoff
      else waiter.handoff other := by
  rw [Waiter.handoff, setHandoff, List.getElem?_set]
  by_cases same : id = other
  · subst same
    by_cases known : id < waiter.handoffs.length
    · simp [known]
    · simp [known, Waiter.handoff]
  · simp [same, Waiter.handoff]

theorem handoff_setHandoff_of_ne {handoff : Handoff Event}
    (different : id ≠ other) :
    (waiter.setHandoff id handoff).handoff other = waiter.handoff other := by
  rw [handoff_setHandoff, if_neg]
  exact fun same => different same.1

theorem setHandoff_handoff (id : SubscriptionId) (waiter : Waiter) :
    waiter.setHandoff id (waiter.handoff id) = waiter := by
  rw [setHandoff, Waiter.handoff]
  congr 1
  apply List.ext_getElem?
  intro position
  rw [List.getElem?_set]
  by_cases same : id = position
  · subst same
    by_cases known : id < waiter.handoffs.length
    · simp [known]
    · simp [known]
  · simp [same]

theorem handoff_subscribe (kind : EventKind) (predicate : Event → Bool)
    (id : SubscriptionId) (waiter : Waiter) :
    (waiter.subscribe kind predicate).2.handoff id = waiter.handoff id := by
  simp only [Waiter.handoff, subscribe]
  rcases Nat.lt_trichotomy id waiter.handoffs.length with known | last | beyond
  · rw [List.getElem?_append_left known]
  · subst last
    simp
  · rw [List.getElem?_eq_none (by simp; omega),
      List.getElem?_eq_none (Nat.le_of_lt beyond)]

theorem slot_lift (id other : SubscriptionId) (waiter : Waiter) :
    ((waiter.lift id).handoff other).slot = (waiter.handoff other).slot := by
  rw [lift, handoff_setHandoff]
  split
  · rename_i here
    rw [← here.1]
    rfl
  · rfl

@[simp] theorem handoff_unsubscribe (dropped id : SubscriptionId)
    (waiter : Waiter) :
    (waiter.unsubscribe dropped).handoff id = waiter.handoff id := rfl

end Handoffs

section Dispatch

variable {waiter : Waiter} {event : Event} {subscription : Subscription}
  {subscriptions : List Subscription} {id : SubscriptionId}

/-- The listed subscriptions still want an event, and none is listed twice. -/
structure Wanting (subscriptions : List Subscription) (waiter : Waiter) :
    Prop where
  nodup : (subscriptions.map Subscription.id).Nodup
  below : ∀ subscription ∈ subscriptions,
    subscription.id < waiter.handoffs.length
  empty : ∀ subscription ∈ subscriptions,
    (waiter.handoff subscription.id).slot = .empty

/-- A subscription has taken an event and is off the register. -/
def fill (event : Event) (id : SubscriptionId) (waiter : Waiter) : Waiter :=
  (waiter.setHandoff id
    { waiter.handoff id with slot := .value event }).unsubscribe id

theorem offer_of_refuses (refuses : subscription.predicate event = false) :
    waiter.offer event subscription = (false, waiter) := by
  simp [offer, refuses]

theorem offer_of_wants
    (empty : (waiter.handoff subscription.id).slot = .empty)
    (wants : subscription.predicate event = true) :
    waiter.offer event subscription =
      (true, waiter.fill event subscription.id) := by
  simp [offer, Handoff.isResolved, Handoff.send, Handoff.resolve, empty,
    wants, fill]

theorem Wanting.fill (wanting : Wanting (subscription :: subscriptions) waiter)
    (event : Event) :
    Wanting subscriptions (waiter.fill event subscription.id) := by
  have nodup := wanting.nodup
  rw [List.map_cons, List.nodup_cons] at nodup
  constructor
  · exact nodup.2
  · intro other member
    have known := wanting.below other (List.mem_cons_of_mem _ member)
    simpa [Waiter.fill, unsubscribe] using known
  · intro other member
    have different : subscription.id ≠ other.id := by
      intro same
      apply nodup.1
      exact same ▸ List.mem_map_of_mem member
    have same : (waiter.fill event subscription.id).handoff other.id =
        waiter.handoff other.id := handoff_setHandoff_of_ne different
    rw [same]
    exact wanting.empty other (List.mem_cons_of_mem _ member)

theorem Wanting.tail
    (wanting : Wanting (subscription :: subscriptions) waiter) :
    Wanting subscriptions waiter where
  nodup := (List.nodup_cons.mp wanting.nodup).2
  below := fun other member =>
    wanting.below other (List.mem_cons_of_mem _ member)
  empty := fun other member =>
    wanting.empty other (List.mem_cons_of_mem _ member)

theorem offerAll_eq (wanting : Wanting subscriptions waiter)
    (event : Event) :
    waiter.offerAll event subscriptions =
      (((subscriptions.filter (·.predicate event)).map Subscription.id),
        ((subscriptions.filter (·.predicate event)).map
          Subscription.id).foldl (fun waiter id => waiter.fill event id)
            waiter) := by
  induction subscriptions generalizing waiter with
  | nil => rfl
  | cons subscription rest induction =>
      rw [offerAll]
      cases wants : subscription.predicate event with
      | false =>
          rw [offer_of_refuses wants]
          simp [induction wanting.tail, wants]
      | true =>
          rw [offer_of_wants (wanting.empty _ List.mem_cons_self) wants]
          simp [induction (wanting.fill event), wants]

theorem length_fillAll (event : Event) (ids : List SubscriptionId)
    (waiter : Waiter) :
    (ids.foldl (fun waiter id => waiter.fill event id)
      waiter).handoffs.length = waiter.handoffs.length := by
  induction ids generalizing waiter with
  | nil => rfl
  | cons first rest induction =>
      rw [List.foldl_cons, induction]
      simp [fill, unsubscribe]

theorem handoff_fillAll (event : Event) (ids : List SubscriptionId)
    (nodup : ids.Nodup) (below : ∀ id ∈ ids, id < waiter.handoffs.length)
    (id : SubscriptionId) :
    (ids.foldl (fun waiter id => waiter.fill event id) waiter).handoff id =
      if id ∈ ids then { waiter.handoff id with slot := .value event }
      else waiter.handoff id := by
  induction ids generalizing waiter with
  | nil => simp
  | cons first rest induction =>
      rw [List.nodup_cons] at nodup
      have filled : (waiter.fill event first).handoff id =
          if first = id then { waiter.handoff first with slot := .value event }
          else waiter.handoff id := by
        rw [fill, handoff_unsubscribe, handoff_setHandoff]
        simp [below first List.mem_cons_self]
      have stillBelow : ∀ id ∈ rest,
          id < (waiter.fill event first).handoffs.length := by
        intro id member
        simpa [fill, unsubscribe] using
          below id (List.mem_cons_of_mem _ member)
      rw [List.foldl_cons, induction nodup.2 stillBelow, filled]
      by_cases same : first = id
      · subst same
        simp [nodup.1]
      · simp [same, Ne.symm same]

theorem register_fillAll (event : Event) (ids : List SubscriptionId)
    (tidy : Tidy waiter.register) :
    Tidy (ids.foldl (fun waiter id => waiter.fill event id)
        waiter).register ∧
      ∀ kind, listed kind (ids.foldl (fun waiter id => waiter.fill event id)
          waiter).register =
        (listed kind waiter.register).filter (·.id ∉ ids) := by
  induction ids generalizing waiter with
  | nil => exact ⟨tidy, fun kind => by simp⟩
  | cons first rest induction =>
      obtain ⟨stillTidy, later⟩ :=
        @induction (waiter.fill event first) (tidy.strike first)
      refine ⟨stillTidy, fun kind => ?_⟩
      have struck : listed kind (waiter.fill event first).register =
          (listed kind waiter.register).filter (·.id ≠ first) :=
        listed_strike tidy.kinds kind first
      rw [List.foldl_cons, later kind, struck, List.filter_filter]
      apply List.filter_congr
      intro subscription _
      by_cases same : subscription.id = first <;> simp [same]

/-- The subscriptions that an event satisfies. -/
def takers (event : Event) (waiter : Waiter) : List SubscriptionId :=
  ((waiter.registered event.kind).filter (·.predicate event)).map
    Subscription.id

theorem dispatch_eq
    (wanting : Wanting (waiter.registered event.kind) waiter) :
    waiter.dispatch event = (waiter.takers event,
      (waiter.takers event).foldl (fun waiter id => waiter.fill event id)
        waiter) :=
  offerAll_eq wanting event

theorem Wanting.takers
    (wanting : Wanting (waiter.registered event.kind) waiter) :
    (waiter.takers event).Nodup ∧
      ∀ id ∈ waiter.takers event, id < waiter.handoffs.length := by
  constructor
  · exact wanting.nodup.sublist (List.filter_sublist.map _)
  · intro id member
    obtain ⟨subscription, wants, rfl⟩ := List.mem_map.mp member
    exact wanting.below subscription (List.mem_of_mem_filter wants)

theorem handoff_dispatch
    (wanting : Wanting (waiter.registered event.kind) waiter)
    (id : SubscriptionId) :
    (waiter.dispatch event).2.handoff id =
      if id ∈ waiter.takers event then
        { waiter.handoff id with slot := .value event }
      else waiter.handoff id := by
  obtain ⟨nodup, below⟩ := wanting.takers
  rw [dispatch_eq wanting]
  exact handoff_fillAll event _ nodup below id

end Dispatch

end Waiter

end Switchboard
