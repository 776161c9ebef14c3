import Switchboard.Proofs.Waiter.Handoffs

/-!
# A register in order

The subscriptions on the register of a waiter are listed once each, exist and
still wait for their event.  Whatever is done to a waiter is made of five
small operations, and each of them keeps this order.  Four of them are what
bodies do; `Moves` tells which subscriptions they may let go of and whether
they may lift deadlines, and everything else stays as it is.
-/

namespace Switchboard.Waiter

section Listing

variable {register : List (EventKind × List Subscription)}
  {kind : EventKind} {subscription : Subscription} {id : SubscriptionId}

/-- All that a register lists. -/
def entire (register : List (EventKind × List Subscription)) :
    List Subscription := register.flatMap Prod.snd

theorem entire_cons (entry : EventKind × List Subscription) :
    entire (entry :: register) = entry.2 ++ entire register :=
  List.flatMap_cons

theorem entire_strike (id : SubscriptionId)
    (register : List (EventKind × List Subscription)) :
    entire (strike id register) = (entire register).filter (·.id ≠ id) := by
  induction register with
  | nil => rfl
  | cons entry rest induction =>
      rw [strike_cons, entire_cons, List.filter_append]
      split
      · rename_i empty
        rw [empty, List.nil_append, induction]
      · rw [entire_cons, induction]

theorem entire_enlist (kind : EventKind) (subscription : Subscription)
    (register : List (EventKind × List Subscription)) :
    (entire (enlist kind subscription register)).Perm
      (subscription :: entire register) := by
  induction register with
  | nil => exact .refl _
  | cons entry rest induction =>
      rw [enlist, entire_cons]
      split
      · rw [entire_cons, List.append_assoc, List.singleton_append]
        exact List.perm_middle
      · rw [entire_cons]
        exact (induction.append_left entry.2).trans List.perm_middle

theorem listed_sublist_entire (kind : EventKind)
    (register : List (EventKind × List Subscription)) :
    (listed kind register).Sublist (entire register) := by
  induction register with
  | nil => exact .slnil
  | cons entry rest induction =>
      rw [listed_cons, entire_cons]
      split
      · exact List.sublist_append_left _ _
      · exact induction.trans (List.sublist_append_right _ _)

end Listing

/-- No kind is repeated, no entry is empty, and all listed subscriptions still
want their event. -/
structure Sound (waiter : Waiter) : Prop where
  tidy : Tidy waiter.register
  wanting : Wanting (entire waiter.register) waiter

/-- A subscription holds what it held, and is on the register as it was. -/
structure Keeps (id : SubscriptionId) (before after : Waiter) : Prop where
  slot : (after.handoff id).slot = (before.handoff id).slot
  listed : ∀ (kind : EventKind) (subscription : Subscription),
    subscription.id = id →
      (subscription ∈ after.registered kind ↔
        subscription ∈ before.registered kind)

/-- What bodies do to the waiter: they subscribe, let go of subscriptions that
are theirs to be `freed`, take what they have been given, and lift deadlines
where that is their business. -/
inductive Moves (freed : SubscriptionId → Prop) (lifting : Prop)
    (start : Waiter) : Waiter → Prop where
  | stay : Moves freed lifting start start
  | subscribe {waiter : Waiter} (kind : EventKind)
      (predicate : Event → Bool) : Moves freed lifting start waiter →
      Moves freed lifting start (waiter.subscribe kind predicate).2
  | unsubscribe {waiter : Waiter} {id : SubscriptionId} : freed id →
      Moves freed lifting start waiter →
      Moves freed lifting start (waiter.unsubscribe id)
  | take {waiter : Waiter} {id : SubscriptionId} {handoff : Handoff Event} :
      freed id → (waiter.handoff id).slot ≠ .empty →
      handoff.lifted = (waiter.handoff id).lifted →
      Moves freed lifting start waiter →
      Moves freed lifting start (waiter.setHandoff id handoff)
  | lift {waiter : Waiter} (id : SubscriptionId) : lifting →
      Moves freed lifting start waiter →
      Moves freed lifting start (waiter.lift id)

section

variable {waiter first second third : Waiter} {id other : SubscriptionId}
  {kind : EventKind} {predicate : Event → Bool} {event : Event}
  {handoff : Handoff Event} {freed more : SubscriptionId → Prop}
  {lifting also : Prop}

namespace Sound

theorem start : Sound {} where
  tidy := ⟨List.nodup_nil, fun _ => nofun⟩
  wanting := ⟨List.nodup_nil, fun _ => nofun, fun _ => nofun⟩

theorem registered (sound : Sound waiter) (kind : EventKind) :
    Wanting (waiter.registered kind) waiter := by
  have part := listed_sublist_entire kind waiter.register
  constructor
  · exact sound.wanting.nodup.sublist (part.map Subscription.id)
  · exact fun subscription member =>
      sound.wanting.below subscription (part.subset member)
  · exact fun subscription member =>
      sound.wanting.empty subscription (part.subset member)

theorem subscribe (sound : Sound waiter) (kind : EventKind)
    (predicate : Event → Bool) :
    Sound (waiter.subscribe kind predicate).2 where
  tidy := sound.tidy.enlist kind _
  wanting := by
    have added := entire_enlist kind ⟨waiter.handoffs.length, predicate⟩
      waiter.register
    have fresh : ∀ subscription ∈ entire waiter.register,
        subscription.id ≠ waiter.handoffs.length := fun subscription member =>
      Nat.ne_of_lt (sound.wanting.below subscription member)
    constructor
    · refine (added.map Subscription.id).nodup_iff.mpr ?_
      refine List.nodup_cons.mpr ⟨fun member => ?_, sound.wanting.nodup⟩
      obtain ⟨subscription, listed, same⟩ := List.mem_map.mp member
      exact fresh subscription listed same
    · intro subscription member
      rw [length_subscribe]
      rcases List.mem_cons.mp (added.subset member) with rfl | before
      · exact Nat.lt_succ_self _
      · exact Nat.lt_succ_of_lt (sound.wanting.below subscription before)
    · intro subscription member
      rw [handoff_subscribe]
      rcases List.mem_cons.mp (added.subset member) with rfl | before
      · simp [Waiter.handoff]
      · exact sound.wanting.empty subscription before

theorem unsubscribe (sound : Sound waiter) (id : SubscriptionId) :
    Sound (waiter.unsubscribe id) where
  tidy := sound.tidy.strike id
  wanting := by
    have struck := entire_strike id waiter.register
    have part : (entire (waiter.unsubscribe id).register).Sublist
        (entire waiter.register) := struck ▸ List.filter_sublist
    constructor
    · exact sound.wanting.nodup.sublist (part.map Subscription.id)
    · exact fun subscription member =>
        sound.wanting.below subscription (part.subset member)
    · exact fun subscription member =>
        sound.wanting.empty subscription (part.subset member)

theorem setHandoff (sound : Sound waiter)
    (harmless : (waiter.handoff id).slot = .empty → handoff.slot = .empty) :
    Sound (waiter.setHandoff id handoff) where
  tidy := sound.tidy
  wanting := by
    constructor
    · exact sound.wanting.nodup
    · intro subscription member
      rw [length_setHandoff]
      exact sound.wanting.below subscription member
    · intro subscription member
      have empty := sound.wanting.empty subscription member
      rw [handoff_setHandoff]
      split
      · rename_i here
        exact harmless (here.1 ▸ empty)
      · exact empty

theorem lift (sound : Sound waiter) (id : SubscriptionId) :
    Sound (waiter.lift id) := sound.setHandoff fun empty => empty

theorem fill (sound : Sound waiter) (event : Event) (id : SubscriptionId) :
    Sound (waiter.fill event id) where
  tidy := sound.tidy.strike id
  wanting := by
    have struck : entire (waiter.fill event id).register = _ :=
      entire_strike id waiter.register
    have part : (entire (waiter.fill event id).register).Sublist
        (entire waiter.register) := struck ▸ List.filter_sublist
    constructor
    · exact sound.wanting.nodup.sublist (part.map Subscription.id)
    · intro subscription member
      exact Nat.lt_of_lt_of_eq
        (sound.wanting.below subscription (part.subset member))
        (length_setHandoff _ _ _).symm
    · intro subscription member
      have different : id ≠ subscription.id := by
        rw [struck, List.mem_filter] at member
        exact Ne.symm (by simpa using member.2)
      have same : (waiter.fill event id).handoff subscription.id =
          waiter.handoff subscription.id := handoff_setHandoff_of_ne different
      rw [same]
      exact sound.wanting.empty subscription (part.subset member)

theorem dispatch (sound : Sound waiter) (event : Event) :
    Sound (waiter.dispatch event).2 := by
  rw [dispatch_eq (sound.registered event.kind)]
  dsimp only
  generalize waiter.takers event = ids
  induction ids generalizing waiter with
  | nil => exact sound
  | cons id rest induction => exact induction (sound.fill event id)

theorem registered_dispatch (sound : Sound waiter) (event : Event)
    (kind : EventKind) :
    (waiter.dispatch event).2.registered kind =
      (waiter.registered kind).filter (·.id ∉ waiter.takers event) := by
  rw [dispatch_eq (sound.registered event.kind)]
  exact (register_fillAll event _ sound.tidy).2 kind

end Sound

namespace Keeps

theorem refl (id : SubscriptionId) (waiter : Waiter) :
    Keeps id waiter waiter := ⟨rfl, fun _ _ _ => Iff.rfl⟩

theorem trans (one : Keeps id first second) (two : Keeps id second third) :
    Keeps id first third where
  slot := two.slot.trans one.slot
  listed := fun kind subscription same =>
    (two.listed kind subscription same).trans
      (one.listed kind subscription same)

theorem subscribe (known : id < waiter.handoffs.length) (kind : EventKind)
    (predicate : Event → Bool) :
    Keeps id waiter (waiter.subscribe kind predicate).2 where
  slot := by rw [handoff_subscribe]
  listed := by
    rintro other subscription rfl
    rw [registered_eq, Waiter.subscribe, listed_enlist, ← registered_eq]
    split
    · have different : subscription ≠ ⟨waiter.handoffs.length, predicate⟩ := by
        rintro rfl
        exact Nat.lt_irrefl _ known
      simp [different]
    · exact Iff.rfl

theorem unsubscribe (tidy : Tidy waiter.register) (different : id ≠ other) :
    Keeps id waiter (waiter.unsubscribe other) where
  slot := rfl
  listed := by
    rintro kind subscription rfl
    rw [registered_eq, Waiter.unsubscribe, listed_strike tidy.kinds,
      ← registered_eq, List.mem_filter]
    simp [different]

theorem setHandoff (different : id ≠ other) :
    Keeps id waiter (waiter.setHandoff other handoff) where
  slot := by rw [handoff_setHandoff_of_ne (Ne.symm different)]
  listed := fun _ _ _ => Iff.rfl

theorem lift : Keeps id waiter (waiter.lift other) where
  slot := slot_lift other id waiter
  listed := fun _ _ _ => Iff.rfl

end Keeps

namespace Moves

theorem trans (one : Moves freed lifting first second)
    (two : Moves freed lifting second third) :
    Moves freed lifting first third := by
  induction two with
  | stay => exact one
  | subscribe kind predicate _ induction => exact induction.subscribe _ _
  | unsubscribe own _ induction => exact induction.unsubscribe own
  | take own resolved lifted _ induction =>
      exact induction.take own resolved lifted
  | lift id may _ induction => exact induction.lift id may

theorem mono (moves : Moves freed lifting first second)
    (wider : ∀ id, freed id → more id) (may : lifting → also) :
    Moves more also first second := by
  induction moves with
  | stay => exact .stay
  | subscribe kind predicate _ induction => exact induction.subscribe _ _
  | unsubscribe own _ induction => exact induction.unsubscribe (wider _ own)
  | take own resolved lifted _ induction =>
      exact induction.take (wider _ own) resolved lifted
  | lift id lifts _ induction => exact induction.lift id (may lifts)

theorem handoffs (moves : Moves freed lifting first second) :
    first.handoffs.length ≤ second.handoffs.length := by
  induction moves with
  | stay => exact Nat.le_refl _
  | subscribe kind predicate _ induction =>
      rw [length_subscribe]
      exact Nat.le_succ_of_le induction
  | unsubscribe _ _ induction => exact induction
  | take _ _ _ _ induction | lift _ _ _ induction =>
      exact Nat.le_trans induction (Nat.le_of_eq (length_setHandoff _ _ _).symm)

theorem sound (moves : Moves freed lifting first second)
    (sound : Sound first) : Sound second := by
  induction moves with
  | stay => exact sound
  | subscribe kind predicate _ induction => exact induction.subscribe _ _
  | unsubscribe _ _ induction => exact induction.unsubscribe _
  | take _ resolved _ _ induction =>
      exact induction.setHandoff fun empty => absurd empty resolved
  | lift id _ _ induction => exact induction.lift id

theorem keeps (moves : Moves freed lifting first second)
    (sound : Sound first) (known : id < first.handoffs.length)
    (kept : ¬freed id) : Keeps id first second := by
  induction moves with
  | stay => exact .refl id first
  | subscribe kind predicate prior induction =>
      exact induction.trans
        (.subscribe (Nat.lt_of_lt_of_le known prior.handoffs) _ _)
  | unsubscribe own prior induction =>
      exact induction.trans
        (.unsubscribe (prior.sound sound).tidy fun same => kept (same ▸ own))
  | take own _ _ _ induction =>
      exact induction.trans (.setHandoff fun same => kept (same ▸ own))
  | lift other _ _ induction => exact induction.trans .lift

theorem lifted (moves : Moves freed False first second)
    (id : SubscriptionId) :
    (second.handoff id).lifted = (first.handoff id).lifted := by
  induction moves with
  | stay => rfl
  | subscribe kind predicate _ induction =>
      rw [handoff_subscribe]
      exact induction
  | unsubscribe _ _ induction => exact induction
  | take _ _ same _ induction =>
      rw [lifted_setHandoff same]
      exact induction
  | lift _ may => exact may.elim

end Moves

end

end Switchboard.Waiter
