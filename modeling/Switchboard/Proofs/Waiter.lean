import Mathlib.Data.List.Basic
import Switchboard.Waiter

/-!
# What is on the register

Subscriptions go onto the register when they are made and only ever come off
it afterwards.  A handoff is never taken away from its subscription.
-/

namespace Switchboard.Waiter

/-- A subscription is on the register. -/
def Registers (id : SubscriptionId) (waiter : Waiter) : Prop :=
  ∃ entry ∈ waiter.register, ∃ subscription ∈ entry.2, subscription.id = id

/-- A register has grown at most by subscriptions made meanwhile. -/
structure Grows (before after : Waiter) : Prop where
  handoffs : before.handoffs.length ≤ after.handoffs.length
  registers : ∀ id, after.Registers id → before.Registers id ∨
    (before.handoffs.length ≤ id ∧ id < after.handoffs.length)

theorem Grows.refl (waiter : Waiter) : waiter.Grows waiter :=
  ⟨Nat.le_refl _, fun _ listed => .inl listed⟩

theorem Grows.trans {first second third : Waiter} (one : first.Grows second)
    (two : second.Grows third) : first.Grows third where
  handoffs := Nat.le_trans one.handoffs two.handoffs
  registers := by
    intro id listed
    rcases two.registers id listed with before | ⟨fresh, below⟩
    · refine (one.registers id before).imp_right fun new => ?_
      exact ⟨new.1, Nat.lt_of_lt_of_le new.2 two.handoffs⟩
    · exact .inr ⟨Nat.le_trans one.handoffs fresh, below⟩

theorem mem_enlist {kind : EventKind} {subscription : Subscription}
    {register : List (EventKind × List Subscription)} {id : SubscriptionId} :
    (∃ entry ∈ enlist kind subscription register,
        ∃ other ∈ entry.2, other.id = id) ↔
      subscription.id = id ∨
        ∃ entry ∈ register, ∃ other ∈ entry.2, other.id = id := by
  induction register with
  | nil => simp [enlist]
  | cons first rest induction =>
      rw [enlist]
      split
      · have last : (∃ other ∈ first.2 ++ [subscription], other.id = id) ↔
            subscription.id = id ∨ ∃ other ∈ first.2, other.id = id := by
          simp [or_and_right, exists_or, or_comm]
        rw [List.exists_mem_cons_iff, last, List.exists_mem_cons_iff,
          or_assoc]
      · rw [List.exists_mem_cons_iff, induction, List.exists_mem_cons_iff]
        exact or_left_comm

theorem registers_subscribe (kind : EventKind) (predicate : Event → Bool)
    (waiter : Waiter) (id : SubscriptionId) :
    (waiter.subscribe kind predicate).2.Registers id ↔
      id = waiter.handoffs.length ∨ waiter.Registers id := by
  rw [Registers, subscribe, mem_enlist, eq_comm]
  exact Iff.rfl

theorem registers_unsubscribe (dropped id : SubscriptionId)
    (waiter : Waiter) :
    (waiter.unsubscribe dropped).Registers id ↔
      waiter.Registers id ∧ id ≠ dropped := by
  constructor
  · intro holds
    obtain ⟨entry, member, other, listed, rfl⟩ := holds
    obtain ⟨⟨kind, subscriptions⟩, oldMember, rfl⟩ :=
      List.mem_map.mp (List.mem_of_mem_filter member)
    obtain ⟨here, different⟩ := List.mem_filter.mp listed
    exact ⟨⟨_, oldMember, other, here, rfl⟩, by simpa using different⟩
  · intro holds
    obtain ⟨⟨entry, member, other, listed, rfl⟩, different⟩ := holds
    have stays : other ∈ entry.2.filter (·.id ≠ dropped) :=
      List.mem_filter.mpr ⟨listed, by simpa using different⟩
    refine ⟨(entry.1, entry.2.filter (·.id ≠ dropped)), ?_, other, stays, rfl⟩
    refine List.mem_filter.mpr
      ⟨List.mem_map.mpr ⟨entry, member, rfl⟩, ?_⟩
    cases filtered : entry.2.filter (·.id ≠ dropped) with
    | nil =>
        rw [filtered] at stays
        cases stays
    | cons first rest => rfl

@[simp] theorem length_subscribe (kind : EventKind)
    (predicate : Event → Bool) (waiter : Waiter) :
    (waiter.subscribe kind predicate).2.handoffs.length =
      waiter.handoffs.length + 1 := by
  simp [subscribe]

@[simp] theorem length_setHandoff (id : SubscriptionId)
    (handoff : Handoff Event) (waiter : Waiter) :
    (waiter.setHandoff id handoff).handoffs.length =
      waiter.handoffs.length := by
  simp [setHandoff]

theorem grows_subscribe (kind : EventKind) (predicate : Event → Bool)
    (waiter : Waiter) :
    waiter.Grows (waiter.subscribe kind predicate).2 where
  handoffs := by
    rw [length_subscribe]
    exact Nat.le_succ _
  registers := by
    intro id listed
    rcases (registers_subscribe kind predicate waiter id).mp listed with
      fresh | before
    · refine .inr ⟨Nat.le_of_eq fresh.symm, ?_⟩
      rw [length_subscribe, fresh]
      exact Nat.lt_succ_self _
    · exact .inl before

theorem grows_unsubscribe (id : SubscriptionId) (waiter : Waiter) :
    waiter.Grows (waiter.unsubscribe id) :=
  ⟨Nat.le_refl _, fun other listed =>
    .inl ((registers_unsubscribe id other waiter).mp listed).1⟩

theorem grows_setHandoff (id : SubscriptionId) (handoff : Handoff Event)
    (waiter : Waiter) : waiter.Grows (waiter.setHandoff id handoff) :=
  ⟨Nat.le_of_eq (length_setHandoff id handoff waiter).symm,
    fun _ listed => .inl listed⟩

theorem length_offer (event : Event) (subscription : Subscription)
    (waiter : Waiter) :
    (waiter.offer event subscription).2.handoffs.length =
      waiter.handoffs.length := by
  unfold offer
  dsimp only
  split
  · rfl
  · split
    · exact length_setHandoff _ _ _
    · rfl

theorem registers_of_offer {event : Event} {subscription : Subscription}
    {waiter : Waiter} {id : SubscriptionId}
    (registers : (waiter.offer event subscription).2.Registers id) :
    waiter.Registers id := by
  unfold offer at registers
  dsimp only at registers
  split at registers
  · exact registers
  · split at registers
    · exact ((registers_unsubscribe _ _ _).mp registers).1
    · exact registers

theorem length_offerAll (event : Event) (subscriptions : List Subscription)
    (waiter : Waiter) :
    (waiter.offerAll event subscriptions).2.handoffs.length =
      waiter.handoffs.length := by
  induction subscriptions generalizing waiter with
  | nil => rfl
  | cons first rest induction =>
      exact (induction (waiter.offer event first).2).trans
        (length_offer event first waiter)

theorem registers_of_offerAll {event : Event}
    {subscriptions : List Subscription} {waiter : Waiter}
    {id : SubscriptionId}
    (registers : (waiter.offerAll event subscriptions).2.Registers id) :
    waiter.Registers id := by
  induction subscriptions generalizing waiter with
  | nil => exact registers
  | cons first rest induction =>
      exact registers_of_offer (induction registers)

theorem grows_dispatch (event : Event) (waiter : Waiter) :
    waiter.Grows (waiter.dispatch event).2 :=
  ⟨Nat.le_of_eq (length_offerAll event _ waiter).symm,
    fun _ listed => .inl (registers_of_offerAll listed)⟩

end Switchboard.Waiter
