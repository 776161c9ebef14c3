import Switchboard.Proofs.Waiter.Dispatch
import Switchboard.Proofs.Waiter.Turn

/-!
# What may happen to a handoff

Whoever does not receive from a handoff can at most put an event in and lift
its deadline, and a deadline that has been lifted is not set again.
-/

namespace Switchboard

/-- The slot is the same, or has been filled with an event. -/
def Handoff.Fills (before after : Handoff Event) : Prop :=
  after.slot = before.slot ∨
    before.slot = .empty ∧ ∃ event, after.slot = .value event

namespace Handoff.Fills

variable {first second third : Handoff Event}

theorem refl (handoff : Handoff Event) : handoff.Fills handoff := .inl rfl

theorem trans (one : first.Fills second) (two : second.Fills third) :
    first.Fills third := by
  rcases one with same | ⟨empty, event, filled⟩
  · rcases two with again | ⟨empty, filled⟩
    · exact .inl (again.trans same)
    · exact .inr ⟨same.symm.trans empty, filled⟩
  · rcases two with same | ⟨emptyThen, _⟩
    · exact .inr ⟨empty, event, same.trans filled⟩
    · rw [filled] at emptyThen
      cases emptyThen

theorem holding (fills : first.Fills second) {content : Option Event}
    (holds : first.slot = .holding content) :
    ∃ content, second.slot = .holding content := by
  rcases fills with same | ⟨_, event, filled⟩
  · exact ⟨content, same.trans holds⟩
  · exact ⟨some event, filled⟩

end Handoff.Fills

namespace Waiter

/-- Handoffs are filled at most, and no deadline is set again. -/
structure Supplies (before after : Waiter) : Prop where
  handoffs : before.handoffs.length ≤ after.handoffs.length
  lifted : ∀ id, (before.handoff id).lifted = true →
    (after.handoff id).lifted = true
  fills : ∀ id, (before.handoff id).Fills (after.handoff id)

theorem handoff_of_same {first second : Waiter}
    (same : second.handoffs = first.handoffs) (id : SubscriptionId) :
    second.handoff id = first.handoff id := by
  rw [handoff, same, handoff]

theorem lifted_setHandoff {id : SubscriptionId} {handoff : Handoff Event}
    {waiter : Waiter} (lifted : handoff.lifted = (waiter.handoff id).lifted)
    (other : SubscriptionId) :
    ((waiter.setHandoff id handoff).handoff other).lifted =
      (waiter.handoff other).lifted := by
  rw [handoff_setHandoff]
  split
  · rename_i here
    rw [lifted, here.1]
  · rfl

namespace Supplies

variable {first second third : Waiter}

theorem of_handoff (handoffs : first.handoffs.length ≤ second.handoffs.length)
    (same : ∀ id, second.handoff id = first.handoff id) :
    first.Supplies second where
  handoffs := handoffs
  lifted := by
    intro id lifted
    rw [same]
    exact lifted
  fills := by
    intro id
    rw [same]
    exact .refl _

theorem of_same (same : second.handoffs = first.handoffs) :
    first.Supplies second :=
  of_handoff (Nat.le_of_eq (congrArg List.length same.symm))
    (handoff_of_same same)

theorem refl (waiter : Waiter) : waiter.Supplies waiter := of_same rfl

theorem trans (one : first.Supplies second) (two : second.Supplies third) :
    first.Supplies third where
  handoffs := Nat.le_trans one.handoffs two.handoffs
  lifted := fun id lifted => two.lifted id (one.lifted id lifted)
  fills := fun id => (one.fills id).trans (two.fills id)

theorem subscribe (kind : EventKind) (predicate : Event → Bool)
    (waiter : Waiter) :
    waiter.Supplies (waiter.subscribe kind predicate).2 := by
  apply of_handoff
  · rw [length_subscribe]
    exact Nat.le_succ _
  · exact fun id => handoff_subscribe kind predicate id waiter

theorem lift (id : SubscriptionId) (waiter : Waiter) :
    waiter.Supplies (waiter.lift id) where
  handoffs := Nat.le_of_eq (length_setHandoff id _ waiter).symm
  lifted := by
    intro other lifted
    rw [Waiter.lift, handoff_setHandoff]
    split
    · rfl
    · exact lifted
  fills := fun other => .inl (slot_lift id other waiter)

theorem fill (event : Event) {id : SubscriptionId} {waiter : Waiter}
    (empty : (waiter.handoff id).slot = .empty) :
    waiter.Supplies (waiter.fill event id) where
  handoffs := Nat.le_of_eq (length_setHandoff id _ waiter).symm
  lifted := by
    intro other lifted
    rw [Waiter.fill, handoff_unsubscribe, lifted_setHandoff]
    · exact lifted
    · rfl
  fills := by
    intro other
    rw [Waiter.fill, handoff_unsubscribe, handoff_setHandoff]
    split
    · rename_i here
      exact .inr ⟨here.1 ▸ empty, event, rfl⟩
    · exact .refl _

theorem offer (event : Event) (subscription : Subscription)
    (waiter : Waiter) :
    waiter.Supplies (waiter.offer event subscription).2 := by
  cases slot : (waiter.handoff subscription.id).slot with
  | empty =>
      cases wants : subscription.predicate event with
      | true =>
          rw [offer_of_wants slot wants]
          exact fill event slot
      | false =>
          rw [offer_of_refuses wants]
          exact refl waiter
  | _ =>
      simp only [Waiter.offer, Handoff.isResolved, slot, Bool.true_or,
        if_true]
      exact refl waiter

theorem offerAll (event : Event) (subscriptions : List Subscription)
    (waiter : Waiter) :
    waiter.Supplies (waiter.offerAll event subscriptions).2 := by
  induction subscriptions generalizing waiter with
  | nil => exact refl waiter
  | cons subscription rest induction =>
      exact (offer event subscription waiter).trans
        (induction (waiter.offer event subscription).2)

theorem dispatch (event : Event) (waiter : Waiter) :
    waiter.Supplies (waiter.dispatch event).2 :=
  offerAll event (waiter.registered event.kind) waiter

end Supplies

end Waiter

end Switchboard
