import Switchboard.Event
import Switchboard.Handoff

/-!
# Subscriptions to events

A subscription asks for the first event of one kind that satisfies a predicate.
An event that is offered resolves the handoff of every subscription that it
satisfies and takes these subscriptions off the register. The handoff stays with
whoever made the subscription.
-/

namespace Switchboard

/-- A subscription, by its place in the order of subscribing. -/
abbrev SubscriptionId := Nat

structure Subscription where
  id : SubscriptionId
  predicate : Event → Bool

structure Waiter where
  /-- The handoffs of all subscriptions ever made. -/
  handoffs : List (Handoff Event) := []
  /-- The subscriptions that still want an event, by kind; a kind without any
  has no entry. -/
  register : List (EventKind × List Subscription) := []

namespace Waiter

def registered (kind : EventKind) (waiter : Waiter) : List Subscription :=
  ((waiter.register.find? (·.1 = kind)).map (·.2)).getD []

/-- The register with a subscription added at the end of its kind. -/
def enlist (kind : EventKind) (subscription : Subscription) :
    List (EventKind × List Subscription) → List (EventKind × List Subscription)
  | [] => [(kind, [subscription])]
  | entry :: rest =>
    if entry.1 = kind then (kind, entry.2 ++ [subscription]) :: rest
    else entry :: enlist kind subscription rest

/-- The register without a subscription. -/
def strike (id : SubscriptionId)
    (register : List (EventKind × List Subscription)) :
    List (EventKind × List Subscription) :=
  (register.map fun entry =>
    (entry.1, entry.2.filter (·.id ≠ id))).filter (!·.2.isEmpty)

def subscribe (kind : EventKind) (predicate : Event → Bool) (waiter : Waiter) :
    SubscriptionId × Waiter :=
  let id := waiter.handoffs.length
  (id,
    { handoffs := waiter.handoffs ++ [{}]
      register := enlist kind { id, predicate } waiter.register })

/-- Takes a subscription off the register; its handoff stays. -/
def unsubscribe (id : SubscriptionId) (waiter : Waiter) : Waiter :=
  { waiter with register := strike id waiter.register }

def handoff (id : SubscriptionId) (waiter : Waiter) : Handoff Event :=
  (waiter.handoffs[id]?).getD {}

def setHandoff (id : SubscriptionId) (handoff : Handoff Event)
    (waiter : Waiter) : Waiter :=
  { waiter with handoffs := waiter.handoffs.set id handoff }

def lift (id : SubscriptionId) (waiter : Waiter) : Waiter :=
  waiter.setHandoff id (waiter.handoff id).lift

/-- Offers an event to one subscription, and says whether it took it. -/
def offer (event : Event) (subscription : Subscription) (waiter : Waiter) :
    Bool × Waiter :=
  let handoff := waiter.handoff subscription.id
  if handoff.isResolved || !subscription.predicate event then (false, waiter)
  else
    let (accepted, handoff) := handoff.send event
    if accepted then
      (true, (waiter.setHandoff subscription.id handoff).unsubscribe
        subscription.id)
    else (false, waiter)

/-- Offers an event to the listed subscriptions in order; answers those that
took it. -/
def offerAll (event : Event) :
    List Subscription → Waiter → List SubscriptionId × Waiter
  | [], waiter => ([], waiter)
  | subscription :: rest, waiter =>
    let (taken, waiter) := waiter.offer event subscription
    let (others, waiter) := offerAll event rest waiter
    (if taken then subscription.id :: others else others, waiter)

/-- Offers an event to every subscription of its kind; answers those that took
it. -/
def dispatch (event : Event) (waiter : Waiter) : List SubscriptionId × Waiter :=
  offerAll event (waiter.registered event.kind) waiter

/-- How many subscriptions still want an event. -/
def pending (waiter : Waiter) : Nat := (waiter.register.flatMap (·.2)).length

end Waiter

end Switchboard
