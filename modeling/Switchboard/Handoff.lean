import Switchboard.Outcome

/-!
# Handoffs

A handoff is a slot that is filled once, with a value or an error, and emptied
once. Whoever comes later finds it taken. Its deadline can be lifted for all who
wait on it.
-/

namespace Switchboard

/-- What a handoff holds. -/
inductive Slot (α : Type) where
  | empty
  | value (value : α)
  | error (reason : String)
  | taken
deriving DecidableEq, Repr

structure Handoff (α : Type) where
  slot : Slot α := .empty
  /-- Nobody who waits on the handoff has a deadline any more. -/
  lifted : Bool := false
deriving DecidableEq, Repr

namespace Handoff

variable {α : Type}

/-- A value or an error has been put in. -/
def isResolved (handoff : Handoff α) : Bool :=
  match handoff.slot with
  | .empty => false
  | _ => true

/-- Fills an empty slot; a slot that has been filled before stays as it is. -/
def resolve (content : Slot α) (handoff : Handoff α) : Bool × Handoff α :=
  match handoff.slot with
  | .empty => (true, { handoff with slot := content })
  | _ => (false, handoff)

def send (value : α) (handoff : Handoff α) : Bool × Handoff α :=
  handoff.resolve (.value value)

def throw (reason : String) (handoff : Handoff α) : Bool × Handoff α :=
  handoff.resolve (.error reason)

/-- Lifts the deadline of everyone who waits on the handoff, now or later. -/
def lift (handoff : Handoff α) : Handoff α := { handoff with lifted := true }

/-- Takes what the handoff holds; `none` when nothing has been put in. -/
def tryReceive (handoff : Handoff α) :
    Option (Except HandoffError α) × Handoff α :=
  match handoff.slot with
  | .empty => (none, handoff)
  | .value value => (some (.ok value), { handoff with slot := .taken })
  | .error reason =>
    (some (.error (.failed reason)), { handoff with slot := .taken })
  | .taken => (some (.error .alreadyTaken), handoff)

/-- A receiver has its turn: it takes what is there; with nothing there it gives
up if its deadline has passed and was not lifted, and else goes on waiting. -/
def receive (deadlinePassed : Bool) (handoff : Handoff α) :
    Option (Except HandoffError α) × Handoff α :=
  match handoff.tryReceive with
  | (some outcome, after) => (some outcome, after)
  | (none, after) =>
    if deadlinePassed && !handoff.lifted then (some (.error .timeout), after)
      else (none, after)

end Handoff

/-- A deadline in milliseconds as it is given to a receiver: zero means none,
and a negative number is refused. -/
def timeoutOfMillis (millis : Int) : Except HandoffError (Option Nat) :=
  if millis < 0 then .error (.invalidTimeout millis)
  else if millis = 0 then .ok none
  else .ok (some millis.toNat)

end Switchboard
