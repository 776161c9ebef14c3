/-!
# Events

What the gateway delivers: a message, a reaction or a deletion, seen by one
identity (a *shred*) in one room, together with the origin that a command keeps
of it.
-/

namespace Switchboard

/-- An identity of the bot, by its place in the order of registration. -/
abbrev ShredId := Nat

def ShredId.label (shred : ShredId) : String := s!"#{shred}"

/-- What kind of event a subscription asks for. -/
inductive EventKind where
  | message
  | reaction
  | deletion
deriving DecidableEq, Repr

/-- What happened. -/
inductive Content where
  | message (id body : String)
  | reaction (target key : String)
  | deletion (target : String)
deriving DecidableEq, Repr

/-- One event as one identity saw it. -/
structure Event where
  shred : ShredId
  actor : String
  room : String
  channel : String
  content : Content
deriving DecidableEq, Repr

/-- Where a command was invoked, and by whom. -/
structure Origin where
  shred : ShredId
  actor : String
  room : String
  channel : String
deriving DecidableEq, Repr

namespace Event

def kind (event : Event) : EventKind :=
  match event.content with
  | .message .. => .message
  | .reaction .. => .reaction
  | .deletion .. => .deletion

def body? (event : Event) : Option String :=
  match event.content with
  | .message _ body => some body
  | _ => none

def messageId? (event : Event) : Option String :=
  match event.content with
  | .message id _ => some id
  | _ => none

/-- The message reacted to, and the key of the reaction. -/
def reaction? (event : Event) : Option (String × String) :=
  match event.content with
  | .reaction target key => some (target, key)
  | _ => none

def deleted? (event : Event) : Option String :=
  match event.content with
  | .deletion target => some target
  | _ => none

/-- The text of a message, empty for any other event. -/
def bodyText (event : Event) : String := event.body?.getD ""

def origin (event : Event) : Origin where
  shred := event.shred
  actor := event.actor
  room := event.room
  channel := event.channel

end Event

end Switchboard
