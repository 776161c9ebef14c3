import Switchboard.Event

/-!
# Event patterns

A pattern names values that an event must have. A value that the event lacks
never matches, and the pattern that asks for nothing matches every event.
-/

namespace Switchboard

/-- The values asked for; `none` asks for nothing. -/
structure Pattern where
  actor : Option String := none
  room : Option String := none
  channel : Option String := none
  body : Option String := none
  id : Option String := none
  target : Option String := none
  key : Option String := none
  /-- Refuses every event. -/
  never : Bool := false
deriving DecidableEq, Repr

namespace Pattern

/-- A wanted value is there, or none is wanted. -/
def agrees (wanted found : Option String) : Bool :=
  wanted.isNone || wanted == found

/-- The message that the event is about: one reacted to or deleted. -/
def targetOf (event : Event) : Option String :=
  event.deleted?.or (event.reaction?.map (·.1))

def accepts (pattern : Pattern) (event : Event) : Bool :=
  !pattern.never
    && agrees pattern.actor (some event.actor)
    && agrees pattern.room (some event.room)
    && agrees pattern.channel (some event.channel)
    && agrees pattern.body event.body?
    && agrees pattern.id event.messageId?
    && agrees pattern.target (targetOf event)
    && agrees pattern.key (event.reaction?.map (·.2))

end Pattern

end Switchboard
