import Switchboard.Agenda
import Switchboard.Event
import Switchboard.Table

/-!
# The gateway

The chat network as the bot meets it: connections of identities, rooms in which
they can speak, and how long each action takes and whether it succeeds. These
settings may change at any time; what is decided at the start of an action is
settled then.
-/

namespace Switchboard

/-- Which attempts to leave a room fail, and with what text. -/
inductive LeaveFailure where
  | never
  | always (reason : String)
  | rooms (reasons : Table String String)
deriving DecidableEq, Repr

def LeaveFailure.reason? (room : String) : LeaveFailure → Option String
  | .never => none
  | .always reason => some reason
  | .rooms reasons => reasons.find? room

structure Connection where
  name : String
  connected : Bool := true
  leaveFailure : LeaveFailure := .never
  leaveDelay : Nat := 0
  /-- The rooms in which the identity cannot speak. -/
  mute : List String := []
deriving DecidableEq, Repr

/-- A room as one identity speaks in it. -/
structure Chat where
  shred : ShredId
  room : String
deriving DecidableEq, Repr

/-- How a chat behaves, and what it has seen. -/
structure ChatState where
  sendFailure : Option String := none
  noticeFailure : Option String := none
  typingFailure : Option String := none
  reactFailures : Table String String := []
  sendDelay : Nat := 0
  reactDelay : Nat := 0
  existsDelay : Nat := 0
  /-- Messages that no longer exist. -/
  deleted : List String := []
  /-- How often each text has been sent with success. -/
  sent : Table String Nat := []
deriving DecidableEq, Repr

/-- Something done to the gateway, with the name of the identity and the
room. -/
inductive Act where
  | send (shred room text : String) (failed : Bool)
  | notice (shred room text : String) (failed : Bool)
  | react (shred room message key : String) (failed : Bool)
  | typing (shred room : String) (active failed : Bool)
  | looked (shred room message : String) (found : Bool)
  | leave (shred room : String) (failed : Bool)
deriving DecidableEq, Repr

structure Deed where
  moment : Nat
  task : TaskId
  act : Act
deriving DecidableEq, Repr

structure Gateway where
  connections : List Connection := []
  chats : Table Chat ChatState := []
deriving DecidableEq, Repr

namespace Gateway

def name (shred : ShredId) (gateway : Gateway) : String :=
  ((gateway.connections[shred]?).map Connection.name).getD ""

def connect (name : String) (gateway : Gateway) : Gateway :=
  { gateway with connections := gateway.connections ++ [{ name }] }

/-- The room as an identity speaks in it, where it can. -/
def chat? (shred : ShredId) (room : String) (gateway : Gateway) : Option Chat :=
  match gateway.connections[shred]? with
  | some connection =>
    if room ∈ connection.mute then none else some { shred, room }
  | none => none

def chatState (chat : Chat) (gateway : Gateway) : ChatState :=
  (gateway.chats.find? chat).getD {}

def modifyChat (chat : Chat) (change : ChatState → ChatState)
    (gateway : Gateway) : Gateway :=
  { gateway with
    chats := gateway.chats.write chat (change (gateway.chatState chat)) }

def modifyConnection (shred : ShredId) (change : Connection → Connection)
    (gateway : Gateway) : Gateway :=
  { gateway with connections := gateway.connections.modify shred change }

/-- Counts a message sent with success and names it after its text and that
count. -/
def nameMessage (chat : Chat) (text : String) (gateway : Gateway) :
    String × Gateway :=
  let count := ((gateway.chatState chat).sent.find? text).getD 0 + 1
  (s!"${text}#{count}",
    gateway.modifyChat chat fun state =>
      { state with sent := state.sent.write text count })

end Gateway

end Switchboard
