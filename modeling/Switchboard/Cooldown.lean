import Switchboard.Event
import Switchboard.Table

/-!
# Cooldowns

A bucket is a cooldown shared by all uses that name it. It keeps, per key, the
moment at which the cooldown of the last recorded use ends; what has ended is
removed when somebody looks at it. All times are in milliseconds.

A window may be so long that the clock of the host cannot tell when it ends. The
call that would record such an end breaks off: it panics, and nothing is
recorded.
-/

namespace Switchboard

/-- What a cooldown is counted against. -/
inductive Scope where
  | actor
  | room
  | channel
  | global
deriving DecidableEq, Repr

def Scope.name : Scope → String
  | .actor => "actor"
  | .room => "room"
  | .channel => "channel"
  | .global => "global"

def Scope.ofName? (name : String) : Option Scope :=
  [Scope.actor, .room, .channel, .global].find? (·.name = name)

/-- The cooldown that a command is subject to. -/
structure Cooldown where
  bucket : String
  window : Nat
  scope : Scope
deriving DecidableEq, Repr

/-- The key under which a bucket counts an invocation. -/
def Cooldown.keyFor (cooldown : Cooldown) (origin : Origin) : String :=
  match cooldown.scope with
  | .actor => origin.actor
  | .room => origin.room
  | .channel => origin.channel
  | .global => "*"

/-- A use that has been admitted, as it is needed to give it back. -/
structure Reservation where
  bucket : String
  key : String
  expires : Nat
deriving DecidableEq, Repr

structure Bucket where
  window : Nat
  expiries : Table String Nat := []
deriving DecidableEq, Repr

namespace Bucket

/-- What remains of a key's cooldown; one that has ended is removed. -/
def remaining (now : Nat) (key : String) (bucket : Bucket) :
    Option Nat × Bucket :=
  match bucket.expiries.find? key with
  | none => (none, bucket)
  | some expiry =>
    if now < expiry then (some (expiry - now), bucket)
    else (none, { bucket with expiries := bucket.expiries.remove key })

/-- The bucket once a use of now has been recorded, unless its cooldown ends
past the horizon of the clock. -/
def record? (horizon now : Nat) (key : String) (bucket : Bucket) :
    Option Bucket :=
  let expiry := now + bucket.window
  if expiry ≤ horizon then
    some { bucket with expiries := bucket.expiries.write key expiry }
  else none

end Bucket

/-- What comes of a use that is to be recorded whatever cooldown is running. -/
inductive Recording where
  /-- There is no such bucket, so nothing is recorded. -/
  | unknown
  | recorded
  /-- The cooldown would end past the horizon of the clock: the call breaks
  off. -/
  | beyond
deriving DecidableEq, Repr

inductive Admission where
  /-- The key is cooling down for that long. -/
  | limited (remaining : Nat)
  /-- There is no such bucket, so nothing is counted. -/
  | uncounted
  | reserved (reservation : Reservation)
  /-- The cooldown would end past the horizon of the clock: the call breaks
  off. -/
  | beyond
deriving DecidableEq, Repr

/-- The last moment of a clock that counts its seconds in 63 bits. -/
def hostHorizon : Nat := Nat.pow 2 63 * 1000 - 1

structure Cooldowns where
  /-- The last moment that the clock of the host can tell. -/
  horizon : Nat
  buckets : Table String Bucket := []
deriving DecidableEq, Repr

namespace Cooldowns

/-- The cooldowns with another bucket under a name. -/
def put (name : String) (bucket : Bucket) (cooldowns : Cooldowns) : Cooldowns :=
  { cooldowns with buckets := cooldowns.buckets.write name bucket }

/-- Declares a bucket, or gives it another window; the recorded ends stay. -/
def configure (name : String) (window : Nat) (cooldowns : Cooldowns) :
    Cooldowns :=
  let expiries :=
    ((cooldowns.buckets.find? name).map Bucket.expiries).getD []
  cooldowns.put name { window, expiries }

def window? (name : String) (cooldowns : Cooldowns) : Option Nat :=
  (cooldowns.buckets.find? name).map Bucket.window

/-- What remains of a key's cooldown. -/
def check (now : Nat) (name key : String) (cooldowns : Cooldowns) :
    Option Nat × Cooldowns :=
  match cooldowns.buckets.find? name with
  | none => (none, cooldowns)
  | some bucket =>
    let (answer, bucket) := bucket.remaining now key
    (answer, cooldowns.put name bucket)

/-- Records a use now. -/
def register (now : Nat) (name key : String) (cooldowns : Cooldowns) :
    Recording × Cooldowns :=
  match cooldowns.buckets.find? name with
  | none => (.unknown, cooldowns)
  | some bucket =>
    match bucket.record? cooldowns.horizon now key with
    | none => (.beyond, cooldowns)
    | some bucket => (.recorded, cooldowns.put name bucket)

/-- Admits and records a use now, unless its key is cooling down. -/
def acquire (now : Nat) (name key : String) (cooldowns : Cooldowns) :
    Admission × Cooldowns :=
  match cooldowns.buckets.find? name with
  | none => (.uncounted, cooldowns)
  | some bucket =>
    match bucket.remaining now key with
    | (some left, bucket) => (.limited left, cooldowns.put name bucket)
    | (none, bucket) =>
      match bucket.record? cooldowns.horizon now key with
      | none => (.beyond, cooldowns.put name bucket)
      | some recorded =>
        (.reserved { bucket := name, key, expires := now + bucket.window },
          cooldowns.put name recorded)

/-- Gives a use back. A cooldown that ends at another moment is left alone. -/
def release (reservation : Reservation) (cooldowns : Cooldowns) : Cooldowns :=
  match cooldowns.buckets.find? reservation.bucket with
  | none => cooldowns
  | some bucket =>
    if bucket.expiries.find? reservation.key = some reservation.expires then
      let expiries := bucket.expiries.remove reservation.key
      cooldowns.put reservation.bucket { bucket with expiries }
    else cooldowns

end Cooldowns

end Switchboard
