import Switchboard.Fleet.Clash
import Switchboard.Proofs.Fleet.Visibility

/-!
# How a territory comes about

The reports of identities are the changes of a fleet.  A territory is
reachable when it comes about by registrations, such changes, and any change
of the gateway's settings and of the lock.
-/

namespace Switchboard

/-- What an identity makes known about the rooms it sees. -/
inductive FleetChange where
  | joined (shred : ShredId) (room : String)
  | left (shred : ShredId) (room : String)
  | report (shred : ShredId) (rooms : List String)
  | disconnected (shred : ShredId)
deriving DecidableEq, Repr

namespace FleetChange

/-- The identity that makes the change known. -/
def shred : FleetChange → ShredId
  | .joined shred _ => shred
  | .left shred _ => shred
  | .report shred _ => shred
  | .disconnected shred => shred

def apply : FleetChange → Fleet → Fleet
  | .joined shred room, fleet => (fleet.joined shred room).2
  | .left shred room, fleet => fleet.left shred room
  | .report shred rooms, fleet => (fleet.report shred rooms).2
  | .disconnected shred, fleet => fleet.disconnected shred

/-- Whether an identity sees a room after a change, given whether it did
before. -/
def Sees (shred : ShredId) (room : String) (before : Prop) :
    FleetChange → Prop
  | .joined mover place => before ∨ (shred = mover ∧ room = place)
  | .left mover place => before ∧ ¬(shred = mover ∧ room = place)
  | .report mover rooms => if shred = mover then room ∈ rooms else before
  | .disconnected mover => before ∧ shred ≠ mover

@[simp] theorem registered_apply (change : FleetChange) (fleet : Fleet) :
    (change.apply fleet).registered = fleet.registered := by
  cases change <;> simp [apply]

theorem sound_apply {fleet : Fleet} (sound : fleet.Sound)
    (change : FleetChange) : (change.apply fleet).Sound := by
  cases change with
  | joined shred room => exact sound.joined shred room
  | left shred room => exact sound.left shred room
  | report shred rooms => exact sound.report shred rooms
  | disconnected shred => exact sound.disconnected shred

theorem mem_seenBy_apply {fleet : Fleet} (sound : fleet.Sound)
    (change : FleetChange) (shred : ShredId) (room : String) :
    shred ∈ (change.apply fleet).seenBy room ↔
      change.Sees shred room (shred ∈ fleet.seenBy room) := by
  cases change with
  | joined mover place =>
      rw [apply, Fleet.seenBy_joined, Sees]
      by_cases same : room = place
      · subst place
        rw [if_pos rfl, Fleet.mem_insertShred, or_comm]
        simp
      · simp [same]
  | left mover place =>
      rw [apply, Fleet.seenBy_left, Sees]
      by_cases same : room = place
      · subst place
        simp [List.mem_filter]
      · simp [same]
  | report mover rooms =>
      exact Fleet.mem_seenBy_report sound mover shred rooms room
  | disconnected mover =>
      rw [apply, Fleet.seenBy_disconnected sound, Sees]
      simp [List.mem_filter]

theorem onlyRegistered_apply {fleet : Fleet} (sound : fleet.Sound)
    (registered : fleet.OnlyRegistered) {change : FleetChange}
    (mover : change.shred < fleet.registered) :
    (change.apply fleet).OnlyRegistered := by
  intro room shred member
  rw [registered_apply]
  have before := (mem_seenBy_apply sound change shred room).mp member
  by_cases same : shred = change.shred
  · exact same ▸ mover
  · apply registered room shred
    cases change with
    | joined mover place =>
        exact before.resolve_right fun here => same here.1
    | left mover place => exact before.1
    | report mover rooms => exact (if_neg same).mp before
    | disconnected mover => exact before.1

end FleetChange

namespace Territory

def modifyFleet (change : Fleet → Fleet) (territory : Territory) :
    Territory :=
  { territory with fleet := change territory.fleet }

/-- Registers and connects the next identity. -/
def register (name : String) (territory : Territory) : Territory :=
  { territory with
    fleet := territory.fleet.register.2
    gateway := territory.gateway.connect name }

/-- The territories that can come about.  Settings of the gateway and the
lock may be anything; no connection is ever taken away. -/
inductive Reachable : Territory → Prop where
  | empty : Reachable {}
  | register {territory : Territory} (name : String) :
      Reachable territory → Reachable (territory.register name)
  | change {territory : Territory} (change : FleetChange) :
      Reachable territory → Reachable (territory.modifyFleet change.apply)
  | settings {territory : Territory} (gateway : Gateway) (lock : Lock) :
      gateway.connections.length = territory.gateway.connections.length →
      Reachable territory → Reachable { territory with gateway, lock }

/-- A sound fleet, with one connection for every registered identity. -/
structure Sound (territory : Territory) : Prop where
  fleet : territory.fleet.Sound
  connected :
    territory.gateway.connections.length = territory.fleet.registered

theorem Reachable.sound {territory : Territory}
    (reachable : territory.Reachable) : territory.Sound := by
  induction reachable with
  | empty => exact ⟨Fleet.Sound.empty, rfl⟩
  | register name _ induction =>
      refine ⟨induction.fleet.register, ?_⟩
      simp [Territory.register, Gateway.connect, Fleet.register,
        induction.connected]
  | change change _ induction =>
      refine ⟨change.sound_apply induction.fleet, ?_⟩
      exact induction.connected.trans (change.registered_apply _).symm
  | settings gateway lock same _ induction =>
      exact ⟨induction.fleet, same.trans induction.connected⟩

/-- Three identities see one room. -/
def crowdedLobby : Territory :=
  [0, 1, 2].foldl (fun territory shred =>
      territory.modifyFleet (FleetChange.joined shred "lobby").apply)
    (((({} : Territory).register "a").register "b").register "c")

theorem crowdedLobby_reachable : crowdedLobby.Reachable :=
  .change (.joined 2 "lobby") (.change (.joined 1 "lobby")
    (.change (.joined 0 "lobby")
      (.register "c" (.register "b" (.register "a" .empty)))))

theorem crowdedLobby_onlyRegistered : crowdedLobby.fleet.OnlyRegistered := by
  intro room shred member
  have fleet : crowdedLobby.fleet =
      { registered := 3, visibility := [("lobby", [0, 1, 2])] } := by
    decide +kernel
  rw [fleet] at member ⊢
  by_cases lobby : "lobby" = room
  · simp only [Fleet.seenBy, Table.find?, lobby, ↓reduceIte, Option.getD_some,
      List.mem_cons, List.not_mem_nil, or_false] at member
    rcases member with rfl | rfl | rfl <;> decide
  · simp [Fleet.seenBy, Table.find?, lobby] at member

end Territory

end Switchboard
