import Switchboard.Fleet.Clash

/-!
# Clash resolution as tasks

A machine of one fleet and any number of runs of clash resolution, while
identities join, leave, report and disconnect.
-/

namespace Switchboard

structure Sweep where
  name : String
  /-- Where the run stands; `none` when it has ended. -/
  stage : Option Resolving := some .fresh
  /-- The run has been cancelled and is given up when it next gets the floor. -/
  cancelled : Bool := false
deriving DecidableEq, Repr

structure SweepEnd where
  moment : Nat
  name : String
  resolutions : List Resolution
deriving DecidableEq, Repr

structure Sweeps where
  agenda : Agenda := {}
  territory : Territory := {}
  sweeps : List Sweep := []
  ended : List SweepEnd := []
  deeds : List Deed := []

namespace Sweeps

def setStage (task : TaskId) (stage : Option Resolving) (state : Sweeps) :
    Sweeps :=
  { state with
    sweeps := state.sweeps.modify task fun sweep => { sweep with stage } }

def yieldFloor (state : Sweeps) : Sweeps :=
  { state with agenda := state.agenda.yieldFloor }

def abandon (task : TaskId) (state : Sweeps) : Sweeps :=
  let (agenda, territory) := Resolving.abandon task state.agenda state.territory
  ({ state with agenda, territory }.setStage task none).yieldFloor

def advance (task : TaskId) (name : String) (stage : Resolving)
    (state : Sweeps) : Sweeps :=
  let result := stage.step task state.agenda state.territory
  let moment := state.agenda.now
  let deeds := result.acts.map fun act => ({ moment, task, act } : Deed)
  let state :=
    { state with
      agenda := result.agenda, territory := result.territory,
      deeds := state.deeds ++ deeds }
  match result.move with
  | .wait => state.yieldFloor
  | .go next => state.setStage task (some next)
  | .done resolutions =>
    let ending : SweepEnd := { moment, name, resolutions }
    { state.setStage task none with
      ended := state.ended ++ [ending] }.yieldFloor

def work (task : TaskId) (state : Sweeps) : Sweeps :=
  match state.sweeps[task]? with
  | none => state.yieldFloor
  | some sweep =>
    match sweep.stage with
    | none => state.yieldFloor
    | some stage =>
      if sweep.cancelled then state.abandon task
        else state.advance task sweep.name stage

instance : Machine Sweeps where
  agenda := Sweeps.agenda
  setAgenda agenda state := { state with agenda }
  alarms state := state.sweeps.zipIdx.flatMap fun (sweep, task) =>
    (sweep.stage.toList.flatMap Resolving.alarms).map (·, task)
  enter _ state := state
  work := work

def modifyFleet (change : Fleet → Fleet) (state : Sweeps) : Sweeps :=
  { state with
    territory := { state.territory with
      fleet := change state.territory.fleet } }

def modifyGateway (change : Gateway → Gateway) (state : Sweeps) : Sweeps :=
  { state with
    territory := { state.territory with
      gateway := change state.territory.gateway } }

def register (name : String) (state : Sweeps) : ShredId × Sweeps :=
  let (shred, fleet) := state.territory.fleet.register
  (shred, (state.modifyFleet fun _ => fleet).modifyGateway fun gateway =>
    gateway.connect name)

def report (shred : ShredId) (rooms : List String) (state : Sweeps) :
    List String × Sweeps :=
  let (contested, fleet) := state.territory.fleet.report shred rooms
  (contested, state.modifyFleet fun _ => fleet)

def joined (shred : ShredId) (room : String) (state : Sweeps) : Bool × Sweeps :=
  let (clash, fleet) := state.territory.fleet.joined shred room
  (clash, state.modifyFleet fun _ => fleet)

def left (shred : ShredId) (room : String) (state : Sweeps) : Sweeps :=
  state.modifyFleet fun fleet => fleet.left shred room

def disconnected (shred : ShredId) (state : Sweeps) : Sweeps :=
  state.modifyFleet fun fleet => fleet.disconnected shred

def start (name : String) (state : Sweeps) : Sweeps :=
  let task := state.sweeps.length
  { state with
    sweeps := state.sweeps ++ [{ name }], agenda := state.agenda.wake task }

/-- Cancels a run; it is given up when it next gets the floor. -/
def cancel (task : TaskId) (state : Sweeps) : Sweeps :=
  { state with
    sweeps :=
      state.sweeps.modify task fun sweep => { sweep with cancelled := true }
    agenda := state.agenda.wake task }

end Sweeps

end Switchboard
