import Switchboard.Agenda
import Switchboard.Handoff

/-!
# Receivers of one handoff

A machine of one handoff and any number of receivers that wait on it, each until
the handoff is resolved or its own deadline passes.
-/

namespace Switchboard

inductive ReceiverStage where
  /-- Started, and not yet given the floor. -/
  | fresh (timeout : Option Nat)
  /-- Waiting; the deadline counts from the first time it had the floor. -/
  | waiting (deadline : Option Alarm)
  | ended
deriving DecidableEq, Repr

structure Receiver where
  name : String
  stage : ReceiverStage
  /-- The receiver has been dropped and is removed when it next gets the
  floor. -/
  dropped : Bool := false
deriving DecidableEq, Repr

def Receiver.alarm? (receiver : Receiver) : Option Alarm :=
  match receiver.stage with
  | .waiting deadline => deadline
  | _ => none

structure Reception (α : Type) where
  moment : Nat
  name : String
  outcome : Except HandoffError α

structure Receivers (α : Type) where
  agenda : Agenda := {}
  handoff : Handoff α := {}
  receivers : List Receiver := []
  /-- The ends of receivers, latest last. -/
  ended : List (Reception α) := []

namespace Receivers

variable {α : Type}

def setStage (task : TaskId) (stage : ReceiverStage) (state : Receivers α) :
    Receivers α :=
  { state with
    receivers := state.receivers.modify task fun receiver =>
      { receiver with stage } }

def alarms (state : Receivers α) : List (Alarm × TaskId) :=
  state.receivers.zipIdx.filterMap fun (receiver, task) =>
    receiver.alarm?.map (·, task)

/-- A receiver with a deadline looks at the handoff, and ends or goes on
waiting. -/
def look (task : TaskId) (name : String) (deadline : Option Alarm)
    (state : Receivers α) : Receivers α :=
  let passed := deadline.any state.agenda.isDue
  match state.handoff.receive passed with
  | (some outcome, handoff) =>
    let reception := { moment := state.agenda.now, name, outcome }
    { state.setStage task .ended with
      handoff, ended := state.ended ++ [reception] }
  | (none, handoff) => { state.setStage task (.waiting deadline) with handoff }

/-- The turn of a receiver; it never keeps the floor. -/
def work (task : TaskId) (state : Receivers α) : Receivers α :=
  let state := { state with agenda := state.agenda.yieldFloor }
  match state.receivers[task]? with
  | none => state
  | some receiver =>
    if receiver.dropped then state.setStage task .ended
    else
      match receiver.stage with
      | .fresh none | .fresh (some 0) => state.look task receiver.name none
      | .fresh (some timeout) =>
        let deadline := state.agenda.alarmIn timeout
        { state with agenda := state.agenda.countAlarm }.look task receiver.name
          (some deadline)
      | .waiting deadline => state.look task receiver.name deadline
      | .ended => state

instance : Machine (Receivers α) where
  agenda := Receivers.agenda
  setAgenda agenda state := { state with agenda }
  alarms := alarms
  enter _ state := state
  work := work

def waiting (state : Receivers α) : List TaskId :=
  state.receivers.zipIdx.filterMap fun (receiver, task) =>
    match receiver.stage with
    | .waiting _ => some task
    | _ => none

/-- The handoff has changed in a way that its receivers want to see. -/
def wakeWaiting (state : Receivers α) : Receivers α :=
  { state with agenda := state.agenda.wakeAll state.waiting }

def send (value : α) (state : Receivers α) : Bool × Receivers α :=
  let (accepted, handoff) := state.handoff.send value
  (accepted, if accepted then { state with handoff }.wakeWaiting else state)

def throw (reason : String) (state : Receivers α) : Bool × Receivers α :=
  let (accepted, handoff) := state.handoff.throw reason
  (accepted, if accepted then { state with handoff }.wakeWaiting else state)

def lift (state : Receivers α) : Receivers α :=
  { state with handoff := state.handoff.lift }.wakeWaiting

def tryReceive (state : Receivers α) :
    Option (Except HandoffError α) × Receivers α :=
  let (outcome, handoff) := state.handoff.tryReceive
  (outcome, { state with handoff })

def start (name : String) (timeout : Option Nat) (state : Receivers α) :
    Receivers α :=
  let task := state.receivers.length
  { state with
    receivers := state.receivers ++ [{ name, stage := .fresh timeout }]
    agenda := state.agenda.wake task }

/-- Drops the receiver of that name that has not ended. -/
def drop (name : String) (state : Receivers α) : Receivers α :=
  match state.receivers.findIdx? fun receiver =>
      receiver.name = name ∧ receiver.stage ≠ .ended ∧ !receiver.dropped with
  | none => state
  | some task =>
    { state with
      receivers :=
        state.receivers.modify task fun receiver =>
          { receiver with dropped := true }
      agenda := state.agenda.wake task }

end Receivers

end Switchboard
