import Switchboard.Command
import Switchboard.Agenda
import Switchboard.Outcome
import Switchboard.Text.Quoted
import Switchboard.Waiter

/-!
# Processes

Every invocation of a command runs as a process under a number of its own. It is
registered until its body has ended. A kill is final: the state moves only from
running over interrupted to done.
-/

namespace Switchboard

/-- A process, by its place in the order of launching. -/
abbrev Pid := Nat

inductive ProcessState where
  | running
  | interrupted
  | done
deriving DecidableEq, Repr

def ProcessState.label : ProcessState → String
  | .running => "Running"
  | .interrupted => "Interrupted"
  | .done => "Done"

/-- What a process seems to be doing. -/
inductive ProcessPhase where
  | runnable
  | waiting
  | terminated
deriving DecidableEq, Repr

def ProcessPhase.label : ProcessPhase → String
  | .runnable => "runnable"
  | .waiting => "waiting"
  | .terminated => "terminated"

/-- A value that a process shows to others. -/
inductive Payload where
  | text (text : String)
  | number (number : Nat)
deriving DecidableEq, Repr

structure Process where
  command : CommandDef
  origin : Origin
  /-- When it was launched, by the wall clock. -/
  startedAt : Nat
  /-- The task that runs it. -/
  task : TaskId
  state : ProcessState := .running
  killed : Bool := false
  /-- How many waits are open. -/
  waits : Nat := 0
  /-- The subscriptions of the open waits whose deadline can be lifted. -/
  deadlines : List SubscriptionId := []
  payload : Option Payload := none
  /-- Guards that the body holds, newest first: subscriptions that nobody
  receives from. -/
  guards : List SubscriptionId := []
  /-- How many bare marks of waiting the body holds. -/
  marks : Nat := 0
deriving DecidableEq, Repr

def Origin.describe (origin : Origin) : String :=
  "Origin \x7b shred: ShredId(" ++ toString origin.shred
    ++ "), actor: " ++ Text.quoted origin.actor
    ++ ", room: " ++ Text.quoted origin.room
    ++ ", channel: " ++ Text.quoted origin.channel
    ++ " \x7d"

namespace Process

def describe (pid : Pid) (process : Process) : String :=
  "Process \x7b pid: " ++ toString pid
    ++ ", command: " ++ Text.quoted process.command.name
    ++ ", origin: " ++ process.origin.describe
    ++ ", state: " ++ process.state.label ++ ", .. \x7d"

def phase (process : Process) : ProcessPhase :=
  if process.state = .done then .terminated
  else if 0 < process.waits then .waiting
  else .runnable

/-- Opens a wait, with the subscription whose deadline can be lifted. -/
def enterWait (deadline : Option SubscriptionId) (process : Process) :
    Process :=
  { process with
    waits := process.waits + 1
    deadlines := process.deadlines ++ deadline.toList }

def leaveWait (deadline : Option SubscriptionId) (process : Process) :
    Process :=
  { process with
    waits := process.waits - 1
    deadlines := process.deadlines.filter fun id => some id ≠ deadline }

/-- Kills a running process; says whether it was running. -/
def interrupt (process : Process) : Bool × Process :=
  match process.state with
  | .running => (true, { process with state := .interrupted, killed := true })
  | _ => (false, process)

end Process

/-- All processes ever launched, by number, and the numbers of those that are
registered. -/
structure ProcessTable where
  all : List Process := []
  live : List Pid := []
deriving DecidableEq, Repr

namespace ProcessTable

/-- Registers a process under the next number, which is how many have been
launched before. A counter of 32 bits that skips the numbers in use gives the
same numbers to the first 2^32 processes; it is assumed that a bot launches no
more. -/
def add (process : Process) (table : ProcessTable) : Pid × ProcessTable :=
  (table.all.length,
    { all := table.all ++ [process], live := table.live ++ [table.all.length] })

def get? (pid : Pid) (table : ProcessTable) : Option Process :=
  if pid ∈ table.live then table.all[pid]? else none

/-- The registered processes in ascending order of their numbers. -/
def list (table : ProcessTable) : List (Pid × Process) :=
  table.live.filterMap fun pid => (table.all[pid]?).map (pid, ·)

def size (table : ProcessTable) : Nat := table.live.length

def isEmpty (table : ProcessTable) : Bool := table.live.isEmpty

def modify (pid : Pid) (change : Process → Process) (table : ProcessTable) :
    ProcessTable :=
  { table with all := table.all.modify pid change }

/-- Takes a process off the register; it is done. -/
def remove (pid : Pid) (table : ProcessTable) : ProcessTable :=
  { all := table.all.modify pid fun process => { process with state := .done }
    live := table.live.filter (· ≠ pid) }

end ProcessTable

end Switchboard
