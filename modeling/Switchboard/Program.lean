import Switchboard.Fleet.Clash
import Switchboard.Process
import Switchboard.Text.Blank

/-!
# Programs

The body of a command as a tree: it ends, fails, panics, or makes a call and
goes on with the answer. What a call does, and whether it takes time, is not
said here.
-/

namespace Switchboard

/-- What a listing shows of a process. -/
structure ProcessView where
  pid : Pid
  command : String
  origin : Origin
  phase : ProcessPhase
  hasPayload : Bool
  /-- How long it has been running, in milliseconds. -/
  age : Nat
deriving DecidableEq, Repr

/-- What an overview shows of an identity. -/
structure ShredView where
  id : ShredId
  name : String
  connected : Bool
  rooms : Nat
deriving DecidableEq, Repr

/-- What a body can ask for. -/
inductive Call where
  /-- Sends a message to the room of the invocation. -/
  | reply (text : String)
  | notify (text : String)
  /-- Shows or clears the typing sign; failures are ignored. -/
  | typing (active : Bool)
  /-- Shows a value to others. -/
  | setPayload (payload : Payload)
  | sleep (millis : Nat)
  /-- Waits for an event. -/
  | wait (kind : EventKind) (predicate : Event → Bool) (timeout : Option Nat)
  /-- Sends a prompt and waits for a message of the invoking actor in the
  invoking channel. -/
  | ask (prompt : String) (timeout : Option Nat)
  /-- Sends a prompt and waits for the invoking actor to accept or refuse by a
  reaction, or by a text where reactions cannot be added. -/
  | confirm (prompt : String) (timeout poll : Option Nat)
  /-- Makes every contested room converge on its lowest contender. -/
  | resolveClashes
  /-- Opens a wait that nothing ends and whose deadline can be lifted. -/
  | enterGuard
  | leaveGuard
  /-- Opens a wait without a deadline. -/
  | enterMark
  | leaveMark
  | interruptSelf
  /-- Kills processes in order; answers those that were running, and the
  others. -/
  | interruptAll (pids : List Pid)
  /-- Lifts the deadlines of processes in order; answers those that had any, and
  the others. -/
  | liftAll (pids : List Pid)
  | listProcesses
  | listShreds
  | countContested

@[reducible] def Call.Reply : Call → Type
  | .reply _ => Except CommandError String
  | .notify _ => Except CommandError Unit
  | .wait .. => Except WaitError Event
  | .ask .. => Except CommandError Event
  | .confirm .. => Except CommandError Bool
  | .resolveClashes => List Resolution
  | .interruptAll _ => List Pid × List Pid
  | .liftAll _ => List Pid × List Pid
  | .listProcesses => List ProcessView
  | .listShreds => List ShredView
  | .countContested => Nat
  | _ => Unit

inductive Program (α : Type) where
  | result (value : α)
  | fail (error : CommandError)
  | panic (payload : PanicPayload)
  | call (request : Call) (next : request.Reply → Program α)

namespace Program

variable {α β : Type}

protected def bind : Program α → (α → Program β) → Program β
  | .result value, next => next value
  | .fail error, _ => .fail error
  | .panic payload, _ => .panic payload
  | .call request proceed, next => .call request fun reply =>
    (proceed reply).bind next

instance : Monad Program where
  pure := .result
  bind := Program.bind

def request (call : Call) : Program call.Reply := .call call .result

/-- Goes on with a value and fails with an error. -/
def ofExcept : Except CommandError α → Program α
  | .ok value => .result value
  | .error error => .fail error

def reply (text : String) : Program String := do
  ofExcept (← request (.reply text))

def notify (text : String) : Program Unit := do
  ofExcept (← request (.notify text))

/-- Runs a program a number of times, each time from the value of the time
before. -/
def iterate (times : Nat) (body : α → Program α) (value : α) : Program α :=
  match times with
  | 0 => .result value
  | times + 1 => do
    let value ← body value
    iterate times body value

end Program

/-- What a body knows of its invocation. -/
structure Invocation where
  pid : Pid
  event : Event
  arguments : String
  isAdmin : Bool
  commandPrefix : String
  askTimeout : Option Nat
  confirmTimeout : Option Nat
  livenessPoll : Option Nat
  commands : List CommandDef

namespace Invocation

def origin (invocation : Invocation) : Origin := invocation.event.origin

/-- Asks a question with the configured timeout; answers the whole event. -/
def askRaw (invocation : Invocation) (prompt : String) : Program Event := do
  Program.ofExcept (← Program.request (.ask prompt invocation.askTimeout))

/-- Asks a question; answers the text without the blanks at its ends. -/
def ask (invocation : Invocation) (prompt : String) : Program String := do
  return Text.trim (← invocation.askRaw prompt).bodyText

/-- Asks for confirmation with the configured timeout. -/
def confirm (invocation : Invocation) (prompt : String) : Program Bool := do
  Program.ofExcept
    (← Program.request
      (.confirm prompt invocation.confirmTimeout invocation.livenessPoll))

end Invocation

abbrev Handler := Invocation → Program Unit

end Switchboard
