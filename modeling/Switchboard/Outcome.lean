/-!
# Ways to end

The causes for which a handoff, a wait or a command ends without its result,
each kept as a cause and worded in one place. A command's unexpected fault
carries the chain of its causes.
-/

namespace Switchboard

/-- Why receiving from a handoff gave no value. -/
inductive HandoffError where
  | timeout
  /-- The producer resolved the handoff with an error. -/
  | failed (reason : String)
  /-- Another receiver has had the value. -/
  | alreadyTaken
  | invalidTimeout (millis : Int)
deriving DecidableEq, Repr

def HandoffError.message : HandoffError → String
  | .timeout => "timed out waiting for a value"
  | .failed reason => s!"producer failed: {reason}"
  | .alreadyTaken => "value was already taken by another receiver"
  | .invalidTimeout millis => s!"invalid timeout: {millis}ms"

/-- Why a wait ended without an event. -/
inductive WaitError where
  | timeout
  | resourceGone
  | interrupted
deriving DecidableEq, Repr

def WaitError.message : WaitError → String
  | .timeout => "no matching event before the deadline"
  | .resourceGone => "the watched resource no longer exists"
  | .interrupted => "the process was interrupted"

/-- An unexpected fault: what went wrong, and what caused it, outermost cause
first. -/
structure Fault where
  text : String
  causes : List String := []
deriving DecidableEq, Repr

namespace Fault

/-- A text in which every line after the first starts with the given
indentation. -/
def hang (indent : String) (text : String) : String :=
  ("\n" ++ indent).intercalate ((text.splitOn "\n"))

/-- A number, right-aligned to five places. -/
def number (n : Nat) : String :=
  let digits := toString n
  "".pushn ' ' (5 - digits.length) ++ digits

/-- The causes, each on lines of its own; they are numbered where there are
several. -/
def causeLines : List String → List String
  | [cause] => ["    " ++ hang "    " cause]
  | causes => causes.zipIdx.map fun (cause, n) =>
    number n ++ ": " ++ hang "       " cause

def detail (fault : Fault) : String :=
  match fault.causes with
  | [] => fault.text
  | causes =>
    "\n".intercalate ((fault.text ++ "\n\nCaused by:") :: causeLines causes)

end Fault

inductive CommandError where
  | timeout
  | resourceGone
  | interrupted
  /-- A failure worded by the command, and whether the use still counts against
  its cooldown. -/
  | failure (text : String) (counts : Bool)
  /-- A quiet early end. -/
  | exit
  /-- An early end with a notice. -/
  | cancelled
  | internal (fault : Fault)
deriving DecidableEq, Repr

namespace CommandError

def message : CommandError → String
  | .timeout => "timed out"
  | .resourceGone => "watched resource is gone"
  | .interrupted => "interrupted"
  | .failure text _ => text
  | .exit => "exited"
  | .cancelled => "cancelled"
  | .internal fault => fault.text

/-- The form in which operators read a fault. -/
def report (fault : Fault) : String := "Internal(" ++ fault.detail ++ ")"

/-- A failure whose use is given back. -/
def refunded (text : String) : CommandError := .failure text false

/-- What the chat answers when it refuses is an unexpected fault. -/
def chat (reason : String) : CommandError := .internal { text := reason }

/-- A wait's failure becomes the command's failure of the same kind. -/
def ofWait : WaitError → CommandError
  | .timeout => .timeout
  | .resourceGone => .resourceGone
  | .interrupted => .interrupted

end CommandError

/-- What a panic carries: a text, or something that is no text. -/
inductive PanicPayload where
  | text (message : String)
  | other
deriving DecidableEq, Repr

/-- A panic of a command is an unexpected fault. -/
def PanicPayload.toError : PanicPayload → CommandError
  | .text message => .internal { text := "command panicked: " ++ message }
  | .other => .internal { text := "command panicked: unknown panic" }

abbrev Outcome := Except CommandError Unit

end Switchboard
