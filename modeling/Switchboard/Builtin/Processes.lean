import Switchboard.Builtin.Options
import Switchboard.Notice
import Switchboard.Program

/-!
# Commands on processes

`ps` lists running processes, `kill` ends them, and `keep` lets those that wait
go on without a deadline.
-/

namespace Switchboard.Builtin

def listDefinition : CommandDef :=
  let definition : CommandDef :=
    { name := "ps", description := "List running processes" }
  (definition.withUsage "[--room] [--actor] [--payload] [--all]").restricted

def killDefinition : CommandDef :=
  let definition : CommandDef :=
    { name := "kill", description := "Interrupt processes" }
  (definition.withUsage "<pid>...").restricted

def keepDefinition : CommandDef :=
  let definition : CommandDef :=
    { name := "keep"
      description := "Let waiting processes wait without a deadline" }
  (definition.withUsage "<pid>...").restricted

/-- What a process has in common with the one who asks. -/
structure ListMarks where
  room : Bool
  actor : Bool
  payload : Bool
deriving DecidableEq, Repr

namespace ListMarks

def of (process : ProcessView) (caller : Origin) : ListMarks where
  room := process.origin.room == caller.room
  actor := process.origin.actor == caller.actor
  payload := process.hasPayload

def render (marks : ListMarks) : String :=
  String.ofList
    [if marks.room then 'R' else '-', if marks.actor then 'A' else '-',
      if marks.payload then 'P' else '-']

/-- The marks satisfy what the options ask for. -/
def satisfies (options : ListOptions) (marks : ListMarks) : Bool :=
  (!options.room || marks.room) && (!options.actor || marks.actor)
    && (!options.payload || marks.payload)

end ListMarks

def listRow (marks : ListMarks) (process : ProcessView) : String :=
  Notice.processRow process.pid marks.render process.phase.label process.command
    process.origin.actor (Duration.ofMillis process.age).render

/-- The lines of the processes that the options ask for. -/
def listRows (options : ListOptions) (own : Pid) (caller : Origin)
    (processes : List ProcessView) : List String :=
  (processes.filter fun process => options.all || process.pid ≠ own).filterMap
    fun process =>
    let marks := ListMarks.of process caller
    if marks.satisfies options then some (listRow marks process) else none

def listText (rows : List String) : String :=
  if rows.isEmpty then Notice.noProcesses
  else "```\n" ++ Notice.processHeader ++ "\n" ++ "\n".intercalate rows
    ++ "\n```"

def list (reader : OptionReader) : Handler := fun invocation =>
  match reader (Text.words invocation.arguments) with
  | .error (.help text) => do
    Program.notify ("```\n" ++ text ++ "\n```")
    Program.fail .exit
  | .error (.misuse message) => .fail (.refunded message)
  | .ok options => do
    let processes ← Program.request .listProcesses
    discard (Program.reply
      (listText (listRows options invocation.pid invocation.origin processes)))

/-- The number below two to the thirty-second that a word writes in decimal
digits, after an optional plus sign. -/
def parsePid? (word : String) : Option Pid :=
  let digits :=
    match word.toList with
    | '+' :: rest => rest
    | letters => letters
  if digits.isEmpty || !digits.all Char.isDigit then none
  else
    let number :=
      digits.foldl (fun number c => number * 10 + (c.toNat - '0'.toNat)) 0
    if number < UInt32.size then some number else none

/-- The numbers that words write, or the first word that writes none. -/
def readPids : List String → Except String (List Pid)
  | [] => .ok []
  | word :: rest =>
    match parsePid? word with
    | none => .error word
    | some pid => (readPids rest).map (pid :: ·)

/-- The processes that the arguments name; without any, the usage is the
answer. -/
def parsePids (usage arguments : String) : Except CommandError (List Pid) :=
  match readPids (Text.words arguments) with
  | .error word => .error (.refunded (Notice.invalidPid word))
  | .ok [] => .error (.refunded usage)
  | .ok pids => .ok pids

/-- More than one process is killed only after a confirmation. -/
def kill : Handler := fun invocation => do
  let pids ← Program.ofExcept (parsePids Notice.killUsage invocation.arguments)
  if 1 < pids.length then
    let approved ← invocation.confirm (Notice.killConfirm pids.length)
    if !approved then Program.fail .cancelled
  let (killed, missing) ← Program.request (.interruptAll pids)
  discard (Program.reply (Notice.killResult killed missing))

def keep : Handler := fun invocation => do
  let pids ← Program.ofExcept (parsePids Notice.keepUsage invocation.arguments)
  let (kept, idle) ← Program.request (.liftAll pids)
  discard (Program.reply (Notice.keepResult kept idle))

end Switchboard.Builtin
