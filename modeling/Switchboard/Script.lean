import Switchboard.Event.Pattern
import Switchboard.Program

/-!
# Scripted commands

Commands given as a list of steps with named texts, for trying out the bot.
-/

namespace Switchboard

/-- Named texts, latest value per name. -/
abbrev Bindings := Table String String

/-- What one step asks for. -/
inductive ScriptAction where
  | reply (text : String)
  | notify (text : String)
  | typing (active : Bool)
  | ask (text : String)
  | askRaw (text : String)
  | askWithin (text : String) (timeout : Option Nat)
  | confirm (text : String)
  | wait (kind : EventKind) (pattern : Pattern) (timeout : Option Nat)
  | isAdmin
  | setPayload (payload : Payload)
  | sleep (millis : Nat)
  | enterGuard
  | leaveGuard
  | enterMark
  | leaveMark
  | interruptSelf
  | exit
  | cancel
  | fail (text : String) (refund : Bool)
  | internal (fault : Fault)
  | panic (payload : PanicPayload)
deriving Repr

/-- A step; its value is stored under the name `store`, and with `catching` a
timeout or a vanished resource becomes a value. -/
inductive ScriptStep where
  | act (action : ScriptAction) (store : Option String) (catching : Bool)
  | branch (name expected : String) (matching otherwise : List ScriptStep)
  | times (count : Nat) (steps : List ScriptStep)

namespace Script

/-- Replaces names in braces by their values, in one pass. An unknown name is
left alone, and reading goes on after its opening brace. -/
def fillChars (values : Bindings) : List Char → Nat → List Char
  | [], _ => []
  | _ :: rest, skip + 1 => fillChars values rest skip
  | c :: rest, 0 =>
    if c = '\x7b' && rest.contains '\x7d' then
      let name := rest.takeWhile (· ≠ '\x7d')
      match values.find? (String.ofList name) with
      | some value => value.toList ++ fillChars values rest (name.length + 1)
      | none => c :: fillChars values rest 0
    else c :: fillChars values rest 0

def fill (values : Bindings) (text : String) : String :=
  String.ofList (fillChars values text.toList 0)

def eventLine (event : Event) : String :=
  match event.content with
  | .message id body => s!"message {event.actor} {id} {body}"
  | .reaction target key => s!"reaction {event.actor} {target} {key}"
  | .deletion target => s!"delete {event.actor} {target}"

/-- The value that a caught error becomes. -/
def caughtValue? : CommandError → Option String
  | .timeout => some "!Timeout"
  | .resourceGone => some "!ResourceGone"
  | _ => none

/-- The value of an answer; an error that is not caught ends the script. -/
def valueOf {α : Type} (catching : Bool) (render : α → String) :
    Except CommandError α → Program String
  | .ok value => .result (render value)
  | .error error =>
    match caughtValue? error with
    | some value => if catching then .result value else .fail error
    | none => .fail error

def perform (invocation : Invocation) (values : Bindings) (catching : Bool) :
    ScriptAction → Program (Option String)
  | .reply text => do return some (← Program.reply (fill values text))
  | .notify text => do
    Program.notify (fill values text)
    return none
  | .typing active => do
    Program.request (.typing active)
    return none
  | .ask text => do
    let answer ← Program.request (.ask (fill values text) invocation.askTimeout)
    return some
      (← valueOf catching (fun event => Text.trim event.bodyText) answer)
  | .askRaw text => do
    let answer ← Program.request (.ask (fill values text) invocation.askTimeout)
    return some (← valueOf catching eventLine answer)
  | .askWithin text timeout => do
    let answer ← Program.request (.ask (fill values text) timeout)
    return some (← valueOf catching eventLine answer)
  | .confirm text => do
    let answer ← Program.request
      (.confirm (fill values text) invocation.confirmTimeout
        invocation.livenessPoll)
    return some
      (← valueOf catching (fun yes => if yes then "true" else "false") answer)
  | .wait kind pattern timeout => do
    let answer ← Program.request (.wait kind pattern.accepts timeout)
    return some (← valueOf catching eventLine
      (answer.mapError CommandError.ofWait))
  | .isAdmin => return some (if invocation.isAdmin then "true" else "false")
  | .setPayload payload => do
    Program.request (.setPayload payload)
    return none
  | .sleep millis => do
    Program.request (.sleep millis)
    return none
  | .enterGuard => do
    Program.request .enterGuard
    return none
  | .leaveGuard => do
    Program.request .leaveGuard
    return none
  | .enterMark => do
    Program.request .enterMark
    return none
  | .leaveMark => do
    Program.request .leaveMark
    return none
  | .interruptSelf => do
    Program.request .interruptSelf
    return none
  | .exit => .fail .exit
  | .cancel => .fail .cancelled
  | .fail text refund => .fail (.failure (fill values text) !refund)
  | .internal fault => .fail (.internal fault)
  | .panic payload => .panic payload

/-- Stores a value under a name, where there are both. -/
def remember (store value : Option String) (values : Bindings) : Bindings :=
  match store, value with
  | some name, some value => values.write name value
  | _, _ => values

mutual

def runStep (invocation : Invocation) (values : Bindings) :
    ScriptStep → Program Bindings
  | .act action store catching => do
    let value ← perform invocation values catching action
    return remember store value values
  | .branch name expected matching otherwise =>
    if values.find? name = some expected
      then runSteps invocation values matching
    else runSteps invocation values otherwise
  | .times count steps =>
    Program.iterate count (fun values =>
      runSteps invocation values steps) values

def runSteps (invocation : Invocation) (values : Bindings) :
    List ScriptStep → Program Bindings
  | [] => .result values
  | step :: rest => do
    let values ← runStep invocation values step
    runSteps invocation values rest

end

def initial (invocation : Invocation) : Bindings :=
  [("args", invocation.arguments), ("actor", invocation.event.actor),
    ("room", invocation.event.room), ("channel", invocation.event.channel),
    ("pid", toString invocation.pid)]

/-- The command that a script describes. -/
def handler (steps : List ScriptStep) : Handler := fun invocation => do
  discard (runSteps invocation (initial invocation) steps)

end Script

end Switchboard
