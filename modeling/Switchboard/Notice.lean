import Switchboard.Duration

/-!
# Texts for users and operators

Every text that the bot itself writes to a room.
-/

namespace Switchboard.Notice

def authDenied : String := "🚫 **Authorization Denied**."
def unknownCommand : String := "❓ Unknown command."

def noLongerWaiting : String := "⌛ No longer waiting for a response."
def watchedGone : String := "🗑️ The message I was waiting on was deleted."
def commandKilled : String := "🛑 Command was killed."
def commandCancelled : String := "❌ Cancelled."
def internalFault : String :=
  "💥 Something went wrong running that command. The operators have been notified."

def confirmYes : String := "✅"
def confirmNo : String := "❌"
def confirmTextFallback : String := "Reply `yes` or `no`."

def noProcesses : String := "No processes running."
def killUsage : String := "Usage: `kill <pid>...`"
def keepUsage : String := "Usage: `keep <pid>...`"
def noClashes : String := "No room clashes."
def noShreds : String := "No shreds registered."
def processHeader : String := "  PID RAP PHASE    COMMAND    ACTOR AGE"

def helpHeader : String := "**🤖 Commands**\nUse: `<prefix>command _args_`\n"
def adminSection : String := "\n**🛡️ Admin**"

/-- All fixed texts, in the order in which they are listed for checking. -/
def constants : List String :=
  [authDenied, unknownCommand, noLongerWaiting, watchedGone, commandKilled,
    commandCancelled, internalFault, confirmYes, confirmNo, confirmTextFallback,
    noProcesses, killUsage, keepUsage,
    noClashes, noShreds, processHeader, helpHeader, adminSection]

def ratelimited (remaining : Duration) : String :=
  s!"⏳ Slow down! Try again in {remaining.render}."

def operatorReport (pid : Nat) (command actor room detail : String) : String :=
  s!"**Process {pid} failed** (`{command}` by {actor} in {room})\n```\n{detail}\n```"

def commandUsage (name usage : String) : String := s!"Usage: `{name} {usage}`"

def killConfirm (count : Nat) : String := s!"Kill {count} processes?"

def joinPids (pids : List Nat) : String := ", ".intercalate (pids.map toString)

/-- One line per group of processes; a group without members has no line. -/
def pidGroups (groups : List (String × List Nat)) : String :=
  "\n".intercalate ((groups.filter (!·.2.isEmpty)).map fun group =>
    group.1 ++ ": " ++ joinPids group.2)

def killResult (killed missing : List Nat) : String :=
  pidGroups [("Killed", killed), ("Not found", missing)]

def keepResult (kept idle : List Nat) : String :=
  pidGroups [("Waiting without deadline", kept), ("Not waiting", idle)]

def invalidPid (word : String) : String := s!"`{word}` is not a process id."

def clashSummary (room keeper : String) (left failed : List String) : String :=
  s!"{room}: kept by {keeper}"
    ++ (if left.isEmpty then "" else ", left by " ++ ", ".intercalate left)
    ++ (if failed.isEmpty then ""
      else ", leave failed for " ++ ", ".intercalate failed)

/-- The text, filled up with blanks on its right to the given number of
characters. -/
def padRight (width : Nat) (text : String) : String :=
  text.pushn ' ' (width - text.length)

/-- The text, filled up with blanks on its left to the given number of
characters. -/
def padLeft (width : Nat) (text : String) : String :=
  "".pushn ' ' (width - text.length) ++ text

def processRow (pid : Nat) (flags phase command actor age : String) : String :=
  let columns :=
    [padLeft 5 (toString pid), flags, padRight 8 phase, padRight 10 command,
      actor, age]
  " ".intercalate columns

def shredLine (id name : String) (connected : Bool) (rooms : Nat) : String :=
  let state := if connected then "🟢 online" else "🔴 offline"
  s!"{id} {name}: {state}, {rooms} rooms"

def contestedLine (count : Nat) : String :=
  s!"⚠️ {count} contested rooms. Run `shreds resolve`."

def helpLine (commandPrefix name : String) (usage : Option String)
    (description : String) : String :=
  match usage with
  | some usage => s!"* `{commandPrefix}{name} {usage}`: {description}"
  | none => s!"* `{commandPrefix}{name}`: {description}"

end Switchboard.Notice
