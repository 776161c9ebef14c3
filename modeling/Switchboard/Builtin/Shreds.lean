import Switchboard.Notice
import Switchboard.Program

/-!
# The command on identities

Shows the fleet, or resolves room clashes now.
-/

namespace Switchboard.Builtin

def shredsDefinition : CommandDef :=
  ({ name := "shreds", description := "Show shreds and resolve room clashes" :
    CommandDef }.withUsage "[resolve]").restricted

def overviewText (shreds : List ShredView) (contested : Nat) : String :=
  if shreds.isEmpty then Notice.noShreds
  else
    let lines := shreds.map fun shred =>
      Notice.shredLine (ShredId.label shred.id) shred.name shred.connected
        shred.rooms
    "\n".intercalate (lines ++ if 0 < contested
      then [Notice.contestedLine contested] else [])

/-- An identity with its name, where it is registered. -/
def shredLabel (shreds : List ShredView) (id : ShredId) : String :=
  match shreds.find? (·.id = id) with
  | some shred => ShredId.label id ++ " " ++ shred.name
  | none => ShredId.label id

def resolutionText (shreds : List ShredView) (resolution : Resolution) :
    String :=
  Notice.clashSummary resolution.room (shredLabel shreds resolution.keeper)
    (resolution.left.map (shredLabel shreds))
    (resolution.failed.map fun failure =>
      s!"{shredLabel shreds failure.1} ({failure.2})")

def resolutionsText (shreds : List ShredView) (resolutions : List Resolution) :
    String :=
  if resolutions.isEmpty then Notice.noClashes
  else "\n".intercalate (resolutions.map (resolutionText shreds))

/-- What an invocation shows. -/
def shredsText (arguments : String) : Program String := do
  match Text.trim arguments with
  | "" =>
    let shreds ← Program.request .listShreds
    return overviewText shreds (← Program.request .countContested)
  | "resolve" =>
    Program.request (.typing true)
    let resolutions ← Program.request .resolveClashes
    let shreds ← Program.request .listShreds
    Program.request (.typing false)
    return resolutionsText shreds resolutions
  | _ => Program.fail (.refunded (Notice.commandUsage "shreds" "[resolve]"))

def shreds : Handler := fun invocation => do
  discard (Program.reply (← shredsText invocation.arguments))

end Switchboard.Builtin
