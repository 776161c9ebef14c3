import Switchboard.Command

/-!
# Configuration

The settings of the bot, their defaults, and the check that they make sense
together.
-/

namespace Switchboard

structure Account where
  name : String
  homeserver : String
  username : String
  password : String
  displayName : Option String := none
deriving DecidableEq, Repr

/-- How commands are written and how long they wait, in seconds; zero waits for
ever. -/
structure CommandSettings where
  commandPrefix : String := "."
  askTimeout : Nat := 60
  confirmTimeout : Nat := 30
  livenessPoll : Nat := 10
  overrides : Table String CooldownOverride := []
deriving DecidableEq, Repr

structure SystemSettings where
  admins : List String := []
  /-- The room in which operators read of faults. -/
  reportRoom : Option String := none
  logDirectory : String := "data"
  /-- The period of the regular clash resolution, in seconds; zero turns it
  off. -/
  clashCheck : Nat := 300
  autoJoinInvites : Bool := true
deriving DecidableEq, Repr

structure Config where
  accounts : List Account
  commands : CommandSettings := {}
  system : SystemSettings := {}
deriving DecidableEq, Repr

/-- A span of so many seconds in milliseconds; zero is no span. -/
def millisOfSeconds (seconds : Nat) : Option Nat :=
  if seconds = 0 then none else some (seconds * 1000)

/-- Equality of texts that ignores the case of ASCII letters. -/
def equalIgnoringAsciiCase (left right : String) : Bool :=
  left.toList.map Char.toLower == right.toList.map Char.toLower

def SystemSettings.isAdmin (settings : SystemSettings) (actor : String) :
    Bool :=
  settings.admins.any (equalIgnoringAsciiCase · actor)

/-- The first command whose configured window is zero. -/
def CommandSettings.firstZeroWindow? (settings : CommandSettings) :
    Option String :=
  (List.find? (·.2.windowSeconds = 0) settings.overrides).map (·.1)

/-- Why a configuration does not make sense. -/
inductive ConfigError where
  | noAccounts
  | duplicateName (name : String)
  | emptyPrefix
  | zeroWindow (command : String)
deriving DecidableEq, Repr

def ConfigError.message : ConfigError → String
  | .noAccounts => "at least one shred must be configured"
  | .duplicateName name => s!"duplicate shred name '{name}'"
  | .emptyPrefix => "command prefix must not be empty"
  | .zeroWindow command => s!"ratelimit for '{command}' has a zero window"

namespace Config

/-- The first text of a list that equals the one after it. -/
def firstRepeat : List String → Option String
  | first :: second :: rest =>
    if first = second then some first else firstRepeat (second :: rest)
  | _ => none

/-- The least name that occurs more than once. -/
def duplicateName? (names : List String) : Option String :=
  firstRepeat (names.mergeSort fun a b => decide (a ≤ b))

/-- Checks the settings; of several faults the first in this order counts. -/
def validate (config : Config) : Except ConfigError Unit :=
  if config.accounts.isEmpty then .error .noAccounts
  else
    match duplicateName? (config.accounts.map Account.name) with
    | some name => .error (.duplicateName name)
    | none =>
      if config.commands.commandPrefix.isEmpty then .error .emptyPrefix
      else
        match config.commands.firstZeroWindow? with
        | some name => .error (.zeroWindow name)
        | none => .ok ()

end Config

end Switchboard
