import Switchboard.Cooldown
import Switchboard.Text.Lowercase

/-!
# Commands

What is known of a command, and the catalogue in which invocations look commands
up. Lookup ignores letter case; of several commands that claim a word, the
latest has it.
-/

namespace Switchboard

structure CommandDef where
  name : String
  description : String
  aliases : List String := []
  usage : Option String := none
  adminOnly : Bool := false
  cooldown : Option Cooldown := none
deriving DecidableEq, Repr

namespace CommandDef

def withAlias (word : String) (command : CommandDef) : CommandDef :=
  { command with aliases := command.aliases ++ [word] }

def withUsage (usage : String) (command : CommandDef) : CommandDef :=
  { command with usage := some usage }

def restricted (command : CommandDef) : CommandDef :=
  { command with adminOnly := true }

/-- A cooldown per actor, in a bucket named after the command. -/
def withCooldown (window : Nat) (command : CommandDef) : CommandDef :=
  { command with
    cooldown := some { bucket := command.name, window, scope := .actor } }

/-- Shares the cooldown with all commands that name the bucket; does nothing
without a cooldown. -/
def inBucket (bucket : String) (command : CommandDef) : CommandDef :=
  { command with
    cooldown := command.cooldown.map fun cooldown =>
      { cooldown with bucket } }

/-- Counts the cooldown against something else; does nothing without a
cooldown. -/
def inScope (scope : Scope) (command : CommandDef) : CommandDef :=
  { command with
    cooldown := command.cooldown.map fun cooldown =>
      { cooldown with scope } }

def words (command : CommandDef) : List String :=
  command.name :: command.aliases

end CommandDef

/-- A configured cooldown, which takes the place of a command's own. -/
structure CooldownOverride where
  windowSeconds : Nat
  bucket : Option String := none
  scope : Scope := .actor
deriving DecidableEq, Repr

namespace CooldownOverride

/-- The cooldown of the named command; the bucket is named after the command
unless one is given. -/
def cooldownFor (name : String) (setting : CooldownOverride) : Cooldown where
  bucket := setting.bucket.getD name
  window := setting.windowSeconds * 1000
  scope := setting.scope

def apply (setting : CooldownOverride) (command : CommandDef) : CommandDef :=
  { command with cooldown := some (setting.cooldownFor command.name) }

end CooldownOverride

structure CatalogueEntry (η : Type) where
  definition : CommandDef
  handler : η

/-- Commands in the order of registration, with the position that each word
leads to. -/
structure Catalogue (η : Type) where
  entries : List (CatalogueEntry η) := []
  index : Table String Nat := []

namespace Catalogue

variable {η : Type}

/-- Leads every word of a list to a position. -/
def indexWords (position : Nat) (words : List String)
    (index : Table String Nat) : Table String Nat :=
  words.foldl (fun index word =>
    index.write (Text.lowercase word) position) index

def register (definition : CommandDef) (handler : η) (catalogue : Catalogue η) :
    Catalogue η where
  entries := catalogue.entries ++ [{ definition, handler }]
  index := indexWords catalogue.entries.length definition.words catalogue.index

def position? (word : String) (catalogue : Catalogue η) : Option Nat :=
  catalogue.index.find? (Text.lowercase word)

def find? (word : String) (catalogue : Catalogue η) :
    Option (CatalogueEntry η) :=
  (catalogue.position? word).bind (catalogue.entries[·]?)

/-- Gives the command that a name invokes its configured cooldown. -/
def override (name : String) (setting : CooldownOverride)
    (catalogue : Catalogue η) : Catalogue η :=
  match catalogue.position? name with
  | none => catalogue
  | some position =>
    { catalogue with
      entries := catalogue.entries.modify position fun entry =>
        { entry with definition := setting.apply entry.definition } }

def overrideAll (settings : List (String × CooldownOverride))
    (catalogue : Catalogue η) : Catalogue η :=
  settings.foldl (fun catalogue setting =>
    catalogue.override setting.1 setting.2) catalogue

def definitions (catalogue : Catalogue η) : List CommandDef :=
  catalogue.entries.map CatalogueEntry.definition

/-- The buckets that the commands use; the last command that uses one gives its
window. -/
def buckets (catalogue : Catalogue η) : Table String Nat :=
  (catalogue.definitions.filterMap CommandDef.cooldown).foldl
    (fun buckets cooldown => buckets.write cooldown.bucket cooldown.window) []

/-- The cooldowns of the commands, on a host with this clock. -/
def cooldowns (horizon : Nat) (catalogue : Catalogue η) : Cooldowns :=
  catalogue.buckets.foldl
    (fun cooldowns bucket => cooldowns.configure bucket.1 bucket.2) { horizon }

end Catalogue

end Switchboard
