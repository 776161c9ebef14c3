import Switchboard.Builtin.Help
import Switchboard.Builtin.Processes
import Switchboard.Builtin.Shreds

/-!
# Built-in commands

All of them are given but for the reader of the options of the listing.
-/

namespace Switchboard.Builtin

def commands (reader : OptionReader) : List (CommandDef × Handler) :=
  [(helpDefinition, help), (listDefinition, list reader),
    (killDefinition, kill), (keepDefinition, keep), (shredsDefinition, shreds)]

def names : List String :=
  [helpDefinition, listDefinition, killDefinition, keepDefinition,
    shredsDefinition].map CommandDef.name

/-- The catalogue of the built-in commands with the given names, in the given
order. -/
def catalogue (reader : OptionReader) (selected : List String) :
    Catalogue Handler :=
  (selected.filterMap fun name =>
      (commands reader).find? (·.1.name = name)).foldl
    (fun catalogue command => catalogue.register command.1 command.2) {}

end Switchboard.Builtin
