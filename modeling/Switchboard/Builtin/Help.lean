import Switchboard.Notice
import Switchboard.Program

/-!
# The help command

Lists all commands, those for administrators in a section of their own that only
they see.
-/

namespace Switchboard.Builtin

def helpDefinition : CommandDef :=
  { name := "help", description := "List commands" : CommandDef }.withAlias "h"

def helpLine (commandPrefix : String) (command : CommandDef) : String :=
  Notice.helpLine commandPrefix command.name command.usage command.description

def helpText (commandPrefix : String) (isAdmin : Bool)
    (commands : List CommandDef) : String :=
  let (admin, general) := commands.partition CommandDef.adminOnly
  let section_ :=
    if admin.isEmpty || !isAdmin then []
    else Notice.adminSection :: admin.map (helpLine commandPrefix)
  "\n".intercalate (Notice.helpHeader :: general.map (helpLine commandPrefix)
    ++ section_)

def help : Handler := fun invocation => do
  let text :=
    helpText invocation.commandPrefix invocation.isAdmin invocation.commands
  discard (Program.reply text)

end Switchboard.Builtin
