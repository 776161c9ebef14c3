import Switchboard.Text.Blank

/-!
# Command messages

A message invokes a command when, without the blanks at its ends, it is the
prefix, a word without blanks, and after a blank the arguments.
-/

namespace Switchboard.Message

/-- What follows the prefix. -/
def dropPrefix? (commandPrefix text : List Char) : Option (List Char) :=
  if commandPrefix.isPrefixOf text then some (text.drop commandPrefix.length)
    else none

/-- The word and the arguments of a message that invokes a command. -/
def parse? (commandPrefix body : String) : Option (String × String) :=
  match dropPrefix? commandPrefix.toList (Text.trimChars body.toList) with
  | none => none
  | some rest =>
    let (word, tail) := Text.splitAtBlank rest
    if word.isEmpty then none
    else some (String.ofList word, String.ofList (Text.trimChars tail))

end Switchboard.Message
