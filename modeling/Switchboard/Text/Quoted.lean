import Switchboard.Text.PrintData

/-!
# Quoted texts

A text in double quotes, with a backslash before quotes and backslashes, and
short forms or code numbers for characters that leave no mark of their own.
-/

namespace Switchboard.Text

/-- The character leaves no mark of its own. -/
def isUnprintable (c : Char) : Bool :=
  c.toNat < 0x20 || c.toNat = 0x7F
    || unprintableRuns.any fun run => run.1 ≤ c.toNat && c.toNat ≤ run.2

/-- How a character stands between quotes. -/
def quoteChar (c : Char) : List Char :=
  if c = '"' then ['\\', '"']
  else if c = '\\' then ['\\', '\\']
  else if c = '\n' then ['\\', 'n']
  else if c = '\r' then ['\\', 'r']
  else if c = '\t' then ['\\', 't']
  else if c = '\x00' then ['\\', '0']
  else if isUnprintable c
    then ['\\', 'u', '\x7b'] ++ Nat.toDigits 16 c.toNat ++ ['\x7d']
  else [c]

def quoted (text : String) : String :=
  String.ofList ('"' :: text.toList.flatMap quoteChar ++ ['"'])

end Switchboard.Text
