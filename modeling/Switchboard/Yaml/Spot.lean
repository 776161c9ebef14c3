/-!
# Placed text

The characters of a document with the line and the column at which each one
stands. All line ends but the two Unicode separators are written as a line feed.
-/

namespace Switchboard.Yaml

/-- A character and where it stands. -/
structure Spot where
  char : Char
  line : Nat
  column : Nat
deriving DecidableEq, Repr

def isBreak (c : Char) : Bool := c = '\n' || c = '\u2028' || c = '\u2029'

/-- A blank or a tab. -/
def isSpace (c : Char) : Bool := c = ' ' || c = '\t'

/-- Characters that a document may hold. -/
def isPrintable (c : Char) : Bool :=
  c = '\t' || c = '\n' || c = '\r' || (0x20 ≤ c.toNat && c.toNat ≤ 0x7E)
    || c = '\x85'
    || (0xA0 ≤ c.toNat && c.toNat ≤ 0xFFFD) || 0x10000 ≤ c.toNat

/-- Places characters from a position on. -/
def placeFrom (line column : Nat) : List Char → List Spot
  | [] => []
  | '\r' :: '\n' :: rest =>
    { char := '\n', line, column } :: placeFrom (line + 1) 0 rest
  | c :: rest =>
    let char := if c = '\r' || c = '\x85' then '\n' else c
    let placed :=
      if isBreak char then placeFrom (line + 1) 0 rest
      else placeFrom line (column + 1) rest
    { char, line, column } :: placed

/-- The placed text of a document; `none` when it holds a character that no
document may hold. -/
def place? (text : String) : Option (List Spot) :=
  if text.toList.all isPrintable then some (placeFrom 0 0 text.toList) else none

def startsWith (c : Char) : List Spot → Bool
  | spot :: _ => spot.char = c
  | [] => false

/-- The text starts with a blank or a line end, or has ended. -/
def atGap : List Spot → Bool
  | [] => true
  | spot :: _ => isSpace spot.char || isBreak spot.char

def startsWithAny (chars : List Char) : List Spot → Bool
  | spot :: _ => chars.contains spot.char
  | [] => false

/-- A line starts with a mark between documents: three equal characters and a
gap. -/
def atDocumentMark (mark : Char) (text : List Spot) : Bool :=
  match text with
  | first :: second :: third :: rest =>
    first.column = 0 && first.char = mark && second.char = mark
      && third.char = mark && atGap rest
  | _ => false

def atAnyDocumentMark (text : List Spot) : Bool :=
  atDocumentMark '-' text || atDocumentMark '.' text

end Switchboard.Yaml
