import Switchboard.Yaml.Scalar

/-!
# Names, tags and directives

The small readers for what stands beside the contents of a document: names of
anchors, tags on values, and directives in front of a document. Each takes the
placed text after the character that announces it and answers what it read and
the text after it, or nothing when it is not well formed.
-/

namespace Switchboard.Yaml

/-- Characters of names. -/
def isNameChar (c : Char) : Bool := c.isAlphanum || c = '_' || c = '-'

/-- The longest name at the start of a text, and the text after it. -/
def takeName (text : List Spot) : String × List Spot :=
  (String.ofList ((text.takeWhile (isNameChar ·.char)).map Spot.char),
    text.dropWhile (isNameChar ·.char))

/-- Characters that may follow the name of an anchor directly. -/
def nameEnds : List Char := ['?', ':', ',', ']', '}', '%', '@', '\x60']

def readAnchorName (text : List Spot) : Option (String × List Spot) :=
  let (name, rest) := takeName text
  if name.isEmpty then none
  else if atGap rest || startsWithAny nameEnds rest then some (name, rest)
  else none

/-- Characters of tags. Between angle brackets there may be flow indicators
too. -/
def isTagChar (bracketed : Bool) (c : Char) : Bool :=
  isNameChar c || ";/?:@&=+$.%!~*'()".toList.contains c
    || (bracketed && ",[]".toList.contains c)

/-- The bytes of a tag, in which a percent sign and two digits stand for one. -/
def tagBytes : List Char → Option (List UInt8)
  | [] => some []
  | '%' :: high :: low :: rest => do
    let high ← hexValue? high
    let low ← hexValue? low
    let bytes ← tagBytes rest
    return UInt8.ofNat (high * 16 + low) :: bytes
  | c :: rest =>
    if c = '%' then none else (tagBytes rest).map (UInt8.ofNat c.toNat :: ·)

/-- Reads the longest run of tag characters. -/
def readTagText (bracketed : Bool) (text : List Spot) :
    Option (String × List Spot) := do
  let chars := (text.takeWhile (isTagChar bracketed ·.char)).map Spot.char
  let bytes ← tagBytes chars
  let value ← String.fromUTF8? ⟨bytes.toArray⟩
  return (value, text.dropWhile (isTagChar bracketed ·.char))

/-- A tag on a value: a handle, which a directive may have declared, and what
follows it. -/
structure TagName where
  handle : String
  suffix : String
deriving DecidableEq, Repr

/-- Reads what stands after the mark of a tag. -/
def readTagName (text : List Spot) : Option (TagName × List Spot) := do
  if startsWith '<' text then
    let (suffix, rest) ← readTagText true (text.drop 1)
    if suffix.isEmpty || !startsWith '>' rest then none
    return ({ handle := "", suffix }, rest.drop 1)
  let (name, rest) := takeName text
  if startsWith '!' rest then
    let (suffix, rest) ← readTagText false (rest.drop 1)
    if suffix.isEmpty then none
    return ({ handle := "!" ++ name ++ "!", suffix }, rest)
  let (suffix, rest) ← readTagText false text
  if suffix.isEmpty then return ({ handle := "", suffix := "!" }, rest)
  return ({ handle := "!", suffix }, rest)

/-- Reads a tag; it ends at a gap, or at a comma in a flow collection. -/
def readTag (inFlow : Bool) (text : List Spot) :
    Option (TagName × List Spot) := do
  let (tag, rest) ← readTagName text
  if atGap rest || (inFlow && startsWith ',' rest) then return (tag, rest)
    else none

inductive Directive where
  | version (major minor : Nat)
  | handle (handle expansion : String)
deriving DecidableEq, Repr

/-- Reads a part of a version number: one to nine digits. -/
def readVersionPart (text : List Spot) : Option (Nat × List Spot) :=
  let digits :=
    (text.takeWhile (·.char.isDigit)).map fun spot =>
      spot.char.toNat - '0'.toNat
  if digits.isEmpty || 9 < digits.length then none
  else some (digits.foldl (· * 10 + ·) 0, text.dropWhile (·.char.isDigit))

/-- Reads the two parts of a version. -/
def readVersion (text : List Spot) : Option (Directive × List Spot) := do
  let (major, rest) ← readVersionPart text
  if !startsWith '.' rest then none
  let (minor, rest) ← readVersionPart (rest.drop 1)
  return (.version major minor, rest)

/-- Reads a handle and the text that it stands for. -/
def readHandle (text : List Spot) : Option (Directive × List Spot) := do
  if !startsWith '!' text then none
  let (name, rest) := takeName (text.drop 1)
  if !name.isEmpty && !startsWith '!' rest then none
  let closed := startsWith '!' rest
  let rest := if closed then rest.drop 1 else rest
  if !startsWithAny [' ', '\t'] rest then none
  let (expansion, rest) ← readTagText true (rest.dropWhile (isSpace ·.char))
  if expansion.isEmpty || !atGap rest then none
  return (.handle ("!" ++ name ++ if closed then "!" else "") expansion, rest)

def readDirective (text : List Spot) : Option (Directive × List Spot) := do
  let (name, rest) := takeName text
  if !atGap rest then none
  let rest := rest.dropWhile (isSpace ·.char)
  let (directive, rest) ←
    if name = "YAML" then readVersion rest
    else if name = "TAG" then readHandle rest
    else none
  return (directive, ← endHeader? rest)

end Switchboard.Yaml
