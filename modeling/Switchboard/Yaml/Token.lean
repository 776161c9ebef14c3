import Switchboard.Yaml.Tag

/-!
# Tokens

A document as a list of tokens. Block collections are told by their columns: a
line further right than the innermost open collection may open one, and a line
further left closes those it has left. That a value is a key shows only when its
colon is reached, so the place of each value that may become a key is
remembered, and the tokens that the key needs are put in there later.
-/

namespace Switchboard.Yaml

/-- How a scalar is written, as far as its meaning depends on it. -/
inductive ScalarStyle where
  | plain
  | literal
  | other
deriving DecidableEq, Repr

inductive Token where
  | directive (directive : Directive)
  | documentStart
  | documentEnd
  | blockSequenceStart
  | blockMappingStart
  | blockEnd
  | blockEntry
  | flowSequenceStart
  | flowSequenceEnd
  | flowMappingStart
  | flowMappingEnd
  | flowEntry
  | key
  | value
  | reference (name : String)
  | anchor (name : String)
  | tag (tag : TagName)
  | scalar (style : ScalarStyle) (text : String)
deriving DecidableEq, Repr

/-- Where a value started that may become a key. -/
structure KeyMark where
  /-- The number of tokens in front of it. -/
  position : Nat
  line : Nat
  column : Nat
  /-- It has to become a key, as it stands at the column of the innermost block
  collection. -/
  required : Bool
deriving DecidableEq, Repr

/-- The key may no longer be completed at this place: a key stands on one line
and is short. -/
def KeyMark.isStale (mark : KeyMark) (spot : Spot) : Bool :=
  decide (mark.line < spot.line) || decide (mark.column + 1024 < spot.column)

structure Lexer where
  text : List Spot
  /-- The tokens so far, last first. -/
  tokens : List Token := []
  /-- The columns of the open block collections, innermost first. -/
  columns : List Nat := []
  /-- The value that may become a key, in the innermost flow collection or
  outside of all. -/
  mark : Option KeyMark := none
  /-- The same for the collections around the innermost one. -/
  outerMarks : List (Option KeyMark) := []
  /-- A value that starts here may become a key. -/
  keyAllowed : Bool := true
deriving Repr

namespace Lexer

def inFlow (lexer : Lexer) : Bool := !lexer.outerMarks.isEmpty

/-- The least column of a line that continues a value. -/
def innerColumn (lexer : Lexer) : Nat :=
  (lexer.columns.head?.map (· + 1)).getD 0

def emit (token : Token) (lexer : Lexer) : Lexer :=
  { lexer with tokens := token :: lexer.tokens }

/-- Puts a token behind the first so many ones. -/
def insert (position : Nat) (token : Token) (lexer : Lexer) : Lexer :=
  { lexer with
    tokens := lexer.tokens.insertIdx (lexer.tokens.length - position) token }

/-- Opens a block collection at a column, unless one is open there. -/
def openBlock (column position : Nat) (token : Token) (lexer : Lexer) : Lexer :=
  if !lexer.inFlow && lexer.columns.head?.all (· < column) then
    insert position token { lexer with columns := column :: lexer.columns }
  else lexer

/-- Closes the block collections for which the test holds, from the innermost
one on. -/
def closeBlocks (left : Nat → Bool) (lexer : Lexer) : Lexer :=
  if lexer.inFlow then lexer
  else
    let closed := lexer.columns.takeWhile left
    { lexer with
      columns := lexer.columns.dropWhile left
      tokens := List.replicate closed.length .blockEnd ++ lexer.tokens }

/-- Gives up the innermost key mark; nothing if it has to become a key. -/
def dropMark (lexer : Lexer) : Option Lexer :=
  if lexer.mark.any KeyMark.required
    then none else some { lexer with mark := none }

/-- Remembers that a value starts here. -/
def saveMark (spot : Spot) (lexer : Lexer) : Option Lexer :=
  if lexer.keyAllowed then do
    let lexer ← lexer.dropMark
    let required := !lexer.inFlow && lexer.columns.head? = some spot.column
    return { lexer with
      mark :=
        some
          { position := lexer.tokens.length, line := spot.line,
            column := spot.column, required } }
  else some lexer

/-- Gives up all marks that are stale at this place. -/
def dropStaleMarks (spot : Spot) (lexer : Lexer) : Option Lexer :=
  let stale (mark : Option KeyMark) : Bool := mark.any (·.isStale spot)
  let keep (mark : Option KeyMark) : Option KeyMark :=
    if stale mark then none else mark
  if (lexer.mark :: lexer.outerMarks).any fun mark =>
      stale mark && mark.any KeyMark.required then
    none
  else some { lexer with
    mark := keep lexer.mark, outerMarks := lexer.outerMarks.map keep }

/-- Skips blanks, comments and line ends. A tab counts as a blank only where no
key can start. -/
def skipGap (inFlow comment keyAllowed : Bool) : List Spot → List Spot × Bool
  | [] => ([], keyAllowed)
  | spot :: rest =>
    if isBreak spot.char then skipGap inFlow false (keyAllowed || !inFlow) rest
    else if comment then skipGap inFlow true keyAllowed rest
    else if spot.char = '#' then skipGap inFlow true keyAllowed rest
    else if spot.char = ' ' ||
        (spot.char = '\t' && (inFlow || !keyAllowed)) then
      skipGap inFlow false keyAllowed rest
    else if spot.char = '\uFEFF' && spot.column = 0
      then skipGap inFlow false keyAllowed rest
    else (spot :: rest, keyAllowed)

def skip (lexer : Lexer) : Lexer :=
  let (text, keyAllowed) :=
    skipGap lexer.inFlow false lexer.keyAllowed lexer.text
  { lexer with text, keyAllowed }

/-- Reads a directive or a mark between documents, which close all block
collections. -/
def readOutside (read : List Spot → Option (Token × List Spot))
    (rest : List Spot) (lexer : Lexer) : Option Lexer := do
  let lexer ← (lexer.closeBlocks fun _ => true).dropMark
  let (token, text) ← read rest
  return { lexer with text, keyAllowed := false }.emit token

def openFlow (token : Token) (spot : Spot) (rest : List Spot) (lexer : Lexer) :
    Option Lexer := do
  let lexer ← lexer.saveMark spot
  return { lexer with
    text := rest
    mark := none
    outerMarks := lexer.mark :: lexer.outerMarks
    keyAllowed := true }.emit token

def closeFlow (token : Token) (rest : List Spot) (lexer : Lexer) :
    Option Lexer := do
  let lexer ← lexer.dropMark
  return { lexer with
    text := rest
    mark := lexer.outerMarks.head?.getD none
    outerMarks := lexer.outerMarks.drop 1
    keyAllowed := false }.emit token

/-- Reads an indicator in front of an entry or a key. Outside of flow
collections it opens a block collection, for which a key has to be allowed
here. -/
def readIndicator (opening token : Token) (keyAllowed : Bool) (spot : Spot)
    (rest : List Spot) (lexer : Lexer) : Option Lexer :=
  if !lexer.inFlow && !lexer.keyAllowed then none
  else do
    let lexer ←
      (lexer.openBlock spot.column lexer.tokens.length opening).dropMark
    return { lexer with text := rest, keyAllowed }.emit token

/-- Reads the colon behind a key. Without a value that may be the key, the key
has been announced by an indicator or is empty. -/
def readColon (spot : Spot) (rest : List Spot) (lexer : Lexer) : Option Lexer :=
  match lexer.mark with
  | some mark =>
    let lexer :=
      (lexer.insert mark.position .key).openBlock mark.column mark.position
        .blockMappingStart
    some ({ lexer with
      text := rest, mark := none, keyAllowed := false }.emit .value)
  | none =>
    lexer.readIndicator .blockMappingStart .value (!lexer.inFlow) spot rest

/-- Reads a value, or what stands in front of one, that may be the start of a
key. -/
def readValue (read : List Spot → Option (Token × List Spot)) (spot : Spot)
    (rest : List Spot) (lexer : Lexer) : Option Lexer := do
  let lexer ← lexer.saveMark spot
  let (token, text) ← read rest
  return { lexer with text, keyAllowed := false }.emit token

def scalar (style : ScalarStyle) (result : List Char × List Spot) :
    Token × List Spot :=
  (.scalar style (String.ofList result.1.reverse), result.2)

def readBlockScalar (folded : Bool) (rest : List Spot) (lexer : Lexer) :
    Option Lexer := do
  let lexer ← lexer.dropMark
  let style : ScalarStyle := if folded then .other else .literal
  let (token, text) := scalar style (← readBlock folded lexer.innerColumn rest)
  return { lexer with text, keyAllowed := true }.emit token

/-- Reads a plain scalar. After one that ended at a line end a key may start. -/
def readPlainScalar (spot : Spot) (lexer : Lexer) : Option Lexer := do
  let lexer ← lexer.saveMark spot
  let found ← readPlain lexer.inFlow lexer.innerColumn [] .none lexer.text
  let (token, text) := scalar .plain (found.value, found.rest)
  return { lexer with text, keyAllowed := found.brokenOff }.emit token

/-- Characters with which no plain scalar starts, except where the next rule
allows it. -/
def indicators : List Char := "-?:,[]{}#&*!|>'\"%@\x60".toList

/-- A plain scalar starts here. A hyphen, and outside of flow collections a
question mark and a colon, may start one when no gap follows. -/
def startsPlain (inFlow : Bool) (spot : Spot) (rest : List Spot) : Bool :=
  (!indicators.contains spot.char && !isSpace spot.char)
    || (spot.char = '-' && !startsWithAny [' ', '\t'] rest)
    || (!inFlow && (spot.char = '?' || spot.char = ':') && !atGap rest)

def readToken (spot : Spot) (rest : List Spot) (lexer : Lexer) : Option Lexer :=
  let here := spot :: rest
  let indicates := lexer.inFlow || atGap rest
  if spot.column = 0 && spot.char = '%' then
    lexer.readOutside (fun text =>
      (readDirective text).map (·.map .directive id)) rest
  else if atDocumentMark '-' here then
    lexer.readOutside (fun text => some (.documentStart, text.drop 2)) rest
  else if atDocumentMark '.' here then
    lexer.readOutside (fun text => some (.documentEnd, text.drop 2)) rest
  else
    match spot.char with
    | '[' => lexer.openFlow .flowSequenceStart spot rest
    | '{' => lexer.openFlow .flowMappingStart spot rest
    | ']' => lexer.closeFlow .flowSequenceEnd rest
    | '}' => lexer.closeFlow .flowMappingEnd rest
    | ',' => do
      let lexer ← lexer.dropMark
      return { lexer with text := rest, keyAllowed := true }.emit .flowEntry
    | '*' =>
      lexer.readValue (fun text =>
        (readAnchorName text).map (·.map .reference id)) spot rest
    | '&' =>
      lexer.readValue (fun text =>
        (readAnchorName text).map (·.map .anchor id)) spot rest
    | '!' =>
      lexer.readValue (fun text =>
        (readTag lexer.inFlow text).map (·.map .tag id)) spot rest
    | '\'' =>
      lexer.readValue (fun text =>
        (readSingle [] .none text).map (scalar .other)) spot rest
    | '"' =>
      lexer.readValue (fun text =>
        (readDouble .plain [] .none text).map (scalar .other)) spot rest
    | c =>
      if c = '-' && atGap rest then
        lexer.readIndicator .blockSequenceStart .blockEntry true spot rest
      else if c = '?' && indicates then
        lexer.readIndicator .blockMappingStart .key (!lexer.inFlow) spot rest
      else if c = ':' && indicates then lexer.readColon spot rest
      else if (c = '|' || c = '>') && !lexer.inFlow
        then lexer.readBlockScalar (c = '>') rest
      else if startsPlain lexer.inFlow spot rest then lexer.readPlainScalar spot
      else none

/-- Reads all tokens. Every token has a character, so the length of the text is
enough fuel. -/
def run : Nat → Lexer → Option (List Token)
  | 0, _ => none
  | fuel + 1, lexer =>
    let lexer := lexer.skip
    match lexer.text with
    | [] => ((lexer.closeBlocks fun _ => true).dropMark).map (·.tokens.reverse)
    | spot :: rest => do
      let lexer ← lexer.dropStaleMarks spot
      let lexer ← (lexer.closeBlocks (spot.column < ·)).readToken spot rest
      lexer.run fuel

end Lexer

def tokens? (text : List Spot) : Option (List Token) :=
  Lexer.run (text.length + 1) { text }

end Switchboard.Yaml
