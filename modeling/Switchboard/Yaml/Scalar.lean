import Switchboard.Yaml.Spot

/-!
# Scalars

The texts of a document: plain, in quotes, and in indented blocks. Each reader
takes the placed text from the start of a scalar and answers its value and the
text after it, or nothing when the scalar is not well formed. A line end inside
a scalar is folded: one alone becomes a blank, and of several the first is
dropped.
-/

namespace Switchboard.Yaml

inductive Gap where
  | none
  /-- Blanks within a line, last first. -/
  | blanks (chars : List Char)
  /-- Line ends: the first, which may have been escaped away, and the others,
  last first. -/
  | lines (first : Option Char) (others : List Char)
deriving DecidableEq, Repr

def Gap.value : Gap → List Char
  | .none => []
  | .blanks chars => chars.reverse
  | .lines (some '\n') [] => [' ']
  | .lines (some '\n') others => others.reverse
  | .lines first others => first.toList ++ others.reverse

/-- A gap with one more blank or line end. -/
def Gap.extend (c : Char) : Gap → Gap
  | .none => if isBreak c then .lines (some c) [] else .blanks [c]
  | .blanks chars =>
    if isBreak c then .lines (some c) [] else .blanks (c :: chars)
  | .lines first others =>
    if isBreak c then .lines first (c :: others) else .lines first others

def Gap.isLines : Gap → Bool
  | .lines .. => true
  | _ => false

/-- A scalar that has been read, last character first. -/
structure PlainScalar where
  value : List Char
  /-- The scalar was followed by a line end. -/
  brokenOff : Bool
  rest : List Spot

/-- Characters that mean something between the brackets of a flow collection. -/
def flowIndicators : List Char := [',', '[', ']', '{', '}']

/-- A plain scalar ends in front of this text. -/
def endsPlain (inFlow : Bool) (text : List Spot) : Bool :=
  (startsWith ':' text && atGap (text.drop 1))
    || (inFlow && startsWithAny flowIndicators text)

/-- Reads on in a plain scalar. `indent` is the least column of its further
lines. -/
def readPlain (inFlow : Bool) (indent : Nat) (value : List Char) (gap : Gap) :
    List Spot → Option PlainScalar
  | [] => some { value, brokenOff := gap.isLines, rest := [] }
  | spot :: rest =>
    let here := spot :: rest
    if isSpace spot.char || isBreak spot.char then
      if gap.isLines && spot.char = '\t' && spot.column < indent then none
      else readPlain inFlow indent value (gap.extend spot.char) rest
    else
      let stops := gap ≠ .none &&
        ((!inFlow && spot.column < indent) || atAnyDocumentMark here
          || spot.char = '#')
      if stops then some { value, brokenOff := gap.isLines, rest := here }
      else if inFlow && spot.char = ':'
        && startsWithAny ('?' :: flowIndicators) rest then none
      else if endsPlain inFlow here then
        some { value, brokenOff := gap.isLines, rest := here }
      else readPlain inFlow indent
        (spot.char :: (gap.value.reverse ++ value)) .none rest

inductive QuoteMode where
  | plain
  /-- A backslash has been read. -/
  | escape
  /-- A code number is being read: digits left, and its value so far. -/
  | code (left value : Nat)
deriving DecidableEq, Repr

/-- The value of a character after a backslash. -/
def simpleEscape? : Char → Option Char
  | '0' => some '\x00'
  | 'a' => some '\x07'
  | 'b' => some '\x08'
  | 't' => some '\t'
  | '\t' => some '\t'
  | 'n' => some '\n'
  | 'v' => some '\x0b'
  | 'f' => some '\x0c'
  | 'r' => some '\r'
  | 'e' => some '\x1b'
  | ' ' => some ' '
  | '"' => some '"'
  | '/' => some '/'
  | '\\' => some '\\'
  | 'N' => some '\x85'
  | '_' => some '\u00a0'
  | 'L' => some '\u2028'
  | 'P' => some '\u2029'
  | _ => none

/-- How many digits follow a letter that starts a code number. -/
def codeLength? : Char → Option Nat
  | 'x' => some 2
  | 'u' => some 4
  | 'U' => some 8
  | _ => none

def hexValue? (c : Char) : Option Nat :=
  if '0' ≤ c && c ≤ '9' then some (c.toNat - '0'.toNat)
  else if 'a' ≤ c && c ≤ 'f' then some (c.toNat - 'a'.toNat + 10)
  else if 'A' ≤ c && c ≤ 'F' then some (c.toNat - 'A'.toNat + 10)
  else none

def charOfCode? (code : Nat) : Option Char :=
  if code.isValidChar then some (Char.ofNat code) else none

def readSingle (value : List Char) (gap : Gap) :
    List Spot → Option (List Char × List Spot)
  | [] => none
  | spot :: rest =>
    if gap ≠ .none && atAnyDocumentMark (spot :: rest) then none
    else if isSpace spot.char || isBreak spot.char then
      readSingle value (gap.extend spot.char) rest
    else
      let value := gap.value.reverse ++ value
      if spot.char = '\'' then
        match rest with
        | second :: after =>
          if second.char = '\'' then readSingle ('\'' :: value) .none after
          else some (value, second :: after)
        | [] => some (value, [])
      else readSingle (spot.char :: value) .none rest

def readDouble (mode : QuoteMode) (value : List Char) (gap : Gap) :
    List Spot → Option (List Char × List Spot)
  | [] => none
  | spot :: rest =>
    match mode with
    | .escape =>
      if isBreak spot.char then readDouble .plain value (.lines none []) rest
      else
        match simpleEscape? spot.char, codeLength? spot.char with
        | some c, _ => readDouble .plain (c :: value) .none rest
        | none, some left => readDouble (.code left 0) value .none rest
        | none, none => none
    | .code left code =>
      match hexValue? spot.char with
      | none => none
      | some digit =>
        let code := code * 16 + digit
        if left = 1 then
          match charOfCode? code with
          | some c => readDouble .plain (c :: value) .none rest
          | none => none
        else readDouble (.code (left - 1) code) value .none rest
    | .plain =>
      if gap ≠ .none && atAnyDocumentMark (spot :: rest) then none
      else if isSpace spot.char || isBreak spot.char then
        readDouble .plain value (gap.extend spot.char) rest
      else
        let value := gap.value.reverse ++ value
        if spot.char = '"' then some (value, rest)
        else if spot.char = '\\' then readDouble .escape value .none rest
        else readDouble .plain (spot.char :: value) .none rest

/-- What happens to the line ends at the end of a block. -/
inductive Chomp where
  | clip
  | strip
  | keep
deriving DecidableEq, Repr

/-- The header of a block: its chomping, and how much deeper than its parent it
stands. -/
structure BlockHeader where
  chomp : Chomp := .clip
  increment : Option Nat := none
deriving DecidableEq, Repr

/-- Reads the marks of a block header, each kind at most once. -/
def readBlockMarks (header : BlockHeader) (chomped : Bool) :
    List Spot → Option (BlockHeader × List Spot)
  | [] => some (header, [])
  | spot :: rest =>
    if (spot.char = '+' || spot.char = '-') && !chomped then
      readBlockMarks { header with
        chomp := if spot.char = '+' then .keep else .strip } true rest
    else if spot.char.isDigit && header.increment.isNone then
      if spot.char = '0' then none
      else
        readBlockMarks { header with
          increment := some (spot.char.toNat - '0'.toNat) } chomped rest
    else some (header, spot :: rest)

/-- The rest after a block header: blanks and a comment may stand before the
line end. -/
def endHeader? (text : List Spot) : Option (List Spot) :=
  let text := text.dropWhile (isSpace ·.char)
  let text :=
    if startsWith '#' text then text.dropWhile (!isBreak ·.char) else text
  match text with
  | [] => some []
  | spot :: rest => if isBreak spot.char then some rest else none

/-- Leading blank lines of a block: the greatest column reached, their line
ends, and the text from the first line with content. An indentation of `none` is
not known yet. -/
def readBlankLines (indent : Option Nat) (deepest : Nat) (ends : List Char) :
    List Spot → Option (Nat × List Char × List Spot)
  | [] => some (deepest, ends.reverse, [])
  | spot :: rest =>
    let within := indent.all (spot.column < ·)
    if within && spot.char = ' ' then
      readBlankLines indent (max deepest (spot.column + 1)) ends rest
    else if within && spot.char = '\t' then none
    else
      let deepest := max deepest spot.column
      if isBreak spot.char
        then readBlankLines indent deepest (spot.char :: ends) rest
      else some (deepest, ends.reverse, spot :: rest)

/-- What has been read of a block. -/
structure BlockState where
  /-- The value, last character first. -/
  value : List Char := []
  /-- The line end of the last line with content. -/
  lineEnd : List Char := []
  /-- The line ends of the blank lines after it. -/
  blankEnds : List Char := []
  /-- The last line with content started with a blank. -/
  spaced : Bool := false

/-- The value once the line ends before a further line have been added. -/
def BlockState.join (folded spaced : Bool) (state : BlockState) : List Char :=
  let first :=
    if folded && state.lineEnd = ['\n'] && !state.spaced && !spaced then
      if state.blankEnds.isEmpty then [' '] else []
    else state.lineEnd
  (first ++ state.blankEnds).reverse ++ state.value

/-- Reads the lines of a block that stand at the given column. -/
def readBlockLines (folded : Bool) (indent : Nat) (state : BlockState)
    (text : List Spot) :
    Nat → Option (BlockState × List Spot)
  | 0 => none
  | fuel + 1 =>
    match text with
    | [] => some (state, [])
    | spot :: _ =>
      if spot.column ≠ indent then some (state, text)
      else
        let spaced := isSpace spot.char
        let line := (text.takeWhile (!isBreak ·.char)).map Spot.char
        let after := text.dropWhile (!isBreak ·.char)
        let value := line.reverse ++ state.join folded spaced
        let lineEnd := (after.take 1).map Spot.char
        match readBlankLines (some indent) 0 [] (after.drop 1) with
        | none => none
        | some (_, blankEnds, rest) =>
          readBlockLines folded indent
            { value, lineEnd, blankEnds, spaced } rest fuel

/-- Reads a block after its first mark. `parent` is the column of the collection
it stands in, one more than it, so that zero stands for none. -/
def readBlock (folded : Bool) (parent : Nat) (text : List Spot) :
    Option (List Char × List Spot) := do
  let (header, text) ← readBlockMarks {} false text
  let text ← endHeader? text
  let given := header.increment.map fun increment => (parent - 1) + increment
  let (deepest, blankEnds, text) ← readBlankLines given 0 [] text
  let indent := given.getD (max (max deepest parent) 1)
  let (state, rest) ← readBlockLines folded indent { blankEnds } text
    (text.length + 1)
  let tail :=
    match header.chomp with
    | .strip => []
    | .clip => state.lineEnd
    | .keep => state.lineEnd ++ state.blankEnds
  return (tail.reverse ++ state.value, rest)

end Switchboard.Yaml
