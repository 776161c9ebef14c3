import Switchboard.Table
import Switchboard.Yaml.Token

/-!
# Documents

A document as a tree of scalars, sequences and mappings. A value may have an
anchor, and a reference stands for the value with that anchor; references stay
in the tree, so a value may refer to a collection that it is itself a part of.
-/

namespace Switchboard.Yaml

inductive Node where
  | scalar (style : ScalarStyle) (tag : Option String) (text : String)
  | sequence (items : List Node)
  | mapping (entries : List (Node × Node))
  /-- The value with the anchor of this number. -/
  | reference (number : Nat)

namespace Node

/-- What stands where a value has been left out. -/
def empty : Node := .scalar .plain none ""

def isEmpty : Node → Bool
  | .scalar .plain _ text => text.isEmpty
  | _ => false

end Node

/-- A document and its values with anchors. -/
structure Document where
  root : Node
  anchored : Table Nat Node

def Document.resolve (document : Document) : Node → Option Node
  | .reference number => document.anchored.find? number
  | node => some node

namespace Document

/-- A document that has been read up to some token. -/
structure State where
  tokens : List Token
  /-- What the handles of tags stand for. -/
  handles : Table String String
  /-- The numbers of the anchors so far. -/
  numbers : Table String Nat := []
  anchored : Table Nat Node := []

abbrev Reader := StateT State Option

namespace Reader

def peek? : Reader (Option Token) := return (← get).tokens.head?

def atAny (tokens : List Token) : Reader Bool :=
  return (← peek?).any tokens.contains

def take : Reader Token := do
  let state ← get
  match state.tokens with
  | [] => failure
  | token :: tokens =>
    set { state with tokens }
    return token

/-- Takes the next token if it is this one. -/
def takeIf (token : Token) : Reader Bool := do
  if ← atAny [token] then
    let _ ← take
    return true
  return false

/-- The next token has to be this one. -/
def expect (token : Token) : Reader Unit := do
  unless ← takeIf token do failure

/-- The whole text of a tag. The tag of a lone mark says nothing. -/
def expandTag (tag : TagName) : Reader String := do
  if tag.handle.isEmpty then return tag.suffix
  match (← get).handles.find? tag.handle with
  | some expansion => return expansion ++ tag.suffix
  | none => failure

/-- What stands in front of a value. -/
structure Properties where
  anchor : Option String := none
  tag : Option TagName := none

/-- Reads an anchor and a tag in any order. -/
def properties : Reader Properties := do
  match ← peek? with
  | some (.anchor anchor) =>
    let _ ← take
    match ← peek? with
    | some (.tag tag) =>
      let _ ← take
      return { anchor := some anchor, tag := some tag }
    | _ => return { anchor := some anchor }
  | some (.tag tag) =>
    let _ ← take
    match ← peek? with
    | some (.anchor anchor) =>
      let _ ← take
      return { anchor := some anchor, tag := some tag }
    | _ => return { tag := some tag }
  | _ => return {}

/-- Numbers an anchor by how many names there were before it. -/
def openAnchor (name : String) : Reader Nat := do
  let state ← get
  let number := state.numbers.length
  set { state with numbers := state.numbers.write name number }
  return number

/-- Keeps the value of an anchor. -/
def closeAnchor (number : Nat) (node : Node) : Reader Unit :=
  modify fun state =>
    { state with anchored := state.anchored.write number node }

/-- Where a value may stand: whether block collections may start there, and
whether a sequence may stand at the column of the mapping around it. -/
structure Place where
  block : Bool := false
  indentless : Bool := false

/-- The tokens before which a value has been left out in a block mapping. -/
def mappingGaps : List Token := [.key, .value, .blockEnd]

mutual

def node (place : Place) : Nat → Reader Node
  | 0 => failure
  | fuel + 1 => do
    match ← peek? with
    | some (.reference name) =>
      let _ ← take
      match (← get).numbers.find? name with
      | some number => return .reference number
      | none => failure
    | _ =>
      let properties ← properties
      let tag ← properties.tag.mapM expandTag
      let number ← properties.anchor.mapM openAnchor
      let result ←
        content place (properties.anchor.isSome || tag.isSome) tag fuel
      number.forM (closeAnchor · result)
      return result

/-- Reads a value after its properties. With a property it may be left out. -/
def content (place : Place) (mayMiss : Bool) (tag : Option String) :
    Nat → Reader Node
  | 0 => failure
  | fuel + 1 => do
    match ← peek? with
    | some (.scalar style text) =>
      let _ ← take
      return .scalar style (if tag = some "!" then none else tag) text
    | some .flowSequenceStart =>
      let _ ← take
      return .sequence (← flowItems true fuel)
    | some .flowMappingStart =>
      let _ ← take
      return .mapping (← flowEntries true fuel)
    | token =>
      if place.indentless && token = some .blockEntry then
        return .sequence (← indentlessItems fuel)
      else if place.block && token = some .blockSequenceStart then
        let _ ← take
        return .sequence (← blockItems fuel)
      else if place.block && token = some .blockMappingStart then
        let _ ← take
        return .mapping (← blockEntries fuel)
      else if mayMiss then return .scalar .plain tag ""
      else failure

def blockItems : Nat → Reader (List Node)
  | 0 => failure
  | fuel + 1 => do
    if ← takeIf .blockEntry then
      let item ← unlessAt [.blockEntry, .blockEnd] { block := true } fuel
      return item :: (← blockItems fuel)
    else
      expect .blockEnd
      return []

/-- Reads the items of a sequence that stands at the column of the mapping
around it. -/
def indentlessItems : Nat → Reader (List Node)
  | 0 => failure
  | fuel + 1 => do
    if ← takeIf .blockEntry then
      let item ← unlessAt (.blockEntry :: mappingGaps) { block := true } fuel
      return item :: (← indentlessItems fuel)
    else return []

def blockEntries : Nat → Reader (List (Node × Node))
  | 0 => failure
  | fuel + 1 => do
    if ← takeIf .key then
      let key ← unlessAt mappingGaps { block := true, indentless := true } fuel
      let value ← valueUnlessAt mappingGaps
        { block := true, indentless := true } fuel
      return (key, value) :: (← blockEntries fuel)
    else
      expect .blockEnd
      return []

/-- Reads the items of a flow sequence. An item may be a mapping of one entry
without brackets. -/
def flowItems (first : Bool) : Nat → Reader (List Node)
  | 0 => failure
  | fuel + 1 => do
    if ← takeIf .flowSequenceEnd then return []
    unless first do expect .flowEntry
    if ← takeIf .flowSequenceEnd then return []
    let item ← if ← takeIf .key then singleEntry fuel else node {} fuel
    return item :: (← flowItems false fuel)

/-- Reads a mapping of one entry after the indicator of its key. A key that has
been left out takes the next token with it. -/
def singleEntry : Nat → Reader Node
  | 0 => failure
  | fuel + 1 => do
    let gaps : List Token := [.flowEntry, .flowSequenceEnd]
    let key ←
      if ← atAny (.value :: gaps) then
        let _ ← take
        pure Node.empty
      else node {} fuel
    return .mapping [(key, ← valueUnlessAt gaps {} fuel)]

def flowEntries (first : Bool) : Nat → Reader (List (Node × Node))
  | 0 => failure
  | fuel + 1 => do
    if ← takeIf .flowMappingEnd then return []
    unless first do expect .flowEntry
    if ← takeIf .flowMappingEnd then return []
    let gaps : List Token := [.flowEntry, .flowMappingEnd]
    let entry ←
      if ← takeIf .key then
        let key ← unlessAt (.value :: gaps) {} fuel
        let value ← valueUnlessAt gaps {} fuel
        pure (key, value)
      else
        let key ← node {} fuel
        pure (key, Node.empty)
    return entry :: (← flowEntries false fuel)

/-- Reads a value, which has been left out if the next token is one of these. -/
def unlessAt (gaps : List Token) (place : Place) : Nat → Reader Node
  | 0 => failure
  | fuel + 1 => do
    if ← atAny gaps then return .empty else node place fuel

/-- Reads the value of an entry after its key. -/
def valueUnlessAt (gaps : List Token) (place : Place) : Nat → Reader Node
  | 0 => failure
  | fuel + 1 => do
    if ← takeIf .value then unlessAt gaps place fuel else return .empty

end

/-- Reads a directive. There is at most one version, which has to be known, and
each handle is declared at most once. -/
def directive (versions : Nat) : Directive → Reader Nat
  | .version major minor =>
    if versions = 0 && major = 1 && (minor = 1 || minor = 2) then return 1
      else failure
  | .handle handle expansion => do
    let state ← get
    if (state.handles.find? handle).isSome then failure
    set { state with handles := state.handles.write handle expansion }
    return versions

def directives (versions : Nat) : List Token → Reader Nat
  | .directive found :: rest => do
    let _ ← take
    let versions ← directive versions found
    return (← directives versions rest) + 1
  | _ => return 0

/-- The handles that need no declaration. -/
def defaultHandles : Table String String :=
  [("!", "!"), ("!!", "tag:yaml.org,2002:")]

/-- Adds the handles that need no declaration, where none has been made. -/
def addDefaultHandles : Reader Unit :=
  modify fun state => { state with
    handles := defaultHandles.foldl (fun handles (handle, expansion) =>
      if (handles.find? handle).isSome then handles
        else handles.write handle expansion)
      state.handles }

def document : Reader Document := do
  let state ← get
  let declared ← directives 0 state.tokens
  addDefaultHandles
  let fuel := 4 * state.tokens.length + 4
  let explicit ← takeIf .documentStart
  if declared ≠ 0 && !explicit then failure
  let next ← peek?
  let root ←
    if explicit && (next.all [.documentStart, .documentEnd].contains)
      then pure Node.empty
    else node { block := true } fuel
  let state ← get
  if state.tokens.all (· = .documentEnd)
    then return { root, anchored := state.anchored }
  else failure

end Reader

/-- The document in a text, unless the text is not well formed or does not hold
exactly one. -/
def parse? (text : String) : Option Document := do
  let tokens ← tokens? (← place? text)
  let (document, _) ← Reader.document.run { tokens, handles := [] }
  return document

end Document

end Switchboard.Yaml
