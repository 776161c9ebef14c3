import Switchboard.Config
import Switchboard.Yaml.Document

/-!
# Configuration files

The settings as they are read from a file. A setting that is left out has its
default, a setting that is unknown is passed over, and a setting that is given
twice is refused. Texts are taken as they are written; where a collection or a
group of settings belongs, nothing at all stands for the empty one.
-/

namespace Switchboard

/-- Why a text is no configuration. -/
inductive ConfigTextError where
  /-- The text is not well formed, or a setting is missing or has a value of the
  wrong kind. -/
  | malformed
  | unsound (error : ConfigError)
deriving DecidableEq, Repr

def ConfigTextError.message : ConfigTextError → String
  | .malformed => "Failed to parse config yaml"
  | .unsound error => error.message

/-- Why no configuration could be loaded from a file. -/
inductive ConfigFileError where
  | unreadable (path : String)
  | invalid (path : String) (error : ConfigTextError)
deriving DecidableEq, Repr

def ConfigFileError.message : ConfigFileError → String
  | .unreadable path => s!"Failed to read {path}"
  | .invalid path error => s!"Invalid config {path}: {error.message}"

namespace Yaml.Document

/-- The texts that stand for no value. -/
def nullTexts : List String := ["~", "null", "Null", "NULL"]

/-- The tag of a value kind that every document knows. -/
def kindTag (kind : String) : String := "tag:yaml.org,2002:" ++ kind

def text? (document : Document) (node : Node) : Option String :=
  match document.resolve node with
  | some (.scalar _ _ text) => some text
  | _ => none

/-- The text of a scalar that may stand for no value; nothing if it is no such
scalar. -/
def optionalText? (document : Document) (node : Node) :
    Option (Option String) :=
  match document.resolve node with
  | some (.scalar .plain none text) =>
    some (if text.isEmpty || nullTexts.contains text then none else some text)
  | some (.scalar .plain (some tag) text) =>
    if tag = kindTag "null" then
      if nullTexts.contains text then some none else none
    else some (some text)
  | some (.scalar _ _ text) => some (some text)
  | _ => none

/-- The text of a scalar that is written without quotes, or as a literal block
with this tag. -/
def bareText? (document : Document) (kind : String) (node : Node) :
    Option String :=
  match document.resolve node with
  | some (.scalar .plain _ text) => some text
  | some (.scalar .literal (some tag) text) =>
    if tag = kindTag kind then some text else none
  | _ => none

/-- The number with these digits, if there is a digit and all are below the
base. -/
def numberInBase? (base : Nat) (digits : List Char) : Option Nat :=
  if digits.isEmpty then none
  else
    digits.foldlM (fun number c => do
      let digit ← hexValue? c
      if digit < base then some (number * base + digit) else none) 0

/-- The number that a text writes: digits, after a plus sign perhaps, without
leading zeros, or digits of another base after its mark. -/
def wholeNumber? (text : String) : Option Nat :=
  let unsigned :=
    match text.toList with
    | '+' :: rest => rest
    | chars => chars
  match unsigned with
  | '0' :: 'x' :: digits => numberInBase? 16 digits
  | '0' :: 'o' :: digits => numberInBase? 8 digits
  | '0' :: 'b' :: digits => numberInBase? 2 digits
  | '0' :: _ :: _ => none
  | digits => numberInBase? 10 digits

/-- A number below 2^64. -/
def number? (document : Document) (node : Node) : Option Nat := do
  let number ← wholeNumber? (← document.bareText? "int" node)
  if number < UInt64.size then some number else none

def flag? (document : Document) (node : Node) : Option Bool := do
  let text ← document.bareText? "bool" node
  if ["true", "True", "TRUE"].contains text then some true
  else if ["false", "False", "FALSE"].contains text then some false
  else none

def items? (document : Document) (node : Node) : Option (List Node) := do
  match ← document.resolve node with
  | .sequence items => some items
  | other => if other.isEmpty then some [] else none

/-- The entries of a mapping whose keys are scalars, by the texts of their
keys. -/
def entries? (document : Document) (node : Node) :
    Option (List (String × Node)) := do
  match ← document.resolve node with
  | .mapping entries =>
    entries.mapM fun (key, value) => do return (← document.text? key, value)
  | other => if other.isEmpty then some [] else none

/-- The scope with a name, which is written as text or as a tag on no value. -/
def scope? (document : Document) (node : Node) : Option Scope :=
  match document.resolve node with
  | some (.scalar style tag text) =>
    match tag.bind fun tag => tag.dropPrefix? '!' with
    | some name =>
      if style = .plain && (text.isEmpty || nullTexts.contains text) then
        Scope.ofName? name.toString
      else none
    | none => Scope.ofName? text
  | _ => none

end Yaml.Document

namespace Config

open Yaml (Node Document)

/-- The value of a setting, and `default` if it is left out; nothing if it is
given twice or does not fit. -/
def setting? {α : Type} (read : Node → Option α) (name : String)
    (default : Option α) (fields : List (String × Node)) : Option α :=
  match fields.filter (·.1 = name) with
  | [] => default
  | [field] => read field.2
  | _ => none

def account? (document : Document) (node : Node) : Option Account := do
  let fields ← document.entries? node
  return {
    name := ← setting? document.text? "name" none fields
    homeserver := ← setting? document.text? "homeserver" none fields
    username := ← setting? document.text? "username" none fields
    password := ← setting? document.text? "password" none fields
    displayName :=
      ← setting? document.optionalText? "display_name" (some none) fields }

def override? (document : Document) (node : Node) :
    Option CooldownOverride := do
  let fields ← document.entries? node
  return {
    windowSeconds := ← setting? document.number? "window_secs" none fields
    bucket := ← setting? document.optionalText? "bucket" (some none) fields
    scope := ← setting? document.scope? "scope" (some .actor) fields }

def overrides? (document : Document) (node : Node) :
    Option (Table String CooldownOverride) := do
  let entries ← document.entries? node
  entries.foldlM (fun table (name, value) =>
    return table.write name (← override? document value))
    []

def commandSettings? (document : Document) (node : Node) :
    Option CommandSettings := do
  let fields ← document.entries? node
  let default : CommandSettings := {}
  let seconds (name : String) (unset : Nat) : Option Nat :=
    setting? document.number? name (some unset) fields
  return {
    commandPrefix :=
      ← setting? document.text? "prefix" (some default.commandPrefix) fields
    askTimeout := ← seconds "ask_timeout_secs" default.askTimeout
    confirmTimeout := ← seconds "confirm_timeout_secs" default.confirmTimeout
    livenessPoll := ← seconds "liveness_poll_secs" default.livenessPoll
    overrides :=
      ← setting? (overrides? document) "ratelimits"
        (some default.overrides) fields }

def systemSettings? (document : Document) (node : Node) :
    Option SystemSettings := do
  let fields ← document.entries? node
  let default : SystemSettings := {}
  let texts (node : Node) : Option (List String) := do
    (← document.items? node).mapM document.text?
  return {
    admins := ← setting? texts "admin" (some default.admins) fields
    reportRoom :=
      ← setting? document.optionalText? "report_room" (some none) fields
    logDirectory :=
      ← setting? document.text? "log_dir" (some default.logDirectory) fields
    clashCheck :=
      ← setting? document.number? "clash_check_secs"
        (some default.clashCheck) fields
    autoJoinInvites :=
      ← setting? document.flag? "auto_join_invites"
        (some default.autoJoinInvites) fields }

/-- The settings in a document, sound or not. -/
def ofDocument? (document : Document) : Option Config := do
  let fields ← document.entries? document.root
  let accounts (node : Node) : Option (List Account) := do
    (← document.items? node).mapM (account? document)
  return {
    accounts := ← setting? accounts "shreds" none fields
    commands :=
      ← setting? (commandSettings? document) "commands" (some {}) fields
    system := ← setting? (systemSettings? document) "system" (some {}) fields }

def parse (text : String) : Except ConfigTextError Config :=
  match (Document.parse? text).bind ofDocument? with
  | none => .error .malformed
  | some config =>
    match config.validate with
    | .ok () => .ok config
    | .error error => .error (.unsound error)

/-- The configuration in a file with this content; without content there is no
such file. -/
def load (path : String) (content : Option String) :
    Except ConfigFileError Config :=
  match content with
  | none => .error (.unreadable path)
  | some text => (parse text).mapError (.invalid path)

end Config

end Switchboard
