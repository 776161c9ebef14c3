/-!
# Options of the process listing

The listing leaves the reading of its options to a reader that it is given.

`ListOptions.read` is such a reader. It reads words from left to right. Short
options combine in one word, `--` ends the options, a request for help wins when
it is reached, and the first problem ends the reading.
-/

namespace Switchboard.Builtin

/-- Which processes a listing shows. -/
structure ListOptions where
  room : Bool := false
  actor : Bool := false
  payload : Bool := false
  all : Bool := false
deriving DecidableEq, Repr

/-- Why a listing is not made. -/
inductive ListRefusal where
  /-- Help was asked for. -/
  | help (text : String)
  /-- The words are no options. -/
  | misuse (message : String)
deriving DecidableEq, Repr

/-- What makes options of words. -/
abbrev OptionReader := List String → Except ListRefusal ListOptions

namespace ListRefusal

def usage : ListRefusal :=
  .help ("List running processes\n\nUsage: ps [OPTIONS]\n\nOptions:\n"
    ++ "  -r, --room     Only processes in this room\n"
    ++ "  -a, --actor    Only processes started by you\n"
    ++ "  -p, --payload  Only processes carrying a payload\n"
    ++ "      --all      Include this ps invocation\n"
    ++ "  -h, --help     Print help\n")

/-- A word, or an option, that means nothing here. -/
def unexpectedArgument (shown : String) : ListRefusal :=
  .misuse s!"error: unexpected argument '{shown}' found"

def repeated (option : String) : ListRefusal :=
  .misuse s!"error: the argument '{option}' cannot be used multiple times"

/-- A value was given to an option that takes none. -/
def unexpectedValue (value option : String) : ListRefusal :=
  .misuse (s!"error: unexpected value '{value}' for '{option}' found; "
    ++ "no more were expected")

end ListRefusal

inductive ListFlag where
  | room
  | actor
  | payload
  | all
  | help
deriving DecidableEq, Repr

namespace ListFlag

def long : ListFlag → String
  | .room => "--room"
  | .actor => "--actor"
  | .payload => "--payload"
  | .all => "--all"
  | .help => "--help"

def ofLong? (name : String) : Option ListFlag :=
  [ListFlag.room, .actor, .payload, .all, .help].find? fun flag =>
    flag.long = name

def ofShort? : Char → Option ListFlag
  | 'r' => some .room
  | 'a' => some .actor
  | 'p' => some .payload
  | 'h' => some .help
  | _ => none

/-- Sets an option that has not been set. -/
def set (options : ListOptions) (flag : ListFlag) :
    Except ListRefusal ListOptions :=
  match flag with
  | .room =>
    if options.room then .error (.repeated flag.long)
    else .ok { options with room := true }
  | .actor =>
    if options.actor then .error (.repeated flag.long)
    else .ok { options with actor := true }
  | .payload =>
    if options.payload then .error (.repeated flag.long)
    else .ok { options with payload := true }
  | .all =>
    if options.all then .error (.repeated flag.long)
    else .ok { options with all := true }
  | .help => .error .usage

end ListFlag

namespace ListOptions

def readShorts (options : ListOptions) :
    List Char → Except ListRefusal ListOptions
  | [] => .ok options
  | letter :: rest =>
    match ListFlag.ofShort? letter with
    | none => .error (.unexpectedArgument (String.ofList ['-', letter]))
    | some flag =>
      match flag.set options with
      | .error refusal => .error refusal
      | .ok options => options.readShorts rest

def readLong (options : ListOptions) (word : List Char) :
    Except ListRefusal ListOptions :=
  let name := String.ofList (word.takeWhile (· ≠ '='))
  match ListFlag.ofLong? name, word.dropWhile (· ≠ '=') with
  | none, _ => .error (.unexpectedArgument name)
  | some flag, [] => flag.set options
  | some flag, _ :: value =>
    .error (.unexpectedValue (String.ofList value) flag.long)

/-- Reads words; once the options have ended every word is one too many. -/
def readWords (options : ListOptions) :
    List String → Except ListRefusal ListOptions
  | [] => .ok options
  | word :: rest =>
    match word.toList with
    | ['-', '-'] =>
      match rest with
      | [] => .ok options
      | extra :: _ => .error (.unexpectedArgument extra)
    | '-' :: '-' :: name =>
      match options.readLong ('-' :: '-' :: name) with
      | .error refusal => .error refusal
      | .ok options => options.readWords rest
    | '-' :: letter :: letters =>
      match options.readShorts (letter :: letters) with
      | .error refusal => .error refusal
      | .ok options => options.readWords rest
    | _ => .error (.unexpectedArgument word)

def read : OptionReader := readWords {}

end ListOptions

end Switchboard.Builtin
