import Switchboard.Table

/-!
# The log directory

Before the bot logs anything it makes the log directory, removes the log of the
session before, and opens an empty one. Directories and files are a table from
paths, so that the effect of these steps can be told.
-/

namespace Switchboard

/-- What stands at a path. -/
inductive FileEntry where
  | file (text : String)
  | directory
deriving DecidableEq, Repr

/-- What stands below a base directory, by the names that lead there. -/
abbrev FileTree := Table (List String) FileEntry

namespace FileTree

/-- How many bytes a name may have. -/
def longestName : Nat := 255

/-- Makes the directories on a way that starts at a directory; two dots lead
back up. Answers where the way leads, unless a file or a name that no directory
can have stands in it, and what there is then. -/
def makeWay (here : List String) (tree : FileTree) :
    List String → Option (List String) × FileTree
  | [] => (some here, tree)
  | name :: rest =>
    if name = ".." then makeWay here.dropLast tree rest
    else if longestName < name.utf8ByteSize then (none, tree)
    else
      match tree.find? (here ++ [name]) with
      | none =>
        makeWay (here ++ [name]) (tree.write (here ++ [name]) .directory) rest
      | some .directory => makeWay (here ++ [name]) tree rest
      | some (.file _) => (none, tree)

/-- Puts something at a path, with the directories that lead to it. -/
def place (path : List String) (entry : FileEntry) (tree : FileTree) :
    FileTree :=
  let tree := (makeWay [] tree path.dropLast).2
  if path.isEmpty then tree else tree.write path entry

end FileTree

/-- Why logging did not start. -/
inductive LogError where
  | createFailed (path : String)
  | clearFailed (path : String)
  /-- Somebody else takes the log lines already. -/
  | alreadyInstalled
deriving DecidableEq, Repr

def LogError.message : LogError → String
  | .createFailed path => s!"Failed to create log directory {path}"
  | .clearFailed path => s!"Failed to clear {path}"
  | .alreadyInstalled => "Failed to install tracing subscriber"

namespace LogDirectory

def sessionLog : String := "session.log"

/-- The names on the way to a directory; empty names and dots lead nowhere. -/
def namesOf (path : String) : List String :=
  (path.splitOn "/").filter fun name => name ≠ "" && name ≠ "."

/-- A path that ends in a dot names a directory that has to be there already. -/
def endsInDot (path : String) : Bool :=
  ((path.splitOn "/").filter (· ≠ "")).getLast? = some "."

/-- The written path of a directory below the base. -/
def shown (base path : String) : String := base ++ "/" ++ path

/-- The written path of the log in a directory. -/
def shownLog (base path : String) : String :=
  let directory := shown base path
  if directory.endsWith "/" then directory ++ sessionLog
    else directory ++ "/" ++ sessionLog

/-- Makes the directory that a path names. Answers where it is, unless it cannot
be made, and what there is then. -/
def make (path : String) (tree : FileTree) : Option (List String) × FileTree :=
  if path.contains '\x00' then (none, tree)
  else if endsInDot path then
    let names := namesOf path
    match tree.makeWay [] names.dropLast with
    | (none, tree) => (none, tree)
    | (some here, tree) =>
      let last := names.drop (names.length - 1)
      if last.all (· = "..") || tree.find? (here ++ last) = some .directory then
        tree.makeWay here last
      else (none, tree)
  else tree.makeWay [] (namesOf path)

/-- Makes the directory, with no log in it, and answers where it is. -/
def prepare (base path : String) (tree : FileTree) :
    Except LogError (List String) × FileTree :=
  match make path tree with
  | (none, tree) => (.error (.createFailed (shown base path)), tree)
  | (some here, tree) =>
    match tree.find? (here ++ [sessionLog]) with
    | none => (.ok here, tree)
    | some (.file _) => (.ok here, tree.remove (here ++ [sessionLog]))
    | some .directory => (.error (.clearFailed (shownLog base path)), tree)

/-- Starts logging; `installed` says that somebody else takes the log lines
already. -/
def start (base path : String) (installed : Bool) (tree : FileTree) :
    Except LogError Unit × FileTree :=
  match prepare base path tree with
  | (.error error, tree) => (.error error, tree)
  | (.ok here, tree) =>
    (if installed then .error .alreadyInstalled else .ok (),
      tree.write (here ++ [sessionLog]) (.file ""))

end LogDirectory

end Switchboard
