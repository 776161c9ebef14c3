import Switchboard.Event
import Switchboard.Table

/-!
# The fleet of identities

Which rooms each identity sees. A room acts through the lowest identity that
sees it; a room that several see is contested.
-/

namespace Switchboard

/-- Who sees a room. -/
inductive Ownership where
  | unassigned
  | owned (shred : ShredId)
  | contested (shreds : List ShredId)
deriving DecidableEq, Repr

structure Fleet where
  /-- How many identities are registered; these have the numbers below it. -/
  registered : Nat := 0
  /-- For every room that is seen, who sees it, in ascending order. -/
  visibility : Table String (List ShredId) := []
deriving DecidableEq, Repr

namespace Fleet

/-- Puts an identity into an ascending list that lacks it. -/
def insertShred (shred : ShredId) : List ShredId → List ShredId
  | [] => [shred]
  | first :: rest =>
    if shred < first then shred :: first :: rest
    else if shred = first then first :: rest
    else first :: insertShred shred rest

/-- Who sees a room, in ascending order. -/
def seenBy (room : String) (fleet : Fleet) : List ShredId :=
  (fleet.visibility.find? room).getD []

def register (fleet : Fleet) : ShredId × Fleet :=
  (fleet.registered, { fleet with registered := fleet.registered + 1 })

/-- An identity joins a room; says whether it is contested now. -/
def joined (shred : ShredId) (room : String) (fleet : Fleet) : Bool × Fleet :=
  let seen := insertShred shred (fleet.seenBy room)
  (1 < seen.length,
    { fleet with visibility := fleet.visibility.write room seen })

def left (shred : ShredId) (room : String) (fleet : Fleet) : Fleet :=
  match fleet.visibility.find? room with
  | none => fleet
  | some seen =>
    match seen.filter (· ≠ shred) with
    | [] => { fleet with visibility := fleet.visibility.remove room }
    | rest => { fleet with visibility := fleet.visibility.write room rest }

/-- An identity no longer sees any room. -/
def disconnected (shred : ShredId) (fleet : Fleet) : Fleet :=
  let visibility :=
    fleet.visibility.map fun entry => (entry.1, entry.2.filter (· ≠ shred))
  { fleet with visibility := visibility.filter (!·.2.isEmpty) }

/-- An identity joins rooms one after the other; answers those that are
contested then. -/
def joinAll (shred : ShredId) : List String → Fleet → List String × Fleet
  | [], fleet => ([], fleet)
  | room :: rest, fleet =>
    let (contested, fleet) := fleet.joined shred room
    let (others, fleet) := joinAll shred rest fleet
    (if contested then room :: others else others, fleet)

def sortTexts (texts : List String) : List String :=
  texts.mergeSort fun a b => decide (a ≤ b)

/-- Drops each text that equals the one before it. -/
def dropRepeats : List String → List String
  | [] => []
  | [text] => [text]
  | first :: second :: rest =>
    if first = second then dropRepeats (second :: rest)
      else first :: dropRepeats (second :: rest)

/-- An identity reports all the rooms it sees; answers those that are contested
now. -/
def report (shred : ShredId) (rooms : List String) (fleet : Fleet) :
    List String × Fleet :=
  let (contested, fleet) := joinAll shred rooms (fleet.disconnected shred)
  (dropRepeats (sortTexts contested), fleet)

def ownership (room : String) (fleet : Fleet) : Ownership :=
  match fleet.seenBy room with
  | [] => .unassigned
  | [only] => .owned only
  | shreds => .contested shreds

/-- The registered identity through which a room acts. -/
def ownerOf (room : String) (fleet : Fleet) : Option ShredId :=
  match fleet.seenBy room with
  | [] => none
  | keeper :: _ => if keeper < fleet.registered then some keeper else none

/-- An event in the room counts when this identity delivers it. -/
def isOwner (shred : ShredId) (room : String) (fleet : Fleet) : Bool :=
  fleet.ownerOf room == some shred

/-- The rooms that an identity sees, sorted. -/
def roomsOf (shred : ShredId) (fleet : Fleet) : List String :=
  sortTexts ((fleet.visibility.filter (·.2.contains shred)).map (·.1))

/-- The contested rooms, sorted, each with its contenders in ascending order. -/
def contestedRooms (fleet : Fleet) : List (String × List ShredId) :=
  (fleet.visibility.filter (1 < ·.2.length)).mergeSort fun a b =>
    decide (a.1 ≤ b.1)

end Fleet

end Switchboard
