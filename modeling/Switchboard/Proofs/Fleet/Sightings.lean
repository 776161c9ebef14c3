import Mathlib.Data.Finset.Sort
import Mathlib.Data.Finset.Union
import Mathlib.Data.List.Induction
import Mathlib.Tactic.IntervalCases
import Switchboard.Proofs.Fleet.Territory

/-!
# The fleet as a relation

A fleet keeps for every room who sees it.  The other way round it is a set of
rooms for every identity, and each report of an identity replaces, extends or
reduces its own set only.  Everything that a fleet answers can be read off
these sets, so it does not matter how the reports of different identities are
interleaved.
-/

namespace Switchboard

/-- Something that happens to a fleet. -/
inductive FleetEvent where
  | registered
  | changed (change : FleetChange)
deriving DecidableEq, Repr

/-- Everything that a fleet can be asked, together with what it answers to a
join and to a report. -/
structure FleetAnswers where
  ownership : String → Ownership
  ownerOf : String → Option ShredId
  isOwner : ShredId → String → Bool
  roomsOf : ShredId → List String
  contestedRooms : List (String × List ShredId)
  report : ShredId → List String → List String
  joined : ShredId → String → Bool

namespace FleetChange

/-- The rooms that the identity sees that makes the change known. -/
def roomsAfter (rooms : Finset String) : FleetChange → Finset String
  | .joined _ room => insert room rooms
  | .left _ room => rooms.erase room
  | .report _ reported => reported.toFinset
  | .disconnected _ => ∅

end FleetChange

namespace FleetEvent

def apply : FleetEvent → Fleet → Fleet
  | .registered, fleet => fleet.register.2
  | .changed change, fleet => change.apply fleet

/-- The change, if an identity makes one known. -/
def change? : FleetEvent → Option FleetChange
  | .registered => none
  | .changed change => some change

/-- What one identity makes known, in its order. -/
def stream (shred : ShredId) (events : List FleetEvent) : List FleetChange :=
  (events.filterMap change?).filter (·.shred = shred)

/-- How many identities are registered. -/
def registrations (events : List FleetEvent) : Nat := events.count .registered

/-- Only registered identities make changes known. -/
def Registered (events : List FleetEvent) : Prop :=
  ∀ change ∈ events.filterMap change?, change.shred < registrations events

instance (events : List FleetEvent) : Decidable (Registered events) :=
  inferInstanceAs (Decidable (∀ change ∈ _, _))

end FleetEvent

/-- The rooms that each of the registered identities sees. -/
structure Sightings where
  registered : Nat
  rooms : ShredId → Finset String

namespace Sightings

/-- Each identity sees the rooms to which its own reports add up. -/
def of (events : List FleetEvent) : Sightings where
  registered := FleetEvent.registrations events
  rooms := fun shred =>
    (FleetEvent.stream shred events).foldl FleetChange.roomsAfter ∅

theorem rooms_of (shred : ShredId) (events : List FleetEvent) :
    (of events).rooms shred =
      (FleetEvent.stream shred events).foldl FleetChange.roomsAfter ∅ := rfl

/-- The identities that see a room, in ascending order. -/
def viewers (room : String) (sightings : Sightings) : List ShredId :=
  (List.range sightings.registered).filter (room ∈ sightings.rooms ·)

/-- All rooms that anybody sees. -/
def seen (sightings : Sightings) : Finset String :=
  (Finset.range sightings.registered).biUnion sightings.rooms

/-- Another identity sees the room. -/
def SeenBeside (shred : ShredId) (sightings : Sightings) (room : String) :
    Prop :=
  ∃ other ∈ sightings.viewers room, other ≠ shred

instance (shred : ShredId) (sightings : Sightings) :
    DecidablePred (sightings.SeenBeside shred) :=
  fun _ => inferInstanceAs (Decidable (∃ other ∈ _, _))

def ownership (room : String) (sightings : Sightings) : Ownership :=
  match sightings.viewers room with
  | [] => .unassigned
  | [only] => .owned only
  | several => .contested several

/-- The rooms that several see, sorted, each with its viewers. -/
def contestedRooms (sightings : Sightings) : List (String × List ShredId) :=
  (sightings.seen.filter fun room =>
    1 < (sightings.viewers room).length).sort.map fun room =>
      (room, sightings.viewers room)

/-- What a fleet has to answer. -/
def answers (sightings : Sightings) : FleetAnswers where
  ownership := fun room => sightings.ownership room
  ownerOf := fun room => (sightings.viewers room).head?
  isOwner := fun shred room =>
    decide ((sightings.viewers room).head? = some shred)
  roomsOf := fun shred => (sightings.rooms shred).sort
  contestedRooms := sightings.contestedRooms
  report := fun shred rooms =>
    (rooms.toFinset.filter (sightings.SeenBeside shred)).sort
  joined := fun shred room => decide (sightings.SeenBeside shred room)

end Sightings

namespace Fleet

def after (events : List FleetEvent) : Fleet :=
  events.foldl (fun fleet event => event.apply fleet) {}

/-- What the fleet does answer. -/
def answers (fleet : Fleet) : FleetAnswers where
  ownership := fun room => fleet.ownership room
  ownerOf := fun room => fleet.ownerOf room
  isOwner := fun shred room => fleet.isOwner shred room
  roomsOf := fun shred => fleet.roomsOf shred
  contestedRooms := fleet.contestedRooms
  report := fun shred rooms => (fleet.report shred rooms).1
  joined := fun shred room => (fleet.joined shred room).1

end Fleet

namespace Fleet

theorem mem_sortTexts {text : String} {texts : List String} :
    text ∈ sortTexts texts ↔ text ∈ texts :=
  List.mem_mergeSort

theorem sortTexts_ascending (texts : List String) :
    (sortTexts texts).Pairwise (· ≤ ·) :=
  ascending_mergeSort id texts

theorem mem_dropRepeats {text : String} {texts : List String} :
    text ∈ dropRepeats texts ↔ text ∈ texts := by
  induction texts using dropRepeats.induct with
  | case1 => rfl
  | case2 => rfl
  | case3 rest second induction =>
      rw [dropRepeats, if_pos rfl, induction]
      simp
  | case4 first second rest different induction =>
      rw [dropRepeats, if_neg different, List.mem_cons, induction,
        ← List.mem_cons]

theorem dropRepeats_ascending {texts : List String}
    (ascending : texts.Pairwise (· ≤ ·)) :
    (dropRepeats texts).Pairwise (· < ·) := by
  induction texts using dropRepeats.induct with
  | case1 => exact .nil
  | case2 => exact List.pairwise_singleton _ _
  | case3 rest second induction =>
      rw [dropRepeats, if_pos rfl]
      exact induction ascending.tail
  | case4 first second rest different induction =>
      rw [dropRepeats, if_neg different]
      refine List.pairwise_cons.mpr ⟨fun text member => ?_,
        induction ascending.tail⟩
      have secondAbove : first < second := lt_of_le_of_ne
        (List.rel_of_pairwise_cons ascending List.mem_cons_self) different
      rcases List.mem_cons.mp (mem_dropRepeats.mp member) with here | later
      · exact here ▸ secondAbove
      · exact secondAbove.trans_le
          (List.rel_of_pairwise_cons ascending.tail later)

theorem eq_sort_of_mem_iff {texts : List String} {set : Finset String}
    (ascending : texts.Pairwise (· < ·))
    (same : ∀ text, text ∈ texts ↔ text ∈ set) : texts = set.sort :=
  ascending.eq_of_mem_iff (Finset.sortedLT_sort set).pairwise fun text =>
    (same text).trans (Finset.mem_sort _).symm

variable {fleet : Fleet} {shred : ShredId} {room : String}

theorem one_lt_length_insertShred {seen : List ShredId}
    (ascending : seen.Pairwise (· < ·)) :
    1 < (insertShred shred seen).length ↔ ∃ other ∈ seen, other ≠ shred := by
  cases seen with
  | nil => simp [insertShred]
  | cons first rest =>
      rw [insertShred]
      split
      · rename_i below
        exact iff_of_true (by simp)
          ⟨first, List.mem_cons_self, Nat.ne_of_gt below⟩
      · split
        · rename_i same
          subst same
          constructor
          · intro several
            obtain ⟨other, member⟩ := List.exists_mem_of_length_pos
              (Nat.lt_of_succ_lt_succ several)
            exact ⟨other, List.mem_cons_of_mem _ member,
              Nat.ne_of_gt (List.rel_of_pairwise_cons ascending member)⟩
          · intro holds
            obtain ⟨other, member, different⟩ := holds
            have later := List.mem_of_ne_of_mem different member
            exact Nat.succ_lt_succ (List.length_pos_of_mem later)
        · rename_i different
          have placed : 0 < (insertShred shred rest).length :=
            List.length_pos_of_ne_nil (insertShred_ne_nil shred rest)
          exact iff_of_true (Nat.succ_lt_succ placed)
            ⟨first, List.mem_cons_self, Ne.symm different⟩

theorem joined_answer (sound : fleet.Sound) :
    (fleet.joined shred room).1 =
      decide (∃ other ∈ fleet.seenBy room, other ≠ shred) :=
  decide_eq_decide.mpr
    (one_lt_length_insertShred (sound.seenBy_ascending room))

theorem beside_joined (place : String) :
    (∃ other ∈ (fleet.joined shred place).2.seenBy room, other ≠ shred) ↔
      ∃ other ∈ fleet.seenBy room, other ≠ shred := by
  rw [seenBy_joined]
  split
  · rename_i same
    subst same
    refine exists_congr fun other => and_congr_left fun different => ?_
    rw [mem_insertShred, or_iff_right different]
  · rfl

theorem mem_joinAll (sound : fleet.Sound) (rooms : List String) :
    room ∈ (joinAll shred rooms fleet).1 ↔
      room ∈ rooms ∧ ∃ other ∈ fleet.seenBy room, other ≠ shred := by
  induction rooms generalizing fleet with
  | nil => simp [joinAll]
  | cons first rest induction =>
      have tail := induction (sound.joined shred first)
      rw [beside_joined] at tail
      have answer : (fleet.joined shred first).1 =
          decide (∃ other ∈ fleet.seenBy first, other ≠ shred) :=
        joined_answer sound
      rw [joinAll]
      by_cases beside : ∃ other ∈ fleet.seenBy first, other ≠ shred
      · rw [decide_eq_true beside] at answer
        simp only [answer, if_true, List.mem_cons, tail, or_and_right]
        refine or_congr ?_ Iff.rfl
        exact ⟨fun same => ⟨same, same ▸ beside⟩, fun both => both.1⟩
      · rw [decide_eq_false beside] at answer
        simp only [answer, if_false, Bool.false_eq_true, List.mem_cons, tail]
        refine and_congr_left fun others => ?_
        exact ⟨.inr, fun listed => listed.resolve_left fun same =>
          beside (same ▸ others)⟩

theorem mem_report (sound : fleet.Sound) (rooms : List String) :
    room ∈ (fleet.report shred rooms).1 ↔
      room ∈ rooms ∧ ∃ other ∈ fleet.seenBy room, other ≠ shred := by
  rw [report, mem_dropRepeats, mem_sortTexts,
    mem_joinAll (sound.disconnected shred), seenBy_disconnected sound]
  simp

theorem report_ascending (rooms : List String) :
    (fleet.report shred rooms).1.Pairwise (· < ·) :=
  dropRepeats_ascending (sortTexts_ascending _)

theorem mem_roomsOf (sound : fleet.Sound) :
    room ∈ fleet.roomsOf shred ↔ shred ∈ fleet.seenBy room := by
  rw [roomsOf, mem_sortTexts, List.mem_map]
  constructor
  · intro holds
    obtain ⟨⟨_, seen⟩, member, rfl⟩ := holds
    obtain ⟨stored, sees⟩ := List.mem_filter.mp member
    have found := (Table.find?_eq_some_iff sound.nodup).mpr stored
    rw [seenBy, found]
    simpa using sees
  · intro sees
    unfold seenBy at sees
    cases found : fleet.visibility.find? room with
    | none => simp [found] at sees
    | some seen =>
        rw [found] at sees
        refine ⟨(room, seen), List.mem_filter.mpr
          ⟨Table.mem_of_find?_eq_some found, ?_⟩, rfl⟩
        simpa using sees

theorem roomsOf_ascending (sound : fleet.Sound) :
    (fleet.roomsOf shred).Pairwise (· < ·) := by
  have nodup : (fleet.roomsOf shred).Nodup :=
    (List.mergeSort_perm _ _).nodup_iff.mpr
      (sound.nodup.sublist (List.filter_sublist.map Prod.fst))
  exact ((sortTexts_ascending _).and nodup).imp fun both =>
    lt_of_le_of_ne both.1 both.2

end Fleet

theorem FleetChange.mem_roomsAfter {change : FleetChange} {shred : ShredId}
    {rooms : Finset String} {room : String} (own : change.shred = shred) :
    room ∈ change.roomsAfter rooms ↔ change.Sees shred room (room ∈ rooms) := by
  subst own
  cases change <;>
    simp [roomsAfter, Sees, FleetChange.shred, or_comm, and_comm]

theorem FleetChange.sees_of_other {change : FleetChange} {shred : ShredId}
    {room : String} {before : Prop} (other : change.shred ≠ shred) :
    change.Sees shred room before ↔ before := by
  have different : shred ≠ change.shred := Ne.symm other
  cases change with
  | joined mover place => exact or_iff_left fun same => different same.1
  | left mover place => exact and_iff_left fun same => different same.1
  | report mover rooms => exact (if_neg different).to_iff
  | disconnected mover => exact and_iff_left different

namespace FleetEvent

variable {events others : List FleetEvent} {shred : ShredId}

theorem stream_registered :
    stream shred (events ++ [.registered]) = stream shred events := by
  simp [stream, change?]

theorem stream_own {change : FleetChange} (own : change.shred = shred) :
    stream shred (events ++ [.changed change]) =
      stream shred events ++ [change] := by
  simp [stream, change?, own]

theorem stream_other {change : FleetChange} (other : change.shred ≠ shred) :
    stream shred (events ++ [.changed change]) = stream shred events := by
  simp [stream, change?, other]

theorem mem_stream {change : FleetChange} :
    change ∈ stream shred events ↔
      change ∈ events.filterMap change? ∧ change.shred = shred := by
  simp [stream]

theorem Registered.stream_eq_nil (registered : Registered events)
    (beyond : registrations events ≤ shred) : stream shred events = [] := by
  refine List.eq_nil_iff_forall_not_mem.mpr fun change member => ?_
  obtain ⟨made, rfl⟩ := mem_stream.mp member
  exact Nat.not_lt_of_le beyond (registered change made)

theorem Registered.of_streams (registered : Registered events)
    (sameNumber : registrations others = registrations events)
    (same : ∀ shred, stream shred others = stream shred events) :
    Registered others := by
  intro change member
  have own : change ∈ stream change.shred others := mem_stream.mpr ⟨member, rfl⟩
  rw [same] at own
  exact sameNumber ▸ registered change (mem_stream.mp own).1

end FleetEvent

namespace Fleet

variable {events : List FleetEvent} {shred : ShredId} {room : String}

theorem after_concat (event : FleetEvent) :
    after (events ++ [event]) = event.apply (after events) := by
  simp [after]

theorem sound_after (events : List FleetEvent) : (after events).Sound := by
  induction events using List.reverseRecOn with
  | nil => exact Sound.empty
  | append_singleton events event induction =>
      rw [after_concat]
      cases event with
      | registered => exact induction.register
      | changed change => exact change.sound_apply induction

theorem registered_after (events : List FleetEvent) :
    (after events).registered = FleetEvent.registrations events := by
  induction events using List.reverseRecOn with
  | nil => rfl
  | append_singleton events event induction =>
      rw [after_concat, FleetEvent.registrations, List.count_append]
      cases event with
      | registered => exact congrArg Nat.succ induction
      | changed change => exact (change.registered_apply _).trans induction

theorem mem_seenBy_after (events : List FleetEvent) (shred : ShredId)
    (room : String) : shred ∈ (after events).seenBy room ↔
      room ∈ (Sightings.of events).rooms shred := by
  induction events using List.reverseRecOn with
  | nil => simp [after, seenBy, Sightings.rooms_of, FleetEvent.stream]
  | append_singleton events event induction =>
      rw [after_concat]
      cases event with
      | registered =>
          rw [Sightings.rooms_of, FleetEvent.stream_registered]
          exact induction
      | changed change =>
          apply (FleetChange.mem_seenBy_apply (sound_after events) change shred
            room).trans
          rw [propext induction, Sightings.rooms_of, Sightings.rooms_of]
          by_cases own : change.shred = shred
          · rw [FleetEvent.stream_own own, List.foldl_append, List.foldl_cons,
              List.foldl_nil]
            exact (FleetChange.mem_roomsAfter own).symm
          · rw [FleetChange.sees_of_other own, FleetEvent.stream_other own]

theorem onlyRegistered_after (registered : FleetEvent.Registered events) :
    (after events).OnlyRegistered := by
  intro room shred sees
  rw [mem_seenBy_after] at sees
  rw [registered_after]
  have reports : FleetEvent.stream shred events ≠ [] := by
    intro silent
    simp [Sightings.rooms_of, silent] at sees
  obtain ⟨change, member⟩ := List.exists_mem_of_ne_nil _ reports
  obtain ⟨made, rfl⟩ := FleetEvent.mem_stream.mp member
  exact registered change made

theorem seenBy_eq_viewers (registered : FleetEvent.Registered events)
    (room : String) :
    (after events).seenBy room = (Sightings.of events).viewers room := by
  refine ((sound_after events).seenBy_ascending room).eq_of_mem_iff
    (List.pairwise_lt_range.sublist List.filter_sublist) fun shred => ?_
  rw [Sightings.viewers, List.mem_filter, List.mem_range, decide_eq_true_eq,
    ← mem_seenBy_after]
  refine ⟨fun sees => ⟨?_, sees⟩, And.right⟩
  have below := onlyRegistered_after registered room shred sees
  rwa [registered_after] at below

theorem contestedRooms_after (registered : FleetEvent.Registered events) :
    (after events).contestedRooms = (Sightings.of events).contestedRooms := by
  have ascending : (((Sightings.of events).seen.filter fun room =>
      1 < ((Sightings.of events).viewers room).length).sort).Pairwise (· < ·) :=
    (Finset.sortedLT_sort _).pairwise
  refine contestedRooms_eq (sound_after events)
    (List.pairwise_map.mpr ascending) fun entry => ?_
  rw [seenBy_eq_viewers registered, Sightings.contestedRooms, List.mem_map]
  constructor
  · intro holds
    obtain ⟨room, member, rfl⟩ := holds
    have listed := (Finset.mem_filter.mp ((Finset.mem_sort _).mp member)).2
    exact ⟨rfl, listed⟩
  · intro holds
    obtain ⟨contenders, several⟩ := holds
    rw [contenders] at several
    refine ⟨entry.1, (Finset.mem_sort _).mpr (Finset.mem_filter.mpr
      ⟨?_, several⟩), Prod.ext rfl contenders.symm⟩
    obtain ⟨shred, member⟩ :=
      List.exists_mem_of_length_pos (Nat.zero_lt_of_lt several)
    obtain ⟨below, sees⟩ := List.mem_filter.mp member
    exact Finset.mem_biUnion.mpr ⟨shred,
      Finset.mem_range.mpr (List.mem_range.mp below), of_decide_eq_true sees⟩

theorem ownership_after (registered : FleetEvent.Registered events)
    (room : String) :
    (after events).ownership room = (Sightings.of events).ownership room := by
  have same := seenBy_eq_viewers registered room
  unfold ownership Sightings.ownership
  generalize (after events).seenBy room = seen at same ⊢
  subst same
  rcases (Sightings.of events).viewers room with _ | ⟨only, _ | ⟨_, _⟩⟩ <;> rfl

theorem ownerOf_after (registered : FleetEvent.Registered events)
    (room : String) : (after events).ownerOf room =
      ((Sightings.of events).viewers room).head? := by
  rw [ownerOf_eq_head? (onlyRegistered_after registered),
    seenBy_eq_viewers registered]

theorem roomsOf_after (events : List FleetEvent) (shred : ShredId) :
    (after events).roomsOf shred =
      ((Sightings.of events).rooms shred).sort := by
  have sound := sound_after events
  refine eq_sort_of_mem_iff (roomsOf_ascending sound) fun room => ?_
  rw [mem_roomsOf sound, mem_seenBy_after]

theorem report_after (registered : FleetEvent.Registered events)
    (shred : ShredId) (rooms : List String) :
    ((after events).report shred rooms).1 = (rooms.toFinset.filter
      ((Sightings.of events).SeenBeside shred)).sort := by
  refine eq_sort_of_mem_iff (report_ascending rooms) fun room => ?_
  rw [mem_report (sound_after events), Finset.mem_filter, List.mem_toFinset,
    seenBy_eq_viewers registered]
  rfl

theorem joined_after (registered : FleetEvent.Registered events)
    (shred : ShredId) (room : String) : ((after events).joined shred room).1 =
      decide ((Sightings.of events).SeenBeside shred room) := by
  rw [joined_answer (sound_after events)]
  refine decide_eq_decide.mpr ?_
  rw [seenBy_eq_viewers registered]
  rfl

theorem answers_after (registered : FleetEvent.Registered events) :
    (after events).answers = (Sightings.of events).answers := by
  rw [answers, Sightings.answers, contestedRooms_after registered]
  congr
  · exact funext fun room => ownership_after registered room
  · exact funext fun room => ownerOf_after registered room
  · refine funext fun shred => funext fun room => ?_
    rw [isOwner, ownerOf_after registered, beq_eq_decide]
  · exact funext fun shred => roomsOf_after events shred
  · exact funext fun shred => funext fun rooms =>
      report_after registered shred rooms
  · exact funext fun shred => funext fun room =>
      joined_after registered shred room

/-- A fleet answers everything by what its identities have made known, each
for itself, and keeps no room that nobody sees.  So the answers are the same
for all interleavings of the same reports. -/
theorem answers_by_own_reports (events : List FleetEvent)
    (registered : FleetEvent.Registered events) :
    (after events).answers = (Sightings.of events).answers ∧
      (∀ entry ∈ (after events).visibility, entry.2 ≠ []) ∧
      ∀ others, FleetEvent.registrations others =
          FleetEvent.registrations events →
        (∀ shred, FleetEvent.stream shred others =
          FleetEvent.stream shred events) →
        (after others).answers = (after events).answers := by
  refine ⟨answers_after registered, (sound_after events).nonempty,
    fun others sameNumber same => ?_⟩
  have othersRegistered := registered.of_streams sameNumber same
  have sightings : Sightings.of others = Sightings.of events := by
    rw [Sightings.of, Sightings.of, sameNumber]
    congr
    funext shred
    rw [same]
  rw [answers_after othersRegistered, answers_after registered, sightings]

/-- Two identities report, and one of them leaves a room, in two orders. -/
def lobbyReports : List FleetEvent :=
  [.registered, .registered, .changed (.report 0 ["lobby", "attic"]),
    .changed (.left 0 "attic"), .changed (.report 1 ["lobby", "lobby"])]

def lobbyReportsShuffled : List FleetEvent :=
  [.registered, .registered, .changed (.report 1 ["lobby", "lobby"]),
    .changed (.report 0 ["lobby", "attic"]), .changed (.left 0 "attic")]

theorem lobbyReports_commute :
    FleetEvent.Registered lobbyReports ∧
      (after lobbyReports).answers = (Sightings.of lobbyReports).answers ∧
      (after lobbyReportsShuffled).answers = (after lobbyReports).answers ∧
      (after lobbyReports).contestedRooms = [("lobby", [0, 1])] := by
  have registered : FleetEvent.Registered lobbyReports := by decide
  obtain ⟨answers, _, shuffled⟩ :=
    answers_by_own_reports lobbyReports registered
  refine ⟨registered, answers, shuffled _ rfl fun shred => ?_,
    by decide +kernel⟩
  rcases Nat.lt_or_ge shred 2 with below | unregistered
  · interval_cases shred <;> rfl
  · have othersRegistered : FleetEvent.Registered lobbyReportsShuffled := by
      decide
    rw [registered.stream_eq_nil unregistered,
      othersRegistered.stream_eq_nil unregistered]

end Fleet

end Switchboard
