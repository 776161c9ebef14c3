import Mathlib.Data.List.Sort
import Mathlib.Data.String.Basic
import Switchboard.Fleet
import Switchboard.Proofs.Table

/-!
# Who sees a room

Every operation of the fleet is described by what it does to the ascending
list of identities that see each room.  A fleet that came about by these
operations is *sound*: a room has one entry, and an entry is ascending and
not empty.
-/

namespace Switchboard

namespace Fleet

/-- Every room that is seen has one entry, with who sees it in ascending
order. -/
structure Sound (fleet : Fleet) : Prop where
  nodup : fleet.visibility.keys.Nodup
  ascending : ∀ entry ∈ fleet.visibility, entry.2.Pairwise (· < ·)
  nonempty : ∀ entry ∈ fleet.visibility, entry.2 ≠ []

/-- Only registered identities see rooms. -/
def OnlyRegistered (fleet : Fleet) : Prop :=
  ∀ room, ∀ shred ∈ fleet.seenBy room, shred < fleet.registered

theorem mem_insertShred {shred other : ShredId} {seen : List ShredId} :
    other ∈ insertShred shred seen ↔ other = shred ∨ other ∈ seen := by
  induction seen with
  | nil => simp [insertShred]
  | cons first rest induction =>
      rw [insertShred]
      split
      · simp
      · split
        · rename_i same
          subst shred
          simp
        · simp only [List.mem_cons, induction]
          constructor
          · rintro (here | here | here) <;> simp [here]
          · rintro (here | here | here) <;> simp [here]

theorem insertShred_ascending {seen : List ShredId}
    (ascending : seen.Pairwise (· < ·)) (shred : ShredId) :
    (insertShred shred seen).Pairwise (· < ·) := by
  induction seen with
  | nil => simp [insertShred]
  | cons first rest induction =>
      obtain ⟨firstLeast, restAscending⟩ := List.pairwise_cons.mp ascending
      rw [insertShred]
      split
      · rename_i below
        refine List.pairwise_cons.mpr ⟨?_, ascending⟩
        intro other member
        rcases List.mem_cons.mp member with here | later
        · exact here ▸ below
        · exact below.trans (firstLeast other later)
      · split
        · exact ascending
        · rename_i notBelow different
          refine List.pairwise_cons.mpr ⟨?_, induction restAscending⟩
          intro other member
          rcases mem_insertShred.mp member with here | later
          · subst other
            exact Nat.lt_of_le_of_ne (Nat.le_of_not_lt notBelow)
              (Ne.symm different)
          · exact firstLeast other later

theorem insertShred_ne_nil (shred : ShredId) (seen : List ShredId) :
    insertShred shred seen ≠ [] :=
  List.ne_nil_of_mem (mem_insertShred.mpr (.inl rfl))

theorem seenBy_write (fleet : Fleet) (room other : String)
    (seen : List ShredId) :
    seenBy other
        { fleet with visibility := fleet.visibility.write room seen } =
      if other = room then seen else fleet.seenBy other := by
  by_cases same : other = room
  · subst other
    simp [seenBy, Table.find?_write_self]
  · simp [seenBy, Table.find?_write_of_ne same, same]

theorem seenBy_joined (fleet : Fleet) (shred : ShredId)
    (room other : String) :
    (fleet.joined shred room).2.seenBy other =
      if other = room then insertShred shred (fleet.seenBy room)
      else fleet.seenBy other := by
  exact seenBy_write fleet room other _

theorem seenBy_left (fleet : Fleet) (shred : ShredId) (room other : String) :
    (fleet.left shred room).seenBy other =
      if other = room then (fleet.seenBy room).filter (· ≠ shred)
      else fleet.seenBy other := by
  unfold left
  split
  · rename_i entry
    by_cases same : other = room
    · subst other
      simp [seenBy, entry]
    · simp [same]
  · rename_i seen entry
    have seenRoom : fleet.seenBy room = seen := by simp [seenBy, entry]
    rw [seenRoom]
    split
    · rename_i nobody
      by_cases same : other = room
      · subst other
        rw [nobody, if_pos rfl]
        simp [seenBy, Table.find?_remove_self]
      · simp [seenBy, Table.find?_remove_of_ne same, same]
    · exact seenBy_write fleet room other _

theorem find?_filter_map {visibility : Table String (List ShredId)}
    (nodup : visibility.keys.Nodup) (change : List ShredId → List ShredId)
    (room : String) :
    Table.find? room ((visibility.map fun entry =>
        (entry.1, change entry.2)).filter (!·.2.isEmpty)) =
      ((visibility.find? room).map change).filter (!·.isEmpty) := by
  have keptNodup :=
    Table.nodup_keys_filter_map nodup change (!·.2.isEmpty)
  apply Option.ext
  intro seen
  rw [Table.find?_eq_some_iff keptNodup, List.mem_filter, List.mem_map,
    Option.filter_eq_some_iff, Option.map_eq_some_iff]
  constructor
  · intro holds
    obtain ⟨⟨⟨_, old⟩, member, equality⟩, filled⟩ := holds
    cases equality
    exact ⟨⟨old, (Table.find?_eq_some_iff nodup).mpr member, rfl⟩, filled⟩
  · intro holds
    obtain ⟨⟨old, found, rfl⟩, filled⟩ := holds
    exact ⟨⟨(room, old), Table.mem_of_find?_eq_some found, rfl⟩, filled⟩

theorem seenBy_disconnected {fleet : Fleet} (sound : fleet.Sound)
    (shred : ShredId) (room : String) :
    (fleet.disconnected shred).seenBy room =
      (fleet.seenBy room).filter (· ≠ shred) := by
  unfold seenBy disconnected
  rw [find?_filter_map sound.nodup (fun seen => seen.filter (· ≠ shred))]
  cases fleet.visibility.find? room with
  | none => rfl
  | some seen =>
      rw [Option.map_some, Option.getD_some]
      cases seen.filter (· ≠ shred) with
      | nil => rfl
      | cons first rest => rfl

@[simp] theorem registered_joined (fleet : Fleet) (shred : ShredId)
    (room : String) :
    (fleet.joined shred room).2.registered = fleet.registered := rfl

@[simp] theorem registered_left (fleet : Fleet) (shred : ShredId)
    (room : String) :
    (fleet.left shred room).registered = fleet.registered := by
  unfold left
  split
  · rfl
  · split <;> rfl

@[simp] theorem registered_disconnected (fleet : Fleet) (shred : ShredId) :
    (fleet.disconnected shred).registered = fleet.registered := rfl

theorem registered_joinAll (shred : ShredId) (rooms : List String)
    (fleet : Fleet) :
    (joinAll shred rooms fleet).2.registered = fleet.registered := by
  induction rooms generalizing fleet with
  | nil => rfl
  | cons room rest induction =>
      exact induction (fleet.joined shred room).2

@[simp] theorem registered_report (fleet : Fleet) (shred : ShredId)
    (rooms : List String) :
    (fleet.report shred rooms).2.registered = fleet.registered :=
  registered_joinAll shred rooms (fleet.disconnected shred)

theorem mem_seenBy_joinAll (shred other : ShredId) (rooms : List String)
    (room : String) (fleet : Fleet) :
    other ∈ (joinAll shred rooms fleet).2.seenBy room ↔
      (other = shred ∧ room ∈ rooms) ∨ other ∈ fleet.seenBy room := by
  induction rooms generalizing fleet with
  | nil => simp [joinAll]
  | cons first rest induction =>
      have tail := induction (fleet.joined shred first).2
      rw [seenBy_joined] at tail
      apply tail.trans
      by_cases same : room = first
      · subst first
        rw [if_pos rfl, mem_insertShred, List.mem_cons]
        constructor
        · intro holds
          rcases holds with ⟨here, _⟩ | here | here
          · exact .inl ⟨here, .inl rfl⟩
          · exact .inl ⟨here, .inl rfl⟩
          · exact .inr here
        · intro holds
          rcases holds with ⟨here, _⟩ | here
          · exact .inr (.inl here)
          · exact .inr (.inr here)
      · rw [if_neg same, List.mem_cons, or_iff_right same]

theorem Sound.empty : Sound {} where
  nodup := List.nodup_nil
  ascending := by simp
  nonempty := by simp

namespace Sound

variable {fleet : Fleet}

theorem seenBy_ascending (sound : fleet.Sound) (room : String) :
    (fleet.seenBy room).Pairwise (· < ·) := by
  unfold seenBy
  cases found : fleet.visibility.find? room with
  | none => exact .nil
  | some seen => exact sound.ascending _ (Table.mem_of_find?_eq_some found)

theorem write (sound : fleet.Sound) (room : String) {seen : List ShredId}
    (ascending : seen.Pairwise (· < ·)) (nonempty : seen ≠ []) :
    Sound { fleet with visibility := fleet.visibility.write room seen } where
  nodup := Table.nodup_keys_write sound.nodup room seen
  ascending := by
    intro entry member
    rcases Table.mem_write member with here | old
    · subst entry
      exact ascending
    · exact sound.ascending entry old
  nonempty := by
    intro entry member
    rcases Table.mem_write member with here | old
    · subst entry
      exact nonempty
    · exact sound.nonempty entry old

theorem register (sound : fleet.Sound) : fleet.register.2.Sound :=
  ⟨sound.nodup, sound.ascending, sound.nonempty⟩

theorem joined (sound : fleet.Sound) (shred : ShredId) (room : String) :
    (fleet.joined shred room).2.Sound :=
  sound.write room
    (insertShred_ascending (sound.seenBy_ascending room) shred)
    (insertShred_ne_nil shred _)

theorem left (sound : fleet.Sound) (shred : ShredId) (room : String) :
    (fleet.left shred room).Sound := by
  unfold Fleet.left
  split
  · exact sound
  · rename_i seen found
    split
    · exact {
        nodup := Table.nodup_keys_remove sound.nodup room
        ascending := fun entry member =>
          sound.ascending entry (List.mem_of_mem_filter member)
        nonempty := fun entry member =>
          sound.nonempty entry (List.mem_of_mem_filter member) }
    · rename_i nonempty
      have ascending :=
        sound.ascending _ (Table.mem_of_find?_eq_some found)
      exact sound.write room (ascending.sublist List.filter_sublist) nonempty

theorem disconnected (sound : fleet.Sound) (shred : ShredId) :
    (fleet.disconnected shred).Sound where
  nodup := Table.nodup_keys_filter_map sound.nodup _ _
  ascending := by
    intro entry member
    obtain ⟨old, oldMember, rfl⟩ :=
      List.mem_map.mp (List.mem_of_mem_filter member)
    exact (sound.ascending old oldMember).sublist List.filter_sublist
  nonempty := by
    intro entry member
    have filled := (List.mem_filter.mp member).2
    intro empty
    simp [empty] at filled

theorem joinAll (sound : fleet.Sound) (shred : ShredId)
    (rooms : List String) : (Fleet.joinAll shred rooms fleet).2.Sound := by
  induction rooms generalizing fleet with
  | nil => exact sound
  | cons room rest induction => exact induction (sound.joined shred room)

theorem report (sound : fleet.Sound) (shred : ShredId)
    (rooms : List String) : (fleet.report shred rooms).2.Sound :=
  (sound.disconnected shred).joinAll shred rooms

end Sound

theorem mem_seenBy_report {fleet : Fleet} (sound : fleet.Sound)
    (shred other : ShredId) (rooms : List String) (room : String) :
    other ∈ (fleet.report shred rooms).2.seenBy room ↔
      if other = shred then room ∈ rooms else other ∈ fleet.seenBy room := by
  apply (mem_seenBy_joinAll shred other rooms room _).trans
  rw [seenBy_disconnected sound]
  by_cases same : other = shred <;> simp [same]

theorem mem_contestedRooms {fleet : Fleet} (sound : fleet.Sound)
    {entry : String × List ShredId} :
    entry ∈ fleet.contestedRooms ↔
      entry.2 = fleet.seenBy entry.1 ∧ 1 < entry.2.length := by
  have stored : entry ∈ fleet.visibility ↔
      fleet.visibility.find? entry.1 = some entry.2 :=
    (Table.find?_eq_some_iff sound.nodup).symm
  rw [contestedRooms, List.mem_mergeSort, List.mem_filter, stored]
  simp only [decide_eq_true_eq]
  constructor
  · intro holds
    obtain ⟨found, several⟩ := holds
    exact ⟨by simp [seenBy, found], several⟩
  · intro holds
    obtain ⟨equality, several⟩ := holds
    refine ⟨?_, several⟩
    rw [equality] at several ⊢
    unfold seenBy at several ⊢
    cases found : fleet.visibility.find? entry.1 with
    | none => simp [found] at several
    | some seen => rfl

theorem mem_map_contestedRooms {fleet : Fleet} (sound : fleet.Sound)
    {room : String} :
    room ∈ fleet.contestedRooms.map Prod.fst ↔
      1 < (fleet.seenBy room).length := by
  rw [List.mem_map]
  constructor
  · intro holds
    obtain ⟨entry, member, rfl⟩ := holds
    obtain ⟨seen, several⟩ := (mem_contestedRooms sound).mp member
    exact seen ▸ several
  · intro several
    exact ⟨(room, fleet.seenBy room),
      (mem_contestedRooms sound).mpr ⟨rfl, several⟩, rfl⟩

theorem ascending_mergeSort {α : Type} (key : α → String) (entries : List α) :
    (entries.mergeSort fun one other =>
      decide (key one ≤ key other)).Pairwise fun one other =>
        key one ≤ key other := by
  have sorted : (entries.mergeSort fun one other =>
      decide (key one ≤ key other)).Pairwise fun one other =>
        decide (key one ≤ key other) = true :=
    List.pairwise_mergeSort
      (fun one other third first second => by
        simp only [decide_eq_true_eq] at first second ⊢
        exact first.trans second)
      (fun one other => by
        simpa using le_total (key one) (key other)) entries
  exact sorted.imp of_decide_eq_true

theorem contestedRooms_ascending {fleet : Fleet} (sound : fleet.Sound) :
    fleet.contestedRooms.Pairwise fun one other => one.1 < other.1 := by
  have weak : fleet.contestedRooms.Pairwise fun one other =>
      one.1 ≤ other.1 := ascending_mergeSort Prod.fst _
  have nodup : (fleet.contestedRooms.map Prod.fst).Nodup := by
    have sameKeys := (List.mergeSort_perm
      (fleet.visibility.filter (1 < ·.2.length))
      fun one other => decide (one.1 ≤ other.1)).map Prod.fst
    exact sameKeys.nodup_iff.mpr
      (sound.nodup.sublist (List.filter_sublist.map Prod.fst))
  have apart := List.pairwise_map.mp nodup
  apply (weak.and apart).imp
  intro one other holds
  obtain ⟨below, different⟩ := holds
  exact lt_of_le_of_ne below different

theorem contestedRooms_eq {fleet : Fleet} (sound : fleet.Sound)
    {entries : List (String × List ShredId)}
    (ascending : entries.Pairwise fun one other => one.1 < other.1)
    (same : ∀ entry, entry ∈ entries ↔
      entry.2 = fleet.seenBy entry.1 ∧ 1 < entry.2.length) :
    fleet.contestedRooms = entries := by
  have asymmetric : ∀ one other : String × List ShredId,
      one.1 < other.1 → other.1 < one.1 → one = other :=
    fun _ _ below above => absurd above (lt_asymm below)
  have perm : fleet.contestedRooms.Perm entries := by
    refine (List.perm_ext_iff_of_nodup ?_ ?_).mpr fun entry =>
      (mem_contestedRooms sound).trans (same entry).symm
    · exact (contestedRooms_ascending sound).imp fun below equality =>
        (equality ▸ below).false
    · exact ascending.imp fun below equality => (equality ▸ below).false
  exact perm.eq_of_pairwise (fun one other _ _ => asymmetric one other)
    (contestedRooms_ascending sound) ascending

theorem ownerOf_eq_head? {fleet : Fleet} (registered : fleet.OnlyRegistered)
    (room : String) : fleet.ownerOf room = (fleet.seenBy room).head? := by
  unfold ownerOf
  split
  · rename_i nobody
    simp [nobody]
  · rename_i keeper rest seen
    have below : keeper < fleet.registered :=
      registered room keeper (by simp [seen])
    simp [seen, below]

end Fleet

end Switchboard
