import Switchboard.Proofs.Fleet.Resolution

/-!
# Convergence of clash resolution

While nobody else changes the fleet, a run removes from every contested room
exactly those contenders whose leave it has noted as successful.  The lowest
contender is never among them, so the owner of a room stays the same all the
way.
-/

namespace Switchboard

/-- What is left of the clash of a room: the lowest contender and those whose
leave failed. -/
def Resolution.unsettled? (resolution : Resolution) :
    Option (String × List ShredId) :=
  if resolution.failed = [] then none
  else some (resolution.room,
    resolution.keeper :: resolution.failed.map Prod.fst)

/-- What a run has done to a fleet, and that its answer tells it. -/
structure Resolved (before : Fleet) (resolutions : List Resolution)
    (after : Fleet) : Prop where
  /-- One entry for every contested room, in ascending order of rooms. -/
  ordered : (resolutions.map Resolution.room).Pairwise (· < ·)
  contested : ∀ room, room ∈ resolutions.map Resolution.room ↔
    1 < (before.seenBy room).length
  keeper_mem : ∀ resolution ∈ resolutions,
    resolution.keeper ∈ before.seenBy resolution.room
  keeper_le : ∀ resolution ∈ resolutions,
    ∀ shred ∈ before.seenBy resolution.room, resolution.keeper ≤ shred
  left_ascending : ∀ resolution ∈ resolutions,
    resolution.left.Pairwise (· < ·)
  failed_ascending : ∀ resolution ∈ resolutions,
    (resolution.failed.map Prod.fst).Pairwise (· < ·)
  /-- The others are divided between those that left and those that failed
  to. -/
  divided : ∀ resolution ∈ resolutions,
    (resolution.left ++ resolution.failed.map Prod.fst).Perm
      ((before.seenBy resolution.room).erase resolution.keeper)
  seen : ∀ resolution ∈ resolutions, after.seenBy resolution.room =
    resolution.keeper :: resolution.failed.map Prod.fst
  untouched : ∀ room, room ∉ resolutions.map Resolution.room →
    after.seenBy room = before.seenBy room

namespace Resolving

/-- What holds all the way through a run that nobody disturbs. -/
structure Undisturbed (start : Fleet) (stage : Resolving)
    (territory : Territory) : Prop where
  sound : territory.Sound
  registered : territory.fleet.registered = start.registered
  follows : stage.Follows start.contestedRooms
  seen : ∀ room, territory.fleet.seenBy room =
    (start.seenBy room).filter fun shred =>
      ¬HasLeft stage.records room shred

namespace Undisturbed

variable {start : Fleet} {stage next : Resolving}
  {territory after : Territory} {task : TaskId} {agenda : Agenda}

theorem begin {territory : Territory} (sound : territory.Sound) :
    Undisturbed territory.fleet .fresh territory where
  sound := sound
  registered := rfl
  follows := trivial
  seen := by simp [records, HasLeft]

theorem seenBy_eq (undisturbed : Undisturbed start stage territory)
    (unplanned : ¬stage.IsPlanned) (room : String) :
    territory.fleet.seenBy room = start.seenBy room := by
  rw [undisturbed.seen room, List.filter_eq_self]
  intro shred _
  cases stage with
  | fresh | queued => simp [records, HasLeft]
  | nextRoom | nextLoser | leaving => exact absurd trivial unplanned

theorem plan_eq (startSound : start.Sound)
    (undisturbed : Undisturbed start stage territory)
    (unplanned : ¬stage.IsPlanned) :
    territory.fleet.contestedRooms = start.contestedRooms := by
  refine Fleet.contestedRooms_eq undisturbed.sound.fleet
    (Fleet.contestedRooms_ascending startSound) fun entry => ?_
  rw [undisturbed.seenBy_eq unplanned]
  exact Fleet.mem_contestedRooms startSound

theorem follows_of_moves (startSound : start.Sound)
    (registered : start.OnlyRegistered)
    (undisturbed : Undisturbed start stage territory)
    (moves : Moves task agenda territory stage next after) :
    next.Follows start.contestedRooms := by
  by_cases planned : stage.IsPlanned
  · refine (moves.follows planned undisturbed.follows ?_ ?_).2
    · intro entry member shred here
      have contenders := (Fleet.mem_contestedRooms startSound).mp member
      have below := registered entry.1 shred (contenders.1 ▸ here)
      rw [← undisturbed.registered, ← undisturbed.sound.connected] at below
      simpa using below
    · intro entry member empty
      have several := ((Fleet.mem_contestedRooms startSound).mp member).2
      simp [empty] at several
  · have samePlan := undisturbed.plan_eq startSound planned
    cases moves with
    | queue => trivial
    | planAtOnce | planInTurn => exact ⟨[], samePlan.symm, .nil⟩
    | skipRoom | enterRoom | finishRoom | skipLoser | evict | left
    | failed => exact absurd trivial planned

theorem step (startSound : start.Sound) (registered : start.OnlyRegistered)
    (undisturbed : Undisturbed start stage territory)
    (moves : Moves task agenda territory stage next after) :
    Undisturbed start next after := by
  refine ⟨moves.sound undisturbed.sound,
    moves.registered.trans undisturbed.registered,
    undisturbed.follows_of_moves startSound registered moves, fun other => ?_⟩
  rcases moves.hasLeft with ⟨loser, room, fleet, noted⟩ | ⟨fleet, noted⟩
  · rw [fleet, Fleet.seenBy_left]
    by_cases same : other = room
    · subst other
      rw [if_pos rfl, undisturbed.seen room, List.filter_filter]
      refine List.filter_congr fun shred _ => ?_
      simp [noted, and_comm]
    · rw [if_neg same, undisturbed.seen other]
      refine List.filter_congr fun shred _ => ?_
      simp [noted, same]
  · rw [fleet, undisturbed.seen other]
    refine List.filter_congr fun shred _ => ?_
    simp [noted]

theorem of_run {start : Territory} (sound : start.Sound)
    (registered : start.fleet.OnlyRegistered)
    (run : Run task .fresh start [] stage territory) :
    Undisturbed start.fleet stage territory := by
  generalize nobody : ([] : List FleetChange) = changes at run
  induction run with
  | start => exact .begin sound
  | settings gateway lock same _ induction =>
      have before := induction nobody
      exact ⟨⟨before.sound.fleet, same.trans before.sound.connected⟩,
        before.registered, before.follows, before.seen⟩
  | change change _ _ => simp at nobody
  | step agenda _ moved induction =>
      exact (induction nobody).step sound.fleet registered (.of_step moved)

theorem onlyRegistered (registered : start.OnlyRegistered)
    (undisturbed : Undisturbed start stage territory) :
    territory.fleet.OnlyRegistered := by
  intro room shred member
  rw [undisturbed.seen room] at member
  rw [undisturbed.registered]
  exact registered room shred (List.mem_of_mem_filter member)

theorem ownerOf_eq (startSound : start.Sound)
    (registered : start.OnlyRegistered)
    (undisturbed : Undisturbed start stage territory) (room : String) :
    territory.fleet.ownerOf room = start.ownerOf room := by
  rw [Fleet.ownerOf_eq_head? (undisturbed.onlyRegistered registered),
    Fleet.ownerOf_eq_head? registered, undisturbed.seen room]
  cases seen : start.seenBy room with
  | nil => rfl
  | cons keeper rest =>
      have stays : ¬HasLeft stage.records room keeper := by
        intro hasLeft
        exact undisturbed.follows.head?_ne_of_hasLeft startSound hasLeft
          (by simp [seen])
      simp [stays]

end Undisturbed

end Resolving

namespace Resolution

theorem Accounts.stayed {resolution : Resolution} {keeper : ShredId}
    {losers : List ShredId} (ascending : (keeper :: losers).Pairwise (· < ·))
    (accounts : resolution.Accounts losers) :
    (keeper :: losers).filter (· ∉ resolution.left) =
      keeper :: resolution.failed.map Prod.fst := by
  obtain ⟨keeperLeast, losersAscending⟩ := List.pairwise_cons.mp ascending
  have keeperStays : keeper ∉ resolution.left := fun left =>
    (keeperLeast keeper (accounts.left.subset left)).false
  have nodup : (resolution.left ++ resolution.failed.map Prod.fst).Nodup :=
    accounts.all.nodup_iff.mpr
      (losersAscending.imp fun below => below.ne)
  have apart := List.disjoint_of_nodup_append nodup
  rw [List.filter_cons_of_pos (by simpa using keeperStays)]
  congr 1
  refine (losersAscending.sublist List.filter_sublist).eq_of_mem_iff
    (losersAscending.sublist accounts.failed) fun shred => ?_
  rw [List.mem_filter, ← accounts.all.mem_iff, List.mem_append]
  constructor
  · intro holds
    obtain ⟨left | failed, stays⟩ := holds
    · exact absurd left (by simpa using stays)
    · exact failed
  · intro failed
    exact ⟨.inr failed, by simpa using fun left => apart left failed⟩

theorem exists_losers {fleet : Fleet} (sound : fleet.Sound)
    {resolutions : List Resolution} {resolution : Resolution}
    (settled : List.Forall₂ Settles resolutions fleet.contestedRooms)
    (member : resolution ∈ resolutions) :
    ∃ losers, fleet.seenBy resolution.room = resolution.keeper :: losers ∧
      (resolution.keeper :: losers).Pairwise (· < ·) ∧
        resolution.Accounts losers := by
  obtain ⟨planned, plannedMember, sameRoom, losers, same, accounts⟩ :=
    exists_planned settled member
  have seen := ((Fleet.mem_contestedRooms sound).mp plannedMember).1
  have contenders : fleet.seenBy resolution.room =
      resolution.keeper :: losers := by
    rw [sameRoom, ← seen, same]
  have ascending := sound.seenBy_ascending resolution.room
  exact ⟨losers, contenders, contenders ▸ ascending, accounts⟩

theorem mem_unsettled? {resolutions : List Resolution}
    {entry : String × List ShredId} :
    entry ∈ resolutions.filterMap unsettled? ↔
      ∃ resolution ∈ resolutions, resolution.failed ≠ [] ∧
        entry = (resolution.room,
          resolution.keeper :: resolution.failed.map Prod.fst) := by
  rw [List.mem_filterMap]
  refine exists_congr fun resolution => and_congr_right fun _ => ?_
  unfold unsettled?
  split <;> rename_i failed <;> simp [failed, eq_comm]

end Resolution

namespace Resolved

variable {before after : Fleet} {resolutions : List Resolution}

/-- What the end of an undisturbed run leaves behind. -/
theorem of_undisturbed {territory : Territory} (startSound : before.Sound)
    (undisturbed : Resolving.Undisturbed before (.nextRoom resolutions [])
      territory) :
    Resolved before resolutions territory.fleet := by
  obtain ⟨done, equality, settled⟩ := undisturbed.follows
  rw [List.append_nil] at equality
  subst done
  have rooms := Resolution.rooms_of_settled settled
  have ordered : (resolutions.map Resolution.room).Pairwise (· < ·) :=
    rooms ▸ List.pairwise_map.mpr
      (Fleet.contestedRooms_ascending startSound)
  have contested : ∀ room, room ∈ resolutions.map Resolution.room ↔
      1 < (before.seenBy room).length :=
    fun _ => rooms ▸ Fleet.mem_map_contestedRooms startSound
  refine
    { ordered, contested, keeper_mem := ?_, keeper_le := ?_,
      left_ascending := ?_, failed_ascending := ?_, divided := ?_,
      seen := ?_, untouched := ?_ }
  · intro resolution member
    obtain ⟨losers, seen, _⟩ :=
      Resolution.exists_losers startSound settled member
    simp [seen]
  · intro resolution member shred here
    obtain ⟨losers, seen, ascending, _⟩ :=
      Resolution.exists_losers startSound settled member
    rw [seen] at here
    rcases List.mem_cons.mp here with same | later
    · exact same.ge
    · exact (List.rel_of_pairwise_cons ascending later).le
  · intro resolution member
    obtain ⟨losers, _, ascending, accounts⟩ :=
      Resolution.exists_losers startSound settled member
    exact ascending.tail.sublist accounts.left
  · intro resolution member
    obtain ⟨losers, _, ascending, accounts⟩ :=
      Resolution.exists_losers startSound settled member
    exact ascending.tail.sublist accounts.failed
  · intro resolution member
    obtain ⟨losers, seen, _, accounts⟩ :=
      Resolution.exists_losers startSound settled member
    rw [seen, List.erase_cons_head]
    exact accounts.all
  · intro resolution member
    obtain ⟨losers, seen, ascending, accounts⟩ :=
      Resolution.exists_losers startSound settled member
    rw [undisturbed.seen, ← accounts.stayed ascending, seen]
    refine List.filter_congr fun shred _ => ?_
    have hasLeft : HasLeft resolutions resolution.room shred ↔
        shred ∈ resolution.left :=
      undisturbed.follows.hasLeft_iff startSound member
    simp [Resolving.records, hasLeft]
  · intro room absent
    rw [undisturbed.seen, List.filter_eq_self]
    intro shred _
    simp only [decide_eq_true_eq]
    intro holds
    obtain ⟨resolution, member, rfl, _⟩ := holds
    exact absent (List.mem_map.mpr ⟨resolution, member, rfl⟩)

theorem contestedRooms_eq (resolved : Resolved before resolutions after)
    (sound : after.Sound) :
    after.contestedRooms =
      resolutions.filterMap Resolution.unsettled? := by
  refine Fleet.contestedRooms_eq sound ?_ fun entry => ?_
  · apply (List.pairwise_map.mp resolved.ordered).filterMap _
    intro one other below oneEntry oneFailed otherEntry otherFailed
    simp only [Resolution.unsettled?, Option.ite_none_left_eq_some,
      Option.some.injEq] at oneFailed otherFailed
    rw [← oneFailed.2, ← otherFailed.2]
    exact below
  · rw [Resolution.mem_unsettled?]
    constructor
    · intro holds
      obtain ⟨resolution, member, failed, rfl⟩ := holds
      refine ⟨(resolved.seen resolution member).symm, ?_⟩
      simpa using List.length_pos_of_ne_nil failed
    · intro holds
      obtain ⟨seen, several⟩ := holds
      by_cases listed : entry.1 ∈ resolutions.map Resolution.room
      · obtain ⟨resolution, member, sameRoom⟩ := List.mem_map.mp listed
        have contenders := resolved.seen resolution member
        rw [sameRoom, ← seen] at contenders
        refine ⟨resolution, member, ?_, Prod.ext sameRoom.symm contenders⟩
        intro none
        simp [contenders, none] at several
      · rw [seen, resolved.untouched entry.1 listed] at several
        exact absurd ((resolved.contested entry.1).mpr several) listed

end Resolved

namespace Resolving

theorem nothing_to_do {start : Fleet} {stage : Resolving}
    {territory : Territory} (peaceful : start.contestedRooms = [])
    (undisturbed : Undisturbed start stage territory) :
    stage.evicting? = none ∧
      ∀ resolutions, stage = .nextRoom resolutions [] → resolutions = [] := by
  have follows := undisturbed.follows
  rw [peaceful] at follows
  cases stage with
  | fresh | queued => exact ⟨rfl, by simp⟩
  | nextRoom finished rest =>
      obtain ⟨done, equality, settled⟩ := follows
      have noneDone : done = [] :=
        (List.append_eq_nil_iff.mp equality.symm).1
      subst done
      cases settled
      exact ⟨rfl, fun resolutions same => by cases same; rfl⟩
  | nextLoser | leaving =>
      obtain ⟨done, tried, equality, _⟩ := follows
      simp at equality

/-- A run of clash resolution that nobody disturbs brings every contested
room down to its lowest contender and those that failed to leave, whatever
leaves succeed and however long they take; nobody ever sees another owner of
a room. -/
theorem undisturbed_resolution_converges {start : Territory}
    (reachable : start.Reachable)
    (registered : start.fleet.OnlyRegistered) (task : TaskId) :
    (∀ stage territory, Run task .fresh start [] stage territory →
      (∀ room,
        territory.fleet.ownerOf room = start.fleet.ownerOf room) ∧
      ∀ agenda, stage.Proceeds task agenda territory
        start.fleet.contestedRooms) ∧
    ∀ resolutions after, Ends task start [] resolutions after →
      Resolved start.fleet resolutions after.fleet ∧
      (∀ room, after.fleet.ownerOf room = start.fleet.ownerOf room) ∧
      plan after =
        .nextRoom [] (resolutions.filterMap Resolution.unsettled?) ∧
      ((∀ resolution ∈ resolutions, resolution.failed = []) →
        after.fleet.contestedRooms = [] ∧
        ∀ nextTask, ∀ again : Territory, again.Sound →
          again.fleet = after.fleet →
          (∀ stage territory, Run nextTask .fresh again [] stage territory →
            stage.evicting? = none) ∧
          ∀ answer last, Ends nextTask again [] answer last →
            answer = []) := by
  have sound := reachable.sound
  refine ⟨fun stage territory run => ?_, fun resolutions after ends => ?_⟩
  · have undisturbed := Undisturbed.of_run sound registered run
    exact ⟨undisturbed.ownerOf_eq sound.fleet registered,
      fun agenda => proceeds (undisturbed.plan_eq sound.fleet)⟩
  · cases ends with
    | @intro stage territory _ agenda run ended =>
        obtain ⟨rfl, sameFleet⟩ := done_of_step ended
        have undisturbed := Undisturbed.of_run sound registered run
        have resolved := Resolved.of_undisturbed sound.fleet undisturbed
        have contested :=
          resolved.contestedRooms_eq undisturbed.sound.fleet
        have owner := undisturbed.ownerOf_eq sound.fleet registered
        have only := undisturbed.onlyRegistered registered
        rw [← sameFleet] at resolved contested owner only
        refine ⟨resolved, owner, by rw [plan, contested], fun noneFailed => ?_⟩
        have peaceful :
            (resolutions.filterMap Resolution.unsettled?) = [] := by
          rw [List.filterMap_eq_nil_iff]
          intro resolution member
          exact if_pos (noneFailed resolution member)
        rw [peaceful] at contested
        refine ⟨contested, fun nextTask again againSound same => ?_⟩
        rw [← same] at contested only
        refine ⟨fun stage territory nextRun => ?_, fun answer last ends => ?_⟩
        · exact (nothing_to_do contested
            (Undisturbed.of_run againSound only nextRun)).1
        · cases ends with
          | intro agenda nextRun ended =>
              obtain ⟨rfl, _⟩ := done_of_step ended
              exact (nothing_to_do contested
                (Undisturbed.of_run againSound only nextRun)).2 _ rfl

/-- Three identities see one room, and the last of them is barred from
leaving it. -/
def barredLobby : Territory :=
  { Territory.crowdedLobby with gateway := { connections :=
      [{ name := "a" }, { name := "b" },
        { name := "c", leaveFailure := .always "barred" }] } }

def barredAnswer : Resolution :=
  { room := "lobby", keeper := 0, left := [1], failed := [(2, "barred")] }

theorem barredLobby_reachable : barredLobby.Reachable :=
  .settings _ _ rfl Territory.crowdedLobby_reachable

theorem barredLobby_ends : ∃ after,
    Ends 0 barredLobby [] [barredAnswer] after := by
  have planned : Run 0 .fresh barredLobby []
      (.nextRoom [] [("lobby", [0, 1, 2])]) _ :=
    .step {} .start (by decide +kernel)
  have entered : Run 0 .fresh barredLobby []
      (.nextLoser [] [] { room := "lobby", keeper := 0 } [1, 2]) _ :=
    .step {} planned (by decide +kernel)
  have leaving : Run 0 .fresh barredLobby []
      (.leaving [] [] { room := "lobby", keeper := 0 } [2] 1 none ⟨0, 0⟩) _ :=
    .step {} entered (by decide +kernel)
  have left : Run 0 .fresh barredLobby []
      (.nextLoser [] [] { room := "lobby", keeper := 0, left := [1] } [2]) _ :=
    .step {} leaving (by decide +kernel)
  have barred : Run 0 .fresh barredLobby []
      (.leaving [] [] { room := "lobby", keeper := 0, left := [1] } [] 2
        (some "barred") ⟨0, 0⟩) _ :=
    .step {} left (by decide +kernel)
  have failed : Run 0 .fresh barredLobby []
      (.nextLoser [] [] barredAnswer []) _ :=
    .step {} barred (by decide +kernel)
  have settled : Run 0 .fresh barredLobby [] (.nextRoom [barredAnswer] []) _ :=
    .step {} failed (by decide +kernel)
  exact ⟨_, .intro {} settled rfl⟩

theorem barredLobby_converges :
    barredLobby.Reachable ∧ barredLobby.fleet.OnlyRegistered ∧
      ∃ after, Ends 0 barredLobby [] [barredAnswer] after ∧
        Resolved barredLobby.fleet [barredAnswer] after.fleet ∧
        plan after = .nextRoom [] [("lobby", [0, 2])] := by
  obtain ⟨after, ends⟩ := barredLobby_ends
  have converges := (undisturbed_resolution_converges barredLobby_reachable
    Territory.crowdedLobby_onlyRegistered 0).2 _ _ ends
  exact ⟨barredLobby_reachable, Territory.crowdedLobby_onlyRegistered, after,
    ends, converges.1, converges.2.2.1⟩

end Resolving

end Switchboard
