import Switchboard.Proofs.Fleet.Resolution

/-!
# Evictions under a plan that has aged

A run asks identities to leave by the plan that it made at its beginning and
does not look at the fleet again.  While leaves are in progress others may
change the fleet.  What has become of the planned identities is told by these
changes alone, since the run itself neither removes the keeper nor anybody
whose turn has not come.
-/

namespace Switchboard

/-- To leave is no loss to the room: somebody lower is in it. -/
structure Fleet.CanSpare (fleet : Fleet) (room : String)
    (loser : ShredId) : Prop where
  sees : loser ∈ fleet.seenBy room
  lower : ∃ other ∈ fleet.seenBy room, other < loser

theorem Fleet.CanSpare.seenBy_left_ne_nil {fleet : Fleet} {room : String}
    {loser : ShredId} (spare : fleet.CanSpare room loser) :
    (fleet.left loser room).seenBy room ≠ [] := by
  obtain ⟨other, seen, below⟩ := spare.lower
  apply List.ne_nil_of_mem (a := other)
  rw [seenBy_left, if_pos rfl, List.mem_filter]
  exact ⟨seen, by simpa using below.ne⟩

namespace FleetChange

/-- The change takes a room from an identity. -/
def Withdraws (shred : ShredId) (room : String) (change : FleetChange) :
    Prop :=
  ¬change.Sees shred room True

/-- An identity that saw a room before these changes sees it after them. -/
def Persists (changes : List FleetChange) (shred : ShredId)
    (room : String) : Prop :=
  changes.foldl (fun seen change => change.Sees shred room seen) True

theorem persists_append (changes : List FleetChange) (change : FleetChange)
    (shred : ShredId) (room : String) :
    Persists (changes ++ [change]) shred room =
      change.Sees shred room (Persists changes shred room) := by
  simp [Persists]

theorem persists_of_not_withdraws {changes : List FleetChange}
    {shred : ShredId} {room : String}
    (kept : ∀ change ∈ changes, ¬change.Withdraws shred room) :
    Persists changes shred room := by
  unfold Persists
  induction changes with
  | nil => trivial
  | cons change rest induction =>
      obtain ⟨first, later⟩ := List.forall_mem_cons.mp kept
      rw [List.foldl_cons, eq_true (not_not.mp first)]
      exact induction later

end FleetChange

namespace Resolving

variable {task : TaskId} {agenda : Agenda} {stage next : Resolving}
  {start planned territory after : Territory} {since : List FleetChange}
  {room : String} {loser : ShredId}

/-- Given the floor, the run asks an identity to leave a room. -/
def Evicts (task : TaskId) (agenda : Agenda) (territory : Territory)
    (room : String) (loser : ShredId) (stage : Resolving) : Prop :=
  stage.evicting? = none ∧
    ∃ next, (stage.step task agenda territory).move = .go next ∧
      next.evicting? = some (room, loser)

theorem Evicts.eq_nextLoser
    (evicts : stage.Evicts task agenda territory room loser) :
    ∃ finished rest current losers,
      stage = .nextLoser finished rest current (loser :: losers) ∧
        current.room = room := by
  obtain ⟨idle, next, moved, evicting⟩ := evicts
  have moves := Moves.of_step moved
  generalize (stage.step task agenda territory).territory = after at moves
  cases moves with
  | evict failure answer =>
      simp only [evicting?, Option.some.injEq, Prod.mk.injEq] at evicting
      obtain ⟨rfl, rfl⟩ := evicting
      exact ⟨_, _, _, _, rfl, rfl⟩
  | queue | planAtOnce | planInTurn | skipRoom | enterRoom | finishRoom
  | skipLoser | left | failed => simp [evicting?, plan] at evicting

/-- What a run knows of the planned identities, whatever others do.  Those
that it has not removed itself are where the changes of others have brought
them. -/
structure Carries (planned : Fleet) (since : List FleetChange)
    (stage : Resolving) (territory : Territory) : Prop where
  isPlanned : stage.IsPlanned
  follows : stage.Follows planned.contestedRooms
  seen : ∀ room, ∀ shred ∈ planned.seenBy room,
    ¬HasLeft stage.records room shred →
      (shred ∈ territory.fleet.seenBy room ↔
        FleetChange.Persists since shred room)

namespace Carries

theorem begin (planned : Territory) :
    Carries planned.fleet [] (plan planned) planned where
  isPlanned := trivial
  follows := ⟨[], rfl, .nil⟩
  seen := fun _ _ seen _ => iff_of_true seen trivial

theorem change {planned : Fleet} (sound : territory.fleet.Sound)
    (carries : Carries planned since stage territory)
    (change : FleetChange) :
    Carries planned (since ++ [change]) stage
      (territory.modifyFleet change.apply) where
  isPlanned := carries.isPlanned
  follows := carries.follows
  seen := by
    intro room shred here stays
    have before := propext (carries.seen room shred here stays)
    apply (FleetChange.mem_seenBy_apply sound change shred room).trans
    rw [before, FleetChange.persists_append]

theorem step (plannedSound : planned.Sound)
    (registered : planned.fleet.OnlyRegistered) (sound : territory.Sound)
    (sameNumber : territory.fleet.registered = planned.fleet.registered)
    (carries : Carries planned.fleet since stage territory)
    (moves : Moves task agenda territory stage next after) :
    Carries planned.fleet since next after := by
  have follows := moves.follows carries.isPlanned carries.follows
    (by
      intro entry member shred here
      have contenders :=
        (Fleet.mem_contestedRooms plannedSound.fleet).mp member
      have below := registered entry.1 shred (contenders.1 ▸ here)
      rw [← sameNumber, ← sound.connected] at below
      simpa using below)
    (by
      intro entry member empty
      have several :=
        ((Fleet.mem_contestedRooms plannedSound.fleet).mp member).2
      simp [empty] at several)
  refine ⟨follows.1, follows.2, fun room shred here stays => ?_⟩
  rcases moves.hasLeft with ⟨loser, place, fleet, noted⟩ | ⟨fleet, noted⟩
  · obtain ⟨stayed, other⟩ := not_or.mp ((not_congr (noted _ _)).mp stays)
    rw [fleet, ← carries.seen room shred here stayed]
    refine (FleetChange.mem_seenBy_apply sound.fleet (.left loser place)
      shred room).trans (and_iff_left ?_)
    exact fun same => other same.symm
  · rw [fleet]
    exact carries.seen room shred here ((not_congr (noted _ _)).mp stays)

theorem of_run (plannedSound : planned.Sound)
    (registered : planned.fleet.OnlyRegistered)
    (run : Run task (plan planned) planned since stage territory) :
    Carries planned.fleet since stage territory := by
  induction run with
  | start => exact .begin planned
  | settings gateway lock _ _ induction =>
      exact ⟨induction.isPlanned, induction.follows, induction.seen⟩
  | change change run induction =>
      exact induction.change (run.sound plannedSound).fleet change
  | step agenda run moved induction =>
      exact induction.step plannedSound registered (run.sound plannedSound)
        run.registered (.of_step moved)

theorem exists_keeper {planned : Fleet} (sound : planned.Sound)
    (carries : Carries planned since stage territory)
    (evicts : stage.Evicts task agenda territory room loser) :
    ∃ keeper ∈ planned.seenBy room, loser ∈ planned.seenBy room ∧
      keeper < loser ∧ (planned.seenBy room).head? = some keeper ∧
      ¬HasLeft stage.records room keeper ∧
      ¬HasLeft stage.records room loser := by
  obtain ⟨finished, rest, current, losers, rfl, rfl⟩ := evicts.eq_nextLoser
  obtain ⟨head, loserSees, below, loserStays⟩ :=
    Follows.contends sound carries.follows
  exact ⟨current.keeper, List.mem_of_head? head, loserSees, below, head,
    fun hasLeft => carries.follows.head?_ne_of_hasLeft sound hasLeft head,
    loserStays⟩

end Carries

/-- An eviction by a plan made earlier, told by the changes of others since
then. -/
structure AgedEviction (planned : Fleet) (since : List FleetChange)
    (room : String) (keeper loser : ShredId) (now : Fleet) : Prop where
  owner : planned.ownerOf room = some keeper
  contends : loser ∈ planned.seenBy room
  below : keeper < loser
  keeper_sees : keeper ∈ now.seenBy room ↔
    FleetChange.Persists since keeper room
  loser_sees : loser ∈ now.seenBy room ↔
    FleetChange.Persists since loser room
  canSpare_iff : now.CanSpare room loser ↔
    FleetChange.Persists since loser room ∧
      (FleetChange.Persists since keeper room ∨
        ∃ other ∈ now.seenBy room, other < loser ∧ other ≠ keeper)
  /-- The room is about to be deserted. -/
  deserted_iff : now.seenBy room ≠ [] ∧ (now.left loser room).seenBy room = [] ↔
    FleetChange.Persists since loser room ∧
      ∀ other ∈ now.seenBy room, other = loser
  canSpare_of_kept : (∀ change ∈ since, ¬change.Withdraws keeper room ∧
      ¬change.Withdraws loser room) → now.CanSpare room loser

theorem Carries.agedEviction {planned : Fleet} (sound : planned.Sound)
    (registered : planned.OnlyRegistered)
    (carries : Carries planned since stage territory)
    (evicts : stage.Evicts task agenda territory room loser) :
    ∃ keeper,
      AgedEviction planned since room keeper loser territory.fleet := by
  obtain ⟨keeper, keeperSees, loserSees, below, head, keeperStays,
    loserStays⟩ := carries.exists_keeper sound evicts
  have keeperNow := carries.seen room keeper keeperSees keeperStays
  have loserNow := carries.seen room loser loserSees loserStays
  refine ⟨keeper, ?_, loserSees, below, keeperNow, loserNow, ?_, ?_, ?_⟩
  · rw [Fleet.ownerOf_eq_head? registered, head]
  · rw [← keeperNow, ← loserNow]
    constructor
    · intro holds
      obtain ⟨sees, other, otherSees, otherBelow⟩ := holds
      refine ⟨sees, ?_⟩
      by_cases same : other = keeper
      · exact .inl (same ▸ otherSees)
      · exact .inr ⟨other, otherSees, otherBelow, same⟩
    · intro holds
      obtain ⟨sees, keeperSees | ⟨other, otherSees, otherBelow, _⟩⟩ := holds
      · exact ⟨sees, keeper, keeperSees, below⟩
      · exact ⟨sees, other, otherSees, otherBelow⟩
  · rw [← loserNow, Fleet.seenBy_left, if_pos rfl, List.filter_eq_nil_iff]
    simp only [decide_eq_true_eq, not_not]
    constructor
    · intro holds
      obtain ⟨seen, onlyLoser⟩ := holds
      obtain ⟨other, otherSees⟩ := List.exists_mem_of_ne_nil _ seen
      exact ⟨onlyLoser other otherSees ▸ otherSees, onlyLoser⟩
    · intro holds
      obtain ⟨sees, onlyLoser⟩ := holds
      exact ⟨List.ne_nil_of_mem sees, onlyLoser⟩
  · intro kept
    have keeperKept := FleetChange.persists_of_not_withdraws
      fun change member => (kept change member).1
    have loserKept := FleetChange.persists_of_not_withdraws
      fun change member => (kept change member).2
    exact ⟨loserNow.mpr loserKept, keeper, keeperNow.mpr keeperKept, below⟩

/-- Whether a room can spare the identity that a run asks to leave it is
decided by what others have changed since the run made its plan. -/
theorem eviction_decided_by_changes_since_plan {start : Territory}
    (reachable : start.Reachable)
    (registered : start.fleet.OnlyRegistered)
    {changes : List FleetChange}
    (movers : ∀ change ∈ changes, change.shred < start.fleet.registered)
    (run : Run task .fresh start changes stage territory)
    (evicts : stage.Evicts task agenda territory room loser) :
    ∃ earlier since planned keeper, changes = earlier ++ since ∧
      Run task .fresh start earlier (plan planned) planned ∧
      Run task (plan planned) planned since stage territory ∧
      AgedEviction planned.fleet since room keeper loser
        territory.fleet := by
  have isPlanned : stage.IsPlanned := by
    obtain ⟨finished, rest, current, losers, rfl, _⟩ := evicts.eq_nextLoser
    trivial
  obtain ⟨earlier, since, planned, rfl, before, after⟩ :=
    run.planned isPlanned
  have plannedSound := before.sound reachable.sound
  have plannedRegistered := before.onlyRegistered reachable.sound registered
    fun change member => movers change (List.mem_append_left since member)
  have carries := Carries.of_run plannedSound plannedRegistered after
  obtain ⟨keeper, aged⟩ :=
    carries.agedEviction plannedSound.fleet plannedRegistered evicts
  exact ⟨earlier, since, planned, keeper, rfl, before, after, aged⟩

theorem crowdedLobby_keeper_goes : ∃ stage territory,
    Run 0 .fresh Territory.crowdedLobby [.left 0 "lobby"] stage territory ∧
      stage.Evicts 0 {} territory "lobby" 2 ∧
      territory.fleet =
        { registered := 3, visibility := [("lobby", [2])] } := by
  have planned : Run 0 .fresh Territory.crowdedLobby []
      (.nextRoom [] [("lobby", [0, 1, 2])]) _ :=
    .step {} .start (by decide +kernel)
  have entered : Run 0 .fresh Territory.crowdedLobby []
      (.nextLoser [] [] { room := "lobby", keeper := 0 } [1, 2]) _ :=
    .step {} planned (by decide +kernel)
  have leaving : Run 0 .fresh Territory.crowdedLobby []
      (.leaving [] [] { room := "lobby", keeper := 0 } [2] 1 none ⟨0, 0⟩) _ :=
    .step {} entered (by decide +kernel)
  have deserted : Run 0 .fresh Territory.crowdedLobby [.left 0 "lobby"] _ _ :=
    .change (.left 0 "lobby") leaving
  have left : Run 0 .fresh Territory.crowdedLobby [.left 0 "lobby"]
      (.nextLoser [] [] { room := "lobby", keeper := 0, left := [1] } [2]) _ :=
    .step {} deserted (by decide +kernel)
  exact ⟨_, _, left, ⟨rfl, _, rfl, rfl⟩, by decide +kernel⟩

theorem crowdedLobby_eviction_decided : ∃ stage territory planned since keeper,
    Run 0 .fresh Territory.crowdedLobby [.left 0 "lobby"] stage territory ∧
      Run 0 (plan planned) planned since stage territory ∧
      AgedEviction planned.fleet since "lobby" keeper 2 territory.fleet := by
  obtain ⟨stage, territory, run, evicts, _⟩ := crowdedLobby_keeper_goes
  obtain ⟨_, since, planned, keeper, _, _, after, aged⟩ :=
    eviction_decided_by_changes_since_plan Territory.crowdedLobby_reachable
      Territory.crowdedLobby_onlyRegistered (by decide +kernel) run evicts
  exact ⟨stage, territory, planned, since, keeper, run, after, aged⟩

/-- A run can ask the only identity that sees a room to leave it. -/
theorem resolution_deserts_lobby : ∃ start stage territory,
    start.Reachable ∧ start.fleet.OnlyRegistered ∧
      Run 0 .fresh start [.left 0 "lobby"] stage territory ∧
      stage.Evicts 0 {} territory "lobby" 2 ∧
      ¬territory.fleet.CanSpare "lobby" 2 ∧
      territory.fleet.ownership "lobby" = .owned 2 ∧
      (territory.fleet.left 2 "lobby").ownership "lobby" = .unassigned := by
  obtain ⟨stage, territory, run, evicts, fleet⟩ := crowdedLobby_keeper_goes
  refine ⟨_, stage, territory, Territory.crowdedLobby_reachable,
    Territory.crowdedLobby_onlyRegistered, run, evicts, ?_, ?_, ?_⟩
  · intro spare
    have stays := spare.seenBy_left_ne_nil
    rw [fleet] at stays
    exact stays (by decide +kernel)
  · rw [fleet]
    decide +kernel
  · rw [fleet]
    decide +kernel

end Resolving

end Switchboard
