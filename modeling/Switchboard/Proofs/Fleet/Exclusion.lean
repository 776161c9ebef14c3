import Switchboard.Proofs.Fleet.Convergence
import Switchboard.Proofs.Fleet.Sweeps

/-!
# Only the holder of the lock resolves clashes

Whoever works on a plan holds the lock, so between making the plan and the end
of the run, or its being given up, nobody else changes the fleet.  Each run is
therefore an undisturbed one, and what all of them do to the fleet is the sum
of the departures: a clash stays exactly as long as nobody has departed from
it.
-/

namespace Switchboard

namespace Fleet

variable {fleet : Fleet} {room : String} {loser : ShredId}

/-- The room is contested, and the identity is to leave it. -/
def Clashes (fleet : Fleet) (room : String) (loser : ShredId) : Prop :=
  ∃ keeper losers,
    (room, keeper :: losers) ∈ fleet.contestedRooms ∧ loser ∈ losers

theorem clashes_iff (sound : fleet.Sound) :
    fleet.Clashes room loser ↔ loser ∈ fleet.seenBy room ∧
      (fleet.seenBy room).head? ≠ some loser := by
  constructor
  · intro holds
    obtain ⟨keeper, losers, contested, member⟩ := holds
    have seen := ((mem_contestedRooms sound).mp contested).1
    have ascending := sound.seenBy_ascending room
    rw [← seen] at ascending ⊢
    have above : keeper < loser :=
      List.rel_of_pairwise_cons ascending member
    exact ⟨List.mem_cons_of_mem keeper member, by simpa using above.ne⟩
  · intro holds
    obtain ⟨member, notKeeper⟩ := holds
    cases seen : fleet.seenBy room with
    | nil => simp [seen] at member
    | cons keeper losers =>
        rw [seen] at member notKeeper
        have later : loser ∈ losers :=
          List.mem_of_ne_of_mem (by simpa using Ne.symm notKeeper) member
        refine ⟨keeper, losers, (mem_contestedRooms sound).mpr
          ⟨seen.symm, ?_⟩, later⟩
        exact Nat.succ_lt_succ (List.length_pos_of_mem later)

theorem contestedRooms_eq_nil_iff (sound : fleet.Sound) :
    fleet.contestedRooms = [] ↔ ∀ room loser, ¬fleet.Clashes room loser := by
  rw [List.eq_nil_iff_forall_not_mem]
  constructor
  · intro peaceful room loser clash
    obtain ⟨keeper, losers, contested, _⟩ := clash
    exact peaceful _ contested
  · intro none entry contested
    obtain ⟨room, contenders⟩ := entry
    have several := ((mem_contestedRooms sound).mp contested).2
    match contenders with
    | keeper :: loser :: losers =>
        exact none room loser
          ⟨keeper, loser :: losers, contested, List.mem_cons_self⟩

end Fleet

namespace Resolving

namespace Undisturbed

variable {before : Fleet} {stage : Resolving} {territory : Territory}
  {agenda : Agenda} {room : String} {loser : ShredId}

theorem of_unplanned (sound : territory.Sound) (unplanned : ¬stage.IsPlanned) :
    Undisturbed territory.fleet stage territory := by
  cases stage with
  | fresh => exact .begin sound
  | queued =>
      refine ⟨sound, rfl, trivial, fun other => ?_⟩
      simp [records, HasLeft]
  | nextRoom | nextLoser | leaving => exact absurd trivial unplanned

theorem settings (undisturbed : Undisturbed before stage territory)
    {after : Territory} (fleet : after.fleet = territory.fleet)
    (connected : after.gateway.connections.length =
      territory.gateway.connections.length) :
    Undisturbed before stage after where
  sound := ⟨fleet ▸ undisturbed.sound.fleet,
    fleet ▸ connected.trans undisturbed.sound.connected⟩
  registered := fleet ▸ undisturbed.registered
  follows := undisturbed.follows
  seen := fleet ▸ undisturbed.seen

theorem sees_departing (sound : before.Sound)
    (undisturbed : Undisturbed before stage territory)
    (departing : stage.departing? agenda = some (room, loser)) :
    loser ∈ territory.fleet.seenBy room := by
  cases stage with
  | leaving finished rest current losers leaver failure answer =>
      cases failure with
      | none =>
          obtain ⟨_, same⟩ := Option.ite_none_right_eq_some.mp departing
          cases same
          have follows : (nextLoser finished rest current
            (loser :: losers)).Follows before.contestedRooms :=
              undisturbed.follows
          obtain ⟨_, sees, _, stays⟩ := follows.contends sound
          rw [undisturbed.seen, List.mem_filter]
          exact ⟨sees, decide_eq_true stays⟩
      | some reason => cases departing
  | fresh | queued | nextRoom | nextLoser => cases departing

theorem head?_step {next : Resolving} {after : Territory} {task : TaskId}
    (sound : before.Sound) (registered : before.OnlyRegistered)
    (undisturbed : Undisturbed before stage territory)
    (moves : Moves task agenda territory stage next after) (room : String) :
    (after.fleet.seenBy room).head? =
      (territory.fleet.seenBy room).head? := by
  have later := undisturbed.step sound registered moves
  rw [← Fleet.ownerOf_eq_head? (later.onlyRegistered registered),
    ← Fleet.ownerOf_eq_head? (undisturbed.onlyRegistered registered),
    later.ownerOf_eq sound registered, undisturbed.ownerOf_eq sound registered]

end Undisturbed

end Resolving

/-- What departures have made of a fleet. -/
structure Thinned (start : Fleet) (departures : List Departure)
    (fleet : Fleet) : Prop where
  seen : ∀ room, fleet.seenBy room = (start.seenBy room).filter fun shred =>
    (room, shred) ∉ departures.map Departure.pair
  head : ∀ room, (fleet.seenBy room).head? = (start.seenBy room).head?
  once : (departures.map Departure.pair).Nodup

namespace Thinned

variable {start fleet : Fleet} {departures : List Departure} {room : String}
  {loser : ShredId}

theorem refl (fleet : Fleet) : Thinned fleet [] fleet where
  seen := by simp
  head := fun _ => rfl
  once := List.nodup_nil

theorem mem_seenBy (thinned : Thinned start departures fleet) :
    loser ∈ fleet.seenBy room ↔ loser ∈ start.seenBy room ∧
      (room, loser) ∉ departures.map Departure.pair := by
  rw [thinned.seen, List.mem_filter, decide_eq_true_eq]

theorem mem_pairs_concat {departure : Departure} {pair : String × ShredId} :
    pair ∈ (departures ++ [departure]).map Departure.pair ↔
      pair ∈ departures.map Departure.pair ∨ pair = departure.pair := by
  rw [List.map_append, List.mem_append, List.map_singleton,
    List.mem_singleton]

theorem leave (thinned : Thinned start departures fleet)
    (departure : Departure)
    (sees : departure.shred ∈ fleet.seenBy departure.room)
    (head : ∀ room,
      ((fleet.left departure.shred departure.room).seenBy room).head? =
        (fleet.seenBy room).head?) :
    Thinned start (departures ++ [departure])
      (fleet.left departure.shred departure.room) where
  seen := by
    intro room
    rw [Fleet.seenBy_left]
    by_cases same : room = departure.room
    · subst same
      rw [if_pos rfl, thinned.seen, List.filter_filter]
      refine List.filter_congr fun shred _ => ?_
      rw [← Bool.decide_and, decide_eq_decide, mem_pairs_concat, not_or,
        and_comm, Departure.pair, Prod.mk.injEq, eq_self, true_and]
    · rw [if_neg same, thinned.seen]
      refine List.filter_congr fun shred _ => ?_
      rw [decide_eq_decide, mem_pairs_concat, not_or, Departure.pair,
        Prod.mk.injEq, and_iff_left (mt And.left same)]
  head := fun room => (head room).trans (thinned.head room)
  once := by
    rw [List.map_append, List.map_singleton, List.nodup_append_comm]
    exact List.nodup_cons.mpr ⟨(thinned.mem_seenBy.mp sees).2, thinned.once⟩

theorem clashes_iff (thinned : Thinned start departures fleet)
    (startSound : start.Sound) (sound : fleet.Sound) :
    fleet.Clashes room loser ↔ start.Clashes room loser ∧
      (room, loser) ∉ departures.map Departure.pair := by
  rw [Fleet.clashes_iff sound, Fleet.clashes_iff startSound,
    thinned.mem_seenBy, thinned.head, and_right_comm]

end Thinned

namespace Sweeps

/-- What the runs that have ended have answered. -/
def reported (endings : List SweepEnd) : List (String × ShredId) :=
  departed (endings.flatMap SweepEnd.resolutions)

def Clean (ending : SweepEnd) : Prop :=
  ∀ resolution ∈ ending.resolutions, resolution.failed = []

/-- A run that works on its plan. -/
structure Underway (departures : List Departure) (endings : List SweepEnd)
    (territory : Territory) (task : TaskId) (stage : Resolving) : Prop where
  holder : territory.lock.holder = some task
  undisturbed : ∃ before : Fleet, before.Sound ∧ before.OnlyRegistered ∧
    Resolving.Undisturbed before stage territory
  /-- All that it has noted happened after all that has been reported. -/
  noted : (reported endings ++ departed stage.records).Sublist
    (departures.map Departure.pair)

/-- What holds of runs that take turns on a fleet that nobody else
changes. -/
structure Serial (start : Fleet) (departures : List Departure)
    (endings : List SweepEnd) (state : Sweeps) : Prop where
  sound : state.territory.Sound
  registered : state.territory.fleet.OnlyRegistered
  thinned : Thinned start departures state.territory.fleet
  underway : ∀ task stage, state.stage? task = some stage →
    stage.IsPlanned → Underway departures endings state.territory task stage
  truthful : (reported endings).Sublist (departures.map Departure.pair)
  settled : ∀ ending ∈ endings, Clean ending → ∀ room loser,
    start.Clashes room loser → (room, loser) ∈ departures.map Departure.pair

namespace Serial

variable {start : Fleet} {departures : List Departure}
  {endings : List SweepEnd} {state after : Sweeps} {task : TaskId}
  {stage next : Resolving} {departure : Option Departure}

theorem begin (sound : state.territory.Sound)
    (registered : state.territory.fleet.OnlyRegistered) (idle : state.Idle) :
    Serial state.territory.fleet [] [] state where
  sound := sound
  registered := registered
  thinned := .refl _
  underway := by
    intro task stage stands _
    obtain ⟨sweep, found, own⟩ := Option.bind_eq_some_iff.mp stands
    have ended := idle sweep (List.mem_of_getElem? found)
    cases ended.symm.trans own
  truthful := List.Sublist.refl _
  settled := by simp

theorem settle (serial : Serial start departures endings state)
    (fleet : after.territory.fleet = state.territory.fleet)
    (connected : after.territory.gateway.connections.length =
      state.territory.gateway.connections.length)
    (plans : ∀ task stage, after.stage? task = some stage → stage.IsPlanned →
      state.stage? task = some stage ∧
        after.territory.lock.holder = some task) :
    Serial start departures endings after where
  sound := ⟨fleet ▸ serial.sound.fleet,
    fleet ▸ connected.trans serial.sound.connected⟩
  registered := fleet ▸ serial.registered
  thinned := fleet ▸ serial.thinned
  underway := by
    intro task stage stands planned
    obtain ⟨stood, holder⟩ := plans task stage stands planned
    obtain ⟨_, ⟨before, sound, registered, undisturbed⟩, noted⟩ :=
      serial.underway task stage stood planned
    exact ⟨holder, ⟨before, sound, registered,
      undisturbed.settings fleet connected⟩, noted⟩
  truthful := serial.truthful
  settled := serial.settled

theorem undisturbed (serial : Serial start departures endings state)
    (stands : state.stage? task = some stage) :
    (∃ before : Fleet, before.Sound ∧ before.OnlyRegistered ∧
      Resolving.Undisturbed before stage state.territory) ∧
      (reported endings ++ departed stage.records).Sublist
        (departures.map Departure.pair) := by
  by_cases planned : stage.IsPlanned
  · have underway := serial.underway task stage stands planned
    exact ⟨underway.undisturbed, underway.noted⟩
  · refine ⟨⟨_, serial.sound.fleet, serial.registered,
      .of_unplanned serial.sound planned⟩, ?_⟩
    have nothing : stage.records = [] := by
      cases stage with
      | fresh | queued => rfl
      | nextRoom | nextLoser | leaving => exact absurd trivial planned
    rw [nothing, departed, List.flatMap_nil, List.append_nil]
    exact serial.truthful

theorem thins (serial : Serial start departures endings state)
    (stands : state.stage? task = some stage)
    (moved : (stage.step task state.agenda state.territory).move = .go next)
    (departs : departure =
      (stage.departing? state.agenda).map (Departure.of task)) :
    Thinned start (departures ++ departure.toList)
      (stage.step task state.agenda state.territory).territory.fleet := by
  obtain ⟨⟨before, sound, registered, undisturbed⟩, _⟩ :=
    serial.undisturbed stands
  have heads := undisturbed.head?_step sound registered (.of_step moved)
  have fleet := (Resolving.accountable moved).fleet
  subst departs
  cases departing : stage.departing? state.agenda with
  | none =>
      rw [departing] at fleet
      rw [fleet, Option.map_none, Option.toList_none, List.append_nil]
      exact serial.thinned
  | some pair =>
      rw [departing] at fleet
      rw [fleet] at heads ⊢
      exact serial.thinned.leave (.of task pair)
        (undisturbed.sees_departing sound departing) heads

/-- Where a run makes its plan or works on it, it alone does. -/
theorem acts (serial : Serial start departures endings state)
    (stands : state.stage? task = some stage)
    (moved : (stage.step task state.agenda state.territory).move = .go next)
    (planned : next.IsPlanned)
    (set : after.sweeps = (state.setStage task (some next)).sweeps)
    (territory : after.territory =
      (stage.step task state.agenda state.territory).territory)
    (departs : departure =
      (stage.departing? state.agenda).map (Departure.of task)) :
    Serial start (departures ++ departure.toList) endings after := by
  obtain ⟨⟨before, sound, registered, undisturbed⟩, noted⟩ :=
    serial.undisturbed stands
  have later := undisturbed.step sound registered (.of_step moved)
  have records := (Resolving.accountable moved).records
  have thinned := serial.thins stands moved departs
  have holder : (stage.step task state.agenda
      state.territory).territory.lock.holder = some task := by
    by_cases already : stage.IsPlanned
    · exact Resolving.holder_step
        (serial.underway task stage stands already).holder moved
    · exact Resolving.holder_of_plan already moved planned
  have pairs : (departures ++ departure.toList).map Departure.pair =
      departures.map Departure.pair ++
        (stage.departing? state.agenda).toList := by
    rw [departs, List.map_append]
    cases stage.departing? state.agenda <;> rfl
  have own : Underway (departures ++ departure.toList) endings
      after.territory task next := by
    rw [territory]
    refine ⟨holder, ⟨before, sound, registered, later⟩, ?_⟩
    rw [records, pairs, ← List.append_assoc]
    exact noted.append (List.Sublist.refl _)
  have grows : (departures.map Departure.pair).Sublist
      ((departures ++ departure.toList).map Departure.pair) :=
    (List.sublist_append_left _ _).map _
  refine ⟨territory ▸ later.sound, territory ▸ later.onlyRegistered registered,
    territory ▸ thinned, fun other otherStage otherStands otherPlanned => ?_,
    serial.truthful.trans grows, fun ending ended clean room loser clash =>
      grows.subset (serial.settled ending ended clean room loser clash)⟩
  rw [stage?_setStage (by simp [stands]) set] at otherStands
  split at otherStands
  · rename_i same
    subst same
    cases otherStands
    exact own
  · rename_i apart
    -- Another run with a plan would hold the lock as well.
    have held := Resolving.holder_step
      (serial.underway other otherStage otherStands otherPlanned).holder moved
    exact absurd (Option.some.inj (holder.symm.trans held)) apart

theorem moves (serial : Serial start departures endings state)
    (stands : state.stage? task = some stage)
    (moved : (stage.step task state.agenda state.territory).move = .go next)
    (set : after.sweeps = (state.setStage task (some next)).sweeps)
    (territory : after.territory =
      (stage.step task state.agenda state.territory).territory)
    (departs : departure =
      (stage.departing? state.agenda).map (Departure.of task)) :
    Serial start (departures ++ departure.toList) endings after := by
  by_cases planned : next.IsPlanned
  · exact serial.acts stands moved planned set territory departs
  · have moves := Resolving.Moves.of_step moved
    have unplanned : ¬stage.IsPlanned := mt moves.isPlanned planned
    have nobody : stage.departing? state.agenda = none :=
      Resolving.departing?_eq_none unplanned
    have fleet := (Resolving.accountable moved).fleet
    rw [nobody] at fleet
    rw [departs, nobody, Option.map_none, Option.toList_none, List.append_nil]
    refine serial.settle (territory ▸ fleet) ?_
      fun other otherStage otherStands otherPlanned => ?_
    · rw [territory, moves.gateway]
    · rw [stage?_setStage (by simp [stands]) set] at otherStands
      split at otherStands
      · cases otherStands
        exact absurd otherPlanned planned
      · refine ⟨otherStands, ?_⟩
        rw [territory]
        exact Resolving.holder_step (serial.underway other otherStage
          otherStands otherPlanned).holder moved

theorem givesUp (serial : Serial start departures endings state)
    (stands : state.stage? task = some stage)
    (set : after.sweeps = (state.setStage task none).sweeps)
    (territory : after.territory = { state.territory with
      lock := (state.territory.lock.withdraw task).2 }) :
    Serial start departures endings after := by
  refine serial.settle (by rw [territory]) (by rw [territory])
    fun other otherStage otherStands otherPlanned => ?_
  rw [stage?_setStage (by simp [stands]) set] at otherStands
  split at otherStands
  · cases otherStands
  · rename_i apart
    refine ⟨otherStands, ?_⟩
    rw [territory]
    exact Lock.holder_withdraw (serial.underway other otherStage otherStands
      otherPlanned).holder (Ne.symm apart)

/-- At the end of a run no other one works on a plan. -/
theorem ends (serial : Serial start departures endings state)
    (startSound : start.Sound) (ending : SweepEnd)
    (stands : state.stage? task = some (.nextRoom ending.resolutions []))
    (set : after.sweeps = (state.setStage task none).sweeps)
    (territory : after.territory = { state.territory with
      lock := state.territory.lock.release.2 }) :
    Serial start departures (endings ++ [ending]) after := by
  have underway := serial.underway task _ stands trivial
  obtain ⟨before, sound, _, undisturbed⟩ := underway.undisturbed
  have others : ∀ other stage, after.stage? other = some stage →
      ¬stage.IsPlanned := by
    intro other stage otherStands planned
    rw [stage?_setStage (by simp [stands]) set] at otherStands
    split at otherStands
    · cases otherStands
    · rename_i apart
      have held := (serial.underway other stage otherStands planned).holder
      exact apart (Option.some.inj (underway.holder.symm.trans held))
  have alone : Serial start departures endings after :=
    serial.settle (by rw [territory]) (by rw [territory])
      fun other stage otherStands planned =>
        absurd planned (others other stage otherStands)
  have reports : reported (endings ++ [ending]) =
      reported endings ++ departed ending.resolutions := by
    simp [reported, departed]
  refine { alone with underway := ?_, truthful := ?_, settled := ?_ }
  · exact fun other stage otherStands planned =>
      absurd planned (others other stage otherStands)
  · rw [reports]
    exact underway.noted
  · intro earlier member clean room loser clash
    rcases List.mem_append.mp member with before | here
    · exact serial.settled earlier before clean room loser clash
    · cases List.mem_singleton.mp here
      -- The run was undisturbed, so what is contested now is what failed.
      have contested := (Resolved.of_undisturbed sound
        undisturbed).contestedRooms_eq undisturbed.sound.fleet
      have peaceful : state.territory.fleet.contestedRooms = [] := by
        rw [contested, List.filterMap_eq_nil_iff]
        exact fun resolution listed => if_pos (clean resolution listed)
      have none := (Fleet.contestedRooms_eq_nil_iff
        serial.sound.fleet).mp peaceful room loser
      by_contra stays
      exact none ((serial.thinned.clashes_iff startSound
        serial.sound.fleet).mpr ⟨clash, stays⟩)

theorem change (serial : Serial start departures endings state)
    (startSound : start.Sound) (change : Change state after departure) :
    ∃ more, after.ended = state.ended ++ more ∧
      Serial start (departures ++ departure.toList) (endings ++ more)
        after := by
  cases change with
  | rests stages length territory ended deeds nobody =>
      subst nobody
      obtain ⟨gateway, connected, territory⟩ := territory
      refine ⟨[], by simp [ended], ?_⟩
      rw [Option.toList_none, List.append_nil, List.append_nil]
      refine serial.settle (by rw [territory]) (by rw [territory, connected])
        fun task stage stands planned => ?_
      rcases stages task with same | ⟨_, fresh⟩
      · have stood := same.symm.trans stands
        refine ⟨stood, ?_⟩
        rw [territory]
        exact (serial.underway task stage stood planned).holder
      · cases fresh.symm.trans stands
        exact planned.elim
  | moves task stage next stands moved set territory ended deeds departs =>
      refine ⟨[], by simp [ended], ?_⟩
      rw [List.append_nil]
      exact serial.moves stands moved set territory departs
  | ends task ending stands set territory ended deeds nobody =>
      subst nobody
      rw [Option.toList_none, List.append_nil]
      exact ⟨[ending], ended,
        serial.ends startSound ending stands set territory⟩
  | givesUp task stage stands givesUp set territory ended deeds nobody =>
      subst nobody
      refine ⟨[], by simp [ended], ?_⟩
      rw [Option.toList_none, List.append_nil, List.append_nil]
      exact serial.givesUp stands set territory

theorem planner_unique {one other : TaskId}
    (serial : Serial start departures endings state)
    (onePlans : state.Plans one) (otherPlans : state.Plans other) :
    one = other := by
  obtain ⟨oneStage, oneStands, onePlanned⟩ := onePlans
  obtain ⟨otherStage, otherStands, otherPlanned⟩ := otherPlans
  have oneHolds :=
    (serial.underway one oneStage oneStands onePlanned).holder
  have otherHolds :=
    (serial.underway other otherStage otherStands otherPlanned).holder
  exact Option.some.inj (oneHolds.symm.trans otherHolds)

end Serial

end Sweeps

end Switchboard
