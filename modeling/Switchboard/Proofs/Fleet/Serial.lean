import Switchboard.Proofs.Fleet.Exclusion

/-!
# Runs of clash resolution take turns

What a run of the machine as a whole does to the fleet, told by the departures
on the way: each of them happens once, is reported once at most, and takes
away one clash.  A run that is given up leaves behind what it has not resolved
itself.
-/

namespace Switchboard

namespace Sweeps

section Course

variable {start planned before after state : Sweeps} {task : TaskId}
  {episodes earlier since : List Episode} {departure : Departure}

theorem departures_append (earlier since : List Episode) :
    departures (earlier ++ since) = departures earlier ++ departures since :=
  List.filterMap_append

theorem departures_concat (episodes : List Episode) (episode : Episode) :
    departures (episodes ++ [episode]) =
      departures episodes ++ episode.departure?.toList := by
  rw [departures_append]
  rfl

theorem Plans.of_leaving (leaving : state.leaving? task ≠ none) :
    state.Plans task := by
  obtain ⟨leave, asked⟩ := Option.ne_none_iff_exists'.mp leaving
  obtain ⟨stage, stands, evicting⟩ := Option.bind_eq_some_iff.mp asked
  refine ⟨stage, stands, ?_⟩
  cases stage with
  | leaving => trivial
  | fresh | queued | nextRoom | nextLoser => cases evicting

theorem Change.plans (change : Change before after (some departure)) :
    before.Plans departure.task := by
  cases change with
  | rests _ _ _ _ _ nobody => cases nobody
  | ends _ _ _ _ _ _ _ nobody => cases nobody
  | givesUp _ _ _ _ _ _ _ _ nobody => cases nobody
  | moves task stage next stands moved _ _ _ _ departs =>
      obtain ⟨pair, departing, rfl⟩ := Option.map_eq_some_iff.mp departs.symm
      refine ⟨stage, stands, ?_⟩
      by_contra unplanned
      cases (Resolving.departing?_eq_none unplanned).symm.trans departing

theorem Change.recorded {departure : Option Departure}
    (change : Change before after departure) :
    after.deeds.filterMap Deed.leave? = before.deeds.filterMap Deed.leave? ++
      departure.toList.map fun departure =>
        (departure.task, departure.room) := by
  cases change with
  | rests _ _ _ _ deeds nobody => simp [deeds, nobody]
  | ends _ _ _ _ _ _ deeds nobody => simp [deeds, nobody]
  | givesUp _ _ _ _ _ _ _ deeds nobody => simp [deeds, nobody]
  | moves task stage next _ moved _ _ _ deeds departs =>
      have noted := (Resolving.accountable moved).deeds
      rw [deeds, List.filterMap_append, noted, departs]
      cases stage.departing? before.agenda <;> rfl

theorem Run.recorded (run : Run start episodes state) :
    state.deeds.filterMap Deed.leave? = start.deeds.filterMap Deed.leave? ++
      (departures episodes).map fun departure =>
        (departure.task, departure.room) := by
  induction run with
  | start => simp [departures]
  | next occurrence _ induction =>
      rw [(change_happen _ occurrence).recorded, induction, departures_concat,
        List.map_append, List.append_assoc]

theorem Run.serial {fleet : Fleet} {departed : List Departure}
    {endings : List SweepEnd} (sound : fleet.Sound)
    (serial : Serial fleet departed endings start)
    (run : Run start episodes state) :
    ∃ more, state.ended = start.ended ++ more ∧
      Serial fleet (departed ++ departures episodes) (endings ++ more)
        state := by
  induction run with
  | start => exact ⟨[], by simp, by simpa [departures] using serial⟩
  | next occurrence _ induction =>
      obtain ⟨more, ended, serial⟩ := induction
      obtain ⟨new, added, later⟩ :=
        serial.change sound (change_happen _ occurrence)
      refine ⟨more ++ new, by rw [added, ended, List.append_assoc], ?_⟩
      rw [departures_concat, ← List.append_assoc, ← List.append_assoc]
      exact later

/-- The run has made its plan; it may have ended since. -/
def HasPlanned (task : TaskId) (state : Sweeps) : Prop :=
  task < state.sweeps.length ∧
    ∀ stage, state.stage? task = some stage → stage.IsPlanned

theorem Plans.hasPlanned (plans : state.Plans task) :
    state.HasPlanned task := by
  obtain ⟨stage, stands, planned⟩ := plans
  obtain ⟨sweep, found, _⟩ := Option.bind_eq_some_iff.mp stands
  refine ⟨(List.getElem?_eq_some_iff.mp found).1, fun other same => ?_⟩
  cases stands.symm.trans same
  exact planned

theorem HasPlanned.plans (hasPlanned : state.HasPlanned task)
    (stands : state.stage? task ≠ none) : state.Plans task := by
  obtain ⟨stage, same⟩ := Option.ne_none_iff_exists'.mp stands
  exact ⟨stage, same, hasPlanned.2 stage same⟩

theorem HasPlanned.set {mover : TaskId} {stage : Option Resolving}
    (hasPlanned : before.HasPlanned task)
    (stood : before.stage? mover ≠ none)
    (set : after.sweeps = (before.setStage mover stage).sweeps)
    (keeps : mover = task → ∀ next ∈ stage, next.IsPlanned) :
    after.HasPlanned task ∧ (after.Plans task → before.Plans task) := by
  have now := stage?_setStage stood set task
  refine ⟨⟨length_setStage set ▸ hasPlanned.1, fun next stands => ?_⟩,
    fun plans => hasPlanned.plans ?_⟩
  · rw [stands] at now
    split at now
    · rename_i own
      exact keeps own next now.symm
    · exact hasPlanned.2 next now.symm
  · obtain ⟨next, stands, _⟩ := plans
    rw [stands] at now
    split at now
    · rename_i own
      exact own ▸ stood
    · simp [← now]

theorem HasPlanned.change {departure : Option Departure}
    (hasPlanned : before.HasPlanned task)
    (change : Change before after departure) :
    after.HasPlanned task ∧ (after.Plans task → before.Plans task) := by
  cases change with
  | rests stages length =>
      have same : after.stage? task = before.stage? task :=
        (stages task).resolve_right fun fresh =>
          absurd hasPlanned.1 (Nat.not_lt_of_le fresh.1)
      refine ⟨⟨hasPlanned.1.trans_le length, fun stage stands => ?_⟩,
        fun plans => ?_⟩
      · exact hasPlanned.2 stage (same.symm.trans stands)
      · obtain ⟨stage, stands, _⟩ := plans
        exact hasPlanned.plans (by rw [← same, stands]; simp)
  | moves mover stage next stands moved set =>
      refine hasPlanned.set (by simp [stands]) set fun own further same => ?_
      subst own
      cases same
      exact (Resolving.Moves.of_step moved).isPlanned
        (hasPlanned.2 stage stands)
  | ends mover ending stands set =>
      exact hasPlanned.set (by simp [stands]) set fun _ _ none => by cases none
  | givesUp mover stage stands _ set =>
      exact hasPlanned.set (by simp [stands]) set fun _ _ none => by cases none

/-- As long as a run works on its plan, nobody departs but at its
instance. -/
theorem Run.departures_of_planner {fleet : Fleet} {departed : List Departure}
    {endings : List SweepEnd} (sound : fleet.Sound)
    (serial : Serial fleet departed endings planned)
    (hasPlanned : planned.HasPlanned task) (run : Run planned since state) :
    state.HasPlanned task ∧ (state.Plans task →
      ∀ departure ∈ departures since, departure.task = task) := by
  -- A run that still works on its plan has worked on it before every step,
  -- and so was the only one that could let anybody depart.
  induction run with
  | start => exact ⟨hasPlanned, fun _ _ member => by cases member⟩
  | @next episodes middle occurrence run induction =>
      obtain ⟨before, owned⟩ := induction
      have change := change_happen middle occurrence
      obtain ⟨after, back⟩ := before.change change
      refine ⟨after, fun plans departure member => ?_⟩
      rw [departures_concat] at member
      rcases List.mem_append.mp member with earlier | here
      · exact owned (back plans) departure earlier
      · obtain ⟨more, _, serial⟩ := Run.serial sound serial run
        rw [Option.mem_toList.mp here] at change
        exact serial.planner_unique change.plans (back plans)

theorem GivesUp.stands (givesUp : state.GivesUp task) :
    state.stage? task ≠ none := by
  obtain ⟨_, sweep, found, _, stands⟩ := givesUp
  rwa [stage?_eq found]

theorem GivesUp.happen (givesUp : state.GivesUp task) :
    (state.happen .work).territory.fleet = state.territory.fleet ∧
      (state.happen .work).stage? task = none := by
  have stood := givesUp.stands
  obtain ⟨floor, sweep, found, cancelled, stands⟩ := givesUp
  obtain ⟨stage, own⟩ := Option.ne_none_iff_exists'.mp stands
  have given : state.happen .work = state.abandon task := by
    have step : Machine.step state = some (state.work task) :=
      Machine.step_of_floor floor
    rw [Sweeps.happen, step, Option.getD_some, work, found]
    simp [own, cancelled]
  rw [given]
  exact ⟨rfl, (stage?_setStage stood rfl task).trans (if_pos rfl)⟩

end Course

/-- What is said of all that a number of runs of clash resolution do. -/
structure Serialised (start : Sweeps) (episodes : List Episode)
    (state : Sweeps) : Prop where
  /-- At most one leave is in progress. -/
  alone : ∀ one other, state.leaving? one ≠ none →
    state.leaving? other ≠ none → one = other
  /-- The departures are the leaves that the gateway knows to have
  succeeded. -/
  recorded : state.deeds.filterMap Deed.leave? =
    start.deeds.filterMap Deed.leave? ++
      (departures episodes).map fun departure =>
        (departure.task, departure.room)
  /-- Nobody leaves a room twice. -/
  once : ((departures episodes).map Departure.pair).Nodup
  /-- No departure is reported by two runs, or twice by one, and what is
  reported has happened. -/
  ended : ∃ endings, state.ended = start.ended ++ endings ∧
    (reported endings).Nodup ∧
    (reported endings).Sublist ((departures episodes).map Departure.pair) ∧
    ∀ ending ∈ endings, Clean ending →
      state.territory.fleet.contestedRooms = []
  ownerOf : ∀ room, state.territory.fleet.ownerOf room =
    start.territory.fleet.ownerOf room
  clashes_iff : ∀ room loser, state.territory.fleet.Clashes room loser ↔
    start.territory.fleet.Clashes room loser ∧
      (room, loser) ∉ (departures episodes).map Departure.pair
  /-- A run that is given up leaves the fleet to others as it is. -/
  givenUp : ∀ task, state.GivesUp task →
    (state.happen .work).stage? task = none ∧
      (state.happen .work).territory.fleet = state.territory.fleet
  /-- All clashes of its plan that it has not resolved itself are still
  there. -/
  unresolved : ∀ task, state.GivesUp task → ∀ earlier planned since,
    Run start earlier planned → Run planned since state →
    planned.Plans task → ∀ room loser,
    planned.territory.fleet.Clashes room loser →
    { task, room, shred := loser } ∉ departures since →
    (state.happen .work).territory.fleet.Clashes room loser

/-- A clash that a run has planned to resolve is there as long as the run has
not resolved it itself. -/
theorem Run.clash_stays {start planned state : Sweeps}
    {earlier since : List Episode} {task : TaskId} {room : String}
    {loser : ShredId} (sound : start.territory.fleet.Sound)
    (begun : Serial start.territory.fleet [] [] start)
    (before : Run start earlier planned) (run : Run planned since state)
    (hasPlanned : planned.Plans task) (stands : state.stage? task ≠ none)
    (clash : planned.territory.fleet.Clashes room loser)
    (unresolved : { task, room, shred := loser } ∉ departures since) :
    state.territory.fleet.Clashes room loser := by
  obtain ⟨_, _, plannedSerial⟩ := before.serial sound begun
  obtain ⟨_, _, serial⟩ := run.serial sound plannedSerial
  obtain ⟨later, owned⟩ :=
    run.departures_of_planner sound plannedSerial hasPlanned.hasPlanned
  obtain ⟨clashed, stayed⟩ := (plannedSerial.thinned.clashes_iff sound
    plannedSerial.sound.fleet).mp clash
  refine (serial.thinned.clashes_iff sound serial.sound.fleet).mpr
    ⟨clashed, fun gone => ?_⟩
  rw [List.map_append, List.mem_append] at gone
  obtain ⟨departure, member, same⟩ :=
    List.mem_map.mp (gone.resolve_left stayed)
  have own := owned (later.plans stands) departure member
  obtain ⟨mover, place, shred⟩ := departure
  cases own
  cases same
  exact unresolved member

/-- Runs of clash resolution take turns, however many there are, whenever they
are started or cancelled, and however long leaves take. -/
theorem runs_are_serialised {start state : Sweeps} {episodes : List Episode}
    (reachable : start.territory.Reachable)
    (registered : start.territory.fleet.OnlyRegistered) (idle : start.Idle)
    (run : Run start episodes state) : Serialised start episodes state := by
  have startSound := reachable.sound
  have begun := Serial.begin startSound registered idle
  obtain ⟨endings, ended, serial⟩ := run.serial startSound.fleet begun
  have clashes : ∀ room loser, state.territory.fleet.Clashes room loser ↔
      start.territory.fleet.Clashes room loser ∧
        (room, loser) ∉ (departures episodes).map Departure.pair :=
    fun _ _ => serial.thinned.clashes_iff startSound.fleet serial.sound.fleet
  refine
    { alone := ?_, recorded := run.recorded, once := serial.thinned.once,
      ended := ⟨endings, ended, ?_, serial.truthful, ?_⟩, ownerOf := ?_,
      clashes_iff := clashes, givenUp := ?_, unresolved := ?_ }
  · exact fun one other oneLeaves otherLeaves =>
      serial.planner_unique (.of_leaving oneLeaves) (.of_leaving otherLeaves)
  · exact serial.thinned.once.sublist serial.truthful
  · intro ending member clean
    refine (Fleet.contestedRooms_eq_nil_iff serial.sound.fleet).mpr
      fun room loser clash => ?_
    obtain ⟨clashed, stays⟩ := (clashes room loser).mp clash
    exact stays (serial.settled ending member clean room loser clashed)
  · intro room
    rw [Fleet.ownerOf_eq_head? serial.registered,
      Fleet.ownerOf_eq_head? registered, serial.thinned.head]
  · exact fun task givesUp => givesUp.happen.symm
  · intro task givesUp earlier planned since before run plans room loser clash
      unresolved
    rw [givesUp.happen.1]
    exact Run.clash_stays startSound.fleet begun before run plans givesUp.stands
      clash unresolved

/-- Three identities see one room, and no run is under way. -/
def lobbySweeps : Sweeps := { territory := Territory.crowdedLobby }

/-- Two runs are started, and the first makes its plan.  The last identity
takes long to leave. -/
def patrolPlans : List Occurrence :=
  [.connection 2 ({ · with leaveDelay := 5 }), .start "patrol",
    .start "command", .work, .work]

/-- One identity leaves.  While the other is leaving the run is cancelled, and
it has just got the floor. -/
def patrolIsCancelled : List Occurrence :=
  List.replicate 7 .work ++ [.cancel 0, .work, .work]

/-- The other run makes its plan and carries it out. -/
def commandFinishes : List Occurrence :=
  List.replicate 8 .work ++ [.pass 5] ++ List.replicate 6 .work

def patrolledLobby : Sweeps := lobbySweeps.happenAll patrolPlans

def desertedLobby : Sweeps := patrolledLobby.happenAll patrolIsCancelled

def clearedLobby : Sweeps := desertedLobby.happenAll commandFinishes

theorem lobbySweeps_are_serialised :
    lobbySweeps.territory.Reachable ∧
      lobbySweeps.territory.fleet.OnlyRegistered ∧ lobbySweeps.Idle ∧
      ∃ earlier since later, Run lobbySweeps earlier patrolledLobby ∧
        Run patrolledLobby since desertedLobby ∧
        Run desertedLobby later clearedLobby ∧
        departures since = [{ task := 0, room := "lobby", shred := 1 }] ∧
        departures later = [{ task := 1, room := "lobby", shred := 2 }] ∧
        desertedLobby.GivesUp 0 ∧
        (desertedLobby.happen .work).territory.fleet.Clashes "lobby" 2 ∧
        clearedLobby.territory.fleet.contestedRooms = [] := by
  have reachable : lobbySweeps.territory.Reachable :=
    Territory.crowdedLobby_reachable
  have registered : lobbySweeps.territory.fleet.OnlyRegistered :=
    Territory.crowdedLobby_onlyRegistered
  have idle : lobbySweeps.Idle := by decide +kernel
  have plans : Run lobbySweeps _ patrolledLobby :=
    .of_occurrences patrolPlans _
  have cancelled : Run patrolledLobby _ desertedLobby :=
    .of_occurrences patrolIsCancelled _
  have finishes : Run desertedLobby _ clearedLobby :=
    .of_occurrences commandFinishes _
  have givesUp : desertedLobby.GivesUp 0 := by decide +kernel
  have planned : patrolledLobby.stage? 0 =
      some (.nextRoom [] [("lobby", [0, 1, 2])]) := by decide +kernel
  have left : departures (patrolledLobby.history patrolIsCancelled) =
      [{ task := 0, room := "lobby", shred := 1 }] := by decide +kernel
  have answered : clearedLobby.ended =
      [⟨5, "command", [{ room := "lobby", keeper := 0, left := [2] }]⟩] := by
    decide +kernel
  have contested : patrolledLobby.territory.fleet.contestedRooms =
      [("lobby", [0, 1, 2])] := by decide +kernel
  have given := runs_are_serialised reachable registered idle
    (plans.trans cancelled)
  have cleared := runs_are_serialised reachable registered idle
    ((plans.trans cancelled).trans finishes)
  refine ⟨reachable, registered, idle, _, _, _, plans, cancelled, finishes,
    left, by decide +kernel, givesUp, ?_, ?_⟩
  · refine given.unresolved 0 givesUp _ _ _ plans cancelled
      ⟨_, planned, trivial⟩ "lobby" 2 ⟨0, [1, 2], ?_, by simp⟩ ?_
    · exact contested ▸ List.mem_singleton_self _
    · rw [left]
      decide
  · obtain ⟨endings, ended, _, _, peaceful⟩ := cleared.ended
    have endings_eq : endings = clearedLobby.ended := ended.symm
    rw [answered] at endings_eq
    subst endings_eq
    exact peaceful _ (List.mem_singleton_self _) (by simp [Clean])

end Sweeps

end Switchboard
