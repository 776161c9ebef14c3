import Switchboard.Proofs.Fleet.Territory

/-!
# Runs of clash resolution

A run takes its own small steps; between them the fleet may change and the
settings of the gateway and the lock may become anything.  `Run` lists the
changes of the fleet that others made, so a run without interference is one
with the empty list.  Whatever others do, a run works through the rooms that
were contested when it made its plan, and accounts for every contender but
the lowest.
-/

namespace Switchboard

namespace Resolution

/-- The identities tried so far have left or failed to, and both lists keep
their order. -/
structure Accounts (resolution : Resolution) (tried : List ShredId) :
    Prop where
  left : resolution.left.Sublist tried
  failed : (resolution.failed.map Prod.fst).Sublist tried
  all : (resolution.left ++ resolution.failed.map Prod.fst).Perm tried

namespace Accounts

variable {resolution : Resolution} {tried : List ShredId}

theorem nil (room : String) (keeper : ShredId) :
    Accounts { room, keeper } [] :=
  ⟨List.Sublist.refl _, List.Sublist.refl _, List.Perm.refl _⟩

theorem leave (accounts : resolution.Accounts tried) (loser : ShredId) :
    Accounts { resolution with left := resolution.left ++ [loser] }
      (tried ++ [loser]) where
  left := accounts.left.append (List.Sublist.refl [loser])
  failed := accounts.failed.trans (List.sublist_append_left tried [loser])
  all := by
    have moved :
        (resolution.left ++ [loser] ++ resolution.failed.map Prod.fst).Perm
          (resolution.left ++ resolution.failed.map Prod.fst ++ [loser]) := by
      simp only [List.append_assoc]
      exact List.perm_append_comm.append_left resolution.left
    exact moved.trans (accounts.all.append_right [loser])

theorem fail (accounts : resolution.Accounts tried) (loser : ShredId)
    (reason : String) :
    Accounts
      { resolution with failed := resolution.failed ++ [(loser, reason)] }
      (tried ++ [loser]) where
  left := accounts.left.trans (List.sublist_append_left tried [loser])
  failed := by
    rw [List.map_append]
    exact accounts.failed.append (List.Sublist.refl [loser])
  all := by
    rw [List.map_append, ← List.append_assoc]
    exact accounts.all.append_right [loser]

end Accounts

/-- The entry accounts for a planned room as a whole. -/
def Settles (resolution : Resolution)
    (planned : String × List ShredId) : Prop :=
  resolution.room = planned.1 ∧
    ∃ losers, planned.2 = resolution.keeper :: losers ∧
      resolution.Accounts losers

theorem exists_planned {resolutions : List Resolution}
    {plan : List (String × List ShredId)}
    (settled : List.Forall₂ Settles resolutions plan)
    {resolution : Resolution} (member : resolution ∈ resolutions) :
    ∃ planned ∈ plan, resolution.Settles planned := by
  induction settled with
  | nil => cases member
  | @cons first planned _ rest settles _ induction =>
      rcases List.mem_cons.mp member with here | later
      · exact ⟨planned, List.mem_cons_self, here ▸ settles⟩
      · obtain ⟨other, otherMember, otherSettles⟩ := induction later
        exact ⟨other, List.mem_cons_of_mem planned otherMember, otherSettles⟩

theorem rooms_of_settled {resolutions : List Resolution}
    {plan : List (String × List ShredId)}
    (settled : List.Forall₂ Settles resolutions plan) :
    resolutions.map Resolution.room = plan.map Prod.fst := by
  induction settled with
  | nil => rfl
  | cons settles _ induction => simp [settles.1, induction]

end Resolution

/-- Somebody has left a room, by these records. -/
def HasLeft (records : List Resolution) (room : String)
    (shred : ShredId) : Prop :=
  ∃ record ∈ records, record.room = room ∧ shred ∈ record.left

instance (records : List Resolution) (room : String) (shred : ShredId) :
    Decidable (HasLeft records room shred) :=
  inferInstanceAs (Decidable (∃ record ∈ records, _ ∧ _))

namespace Resolving

/-- The small steps of a run that lead on.  `Resolving.step` takes no others;
see `Moves.of_step`. -/
inductive Moves (task : TaskId) (agenda : Agenda) (territory : Territory) :
    Resolving → Resolving → Territory → Prop where
  | queue (lock : Lock) :
      Moves task agenda territory .fresh .queued { territory with lock }
  | planAtOnce (lock : Lock) :
      Moves task agenda territory .fresh (plan territory)
        { territory with lock }
  | planInTurn : Moves task agenda territory .queued (plan territory) territory
  | skipRoom {finished rest} (room : String) :
      Moves task agenda territory (.nextRoom finished ((room, []) :: rest))
        (.nextRoom finished rest) territory
  | enterRoom {finished rest} (room : String) (keeper : ShredId)
      (losers : List ShredId) :
      Moves task agenda territory
        (.nextRoom finished ((room, keeper :: losers) :: rest))
        (.nextLoser finished rest { room, keeper } losers) territory
  | finishRoom {finished rest current} :
      Moves task agenda territory (.nextLoser finished rest current [])
        (.nextRoom (finished ++ [current]) rest) territory
  | skipLoser {finished rest current loser losers} :
      territory.gateway.connections[loser]? = none →
      Moves task agenda territory
        (.nextLoser finished rest current (loser :: losers))
        (.nextLoser finished rest current losers) territory
  | evict {finished rest current loser losers} (failure : Option String)
      (answer : Alarm) :
      Moves task agenda territory
        (.nextLoser finished rest current (loser :: losers))
        (.leaving finished rest current losers loser failure answer) territory
  | left {finished rest current loser losers answer} :
      Moves task agenda territory
        (.leaving finished rest current losers loser none answer)
        (.nextLoser finished rest
          { current with left := current.left ++ [loser] } losers)
        { territory with fleet := territory.fleet.left loser current.room }
  | failed {finished rest current loser losers answer} (reason : String) :
      Moves task agenda territory
        (.leaving finished rest current losers loser (some reason) answer)
        (.nextLoser finished rest
          { current with failed := current.failed ++ [(loser, reason)] }
          losers) territory

theorem Moves.of_step {task : TaskId} {agenda : Agenda}
    {territory : Territory} {stage next : Resolving}
    (moved : (stage.step task agenda territory).move = .go next) :
    Moves task agenda territory stage next
      (stage.step task agenda territory).territory := by
  cases stage with
  | fresh =>
      simp only [step, ResolveMove.go.injEq] at moved ⊢
      subst next
      split
      · exact .planAtOnce _
      · exact .queue _
  | queued =>
      simp only [step] at moved ⊢
      split at moved
      · cases moved
        exact .planInTurn
      · cases moved
  | nextRoom finished rest =>
      match rest with
      | [] => simp [step] at moved
      | (room, []) :: rest =>
          simp only [step, ResolveMove.go.injEq] at moved ⊢
          subst next
          exact .skipRoom room
      | (room, keeper :: losers) :: rest =>
          simp only [step, ResolveMove.go.injEq] at moved ⊢
          subst next
          exact .enterRoom room keeper losers
  | nextLoser finished rest current losers =>
      cases losers with
      | nil =>
          simp only [step, ResolveMove.go.injEq] at moved ⊢
          subst next
          exact .finishRoom
      | cons loser losers =>
          cases found : territory.gateway.connections[loser]? with
          | none =>
              simp only [step, found, ResolveMove.go.injEq] at moved ⊢
              subst next
              exact .skipLoser found
          | some connection =>
              simp only [step, found, ResolveMove.go.injEq] at moved ⊢
              subst next
              exact .evict _ _
  | leaving finished rest current losers loser failure answer =>
      simp only [step] at moved ⊢
      split at moved
      · rename_i due
        rw [if_pos due]
        cases failure with
        | none =>
            simp only [settleLeave, ResolveMove.go.injEq] at moved ⊢
            subst next
            exact .left
        | some reason =>
            simp only [settleLeave, ResolveMove.go.injEq] at moved ⊢
            subst next
            exact .failed reason
      · cases moved

theorem done_of_step {task : TaskId} {agenda : Agenda}
    {territory : Territory} {stage : Resolving}
    {resolutions : List Resolution}
    (ended : (stage.step task agenda territory).move = .done resolutions) :
    stage = .nextRoom resolutions [] ∧
      (stage.step task agenda territory).territory.fleet =
        territory.fleet := by
  cases stage with
  | fresh => simp [step] at ended
  | queued =>
      simp only [step] at ended
      split at ended <;> cases ended
  | nextRoom finished rest =>
      match rest with
      | [] =>
          simp only [step, ResolveMove.done.injEq] at ended ⊢
          exact ⟨by rw [ended], trivial⟩
      | (room, []) :: rest => simp [step] at ended
      | (room, keeper :: losers) :: rest => simp [step] at ended
  | nextLoser finished rest current losers =>
      cases losers with
      | nil => simp [step] at ended
      | cons loser losers =>
          simp only [step] at ended
          split at ended <;> cases ended
  | leaving finished rest current losers loser failure answer =>
      simp only [step] at ended
      split at ended <;> cases ended

/-- How a run can go from a stage on.  The list holds the changes of the
fleet that others made on the way. -/
inductive Run (task : TaskId) (first : Resolving) (start : Territory) :
    List FleetChange → Resolving → Territory → Prop where
  | start : Run task first start [] first start
  | settings {changes stage territory} (gateway : Gateway) (lock : Lock) :
      gateway.connections.length = territory.gateway.connections.length →
      Run task first start changes stage territory →
      Run task first start changes stage { territory with gateway, lock }
  | change {changes stage territory} (change : FleetChange) :
      Run task first start changes stage territory →
      Run task first start (changes ++ [change]) stage
        (territory.modifyFleet change.apply)
  | step {changes stage territory next} (agenda : Agenda) :
      Run task first start changes stage territory →
      (stage.step task agenda territory).move = .go next →
      Run task first start changes next
        (stage.step task agenda territory).territory

/-- A run with its answer and what it leaves behind. -/
inductive Ends (task : TaskId) (start : Territory)
    (changes : List FleetChange) :
    List Resolution → Territory → Prop where
  | intro {stage territory resolutions} (agenda : Agenda) :
      Run task .fresh start changes stage territory →
      (stage.step task agenda territory).move = .done resolutions →
      Ends task start changes resolutions
        (stage.step task agenda territory).territory

/-- The leave in progress: the room, and who is to leave it. -/
def evicting? : Resolving → Option (String × ShredId)
  | .leaving _ _ current _ loser _ _ => some (current.room, loser)
  | _ => none

/-- The account of the rooms done and of the room at work. -/
def records : Resolving → List Resolution
  | .nextRoom finished _ => finished
  | .nextLoser finished _ current _ => finished ++ [current]
  | .leaving finished _ current _ _ _ _ => finished ++ [current]
  | _ => []

/-- The stage is one at which the run of a plan can be. -/
def Follows (plan : List (String × List ShredId)) : Resolving → Prop
  | .fresh => True
  | .queued => True
  | .nextRoom finished rest =>
    ∃ done, plan = done ++ rest ∧
      List.Forall₂ Resolution.Settles finished done
  | .nextLoser finished rest current losers =>
    ∃ done tried,
      plan = done ++
        (current.room, current.keeper :: (tried ++ losers)) :: rest ∧
      List.Forall₂ Resolution.Settles finished done ∧ current.Accounts tried
  | .leaving finished rest current losers loser _ _ =>
    ∃ done tried,
      plan = done ++
        (current.room, current.keeper :: (tried ++ loser :: losers)) ::
          rest ∧
      List.Forall₂ Resolution.Settles finished done ∧ current.Accounts tried

/-- The run has made its plan. -/
def IsPlanned : Resolving → Prop
  | .fresh => False
  | .queued => False
  | _ => True

theorem Moves.follows {task : TaskId} {agenda : Agenda}
    {territory after : Territory} {stage next : Resolving}
    {plan : List (String × List ShredId)}
    (moves : Moves task agenda territory stage next after)
    (planned : stage.IsPlanned) (follows : stage.Follows plan)
    (connected : ∀ entry ∈ plan, ∀ shred ∈ entry.2,
      territory.gateway.connections[shred]? ≠ none)
    (filled : ∀ entry ∈ plan, entry.2 ≠ []) :
    next.IsPlanned ∧ next.Follows plan := by
  cases moves with
  | queue | planAtOnce | planInTurn => exact planned.elim
  | skipRoom room =>
      obtain ⟨done, equality, settled⟩ := follows
      exact absurd rfl (filled (room, []) (by simp [equality]))
  | enterRoom room keeper losers =>
      obtain ⟨done, equality, settled⟩ := follows
      exact ⟨trivial, done, [], equality, settled, .nil room keeper⟩
  | @finishRoom finished rest current =>
      obtain ⟨done, tried, equality, settled, accounts⟩ := follows
      rw [List.append_nil] at equality
      refine ⟨trivial, done ++ [(current.room, current.keeper :: tried)],
        by simp [equality], ?_⟩
      exact List.rel_append settled
        (.cons ⟨rfl, tried, rfl, accounts⟩ .nil)
  | skipLoser absent =>
      obtain ⟨done, tried, equality, settled, accounts⟩ := follows
      exact absurd absent (connected _
        (by rw [equality]; exact List.mem_append_right _ List.mem_cons_self)
        _ (by simp))
  | evict failure answer => exact ⟨trivial, follows⟩
  | @left finished rest current loser losers answer =>
      obtain ⟨done, tried, equality, settled, accounts⟩ := follows
      exact ⟨trivial, done, tried ++ [loser], by simp [equality], settled,
        accounts.leave loser⟩
  | @failed finished rest current loser losers answer reason =>
      obtain ⟨done, tried, equality, settled, accounts⟩ := follows
      exact ⟨trivial, done, tried ++ [loser], by simp [equality], settled,
        accounts.fail loser reason⟩

theorem Follows.record {plan : List (String × List ShredId)}
    {stage : Resolving} (follows : stage.Follows plan)
    {record : Resolution} (member : record ∈ stage.records) :
    ∃ tried rest, (record.room, record.keeper :: (tried ++ rest)) ∈ plan ∧
      record.Accounts tried := by
  have ofFinished : ∀ {finished done},
      List.Forall₂ Resolution.Settles finished done → record ∈ finished →
      (∀ entry ∈ done, entry ∈ plan) →
      ∃ tried rest, (record.room, record.keeper :: (tried ++ rest)) ∈ plan ∧
        record.Accounts tried := by
    intro finished done settled here inPlan
    obtain ⟨⟨room, contenders⟩, entryMember, sameRoom, losers, same,
      accounts⟩ :=
      Resolution.exists_planned settled here
    refine ⟨losers, [], ?_, accounts⟩
    rw [List.append_nil, sameRoom, ← same]
    exact inPlan _ entryMember
  cases stage with
  | fresh => simp [records] at member
  | queued => simp [records] at member
  | nextRoom finished rest =>
      obtain ⟨done, equality, settled⟩ := follows
      exact ofFinished settled member fun entry here => by
        simp [equality, here]
  | nextLoser finished rest current losers =>
      obtain ⟨done, tried, equality, settled, accounts⟩ := follows
      rcases List.mem_append.mp member with here | here
      · exact ofFinished settled here fun entry inDone => by
          simp [equality, inDone]
      · rw [List.mem_singleton.mp here]
        exact ⟨tried, losers, by simp [equality], accounts⟩
  | leaving finished rest current losers loser failure answer =>
      obtain ⟨done, tried, equality, settled, accounts⟩ := follows
      rcases List.mem_append.mp member with here | here
      · exact ofFinished settled here fun entry inDone => by
          simp [equality, inDone]
      · rw [List.mem_singleton.mp here]
        exact ⟨tried, loser :: losers, by simp [equality], accounts⟩

theorem Moves.hasLeft {task : TaskId} {agenda : Agenda}
    {territory after : Territory} {stage next : Resolving}
    (moves : Moves task agenda territory stage next after) :
    (∃ loser room, after.fleet = territory.fleet.left loser room ∧
      ∀ other shred, HasLeft next.records other shred ↔
        HasLeft stage.records other shred ∨
          (other = room ∧ shred = loser)) ∨
    (after.fleet = territory.fleet ∧
      ∀ other shred, HasLeft next.records other shred ↔
        HasLeft stage.records other shred) := by
  cases moves with
  | @left finished rest current loser losers answer =>
      refine .inl ⟨loser, current.room, rfl, fun other shred => ?_⟩
      simp only [HasLeft, records, List.mem_append, List.mem_singleton,
        or_and_right, exists_or, exists_eq_left, or_assoc, and_or_left]
      simp only [eq_comm]
  | failed reason =>
      refine .inr ⟨rfl, fun other shred => ?_⟩
      simp [HasLeft, records, or_and_right, exists_or]
  | enterRoom room keeper losers =>
      refine .inr ⟨rfl, fun other shred => ?_⟩
      simp [HasLeft, records, or_and_right, exists_or]
  | queue | planAtOnce | planInTurn | skipRoom | finishRoom | skipLoser
  | evict => exact .inr ⟨rfl, fun other shred => Iff.rfl⟩

namespace Follows

variable {fleet : Fleet} {stage : Resolving}

theorem records_sublist {plan : List (String × List ShredId)}
    (follows : stage.Follows plan) :
    (stage.records.map Resolution.room).Sublist (plan.map Prod.fst) := by
  cases stage with
  | fresh | queued => exact List.nil_sublist _
  | nextRoom finished rest =>
      obtain ⟨done, equality, settled⟩ := follows
      rw [equality, List.map_append, records,
        Resolution.rooms_of_settled settled]
      exact List.sublist_append_left _ _
  | nextLoser finished rest current losers
  | leaving finished rest current losers loser failure answer =>
      obtain ⟨done, tried, equality, settled, accounts⟩ := follows
      rw [equality, records, List.map_append, List.map_append,
        Resolution.rooms_of_settled settled]
      exact (List.Sublist.refl _).append
        (List.singleton_sublist.mpr List.mem_cons_self)

theorem hasLeft_iff (sound : fleet.Sound)
    (follows : stage.Follows fleet.contestedRooms) {record : Resolution}
    (member : record ∈ stage.records) {shred : ShredId} :
    HasLeft stage.records record.room shred ↔ shred ∈ record.left := by
  have nodup : (stage.records.map Resolution.room).Nodup := by
    apply List.Nodup.sublist follows.records_sublist
    exact List.pairwise_map.mpr
      ((Fleet.contestedRooms_ascending sound).imp fun below => below.ne)
  constructor
  · intro holds
    obtain ⟨other, otherMember, sameRoom, left⟩ := holds
    have same : other = record :=
      List.inj_on_of_nodup_map nodup otherMember member sameRoom
    exact same ▸ left
  · exact fun left => ⟨record, member, rfl, left⟩

theorem contends (sound : fleet.Sound) {finished : List Resolution}
    {rest : List (String × List ShredId)} {current : Resolution}
    {loser : ShredId} {losers : List ShredId}
    (follows : (nextLoser finished rest current (loser :: losers)).Follows
      fleet.contestedRooms) :
    (fleet.seenBy current.room).head? = some current.keeper ∧
      loser ∈ fleet.seenBy current.room ∧ current.keeper < loser ∧
        ¬HasLeft (finished ++ [current]) current.room loser := by
  have recorded : current ∈
      (nextLoser finished rest current (loser :: losers)).records :=
    List.mem_append_right finished (List.mem_singleton_self current)
  have noted : HasLeft (finished ++ [current]) current.room loser ↔
      loser ∈ current.left := follows.hasLeft_iff sound recorded
  obtain ⟨done, tried, equality, settled, accounts⟩ := follows
  have planned : (current.room, current.keeper :: (tried ++ loser :: losers)) ∈
      fleet.contestedRooms := by simp [equality]
  have seen := ((Fleet.mem_contestedRooms sound).mp planned).1
  have ascending := sound.seenBy_ascending current.room
  rw [← seen] at ascending ⊢
  obtain ⟨keeperLeast, othersAscending⟩ := List.pairwise_cons.mp ascending
  refine ⟨rfl, by simp, keeperLeast loser (by simp), fun hasLeft => ?_⟩
  have below : loser < loser :=
    (List.pairwise_append.mp othersAscending).2.2 loser
      (accounts.left.subset (noted.mp hasLeft)) loser List.mem_cons_self
  exact below.false

theorem head?_ne_of_hasLeft (sound : fleet.Sound)
    (follows : stage.Follows fleet.contestedRooms) {room : String}
    {shred : ShredId} (hasLeft : HasLeft stage.records room shred) :
    (fleet.seenBy room).head? ≠ some shred := by
  obtain ⟨record, member, rfl, left⟩ := hasLeft
  obtain ⟨tried, rest, planned, accounts⟩ := follows.record member
  have seen := ((Fleet.mem_contestedRooms sound).mp planned).1
  have ascending := sound.seenBy_ascending record.room
  rw [← seen] at ascending ⊢
  have above : record.keeper < shred :=
    List.rel_of_pairwise_cons ascending
      (List.mem_append_left rest (accounts.left.subset left))
  simpa using above.ne

end Follows

section Keeps

variable {task : TaskId} {agenda : Agenda} {first stage next : Resolving}
  {start territory after : Territory} {changes : List FleetChange}

theorem Moves.gateway
    (moves : Moves task agenda territory stage next after) :
    after.gateway = territory.gateway := by
  cases moves <;> rfl

theorem Moves.registered
    (moves : Moves task agenda territory stage next after) :
    after.fleet.registered = territory.fleet.registered := by
  rcases moves.hasLeft with ⟨loser, room, fleet, _⟩ | ⟨fleet, _⟩
  · rw [fleet, Fleet.registered_left]
  · rw [fleet]

theorem Moves.sound (moves : Moves task agenda territory stage next after)
    (sound : territory.Sound) : after.Sound := by
  constructor
  · rcases moves.hasLeft with ⟨loser, room, fleet, _⟩ | ⟨fleet, _⟩
    · exact fleet ▸ sound.fleet.left loser room
    · exact fleet ▸ sound.fleet
  · rw [moves.gateway, moves.registered]
    exact sound.connected

theorem Moves.mem_seenBy
    (moves : Moves task agenda territory stage next after)
    (sound : territory.Sound) {room : String} {shred : ShredId}
    (seen : shred ∈ after.fleet.seenBy room) :
    shred ∈ territory.fleet.seenBy room := by
  rcases moves.hasLeft with ⟨loser, place, fleet, _⟩ | ⟨fleet, _⟩
  · rw [fleet] at seen
    exact ((FleetChange.mem_seenBy_apply sound.fleet (.left loser place)
      shred room).mp seen).1
  · exact fleet ▸ seen

theorem Moves.eq_plan (moves : Moves task agenda territory stage next after)
    (unplanned : ¬stage.IsPlanned) (planned : next.IsPlanned) :
    next = plan after := by
  cases moves with
  | queue => exact planned.elim
  | planAtOnce | planInTurn => rfl
  | skipRoom | enterRoom | finishRoom | skipLoser | evict | left | failed =>
      exact absurd trivial unplanned

theorem Run.sound (sound : start.Sound)
    (run : Run task first start changes stage territory) :
    territory.Sound := by
  induction run with
  | start => exact sound
  | settings gateway lock same _ induction =>
      exact ⟨induction.fleet, same.trans induction.connected⟩
  | change change _ induction =>
      refine ⟨change.sound_apply induction.fleet, ?_⟩
      exact induction.connected.trans (change.registered_apply _).symm
  | step agenda _ moved induction =>
      exact (Moves.of_step moved).sound induction

theorem Run.registered
    (run : Run task first start changes stage territory) :
    territory.fleet.registered = start.fleet.registered := by
  induction run with
  | start => rfl
  | settings gateway lock _ _ induction => exact induction
  | change change _ induction =>
      exact (change.registered_apply _).trans induction
  | step agenda _ moved induction =>
      exact (Moves.of_step moved).registered.trans induction

theorem Run.onlyRegistered (sound : start.Sound)
    (registered : start.fleet.OnlyRegistered)
    (run : Run task first start changes stage territory)
    (movers : ∀ change ∈ changes, change.shred < start.fleet.registered) :
    territory.fleet.OnlyRegistered := by
  induction run with
  | start => exact registered
  | settings gateway lock _ _ induction => exact induction movers
  | @change changes stage territory change run induction =>
      apply FleetChange.onlyRegistered_apply (run.sound sound).fleet
      · exact induction fun other member =>
          movers other (List.mem_append_left [change] member)
      · rw [run.registered]
        exact movers change
          (List.mem_append_right changes (List.mem_singleton_self change))
  | step agenda run moved induction =>
      have moves := Moves.of_step moved
      intro room shred seen
      rw [moves.registered]
      exact induction movers room shred
        (moves.mem_seenBy (run.sound sound) seen)

/-- A run that has a plan made it somewhere on the way. -/
theorem Run.planned
    (run : Run task .fresh start changes stage territory)
    (isPlanned : stage.IsPlanned) :
    ∃ earlier since planned, changes = earlier ++ since ∧
      Run task .fresh start earlier (plan planned) planned ∧
      Run task (plan planned) planned since stage territory := by
  induction run with
  | start => exact isPlanned.elim
  | settings gateway lock same _ induction =>
      obtain ⟨earlier, since, planned, split, before, after⟩ :=
        induction isPlanned
      exact ⟨earlier, since, planned, split, before,
        .settings gateway lock same after⟩
  | change change _ induction =>
      obtain ⟨earlier, since, planned, rfl, before, after⟩ :=
        induction isPlanned
      exact ⟨earlier, since ++ [change], planned, List.append_assoc _ _ _,
        before, .change change after⟩
  | @step changes stage territory next agenda run moved induction =>
      by_cases already : stage.IsPlanned
      · obtain ⟨earlier, since, planned, split, before, after⟩ :=
          induction already
        exact ⟨earlier, since, planned, split, before,
          .step agenda after moved⟩
      · have makes :=
          (Moves.of_step moved).eq_plan already isPlanned
        subst makes
        exact ⟨changes, [], _, (List.append_nil changes).symm,
          .step agenda run moved, .start⟩

end Keeps

/-- How many steps the rooms of a plan take. -/
def planSteps : List (String × List ShredId) → Nat
  | [] => 0
  | (_, contenders) :: rest => 2 * contenders.length + 2 + planSteps rest

/-- How many steps a run with this plan still has to take at most. -/
def stepsLeft (plan : List (String × List ShredId)) : Resolving → Nat
  | .fresh => planSteps plan + 2
  | .queued => planSteps plan + 1
  | .nextRoom _ rest => planSteps rest
  | .nextLoser _ rest _ losers => planSteps rest + 2 * losers.length + 1
  | .leaving _ rest _ losers _ _ _ => planSteps rest + 2 * losers.length + 2

/-- The run waits for the lock, or for a leave in progress. -/
def Waits (task : TaskId) (agenda : Agenda) (territory : Territory)
    (stage : Resolving) : Prop :=
  (stage = .queued ∧ territory.lock.holder ≠ some task) ∨
    ∃ alarm ∈ stage.alarms, agenda.isDue alarm = false

theorem Moves.stepsLeft_lt {task : TaskId} {agenda : Agenda}
    {territory after : Territory} {stage next : Resolving}
    {plan : List (String × List ShredId)}
    (moves : Moves task agenda territory stage next after)
    (samePlan : ¬stage.IsPlanned → territory.fleet.contestedRooms = plan) :
    next.stepsLeft plan < stage.stepsLeft plan := by
  cases moves with
  | queue => simp [stepsLeft]
  | planAtOnce | planInTurn =>
      have same := samePlan id
      simp [stepsLeft, Resolving.plan, same]
  | skipRoom | enterRoom | finishRoom | skipLoser | evict | left
  | failed =>
      simp only [stepsLeft, planSteps, List.length_cons, List.length_nil]
      omega

theorem waits_of_step {task : TaskId} {agenda : Agenda}
    {territory : Territory} {stage : Resolving}
    (waits : (stage.step task agenda territory).move = .wait) :
    stage.Waits task agenda territory := by
  cases stage with
  | fresh => simp [step] at waits
  | queued =>
      simp only [step] at waits
      split at waits
      · cases waits
      · rename_i held
        exact .inl ⟨rfl, held⟩
  | nextRoom finished rest =>
      match rest with
      | [] => simp [step] at waits
      | (room, []) :: rest => simp [step] at waits
      | (room, keeper :: losers) :: rest => simp [step] at waits
  | nextLoser finished rest current losers =>
      cases losers with
      | nil => simp [step] at waits
      | cons loser losers =>
          simp only [step] at waits
          split at waits <;> cases waits
  | leaving finished rest current losers loser failure answer =>
      simp only [step] at waits
      split at waits
      · cases waits
      · rename_i early
        exact .inr ⟨answer, List.mem_singleton_self answer,
          Bool.eq_false_iff.mpr early⟩

/-- Given the floor, the run waits for the lock or for a leave, or ends, or
has fewer steps left. -/
def Proceeds (task : TaskId) (agenda : Agenda) (territory : Territory)
    (plan : List (String × List ShredId)) (stage : Resolving) : Prop :=
  match (stage.step task agenda territory).move with
  | .wait => stage.Waits task agenda territory
  | .go next => next.stepsLeft plan < stage.stepsLeft plan
  | .done _ => True

theorem proceeds {task : TaskId} {agenda : Agenda}
    {territory : Territory} {stage : Resolving}
    {plan : List (String × List ShredId)}
    (samePlan : ¬stage.IsPlanned → territory.fleet.contestedRooms = plan) :
    stage.Proceeds task agenda territory plan := by
  unfold Proceeds
  split
  · rename_i waits
    exact waits_of_step waits
  · rename_i moved
    exact (Moves.of_step moved).stepsLeft_lt samePlan
  · trivial

end Resolving

end Switchboard
