import Mathlib.Data.List.Nodup
import Switchboard.Proofs.Bot.FleetChanges

/-!
# One identity speaks for a room

Of the identities that see a room the lowest one owns it.  An event that several
of them deliver counts once, when the owner delivers it; all other copies
change nothing.
-/

namespace Switchboard

namespace Fleet

/-- The lowest identity that sees a room. -/
def Lowest (room : String) (shred : ShredId) (fleet : Fleet) : Prop :=
  shred ∈ fleet.seenBy room ∧ ∀ other ∈ fleet.seenBy room, shred ≤ other

instance (room : String) (shred : ShredId) (fleet : Fleet) :
    Decidable (fleet.Lowest room shred) :=
  inferInstanceAs (Decidable (_ ∧ _))

/-- Every room that is seen has one owner, the lowest identity that sees it,
and acts through it. -/
structure Represented (fleet : Fleet) : Prop where
  current : ∀ (room : String) (shred : ShredId),
    fleet.ownerOf room = some shred ↔ fleet.Lowest room shred
  owner : ∀ (room : String) (shred : ShredId),
    fleet.isOwner shred room = true ↔ fleet.Lowest room shred
  unique : ∀ (room : String) (shred other : ShredId),
    fleet.isOwner shred room = true → fleet.isOwner other room = true →
      shred = other
  somebody : ∀ room : String,
    (∃ shred, fleet.isOwner shred room = true) ↔ fleet.seenBy room ≠ []

variable {fleet : Fleet} {room : String} {shred other : ShredId}

theorem Lowest.unique (one : fleet.Lowest room shred)
    (two : fleet.Lowest room other) : shred = other :=
  Nat.le_antisymm (one.2 other two.1) (two.2 shred one.1)

theorem Sound.head?_eq_some_iff (sound : fleet.Sound) :
    (fleet.seenBy room).head? = some shred ↔ fleet.Lowest room shred := by
  have ascending := sound.seenBy_ascending room
  have first : ∀ (keeper : ShredId) (rest : List ShredId),
      fleet.seenBy room = keeper :: rest → fleet.Lowest room keeper := by
    intro keeper rest seen
    rw [seen] at ascending
    refine ⟨by simp [seen], fun other member => ?_⟩
    rw [seen] at member
    rcases List.mem_cons.mp member with rfl | later
    · exact Nat.le_refl _
    · exact Nat.le_of_lt (List.rel_of_pairwise_cons ascending later)
  constructor
  · intro head
    obtain ⟨rest, seen⟩ := List.head?_eq_some_iff.mp head
    exact first shred rest seen
  · intro lowest
    obtain ⟨keeper, rest, seen⟩ :=
      List.exists_cons_of_ne_nil (List.ne_nil_of_mem lowest.1)
    rw [seen, List.head?_cons, (first keeper rest seen).unique lowest]

theorem Manned.represented (manned : fleet.Manned) : fleet.Represented := by
  have current : ∀ (room : String) (shred : ShredId),
      fleet.ownerOf room = some shred ↔ fleet.Lowest room shred := by
    intro room shred
    rw [ownerOf_eq_head? manned.registered, manned.sound.head?_eq_some_iff]
  have owner : ∀ (room : String) (shred : ShredId),
      fleet.isOwner shred room = true ↔ fleet.Lowest room shred := by
    intro room shred
    rw [isOwner, beq_iff_eq, current]
  refine ⟨current, owner, fun room shred other one two => ?_, fun room => ?_⟩
  · exact ((owner room shred).mp one).unique ((owner room other).mp two)
  · constructor
    · rintro ⟨shred, owns⟩
      exact List.ne_nil_of_mem ((owner room shred).mp owns).1
    · intro seen
      obtain ⟨keeper, rest, seen⟩ := List.exists_cons_of_ne_nil seen
      refine ⟨keeper, (owner room keeper).mpr ?_⟩
      exact manned.sound.head?_eq_some_iff.mp (by rw [seen]; rfl)

end Fleet

/-- The identity that delivers a copy of an event. -/
def Episode.copy? (event : Event) : Episode → Option ShredId
  | ⟨_, .receive copy⟩ =>
    if copy = { event with shred := copy.shred } then some copy.shred
    else none
  | _ => none

/-- The identity that delivers a copy of an event which counts. -/
def Episode.counted? (event : Event) (episode : Episode) : Option ShredId :=
  (episode.copy? event).filter fun shred =>
    (episode.before.receive { event with shred }).1 ≠ .notOwner

namespace World

/-- An event counts: it is offered to the subscriptions, and a message is
routed then. -/
structure Accepts (event : Event) (world : World) : Prop where
  taken : (world.receive event).1 ≠ .notOwner
  treated : world.receive event =
    match event.kind with
    | .message => (world.dispatch event).2.route event
    | _ => (.ignored, (world.dispatch event).2)

variable {event : Event} {world : World}

theorem invoke_ne_notOwner (entry : CatalogueEntry Handler) (event : Event)
    (arguments : String) (chat : Chat) (world : World) :
    (world.invoke entry event arguments chat).1 ≠ .notOwner := by
  unfold invoke
  split
  · simp
  · split <;> simp [launchCommand]

theorem route_ne_notOwner (event : Event) (world : World) :
    (world.route event).1 ≠ .notOwner := by
  unfold route
  split
  · simp
  · split
    · simp
    · split
      · simp
      · exact invoke_ne_notOwner _ event _ _ world

theorem accepts_of_lowest (manned : world.territory.fleet.Manned)
    (lowest : world.territory.fleet.Lowest event.room event.shred) :
    Accepts event world := by
  have owns := (manned.represented.owner event.room event.shred).mpr lowest
  have treated : world.receive event =
      match event.kind with
      | .message => (world.dispatch event).2.route event
      | _ => (.ignored, (world.dispatch event).2) := by
    rw [receive, owns]
    rfl
  refine ⟨?_, treated⟩
  rw [treated]
  split
  · exact route_ne_notOwner event _
  · simp

theorem receive_of_ne_lowest {keeper : ShredId}
    (manned : world.territory.fleet.Manned)
    (lowest : world.territory.fleet.Lowest event.room keeper)
    (other : event.shred ≠ keeper) :
    world.receive event = (.notOwner, world) := by
  have foreign :
      world.territory.fleet.isOwner event.shred event.room ≠ true := by
    rw [ne_eq, manned.represented.owner]
    exact fun own => other (own.unique lowest)
  simp [receive, foreign]

theorem occurrence_of_copy? {episode : Episode} {shred : ShredId}
    (copy : episode.copy? event = some shred) :
    episode.occurrence = .receive { event with shred } := by
  obtain ⟨before, occurrence⟩ := episode
  cases occurrence with
  | receive delivered =>
      rw [Episode.copy?] at copy
      split at copy
      · rename_i same
        cases copy
        exact congrArg Occurrence.receive same
      · cases copy
  | _ => cases copy

theorem counted?_eq {episode : Episode} {keeper : ShredId}
    (manned : episode.before.territory.fleet.Manned)
    (lowest : episode.before.territory.fleet.Lowest event.room keeper) :
    episode.counted? event = (episode.copy? event).filter (· = keeper) := by
  unfold Episode.counted?
  cases episode.copy? event with
  | none => rfl
  | some shred =>
      by_cases same : shred = keeper
      · subst same
        have accepted : Accepts { event with shred } episode.before :=
          accepts_of_lowest manned lowest
        simp [Option.filter, accepted.taken]
      · have foreign : episode.before.receive { event with shred } =
            (.notOwner, episode.before) :=
          receive_of_ne_lowest manned lowest same
        simp [Option.filter, foreign, same]

/-- An event counts once.  At every moment of a run over registered identities
a room that is seen has one owner, the lowest identity that sees it, and acts
through it.  As long as this identity stays the same, whatever else happens,
the copy of an event that it delivers is offered and routed, and every other
copy changes nothing at all. -/
theorem single_acceptance {config : Config} {commands : Catalogue Handler}
    {horizon : Nat} {past stretch : List Episode} {before last : World}
    {event : Event} {keeper : ShredId}
    (run : Run (start config commands horizon) past before)
    (goesOn : Run before stretch last)
    (registered : ∀ episode ∈ past ++ stretch, episode.Registered)
    (stays : ∀ episode ∈ stretch,
      episode.before.territory.fleet.Lowest event.room keeper) :
    (∀ episode ∈ past ++ stretch,
        episode.before.territory.fleet.Represented) ∧
      last.territory.fleet.Represented ∧
      (∀ episode ∈ stretch, ∀ shred, episode.copy? event = some shred →
        (shred = keeper → Accepts { event with shred } episode.before) ∧
        (shred ≠ keeper →
          episode.before.receive { event with shred } =
            (.notOwner, episode.before) ∧
          episode.after = episode.before)) ∧
      stretch.filterMap (Episode.counted? event) =
        (stretch.filterMap (Episode.copy? event)).filter (· = keeper) ∧
      ((stretch.filterMap (Episode.copy? event)).Nodup →
        keeper ∈ stretch.filterMap (Episode.copy? event) →
          stretch.filterMap (Episode.counted? event) = [keeper]) := by
  have whole : Run _ _ _ := run.trans goesOn
  obtain ⟨manned, finally_⟩ :=
    whole.manned (manned_start config commands horizon) registered
  have counted : stretch.filterMap (Episode.counted? event) =
      (stretch.filterMap (Episode.copy? event)).filter (· = keeper) := by
    rw [List.filter_filterMap]
    refine List.filterMap_congr fun episode member => ?_
    exact counted?_eq (manned episode (List.mem_append_right _ member))
      (stays episode member)
  refine ⟨fun episode member => (manned episode member).represented,
    finally_.represented, ?_, counted, fun once delivered => ?_⟩
  · intro episode member shred copy
    have before := manned episode (List.mem_append_right _ member)
    have lowest := stays episode member
    constructor
    · rintro rfl
      exact accepts_of_lowest before lowest
    · intro other
      have foreign : episode.before.receive { event with shred } =
          (.notOwner, episode.before) :=
        receive_of_ne_lowest before lowest other
      refine ⟨foreign, ?_⟩
      rw [Episode.after, occurrence_of_copy? copy, happen, foreign]
  · rw [counted, List.filter_eq, List.count_eq_one_of_mem once delivered,
      List.replicate_one]

/-- Three identities see the lobby. -/
def crowdOccurrences : List Occurrence :=
  [.register "a", .register "b", .register "c",
    .fleet (.joined 2 "lobby"), .fleet (.joined 0 "lobby"),
    .fleet (.joined 1 "lobby")]

/-- All three deliver a greeting while a process makes the lobby converge. -/
def greetingOccurrences : List Occurrence :=
  let command : CommandDef := { name := "merge", description := "Merges." }
  let event : Event := ⟨0, "user", "hall", "hall", .message "first" ".merge"⟩
  let greeting (shred : ShredId) : Occurrence :=
    .receive ⟨shred, "user", "lobby", "lobby", .message "second" "hello"⟩
  [.launch command event ⟨0, "hall"⟩
    (.ok (.call .resolveClashes fun _ => .result ()))] ++
    List.replicate 4 .work ++ [greeting 2, .fleet (.joined 2 "hall")] ++
      List.replicate 4 .work ++ [greeting 0] ++
        List.replicate 20 .work ++ [greeting 1]

/-- Only the greeting that the lowest identity delivers counts. -/
theorem greeting_acceptance :
    let event : Event :=
      ⟨0, "user", "lobby", "lobby", .message "second" "hello"⟩
    let before := (start { accounts := [] } {} hostHorizon).happenAll
      crowdOccurrences
    let stretch := before.history greetingOccurrences
    let last := before.happenAll greetingOccurrences
    stretch.filterMap (Episode.copy? event) = [2, 0, 1] ∧
      stretch.filterMap (Episode.counted? event) = [0] ∧
      before.territory.fleet.seenBy "lobby" = [0, 1, 2] ∧
      last.territory.fleet.seenBy "lobby" = [0] := by
  intro event before stretch last
  have run : Run (start { accounts := [] } {} hostHorizon)
      ((start { accounts := [] } {} hostHorizon).history crowdOccurrences)
      before :=
    .of_occurrences _ _
  have goesOn : Run before stretch last := .of_occurrences _ _
  have stays : ∀ episode ∈ stretch,
      episode.before.territory.fleet.Lowest event.room 0 := by
    decide +kernel
  have copies : stretch.filterMap (Episode.copy? event) = [2, 0, 1] := by
    decide +kernel
  have accepted : (stretch.filterMap (Episode.copy? event)).Nodup →
      0 ∈ stretch.filterMap (Episode.copy? event) →
        stretch.filterMap (Episode.counted? event) = [0] :=
    (single_acceptance run goesOn (by decide +kernel) stays).2.2.2.2
  rw [copies] at accepted
  exact ⟨copies, accepted (by decide) (by decide), by decide +kernel,
    by decide +kernel⟩

end World

end Switchboard
