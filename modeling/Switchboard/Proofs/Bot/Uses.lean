import Switchboard.Proofs.Accounts
import Switchboard.Proofs.Bot.Routing

/-!
# Uses and what becomes of them

A message can launch a use of a command with a cooldown, and the end of the
process can give it back.  Cooldowns, uses and the ends of processes tell the
same story; what has to be looked at when something happens is the cooldowns
and the task that may have been added.
-/

namespace Switchboard

/-- The outcomes after which a use does not count. -/
inductive Outcome.Refunds : Outcome → Prop where
  | cancelled : Refunds (.error .cancelled)
  | internal (fault : Fault) : Refunds (.error (.internal fault))
  | failure (text : String) : Refunds (.error (.failure text false))

theorem Outcome.refunds_iff (outcome : Outcome) :
    outcome.Refunds ↔ outcome.disposition.keepCooldown = false := by
  constructor
  · intro refunds
    cases refunds <;> rfl
  · intro gives
    match outcome with
    | .ok () => cases gives
    | .error .timeout => cases gives
    | .error .resourceGone => cases gives
    | .error .interrupted => cases gives
    | .error (.failure text counts) =>
        cases gives
        exact .failure text
    | .error .exit => cases gives
    | .error .cancelled => exact .cancelled
    | .error (.internal fault) => exact .internal fault

namespace Episode

/-- A message is received that launches a use of a command with a
cooldown. -/
def Launches (use : Use) (episode : Episode) : Prop :=
  ∃ (event : Event) (entry : CatalogueEntry Handler) (cooldown : Cooldown),
    episode.occurrence = .receive event ∧
      episode.before.Reaches event entry ∧
      entry.definition.cooldown = some cooldown ∧
      (episode.before.receive event).1 = .launched use.pid ∧
      use.bucket = cooldown.bucket ∧
      use.key = cooldown.keyFor event.origin ∧
      use.moment = episode.before.agenda.now

/-- The use of a process is given back when its end is dealt with. -/
def GivesBack (pid : Pid) (episode : Episode) : Prop :=
  episode.occurrence = .work ∧
    ∃ (position : TaskId) (task : ProcessTask) (outcome : Outcome),
      World.Closing position task outcome episode.before ∧ task.pid = pid ∧
        task.reservation?.isSome ∧ outcome.disposition.keepCooldown = false

end Episode

/-- The window that the commands give to a bucket. -/
def Catalogue.windowOf (catalogue : Catalogue Handler) (name : String) : Nat :=
  (catalogue.buckets.find? name).getD 0

namespace World

/-- Cooldowns, uses and the ends of processes tell the same story. -/
structure Accounted (catalogue : Catalogue Handler) (horizon : Nat)
    (uses : Use → Prop) (refunded : Pid → Prop) (world : World) : Prop where
  commands : world.commands = catalogue
  clock : world.cooldowns.horizon = horizon
  windows : ∀ name, world.cooldowns.window? name =
    (catalogue.cooldowns horizon).window? name
  accounts : Accounts catalogue.windowOf uses refunded world.agenda.now
    world.cooldowns
  reserved : ∀ (position : TaskId) (task : ProcessTask)
    (reservation : Reservation),
    world.tasks[position]? = some (.process task) →
      task.reservation? = some reservation → ∃ use, uses use ∧
        use.pid = task.pid ∧ reservation = use.reservation catalogue.windowOf
  holds : ∀ use, uses use → ∃ (position : TaskId) (task : ProcessTask),
    world.tasks[position]? = some (.process task) ∧ task.pid = use.pid ∧
      task.reservation? = some (use.reservation catalogue.windowOf)
  known : ∀ pid, refunded pid → ∃ (position : TaskId) (task : ProcessTask),
    world.tasks[position]? = some (.process task) ∧ task.pid = pid
  repaid : ∀ use, uses use → (refunded use.pid ↔
    ∃ outcome, Finished use.pid outcome world ∧ outcome.Refunds)

/-- The accounts are right once something has happened. -/
abbrev AccountedAfter (catalogue : Catalogue Handler) (horizon : Nat)
    (uses : Use → Prop) (refunded : Pid → Prop) (episode : Episode) : Prop :=
  Accounted catalogue horizon (fun use => uses use ∨ episode.Launches use)
    (fun pid => refunded pid ∨ episode.GivesBack pid) episode.after

section

variable {made : TaskId → SubscriptionId → Prop} {world : World}
  {position other : TaskId} {task next : ProcessTask}
  {outcome : Outcome} {occurrence : Occurrence}
  {catalogue : Catalogue Handler} {horizon : Nat} {uses : Use → Prop}
  {refunded : Pid → Prop}

theorem refunds_happen (orderly : Orderly made world)
    (occurrence : Occurrence)
    (found : world.tasks[position]? = some (.process task))
    (reserved : task.reservation?.isSome) :
    (∃ outcome, Finished task.pid outcome (world.happen occurrence) ∧
        outcome.Refunds) ↔
      (∃ outcome, Finished task.pid outcome world ∧ outcome.Refunds) ∨
        Episode.GivesBack task.pid ⟨world, occurrence⟩ := by
  simp only [orderly.finished_happen occurrence]
  constructor
  · rintro ⟨outcome, before | ⟨work, other, next, closing, same⟩, refunds⟩
    · exact .inl ⟨outcome, before, refunds⟩
    · cases orderly.unique found closing.2.1 same
      exact .inr ⟨work, other, task, outcome, closing, rfl, reserved,
        (Outcome.refunds_iff outcome).mp refunds⟩
  · rintro (⟨outcome, before, refunds⟩ |
      ⟨work, other, next, outcome, closing, same, _, gives⟩)
    · exact ⟨outcome, .inl before, refunds⟩
    · exact ⟨outcome, .inr ⟨work, other, next, closing, same⟩,
        (Outcome.refunds_iff outcome).mpr gives⟩

namespace Accounted

theorem givesBack_known {pid : Pid}
    (gives : Episode.GivesBack pid ⟨world, occurrence⟩) :
    ∃ (position : TaskId) (task : ProcessTask),
      world.tasks[position]? = some (.process task) ∧ task.pid = pid := by
  obtain ⟨_, position, task, _, closing, same, _⟩ := gives
  exact ⟨position, task, closing.2.1, same⟩

theorem newcomer_unknown (orderly : Orderly made world)
    (there : (world.happen occurrence).tasks[world.tasks.length]? =
      some (.process next)) :
    ¬∃ (position : TaskId) (task : ProcessTask),
      world.tasks[position]? = some (.process task) ∧
        task.pid = next.pid := by
  intro holds
  obtain ⟨position, other, found, alike⟩ := holds
  have below := orderly.pid_known found
  rcases orderly.task_cases occurrence there with
    ⟨_, absent⟩ | ⟨_, _, _, fresh, _⟩
  · rw [List.getElem?_eq_none (Nat.le_refl _)] at absent
    cases absent
  · rw [alike, fresh] at below
    exact Nat.lt_irrefl _ below

/-- What remains to be looked at when something happens: the cooldowns, and
the task that may have been added. -/
theorem happen_of (orderly : Orderly made world)
    (accounted : Accounted catalogue horizon uses refunded world)
    (occurrence : Occurrence)
    (commands : (world.happen occurrence).commands = world.commands)
    (clock : (world.happen occurrence).cooldowns.horizon =
      world.cooldowns.horizon)
    (windows : ∀ name, (world.happen occurrence).cooldowns.window? name =
      world.cooldowns.window? name)
    (accounts : Accounts catalogue.windowOf
      (fun use => uses use ∨ Episode.Launches use ⟨world, occurrence⟩)
      (fun pid => refunded pid ∨ Episode.GivesBack pid ⟨world, occurrence⟩)
      (world.happen occurrence).agenda.now
      (world.happen occurrence).cooldowns)
    (newcomer : ∀ (next : ProcessTask) (reservation : Reservation),
      (world.happen occurrence).tasks[world.tasks.length]? =
          some (.process next) →
        next.reservation? = some reservation → ∃ use : Use,
          Episode.Launches use ⟨world, occurrence⟩ ∧ use.pid = next.pid ∧
            reservation = use.reservation catalogue.windowOf)
    (launched : ∀ use, Episode.Launches use ⟨world, occurrence⟩ →
      ∃ next : ProcessTask,
        (world.happen occurrence).tasks[world.tasks.length]? =
            some (.process next) ∧ next.pid = use.pid ∧
          next.reservation? =
            some (use.reservation catalogue.windowOf)) :
    AccountedAfter catalogue horizon uses refunded ⟨world, occurrence⟩ where
  commands := commands.trans accounted.commands
  clock := clock.trans accounted.clock
  windows := fun name => (windows name).trans (accounted.windows name)
  accounts := accounts
  reserved := by
    intro position next reservation there reserved
    rcases orderly.task_cases occurrence there with
      ⟨task, found⟩ | ⟨_, _, rfl, _⟩
    · obtain ⟨stage, _, set, _⟩ := orderly.stands found occurrence
      cases there.symm.trans set
      obtain ⟨use, used, rest⟩ :=
        accounted.reserved position task reservation found reserved
      exact ⟨use, .inl used, rest⟩
    · obtain ⟨use, used, rest⟩ := newcomer next reservation there reserved
      exact ⟨use, .inr used, rest⟩
  holds := by
    intro use holds
    rcases holds with used | used
    · obtain ⟨position, task, found, rest⟩ := accounted.holds use used
      obtain ⟨stage, _, set, _⟩ := orderly.stands found occurrence
      exact ⟨position, _, set, rest⟩
    · obtain ⟨task, there, rest⟩ := launched use used
      exact ⟨_, task, there, rest⟩
  known := by
    intro pid refunds
    have before : ∃ (position : TaskId) (task : ProcessTask),
        world.tasks[position]? = some (.process task) ∧ task.pid = pid :=
      refunds.elim (accounted.known pid) givesBack_known
    obtain ⟨position, task, found, same⟩ := before
    obtain ⟨stage, _, set, _⟩ := orderly.stands found occurrence
    exact ⟨position, _, set, same⟩
  repaid := by
    intro use holds
    rcases holds with used | used
    · obtain ⟨position, task, found, same, reserved⟩ :=
        accounted.holds use used
      have repaid := accounted.repaid use used
      rw [← same] at repaid ⊢
      have goesOn := refunds_happen orderly occurrence found
        (Option.isSome_iff_exists.mpr ⟨_, reserved⟩)
      exact (goesOn.trans (or_congr_left repaid.symm)).symm
    · -- A use that has just been launched is nobody's yet.
      obtain ⟨task, there, same, _⟩ := launched use used
      obtain ⟨event, _, _, received, _⟩ := used
      have unknown := newcomer_unknown orderly there
      rw [same] at unknown
      apply iff_of_false
      · intro holds
        rcases holds with refunds | gives
        · exact unknown (accounted.known use.pid refunds)
        · exact unknown (givesBack_known gives)
      · intro holds
        obtain ⟨outcome, finished, _⟩ := holds
        rcases (orderly.finished_happen occurrence use.pid outcome).mp
          finished with ⟨position, task, found, alike, _⟩ | ⟨work, _⟩
        · exact unknown ⟨position, task, found, alike⟩
        · cases received.symm.trans work

theorem quiet (orderly : Orderly made world)
    (accounted : Accounted catalogue horizon uses refunded world)
    (occurrence : Occurrence)
    (launches : ∀ use, ¬Episode.Launches use ⟨world, occurrence⟩)
    (gives : ∀ use, uses use → ¬Episode.GivesBack use.pid ⟨world, occurrence⟩)
    (newcomer : ∀ next : ProcessTask,
      (world.happen occurrence).tasks[world.tasks.length]? =
        some (.process next) → next.reservation? = none)
    (commands : (world.happen occurrence).commands = world.commands)
    (passes : world.agenda.now ≤ (world.happen occurrence).agenda.now)
    (clock : (world.happen occurrence).cooldowns.horizon =
      world.cooldowns.horizon)
    (windows : ∀ name, (world.happen occurrence).cooldowns.window? name =
      world.cooldowns.window? name)
    (ends : ∀ name key, (world.happen occurrence).cooldowns.ends?
        world.agenda.now name key =
      world.cooldowns.ends? world.agenda.now name key) :
    AccountedAfter catalogue horizon uses refunded ⟨world, occurrence⟩ := by
  have same : (fun use => uses use ∨
      Episode.Launches use ⟨world, occurrence⟩) = uses := by
    funext use
    simp [launches use]
  refine accounted.happen_of orderly occurrence commands clock windows ?_ ?_
    fun use used => absurd used (launches use)
  · rw [same]
    refine (accounted.accounts.of_same (fun use used => ?_) ends).pass passes
    exact or_iff_left (gives use used)
  · intro next reservation there reserved
    rw [newcomer next there] at reserved
    cases reserved

theorem quiet_of_steady (orderly : Orderly made world)
    (accounted : Accounted catalogue horizon uses refunded world)
    (occurrence : Occurrence)
    (steady : Steady world (world.happen occurrence))
    (launches : ∀ use, ¬Episode.Launches use ⟨world, occurrence⟩)
    (gives : ∀ use, uses use → ¬Episode.GivesBack use.pid ⟨world, occurrence⟩)
    (newcomer : ∀ next : ProcessTask,
      (world.happen occurrence).tasks[world.tasks.length]? =
        some (.process next) → next.reservation? = none) :
    AccountedAfter catalogue horizon uses refunded ⟨world, occurrence⟩ :=
  accounted.quiet orderly occurrence launches gives newcomer steady.commands
    (Nat.le_of_eq steady.now.symm) (by rw [steady.cooldowns])
    (fun _ => by rw [steady.cooldowns]) fun _ _ => by rw [steady.cooldowns]

end Accounted

end

end World

end Switchboard
