import Switchboard.Proofs.Bot.Uses

/-!
# The accounts of all cooldowns

Over every run a message that invokes a command with a cooldown is refused
exactly while one earlier use of the same bucket and key counts: its cooldown
has not ended, and it has not been given back.  A use is given back when its
process finishes with an outcome that says so, be it late or early.
-/

namespace Switchboard.World

section

variable {made : TaskId → SubscriptionId → Prop} {world : World}
  {position other : TaskId} {task next : ProcessTask}
  {outcome : Outcome} {occurrence : Occurrence}
  {catalogue : Catalogue Handler} {horizon : Nat} {uses : Use → Prop}
  {refunded : Pid → Prop}

namespace Accounted

theorem not_launches_work (use : Use) :
    ¬Episode.Launches use ⟨world, .work⟩ := by
  intro holds
  obtain ⟨_, _, _, received, _⟩ := holds
  cases received

theorem work_adds_none (orderly : Orderly made world) (next : ProcessTask) :
    (world.happen .work).tasks[world.tasks.length]? ≠
      some (.process next) := by
  intro there
  rcases orderly.task_cases .work there with ⟨_, found⟩ | ⟨_, work, _⟩
  · rw [List.getElem?_eq_none (Nat.le_refl _)] at found
    cases found
  · exact work rfl

theorem work_of_steady (orderly : Orderly made world)
    (accounted : Accounted catalogue horizon uses refunded world)
    (steady : Steady world (world.happen .work))
    (gives : ∀ use, uses use →
      ¬Episode.GivesBack use.pid ⟨world, .work⟩) :
    AccountedAfter catalogue horizon uses refunded ⟨world, .work⟩ :=
  accounted.quiet_of_steady orderly .work steady not_launches_work gives
    fun next there => absurd there (work_adds_none orderly next)

/-- The end of a process is dealt with, and its use is given back. -/
theorem work_of_refund (orderly : Orderly made world)
    (accounted : Accounted catalogue horizon uses refunded world)
    (closing : Closing position task outcome world)
    (isSome : task.reservation?.isSome)
    (gives : outcome.disposition.keepCooldown = false)
    (steady : Steady (world.giveBack task.reservation? outcome)
      (world.happen .work)) :
    AccountedAfter catalogue horizon uses refunded ⟨world, .work⟩ := by
  obtain ⟨reservation, reserved⟩ := Option.isSome_iff_exists.mp isSome
  obtain ⟨use, used, same, rfl⟩ :=
    accounted.reserved position task reservation closing.2.1 reserved
  rw [reserved, giveBack_of_refund gives] at steady
  have kept : ¬refunded use.pid := by
    rw [accounted.repaid use used, same]
    intro holds
    obtain ⟨ending, finished, _⟩ := holds
    exact closing.not_finished orderly ending finished
  have repaid : ∀ other, uses other → ((refunded other.pid ∨
      Episode.GivesBack other.pid ⟨world, .work⟩) ↔
        refunded other.pid ∨ other.pid = use.pid) := by
    intro other _
    refine or_congr_right ⟨?_, fun alike => ?_⟩
    · intro holds
      obtain ⟨_, _, next, _, alike, pid, _⟩ := holds
      obtain ⟨_, rfl, _⟩ := closing.unique alike
      exact pid.symm.trans same.symm
    · exact ⟨rfl, position, task, outcome, closing,
        same.symm.trans alike.symm, isSome, gives⟩
  have all : (fun use => uses use ∨
      Episode.Launches use ⟨world, .work⟩) = uses := by
    funext use
    simp [not_launches_work]
  refine accounted.happen_of orderly .work steady.commands ?_ (fun name => ?_)
    ?_ (fun next _ there => absurd there (work_adds_none orderly next))
    fun use launched => absurd launched (not_launches_work use)
  · rw [steady.cooldowns]
    exact Cooldowns.horizon_release _
  · rw [steady.cooldowns]
    exact Cooldowns.window?_release _
  · rw [all, steady.now, steady.cooldowns]
    exact accounted.accounts.release use used kept repaid

theorem work (orderly : Orderly made world)
    (accounted : Accounted catalogue horizon uses refunded world) :
    AccountedAfter catalogue horizon uses refunded ⟨world, .work⟩ := by
  rcases orderly.work_cases with
    ⟨steady, nobody⟩ | ⟨position, task, outcome, closing, steady⟩
  · apply accounted.work_of_steady orderly steady
    intro use used holds
    obtain ⟨_, position, task, outcome, closing, _⟩ := holds
    exact nobody position task outcome closing
  · by_cases gives : task.reservation?.isSome ∧
        outcome.disposition.keepCooldown = false
    · exact accounted.work_of_refund orderly closing gives.1 gives.2 steady
    · rw [giveBack_of_kept gives] at steady
      apply accounted.work_of_steady orderly steady
      intro use used holds
      obtain ⟨_, other, next, ending, alike, _, isSome, refunds⟩ := holds
      obtain ⟨_, rfl, rfl⟩ := closing.unique alike
      exact gives ⟨isSome, refunds⟩

theorem window?_eq (accounted : Accounted catalogue horizon uses refunded world)
    {event : Event} {entry : CatalogueEntry Handler} {cooldown : Cooldown}
    (reaches : Reaches event entry world)
    (limited : entry.definition.cooldown = some cooldown) :
    catalogue.buckets.find? cooldown.bucket =
        some (catalogue.windowOf cooldown.bucket) ∧
      world.cooldowns.window? cooldown.bucket =
        some (catalogue.windowOf cooldown.bucket) := by
  have member := reaches.mem
  rw [accounted.commands] at member
  obtain ⟨window, found, declared⟩ :=
    Catalogue.window?_cooldowns horizon member limited
  rw [accounted.windows, declared, Catalogue.windowOf, found]
  exact ⟨rfl, rfl⟩

theorem not_givesBack (event : Event) (pid : Pid) :
    ¬Episode.GivesBack pid ⟨world, .receive event⟩ := by
  intro holds
  obtain ⟨work, _⟩ := holds
  cases work

theorem launches_reaches {event : Event} {entry : CatalogueEntry Handler}
    {use : Use} (reaches : Reaches event entry world)
    (launches : Episode.Launches use ⟨world, .receive event⟩) :
    ∃ cooldown, entry.definition.cooldown = some cooldown ∧
      (world.receive event).1 = .launched use.pid ∧
      use.bucket = cooldown.bucket ∧ use.key = cooldown.keyFor event.origin ∧
      use.moment = world.agenda.now := by
  obtain ⟨_, other, cooldown, received, alike, limited, rest⟩ := launches
  cases received
  cases reaches.unique alike
  exact ⟨cooldown, limited, rest⟩

theorem added_eq {task next : Task} {after : World}
    (tasks : after.tasks = world.tasks ++ [task])
    (there : after.tasks[world.tasks.length]? = some next) : next = task := by
  rw [tasks, List.getElem?_concat_length] at there
  exact (Option.some.inj there).symm

section

variable {event : Event} {entry : CatalogueEntry Handler}
  {cooldown : Cooldown}

theorem receive_ignored (orderly : Orderly made world)
    (accounted : Accounted catalogue horizon uses refunded world)
    (fails : ∀ entry, ¬Reaches event entry world) :
    AccountedAfter catalogue horizon uses refunded ⟨world, .receive event⟩ := by
  obtain ⟨_, steady, tasks⟩ := receive_of_not_reaches fails
  refine accounted.quiet_of_steady orderly _ steady ?_
    (fun use _ => not_givesBack event use.pid) fun next there => ?_
  · intro use holds
    obtain ⟨_, entry, _, received, reaches, _⟩ := holds
    cases received
    exact fails entry reaches
  · rcases tasks with same | ⟨stage, tasks⟩
    · rw [happen, same, List.getElem?_eq_none (Nat.le_refl _)] at there
      cases there
    · cases added_eq tasks there

theorem receive_free (orderly : Orderly made world)
    (accounted : Accounted catalogue horizon uses refunded world)
    (reaches : Reaches event entry world)
    (free : entry.definition.cooldown = none) :
    AccountedAfter catalogue horizon uses refunded ⟨world, .receive event⟩ := by
  obtain ⟨task, _, tasks, _, reserved, steady⟩ :=
    receive_of_free reaches free
  refine accounted.quiet_of_steady orderly _ steady ?_
    (fun use _ => not_givesBack event use.pid) fun next there => ?_
  · intro use launches
    obtain ⟨cooldown, limited, _⟩ := launches_reaches reaches launches
    rw [free] at limited
    cases limited
  · cases added_eq tasks there
    exact reserved

theorem receive_refused (orderly : Orderly made world)
    (accounted : Accounted catalogue horizon uses refunded world)
    (reaches : Reaches event entry world)
    (limited : entry.definition.cooldown = some cooldown) {moment : Nat}
    (running : world.cooldowns.ends? world.agenda.now cooldown.bucket
      (cooldown.keyFor event.origin) = some moment) :
    AccountedAfter catalogue horizon uses refunded ⟨world, .receive event⟩ := by
  obtain ⟨refused, ⟨stage, tasks⟩, commands, now, clock, windows, ends⟩ :=
    receive_of_running reaches limited running
  refine accounted.quiet orderly _ ?_
    (fun use _ => not_givesBack event use.pid) (fun next there => ?_) commands
    (Nat.le_of_eq now.symm) clock windows ends
  · intro use launches
    obtain ⟨_, _, launched, _⟩ := launches_reaches reaches launches
    cases refused.symm.trans launched
  · cases added_eq tasks there

theorem receive_broken (orderly : Orderly made world)
    (accounted : Accounted catalogue horizon uses refunded world)
    (reaches : Reaches event entry world)
    (limited : entry.definition.cooldown = some cooldown)
    (idle : world.cooldowns.ends? world.agenda.now cooldown.bucket
      (cooldown.keyFor event.origin) = none)
    (beyond : horizon <
      world.agenda.now + catalogue.windowOf cooldown.bucket) :
    AccountedAfter catalogue horizon uses refunded ⟨world, .receive event⟩ := by
  obtain ⟨_, declared⟩ := accounted.window?_eq reaches limited
  rw [← accounted.clock] at beyond
  obtain ⟨broke, tasks, commands, now, clock, windows, ends⟩ :=
    receive_of_beyond reaches limited declared idle beyond
  refine accounted.quiet orderly _ ?_
    (fun use _ => not_givesBack event use.pid) (fun next there => ?_) commands
    (Nat.le_of_eq now.symm) clock windows ends
  · intro use launches
    obtain ⟨_, _, launched, _⟩ := launches_reaches reaches launches
    cases broke.symm.trans launched
  · rw [happen, tasks, List.getElem?_eq_none (Nat.le_refl _)] at there
    cases there

theorem receive_launched (orderly : Orderly made world)
    (accounted : Accounted catalogue horizon uses refunded world)
    (reaches : Reaches event entry world)
    (limited : entry.definition.cooldown = some cooldown)
    (idle : world.cooldowns.ends? world.agenda.now cooldown.bucket
      (cooldown.keyFor event.origin) = none)
    (within : world.agenda.now + catalogue.windowOf cooldown.bucket ≤
      horizon) :
    AccountedAfter catalogue horizon uses refunded ⟨world, .receive event⟩ := by
  obtain ⟨_, declared⟩ := accounted.window?_eq reaches limited
  rw [← accounted.clock] at within
  obtain ⟨task, launched, tasks, pid, reserved, commands, now, clock, windows,
    ends⟩ := receive_of_idle reaches limited declared idle within
  let use : Use :=
    { bucket := cooldown.bucket, key := cooldown.keyFor event.origin
      moment := world.agenda.now, pid := task.pid }
  have only : ∀ other, Episode.Launches other ⟨world, .receive event⟩ ↔
      other = use := by
    intro other
    constructor
    · intro launches
      obtain ⟨same, alike, number, bucket, key, moment⟩ :=
        launches_reaches reaches launches
      cases limited.symm.trans alike
      have samePid : task.pid = other.pid :=
        Routed.launched.inj (launched.symm.trans number)
      obtain ⟨_, _, _, pid⟩ := other
      cases bucket
      cases key
      cases moment
      cases samePid
      rfl
    · intro same
      subst same
      exact ⟨event, entry, cooldown, rfl, reaches, limited, launched, rfl,
        rfl, rfl⟩
  have known : ∀ (position : TaskId) (other : ProcessTask),
      world.tasks[position]? = some (.process other) →
        other.pid ≠ use.pid := by
    intro position other found
    exact Nat.ne_of_lt (Nat.lt_of_lt_of_le (orderly.pid_known found)
      (Nat.le_of_eq pid.symm))
  have fresh : ∀ other, uses other → other.pid ≠ use.pid := by
    intro other used
    obtain ⟨position, holder, found, same, _⟩ := accounted.holds other used
    exact same ▸ known position holder found
  have kept : ¬refunded use.pid := by
    intro refunds
    obtain ⟨position, other, found, same⟩ := accounted.known use.pid refunds
    exact known position other found same
  refine accounted.happen_of orderly _ commands clock windows ?_ ?_ ?_
  · have nobody : (fun pid => refunded pid ∨
        Episode.GivesBack pid ⟨world, .receive event⟩) = refunded := by
      funext pid
      simp [not_givesBack]
    simp only [only, nobody]
    have accounts := accounted.accounts.launch use rfl fresh kept idle ends
    exact now ▸ accounts
  · intro next reservation found held
    cases added_eq tasks found
    cases reserved.symm.trans held
    exact ⟨use, (only use).mpr rfl, rfl, rfl⟩
  · intro other launches
    cases (only other).mp launches
    refine ⟨task, ?_, rfl, reserved⟩
    rw [happen, tasks, List.getElem?_concat_length]

end

theorem receive (orderly : Orderly made world)
    (accounted : Accounted catalogue horizon uses refunded world)
    (event : Event) :
    AccountedAfter catalogue horizon uses refunded ⟨world, .receive event⟩ := by
  by_cases reaches : ∃ entry, Reaches event entry world
  · obtain ⟨entry, reaches⟩ := reaches
    cases limited : entry.definition.cooldown with
    | none => exact accounted.receive_free orderly reaches limited
    | some cooldown =>
        cases running : world.cooldowns.ends? world.agenda.now
            cooldown.bucket (cooldown.keyFor event.origin) with
        | some moment =>
            exact accounted.receive_refused orderly reaches limited running
        | none =>
            rcases Nat.lt_or_ge horizon (world.agenda.now +
              catalogue.windowOf cooldown.bucket) with beyond | within
            · exact accounted.receive_broken orderly reaches limited running
                beyond
            · exact accounted.receive_launched orderly reaches limited running
                within
  · exact accounted.receive_ignored orderly
      fun entry alike => reaches ⟨entry, alike⟩

theorem outside (orderly : Orderly made world)
    (accounted : Accounted catalogue horizon uses refunded world)
    (occurrence : Occurrence) (notWork : occurrence ≠ .work)
    (notReceive : ∀ event, occurrence ≠ .receive event)
    (newcomer : ∀ next : ProcessTask,
      (world.happen occurrence).tasks[world.tasks.length]? =
        some (.process next) → next.reservation? = none)
    (commands : (world.happen occurrence).commands = world.commands)
    (passes : world.agenda.now ≤ (world.happen occurrence).agenda.now)
    (clock : (world.happen occurrence).cooldowns.horizon =
      world.cooldowns.horizon)
    (windows : ∀ name, (world.happen occurrence).cooldowns.window? name =
      world.cooldowns.window? name)
    (ends : ∀ name key, (world.happen occurrence).cooldowns.ends?
        world.agenda.now name key =
      world.cooldowns.ends? world.agenda.now name key) :
    AccountedAfter catalogue horizon uses refunded ⟨world, occurrence⟩ := by
  refine accounted.quiet orderly occurrence ?_ ?_ newcomer commands passes
    clock windows ends
  · intro use holds
    obtain ⟨event, _, _, received, _⟩ := holds
    exact notReceive event received
  · intro use _ holds
    obtain ⟨work, _⟩ := holds
    exact notWork work

/-- The accounts are kept whatever happens. -/
theorem happen (orderly : Orderly made world)
    (accounted : Accounted catalogue horizon uses refunded world)
    (occurrence : Occurrence) :
    AccountedAfter catalogue horizon uses refunded ⟨world, occurrence⟩ := by
  have nobody : ∀ {after : World}, after.tasks = world.tasks →
      ∀ next : ProcessTask, after.tasks[world.tasks.length]? =
        some (.process next) → next.reservation? = none := by
    intro after same next there
    rw [same, List.getElem?_eq_none (Nat.le_refl _)] at there
    cases there
  have of_frame : ∀ occurrence : Occurrence, occurrence ≠ .work →
      (∀ event, occurrence ≠ .receive event) →
      Frame 0 (fun _ => False) world (world.happen occurrence) →
      AccountedAfter catalogue horizon uses refunded ⟨world, occurrence⟩ :=
    fun occurrence notWork notReceive frame =>
    accounted.outside orderly occurrence notWork notReceive
      (nobody frame.tasks) frame.commands (Nat.le_of_eq frame.agenda.now.symm)
      (by rw [frame.cooldowns]) (fun _ => by rw [frame.cooldowns])
      fun _ _ => by rw [frame.cooldowns]
  cases occurrence with
  | work => exact accounted.work orderly
  | receive event => exact accounted.receive orderly event
  | pass span =>
      have now : (world.happen (.pass span)).agenda.now =
          world.agenda.now + span := (Agenda.Extends.wakeAll _ _).now
      exact accounted.outside orderly _ (by simp) (by simp) (nobody rfl) rfl
        (by rw [now]; exact Nat.le_add_right _ _) rfl (fun _ => rfl)
        fun _ _ => rfl
  | launch command event chat body =>
      have now : (world.happen (.launch command event chat body)).agenda.now =
          world.agenda.now := (Agenda.Extends.wake _ _).now
      refine accounted.outside orderly _ (by simp) (by simp)
        (fun next there => ?_) rfl (Nat.le_of_eq now.symm) rfl (fun _ => rfl)
        fun _ _ => rfl
      have tasks : (world.happen (.launch command event chat body)).tasks =
          world.tasks ++ [.process ⟨world.processes.all.length, event, chat,
            .unbuilt body, none⟩] := rfl
      rw [tasks, List.getElem?_concat_length] at there
      cases there
      rfl
  | checkCooldown name key =>
      exact accounted.outside orderly _ (by simp) (by simp) (nobody rfl) rfl
        (Nat.le_refl _) (Cooldowns.horizon_check _ _ _ _)
        (fun _ => Cooldowns.window?_check) fun _ _ => Cooldowns.ends?_check
  | dispatch event =>
      exact of_frame _ (by simp) (by simp) (.dispatch event)
  | interrupt pid => exact of_frame _ (by simp) (by simp) (.interrupt pid)
  | interruptHeld pid =>
      exact of_frame _ (by simp) (by simp) (.interruptHeld pid)
  | lift pid => exact of_frame _ (by simp) (by simp) (.lift pid)
  | liftHeld pid => exact of_frame _ (by simp) (by simp) (.liftHeld pid)
  | _ =>
      exact accounted.outside orderly _ (by simp) (by simp) (nobody rfl) rfl
        (Nat.le_refl _) rfl (fun _ => rfl) fun _ _ => rfl

theorem start (config : Config) (commands : Catalogue Handler) (horizon : Nat) :
    Accounted (commands.overrideAll config.commands.overrides) horizon
      (fun _ => False) (fun _ => False) (start config commands horizon) where
  commands := rfl
  clock := Catalogue.horizon_cooldowns
  windows := fun _ => rfl
  accounts := .start fun name key => Catalogue.ends?_cooldowns _ name key
  reserved := by
    intro position task reservation found
    cases found
  holds := fun _ => False.elim
  known := fun _ => False.elim
  repaid := fun _ => False.elim

end Accounted

/-- The uses that have been launched in the course of what happened. -/
def Launched (episodes : List Episode) (use : Use) : Prop :=
  ∃ episode ∈ episodes, episode.Launches use

/-- The use of a process has been given back. -/
def Refunded (episodes : List Episode) (pid : Pid) : Prop :=
  ∃ episode ∈ episodes, episode.GivesBack pid

/-- A use that has been launched counts against a bucket and key: its
cooldown has not ended, and it has not been given back. -/
def Counts (episodes : List Episode) (name key : String) (window now : Nat)
    (use : Use) : Prop :=
  Launched episodes use ∧ use.bucket = name ∧ use.key = key ∧
    now < use.moment + window ∧ ¬Refunded episodes use.pid

/-- The accounts are right in every reachable state. -/
theorem Run.accounted {config : Config} {commands : Catalogue Handler}
    {horizon : Nat}
    {episodes : List Episode}
    (run : Run (World.start config commands horizon) episodes world) :
    Accounted (commands.overrideAll config.commands.overrides) horizon
      (Launched episodes) (Refunded episodes) world := by
  induction run with
  | start =>
      have launched : Launched [] = fun _ => False := by
        funext use
        simp [Launched]
      have refunded : Refunded [] = fun _ => False := by
        funext pid
        simp [Refunded]
      rw [launched, refunded]
      exact .start config commands horizon
  | @next episodes world occurrence run induction =>
      have launched : Launched (episodes ++ [⟨world, occurrence⟩]) =
          fun use => Launched episodes use ∨
            Episode.Launches use ⟨world, occurrence⟩ := by
        funext use
        simp [Launched, or_and_right, exists_or]
      have refunded : Refunded (episodes ++ [⟨world, occurrence⟩]) =
          fun pid => Refunded episodes pid ∨
            Episode.GivesBack pid ⟨world, occurrence⟩ := by
        funext pid
        simp [Refunded, or_and_right, exists_or]
      rw [launched, refunded]
      exact induction.happen (Run.orderly run) occurrence

section

variable {episodes : List Episode} {event : Event}
  {entry : CatalogueEntry Handler} {cooldown : Cooldown} {use one two : Use}

theorem counts_iff {name key : String} {now : Nat} :
    Counts episodes name key (catalogue.windowOf name) now use ↔
      Launched episodes use ∧
        use.Blocks catalogue.windowOf (Refunded episodes) now ∧
        use.bucket = name ∧ use.key = key := by
  constructor
  · intro holds
    obtain ⟨launched, bucket, key, running, kept⟩ := holds
    refine ⟨launched, ⟨kept, ?_⟩, bucket, key⟩
    rwa [Use.expires, bucket]
  · intro holds
    obtain ⟨launched, ⟨kept, running⟩, bucket, key⟩ := holds
    refine ⟨launched, bucket, key, ?_, kept⟩
    rwa [Use.expires, bucket] at running

theorem Accounted.refuses
    (accounted : Accounted catalogue horizon (Launched episodes)
      (Refunded episodes) world)
    (reaches : Reaches event entry world)
    (limited : entry.definition.cooldown = some cooldown)
    (counts : Counts episodes cooldown.bucket (cooldown.keyFor event.origin)
      (catalogue.windowOf cooldown.bucket) world.agenda.now use) :
    (world.receive event).1 = .ratelimited
      (use.moment + catalogue.windowOf cooldown.bucket -
        world.agenda.now) := by
  obtain ⟨launched, blocking, bucket, key⟩ := counts_iff.mp counts
  have running := accounted.accounts.stored use launched blocking
  rw [bucket, key, Use.expires, bucket] at running
  exact (receive_of_running reaches limited running).1

theorem Accounted.unused
    (accounted : Accounted catalogue horizon (Launched episodes)
      (Refunded episodes) world)
    (reaches : Reaches event entry world)
    (limited : entry.definition.cooldown = some cooldown)
    (served : ∀ remaining,
      (world.receive event).1 ≠ .ratelimited remaining) :
    ¬∃ use, Counts episodes cooldown.bucket (cooldown.keyFor event.origin)
      (catalogue.windowOf cooldown.bucket) world.agenda.now use := by
  rintro ⟨use, counts⟩
  exact served _ (accounted.refuses reaches limited counts)

theorem Accounted.idle
    (accounted : Accounted catalogue horizon (Launched episodes)
      (Refunded episodes) world)
    (nobody : ¬∃ use, Counts episodes cooldown.bucket
      (cooldown.keyFor event.origin) (catalogue.windowOf cooldown.bucket)
      world.agenda.now use) :
    world.cooldowns.ends? world.agenda.now cooldown.bucket
      (cooldown.keyFor event.origin) = none := by
  rw [Option.eq_none_iff_forall_ne_some]
  intro moment running
  obtain ⟨use, launched, blocking, bucket, key, _⟩ :=
    accounted.accounts.backed _ _ moment running
  exact nobody ⟨use, counts_iff.mpr ⟨launched, blocking, bucket, key⟩⟩

theorem Accounted.launches
    (accounted : Accounted catalogue horizon (Launched episodes)
      (Refunded episodes) world)
    (reaches : Reaches event entry world)
    (limited : entry.definition.cooldown = some cooldown)
    (nobody : ¬∃ use, Counts episodes cooldown.bucket
      (cooldown.keyFor event.origin) (catalogue.windowOf cooldown.bucket)
      world.agenda.now use)
    (within : world.agenda.now + catalogue.windowOf cooldown.bucket ≤
      horizon) :
    ∃ pid, (world.receive event).1 = .launched pid := by
  obtain ⟨_, declared⟩ := accounted.window?_eq reaches limited
  rw [← accounted.clock] at within
  obtain ⟨task, launched, _⟩ :=
    receive_of_idle reaches limited declared (accounted.idle nobody) within
  exact ⟨task.pid, launched⟩

theorem Accounted.breaks
    (accounted : Accounted catalogue horizon (Launched episodes)
      (Refunded episodes) world)
    (reaches : Reaches event entry world)
    (limited : entry.definition.cooldown = some cooldown)
    (nobody : ¬∃ use, Counts episodes cooldown.bucket
      (cooldown.keyFor event.origin) (catalogue.windowOf cooldown.bucket)
      world.agenda.now use)
    (beyond : horizon <
      world.agenda.now + catalogue.windowOf cooldown.bucket) :
    (world.receive event).1 = .panicked := by
  obtain ⟨_, declared⟩ := accounted.window?_eq reaches limited
  rw [← accounted.clock] at beyond
  exact (receive_of_beyond reaches limited declared (accounted.idle nobody)
    beyond).1

theorem Accounted.counts_unique {name key : String}
    (accounted : Accounted catalogue horizon (Launched episodes)
      (Refunded episodes) world)
    (counts : Counts episodes name key (catalogue.windowOf name)
      world.agenda.now one)
    (alike : Counts episodes name key (catalogue.windowOf name)
      world.agenda.now two) : one = two := by
  obtain ⟨launched, blocking, bucket, key⟩ := counts_iff.mp counts
  obtain ⟨launched', blocking', bucket', key'⟩ := counts_iff.mp alike
  exact accounted.accounts.single one two launched launched' blocking
    blocking' (bucket.trans bucket'.symm) (key.trans key'.symm)

end

/-- Cooldowns count right over every run, as far as the clock reaches.  While a
use of its bucket and key counts that was launched before, a message that
invokes a command with a cooldown is refused, for as long as the one use that
counts goes on counting.  While none does, the command is launched if the clock
can tell when its cooldown ends; otherwise the call breaks off.  A use has been
given back exactly when its process has finished with an outcome after which it
does not count. -/
theorem cooldown_accounting {config : Config}
    {commands : Catalogue Handler} {horizon : Nat} {episodes : List Episode}
    (run : Run (World.start config commands horizon) episodes world) :
    (∀ (event : Event) (entry : CatalogueEntry Handler) (cooldown : Cooldown),
      Reaches event entry world →
        entry.definition.cooldown = some cooldown → ∃ window,
          (commands.overrideAll config.commands.overrides).buckets.find?
              cooldown.bucket = some window ∧
          ((∃ pid, (world.receive event).1 = .launched pid) ↔
            (¬∃ use, Counts episodes cooldown.bucket
              (cooldown.keyFor event.origin) window world.agenda.now use) ∧
            world.agenda.now + window ≤ horizon) ∧
          ((world.receive event).1 = .panicked ↔
            (¬∃ use, Counts episodes cooldown.bucket
              (cooldown.keyFor event.origin) window world.agenda.now use) ∧
            horizon < world.agenda.now + window) ∧
          (∀ use, Counts episodes cooldown.bucket
              (cooldown.keyFor event.origin) window world.agenda.now use →
            (world.receive event).1 =
              .ratelimited (use.moment + window - world.agenda.now)) ∧
          ∀ use other, Counts episodes cooldown.bucket
              (cooldown.keyFor event.origin) window world.agenda.now use →
            Counts episodes cooldown.bucket
              (cooldown.keyFor event.origin) window world.agenda.now other →
            use = other) ∧
    ∀ use, Launched episodes use → (Refunded episodes use.pid ↔
      ∃ outcome, Finished use.pid outcome world ∧ outcome.Refunds) := by
  have accounted := run.accounted
  refine ⟨fun event entry cooldown reaches limited => ?_, accounted.repaid⟩
  obtain ⟨found, _⟩ := accounted.window?_eq reaches limited
  have launches := accounted.launches reaches limited
  have breaks := accounted.breaks reaches limited
  refine ⟨_, found, ⟨?_, fun holds => launches holds.1 holds.2⟩,
    ⟨?_, fun holds => breaks holds.1 holds.2⟩, ?_, ?_⟩
  · rintro ⟨pid, launched⟩
    have nobody := accounted.unused reaches limited fun remaining refused =>
      nomatch launched.symm.trans refused
    refine ⟨nobody, Nat.le_of_not_lt fun beyond => ?_⟩
    cases (breaks nobody beyond).symm.trans launched
  · intro broke
    have nobody := accounted.unused reaches limited fun remaining refused =>
      nomatch broke.symm.trans refused
    refine ⟨nobody, Nat.lt_of_not_le fun within => ?_⟩
    obtain ⟨pid, launched⟩ := launches nobody within
    cases broke.symm.trans launched
  · intro use counts
    exact accounted.refuses reaches limited counts
  · intro use other counts alike
    exact accounted.counts_unique counts alike

end

/-- A command with a cooldown of one second that is given up at once. -/
def hastyCommands : Catalogue Handler :=
  Catalogue.register
    { name := "try", description := "Is given up."
      cooldown := some
        { bucket := "tries", window := 1000, scope := .actor } }
    (fun _ => .fail .cancelled) {}

/-- The command is invoked, and time passes before it gets its turn. -/
def hastyRun : List Occurrence :=
  [.register "keeper", .fleet (.joined 0 "lobby"),
    .receive ⟨0, "user", "lobby", "lobby", .message "first" ".try"⟩,
    .pass 400]

/-- The command is invoked once more. -/
def hastyEvent : Event :=
  ⟨0, "user", "lobby", "lobby", .message "second" ".try"⟩

/-- As long as the command has not been given up its use counts. -/
theorem hastyBot_accounting :
    let bot := start { accounts := [] } hastyCommands hostHorizon
    ((bot.happenAll hastyRun).receive hastyEvent).1 = .ratelimited 600 ∧
      ∃ use, Counts (bot.history hastyRun) "tries" "user" 1000 400 use := by
  intro bot
  have run : Run bot _ (bot.happenAll hastyRun) := .of_occurrences _ _
  generalize reached : bot.happenAll hastyRun = world at run ⊢
  have refused : (world.receive hastyEvent).1 = .ratelimited 600 := by
    subst reached
    decide +kernel
  obtain ⟨entry, reaches, limited⟩ : ∃ entry,
      Reaches hastyEvent entry world ∧ entry.definition.cooldown = some
        { bucket := "tries", window := 1000, scope := .actor } := by
    subst reached bot
    exact exists_reaches "try" "" ⟨0, "lobby"⟩ (by decide +kernel) rfl
      (by decide +kernel) (by decide +kernel) (by decide +kernel)
  obtain ⟨window, declared, launches, _⟩ :=
    (cooldown_accounting run).1 hastyEvent entry _ reaches limited
  have known : (hastyCommands.overrideAll
      ({ accounts := [] } : Config).commands.overrides).buckets.find?
        "tries" = some 1000 := by decide +kernel
  cases declared.symm.trans known
  have now : world.agenda.now = 400 := by
    subst reached
    decide +kernel
  rw [now] at launches
  refine ⟨refused, by_contra fun nobody => ?_⟩
  obtain ⟨pid, launched⟩ := launches.mpr ⟨nobody, by decide +kernel⟩
  cases refused.symm.trans launched

/-- The longest window that can be configured. -/
def endlessSettings : Config where
  accounts := [⟨"keeper", "https://x", "keeper", "secret", none⟩]
  commands :=
    { overrides := [("try", { windowSeconds := 18446744073709551615 })] }

/-- Nobody has used a command yet. -/
def endlessRun : List Occurrence :=
  [.register "keeper", .fleet (.joined 0 "lobby"), .pass 1000]

/-- The settings pass the check, a message invokes a command with a cooldown,
and no use counts.  Still the command is not launched, and nobody is told
why. -/
theorem endlessBot_breaks_off :
    let bot := start endlessSettings hastyCommands hostHorizon
    let world := bot.happenAll endlessRun
    endlessSettings.validate = .ok () ∧
      Run bot (bot.history endlessRun) world ∧
      (∃ entry, Reaches hastyEvent entry world ∧
        entry.definition.cooldown = some
          { bucket := "try", window := 18446744073709551615000
            scope := .actor }) ∧
      (∀ name key window now use,
        ¬Counts (bot.history endlessRun) name key window now use) ∧
      (world.receive hastyEvent).1 = .panicked ∧
      (world.receive hastyEvent).2.tasks = [] := by
  intro bot world
  refine ⟨by decide +kernel, .of_occurrences _ _, ?_, ?_, by decide +kernel,
    ?_⟩
  · exact exists_reaches "try" "" ⟨0, "lobby"⟩ (by decide +kernel) rfl
      (by decide +kernel) (by decide +kernel) (by decide +kernel)
  · rintro name key window now use ⟨⟨episode, member, launches⟩, _⟩
    obtain ⟨event, _, _, received, _⟩ := launches
    have happened := occurrence_mem_of_mem_history member
    rw [received] at happened
    simp [endlessRun] at happened
  · exact List.length_eq_zero_iff.mp (by decide +kernel)

end Switchboard.World
