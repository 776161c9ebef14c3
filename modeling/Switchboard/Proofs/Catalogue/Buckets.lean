import Switchboard.Proofs.Bot.Refusal
import Switchboard.Proofs.Catalogue.Overrides

/-!
# Which buckets are declared

The bot declares a bucket exactly where some command of the catalogue uses it,
overrides applied, and the last such command gives the window.  A command that
no word leads to any more counts as well.  So the use of a command with a
cooldown is always either refused or reserved; it never slips through because
its bucket is unknown.
-/

namespace Switchboard

/-- The last of some commands that uses a bucket has a cooldown. -/
def LastUse (name : String) (cooldown : Cooldown)
    (definitions : List CommandDef) : Prop :=
  ∃ before command after, definitions = before ++ command :: after ∧
    command.cooldown = some cooldown ∧ cooldown.bucket = name ∧
    ∀ later ∈ after, ∀ other, later.cooldown = some other →
      other.bucket ≠ name

/-- A bucket is declared exactly for the last command that uses it, and no
command uses a bucket that is not declared. -/
structure Catalogue.Covers {η : Type} (catalogue : Catalogue η)
    (cooldowns : Cooldowns) : Prop where
  declared : ∀ name window, cooldowns.window? name = some window ↔
    ∃ cooldown, LastUse name cooldown catalogue.definitions ∧
      cooldown.window = window
  covered : ∀ entry ∈ catalogue.entries, ∀ cooldown,
    entry.definition.cooldown = some cooldown →
      ∃ window, cooldowns.window? cooldown.bucket = some window

section

variable {definitions : List CommandDef} {command : CommandDef}
  {cooldown : Cooldown} {name : String}

theorem not_lastUse_nil : ¬LastUse name cooldown [] := by
  rintro ⟨before, command, after, split, _⟩
  cases before <;> cases split

theorem lastUse_concat :
    LastUse name cooldown (definitions ++ [command]) ↔
      (command.cooldown = some cooldown ∧ cooldown.bucket = name) ∨
        (LastUse name cooldown definitions ∧ ∀ other,
          command.cooldown = some other → other.bucket ≠ name) := by
  constructor
  · rintro ⟨before, user, after, split, uses, bucket, last⟩
    rcases List.eq_nil_or_concat after with rfl | ⟨rest, final, rfl⟩
    · obtain ⟨_, same⟩ := List.append_inj' split rfl
      cases same
      exact .inl ⟨uses, bucket⟩
    · have regrouped : definitions ++ [command] =
          (before ++ user :: rest) ++ [final] := by
        rw [split, List.concat_eq_append, List.append_assoc, List.cons_append]
      obtain ⟨rfl, same⟩ := List.append_inj' regrouped rfl
      cases same
      rw [List.concat_eq_append] at last
      refine .inr ⟨⟨before, user, rest, rfl, uses, bucket, ?_⟩, ?_⟩
      · exact fun later member => last later (List.mem_append_left _ member)
      · exact last command (List.mem_append_right _ List.mem_cons_self)
  · rintro (⟨uses, bucket⟩ |
      ⟨⟨before, user, after, rfl, uses, bucket, last⟩, elsewhere⟩)
    · exact ⟨definitions, command, [], rfl, uses, bucket, by simp⟩
    · refine ⟨before, user, after ++ [command], by simp, uses, bucket, ?_⟩
      intro later member
      rcases List.mem_append.mp member with listed | final
      · exact last later listed
      · exact List.mem_singleton.mp final ▸ elsewhere

end

namespace Catalogue

variable {η : Type} {catalogue : Catalogue η} {name : String} {window : Nat}

theorem find?_writeAll_iff (definitions : List CommandDef) :
    ((definitions.filterMap CommandDef.cooldown).foldl
        (fun buckets cooldown =>
          Table.write cooldown.bucket cooldown.window buckets)
        ([] : Table String Nat)).find? name = some window ↔
      ∃ cooldown, LastUse name cooldown definitions ∧
        cooldown.window = window := by
  induction definitions using List.reverseRecOn with
  | nil => simp [not_lastUse_nil]
  | append_singleton definitions command induction =>
      simp only [lastUse_concat, List.filterMap_append, List.foldl_append]
      cases limit : command.cooldown with
      | none => simpa [limit] using induction
      | some cooldown =>
          by_cases same : cooldown.bucket = name
          · subst same
            simp [limit, Table.find?_write_self]
          · have other : ∀ one, ¬(cooldown = one ∧ one.bucket = name) := by
              rintro one ⟨rfl, bucket⟩
              exact same bucket
            simpa [limit, Table.find?_write_of_ne (Ne.symm same), same, other]
              using induction

theorem covers_declare {declared : Table String Nat}
    (perm : declared.Perm catalogue.buckets) (horizon : Nat) :
    catalogue.Covers (declare horizon declared) where
  declared := fun name window => by
    rw [window?_declare_of_perm perm]
    exact find?_writeAll_iff catalogue.definitions
  covered := by
    intro entry member cooldown uses
    obtain ⟨window, found, _⟩ := window?_cooldowns horizon member uses
    exact ⟨window, (window?_declare_of_perm perm _ _).trans found⟩

theorem Covers.of_windows {one two : Cooldowns}
    (covers : catalogue.Covers one)
    (same : ∀ name, two.window? name = one.window? name) :
    catalogue.Covers two where
  declared := fun name window => by
    rw [same]
    exact covers.declared name window
  covered := fun entry member cooldown uses => by
    rw [same]
    exact covers.covered entry member cooldown uses

end Catalogue

namespace World

section

variable {world : World} {event : Event} {entry : CatalogueEntry Handler}
  {cooldown : Cooldown} {settings : Config} {commands : Catalogue Handler}
  {horizon : Nat}
  {episodes : List Episode}

theorem Run.covers
    (run : Run (World.start settings commands horizon) episodes world) :
    world.commands.Covers world.cooldowns := by
  have start : world.commands.Covers (world.commands.cooldowns horizon) :=
    Catalogue.covers_declare (List.Perm.refl _) horizon
  refine start.of_windows fun name => ?_
  rw [run.accounted.commands]
  exact run.accounted.windows name

theorem counted_of_covers (covers : world.commands.Covers world.cooldowns)
    (listed : entry ∈ world.commands.entries)
    (limited : entry.definition.cooldown = some cooldown) (origin : Origin) :
    (∃ remaining,
      (world.acquire entry.definition origin).1 = .limited remaining) ∨
    (∃ reservation,
      (world.acquire entry.definition origin).1 = .reserved reservation ∧
        reservation.bucket = cooldown.bucket ∧
        reservation.key = cooldown.keyFor origin) ∨
    ((world.acquire entry.definition origin).1 = .beyond ∧
      world.Endless cooldown) := by
  obtain ⟨window, declared⟩ := covers.covered entry listed cooldown limited
  have asks : (world.acquire entry.definition origin).1 =
      (world.cooldowns.acquire world.agenda.now cooldown.bucket
        (cooldown.keyFor origin)).1 := by
    rw [acquire, limited]
  rw [asks]
  have turn := world.cooldowns.acquire_acquisition world.agenda.now
    cooldown.bucket (cooldown.keyFor origin)
  generalize world.cooldowns.acquire world.agenda.now cooldown.bucket
    (cooldown.keyFor origin) = result at turn ⊢
  cases turn with
  | uncounted undeclared => cases undeclared.symm.trans declared
  | limited => exact .inl ⟨_, rfl⟩
  | beyond declared _ beyond => exact .inr (.inr ⟨rfl, _, declared, beyond⟩)
  | reserved => exact .inr (.inl ⟨_, rfl, rfl, rfl⟩)

theorem receive_counted (covers : world.commands.Covers world.cooldowns)
    (reaches : Reaches event entry world)
    (limited : entry.definition.cooldown = some cooldown) :
    (∃ remaining, (world.receive event).1 = .ratelimited remaining) ∨
    (∃ task reservation, (world.receive event).1 = .launched task.pid ∧
      (world.receive event).2.tasks = world.tasks ++ [.process task] ∧
      task.reservation? = some reservation ∧
      reservation.bucket = cooldown.bucket ∧
      reservation.key = cooldown.keyFor event.origin) ∨
    ((world.receive event).1 = .panicked ∧ world.Endless cooldown) := by
  obtain ⟨window, declared⟩ :=
    covers.covered entry reaches.mem cooldown limited
  cases running : world.cooldowns.ends? world.agenda.now cooldown.bucket
      (cooldown.keyFor event.origin) with
  | some moment =>
      exact .inl ⟨_, (receive_of_running reaches limited running).1⟩
  | none =>
      rcases Nat.lt_or_ge world.cooldowns.horizon
        (world.agenda.now + window) with beyond | within
      · exact .inr (.inr
          ⟨(receive_of_beyond reaches limited declared running beyond).1,
            window, declared, beyond⟩)
      · obtain ⟨task, launched, tasks, _, reserved, _⟩ :=
          receive_of_idle reaches limited declared running within
        exact .inr (.inl ⟨task, _, launched, tasks, reserved, rfl, rfl⟩)

end

/-- No command with a cooldown is unlimited.  In whatever order the buckets of
the commands are declared, a bucket is declared exactly where some command
uses it once the overrides are applied, with the window of the last one.  That
stays so in every run; so every use of a command with a cooldown is refused or
reserved, unless its cooldown would end past the horizon of the clock: then the
call breaks off. -/
theorem every_use_counted (settings : Config) (commands : Catalogue Handler)
    (horizon : Nat) :
    (∀ declared : Table String Nat,
      declared.Perm (World.start settings commands horizon).commands.buckets →
        (World.start settings commands horizon).commands.Covers
          (Catalogue.declare horizon declared)) ∧
    ∀ (episodes : List Episode) (world : World),
      Run (World.start settings commands horizon) episodes world →
        world.commands =
            commands.overrideAll settings.commands.overrides ∧
        world.commands.Covers world.cooldowns ∧
        (∀ entry ∈ world.commands.entries, ∀ cooldown,
          entry.definition.cooldown = some cooldown → ∀ origin,
            (∃ remaining, (world.acquire entry.definition origin).1 =
              .limited remaining) ∨
            (∃ reservation, (world.acquire entry.definition origin).1 =
                .reserved reservation ∧
              reservation.bucket = cooldown.bucket ∧
              reservation.key = cooldown.keyFor origin) ∨
            ((world.acquire entry.definition origin).1 = .beyond ∧
              world.Endless cooldown)) ∧
        ∀ event entry cooldown, Reaches event entry world →
          entry.definition.cooldown = some cooldown →
            (∃ remaining,
              (world.receive event).1 = .ratelimited remaining) ∨
            (∃ task reservation,
              (world.receive event).1 = .launched task.pid ∧
              (world.receive event).2.tasks =
                world.tasks ++ [.process task] ∧
              task.reservation? = some reservation ∧
              reservation.bucket = cooldown.bucket ∧
              reservation.key = cooldown.keyFor event.origin) ∨
            ((world.receive event).1 = .panicked ∧
              world.Endless cooldown) := by
  refine ⟨fun declared perm => Catalogue.covers_declare perm horizon,
    fun episodes world run => ?_⟩
  have covers := run.covers
  refine ⟨run.accounted.commands, covers, ?_, ?_⟩
  · intro entry listed cooldown limited origin
    exact counted_of_covers covers listed limited origin
  · intro event entry cooldown reaches limited
    exact receive_counted covers reaches limited

/-- Two commands that share a bucket, and one that takes the name of the first
of them. -/
def diceCommands : Catalogue Handler :=
  let limit (bucket : String) (window : Nat) : Option Cooldown :=
    some { bucket, window, scope := .room }
  ((({} : Catalogue Handler).register
    { name := "roll", description := "Rolls a die.", aliases := ["r"]
      cooldown := limit "dice" 1000 } fun _ => pure ()).register
    { name := "flip", description := "Flips a coin."
      cooldown := limit "dice" 2000 } fun _ => pure ()).register
    { name := "Roll", description := "Rolls two dice."
      cooldown := limit "pairs" 3000 } fun _ => pure ()

/-- The name leads to the last command, which gets a bucket of its own. -/
def diceSettings : Config :=
  { accounts := []
    commands := { overrides := [("roll", { windowSeconds := 5 })] } }

/-- The first command is invoked by the word that is left to it. -/
def diceEvent : Event :=
  ⟨0, "user", "lobby", "lobby", .message "first" ".r"⟩

/-- The use of a command whose name leads elsewhere is reserved in the bucket
that it shares; nobody uses the bucket that the override has replaced. -/
theorem diceBot_use_counted :
    let bot := (start diceSettings diceCommands hostHorizon).happenAll
      [.register "keeper", .fleet (.joined 0 "lobby")]
    (bot.cooldowns.window? "dice" = some 2000 ∧
      bot.cooldowns.window? "Roll" = some 5000 ∧
      bot.cooldowns.window? "pairs" = none) ∧
    (∃ cooldown, LastUse "dice" cooldown bot.commands.definitions ∧
      cooldown.window = 2000) ∧
    ∃ (task : ProcessTask) (reservation : Reservation),
      (bot.receive diceEvent).1 = .launched task.pid ∧
      task.reservation? = some reservation ∧
      reservation.bucket = "dice" ∧ reservation.key = "lobby" := by
  intro bot
  have run : Run (start diceSettings diceCommands hostHorizon) _ bot :=
    .of_occurrences
      [Occurrence.register "keeper", .fleet (.joined 0 "lobby")] _
  obtain ⟨_, covers, _, counted⟩ :=
    (every_use_counted diceSettings diceCommands hostHorizon).2 _ _ run
  have dice : bot.cooldowns.window? "dice" = some 2000 := by decide +kernel
  refine ⟨⟨dice, by decide +kernel, by decide +kernel⟩,
    (covers.declared "dice" 2000).mp dice, ?_⟩
  obtain ⟨entry, reaches, limited⟩ : ∃ entry, Reaches diceEvent entry bot ∧
      entry.definition.cooldown = some
        { bucket := "dice", window := 1000, scope := .room } :=
    exists_reaches "r" "" ⟨0, "lobby"⟩ (by decide +kernel) rfl
      (by decide +kernel) (by decide +kernel) (by decide +kernel)
  have launched : (bot.receive diceEvent).1 = .launched 0 := by
    decide +kernel
  rcases counted diceEvent entry _ reaches limited with
    ⟨remaining, refused⟩ | ⟨task, reservation, launches, _, reserved, rest⟩ |
    ⟨broke, _⟩
  · cases launched.symm.trans refused
  · exact ⟨task, reservation, launches, reserved, rest⟩
  · cases launched.symm.trans broke

end World

end Switchboard
