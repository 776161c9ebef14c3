import Switchboard.Builtin.Help
import Switchboard.Proofs.Bot.Privilege
import Switchboard.Proofs.Catalogue.Lookup
import Switchboard.Proofs.Config
import Switchboard.Proofs.Message

/-!
# Which prefixes can be used

The check of the configuration lets every prefix through but the empty one.
With a prefix that starts with a blank nothing can be invoked.  With any other
one every command that help shows can be invoked by the text that help shows,
if its name is a word and no later command shadows it.
-/

namespace Switchboard

namespace Builtin

/-- The lines of the answer of help. -/
def helpLines (commandPrefix : String) (isAdmin : Bool)
    (commands : List CommandDef) : List String :=
  let (admin, general) := commands.partition CommandDef.adminOnly
  Notice.helpHeader :: general.map (helpLine commandPrefix) ++
    if admin.isEmpty || !isAdmin then []
    else Notice.adminSection :: admin.map (helpLine commandPrefix)

section

variable {commandPrefix line : String} {isAdmin : Bool}
  {commands : List CommandDef}

theorem helpText_eq_intercalate :
    helpText commandPrefix isAdmin commands =
      "\n".intercalate (helpLines commandPrefix isAdmin commands) := rfl

/-- Help has a line for every command, but those for administrators it shows
to nobody else. -/
theorem mem_helpLines_iff :
    line ∈ helpLines commandPrefix isAdmin commands ↔
      line = Notice.helpHeader ∨
      (line = Notice.adminSection ∧ isAdmin = true ∧
        ∃ command ∈ commands, command.adminOnly = true) ∨
      ∃ command ∈ commands, (command.adminOnly = true → isAdmin = true) ∧
        line = helpLine commandPrefix command := by
  have listed : ∀ keep : CommandDef → Bool,
      line ∈ (commands.filter keep).map (helpLine commandPrefix) ↔
        ∃ command ∈ commands, keep command = true ∧
          line = helpLine commandPrefix command := by
    intro keep
    constructor
    · intro member
      obtain ⟨command, kept, rfl⟩ := List.mem_map.mp member
      obtain ⟨known, keeps⟩ := List.mem_filter.mp kept
      exact ⟨command, known, keeps, rfl⟩
    · rintro ⟨command, known, keeps, rfl⟩
      exact List.mem_map_of_mem (List.mem_filter.mpr ⟨known, keeps⟩)
  have section_ : line ∈ (if (commands.filter CommandDef.adminOnly).isEmpty ||
        !isAdmin then []
      else Notice.adminSection ::
        (commands.filter CommandDef.adminOnly).map
          (helpLine commandPrefix)) ↔
      isAdmin = true ∧ ((line = Notice.adminSection ∧
          ∃ command ∈ commands, command.adminOnly = true) ∨
        ∃ command ∈ commands, command.adminOnly = true ∧
          line = helpLine commandPrefix command) := by
    rw [← listed]
    by_cases some : ∃ command ∈ commands, command.adminOnly = true
    · have filled : (commands.filter CommandDef.adminOnly).isEmpty = false := by
        simpa using some
      cases isAdmin <;> simp [filled, some]
    · have empty : commands.filter CommandDef.adminOnly = [] := by
        simpa using some
      simp [empty, some]
  unfold helpLines
  rw [List.partition_eq_filter_filter]
  dsimp only
  rw [List.cons_append, List.mem_cons, List.mem_append, listed, section_]
  constructor
  · rintro (header | ⟨command, known, general, same⟩ |
      ⟨admin, ⟨headed, some⟩ | ⟨command, known, _, same⟩⟩)
    · exact .inl header
    · refine .inr (.inr ⟨command, known, fun restricted => ?_, same⟩)
      simp [restricted] at general
    · exact .inr (.inl ⟨headed, admin, some⟩)
    · exact .inr (.inr ⟨command, known, fun _ => admin, same⟩)
  · rintro (header | ⟨headed, admin, some⟩ | ⟨command, known, shown, same⟩)
    · exact .inl header
    · exact .inr (.inr ⟨admin, .inl ⟨headed, some⟩⟩)
    · cases restricted : command.adminOnly with
      | false =>
          exact .inr (.inl ⟨command, known, by simp [restricted], same⟩)
      | true =>
          exact .inr (.inr ⟨shown restricted,
            .inr ⟨command, known, restricted, same⟩⟩)

theorem helpLine_eq (command : CommandDef) :
    ∃ rest, helpLine commandPrefix command =
      "* `" ++ (commandPrefix ++ command.name) ++ rest := by
  unfold helpLine Notice.helpLine
  cases command.usage with
  | none =>
      refine ⟨"`: " ++ command.description, ?_⟩
      simp only [String.append_assoc]
      rfl
  | some usage =>
      refine ⟨" " ++ usage ++ "`: " ++ command.description, ?_⟩
      simp only [String.append_assoc]
      rfl

end

end Builtin

theorem Config.commandPrefix_ne_of_validate {config : Config}
    (valid : config.validate = .ok ()) :
    config.commands.commandPrefix ≠ "" :=
  validate_eq_ok_iff.mp valid .writtenPrefix

namespace World

/-- The owner of its room delivers a message with some text, and the bot can
speak there. -/
structure Utters (event : Event) (text : String) (world : World) : Prop where
  owner : world.territory.fleet.isOwner event.shred event.room = true
  kind : event.kind = .message
  text : event.bodyText = text
  speaks : ∃ chat, (world.territory.fleet.ownerOf event.room).bind
    (world.gateway.chat? · event.room) = some chat

/-- An event invokes a command with arguments: it launches the command with
them, or is told that the cooldown of the command is still running, or the
cooldown that would start ends past the horizon of the clock. -/
inductive Invokes (event : Event) (entry : CatalogueEntry Handler)
    (arguments : String) (world : World) : Prop where
  | refused (cooldown : Cooldown) (remaining : Nat) :
      entry.definition.cooldown = some cooldown →
      (world.receive event).1 = .ratelimited remaining →
      Invokes event entry arguments world
  | broken (cooldown : Cooldown) :
      entry.definition.cooldown = some cooldown →
      world.Endless cooldown →
      (world.receive event).1 = .panicked →
      Invokes event entry arguments world
  | launched (task : ProcessTask) (invocation : Invocation) :
      (world.receive event).1 = .launched task.pid →
      (world.receive event).2.tasks = world.tasks ++ [.process task] →
      task.stage = .unbuilt (.ok (entry.handler invocation)) →
      invocation.event = event → invocation.arguments = arguments →
      Invokes event entry arguments world

section

variable {settings : Config} {commands : List (CommandDef × Handler)}
  {horizon : Nat} {episodes : List Episode} {world : World} {event : Event}
  {entry : CatalogueEntry Handler} {word arguments : String} {chat : Chat}
  {position : Nat}

/-- A command that may be used is launched, unless its cooldown is running or
would end past the horizon. -/
theorem receive_of_addressed
    (addressed : Addressed event word arguments chat world)
    (found : world.commands.find? word = some entry)
    (permitted : entry.definition.adminOnly = true →
      world.config.system.isAdmin event.actor = true) :
    (∃ cooldown remaining, entry.definition.cooldown = some cooldown ∧
      (world.receive event).1 = .ratelimited remaining) ∨
    (∃ cooldown, entry.definition.cooldown = some cooldown ∧
      world.Endless cooldown ∧ (world.receive event).1 = .panicked) ∨
    ∃ task : ProcessTask, (world.receive event).1 = .launched task.pid ∧
      (world.receive event).2.tasks = world.tasks ++ [.process task] := by
  have reaches := addressed.reaches found permitted
  obtain ⟨agenda, waiter, given, room, now, received⟩ :=
    receive_of_reaches reaches
  rw [received, launchOrRefuse, acquire_eq]
  generalize asked : ({ world with agenda, waiter } : World).admission
    entry.definition event.origin = answer
  obtain ⟨verdict, cooldowns⟩ := answer
  cases verdict with
  | limited remaining =>
      cases limit : entry.definition.cooldown with
      | none =>
          rw [admission, limit] at asked
          cases asked
      | some cooldown => exact .inl ⟨cooldown, remaining, rfl, rfl⟩
  | beyond =>
      cases limit : entry.definition.cooldown with
      | none =>
          rw [admission, limit] at asked
          cases asked
      | some cooldown =>
          simp only [admission, limit, now] at asked
          have turn := world.cooldowns.acquire_acquisition world.agenda.now
            cooldown.bucket (cooldown.keyFor event.origin)
          rw [asked] at turn
          cases turn with
          | beyond declared _ beyond =>
              exact .inr (.inl ⟨cooldown, rfl, ⟨_, declared, beyond⟩, rfl⟩)
  | uncounted =>
      obtain ⟨task, launched, tasks, _⟩ := launchCommand_eq entry event given
        room none { world with agenda, waiter, cooldowns }
      exact .inr (.inr ⟨task, launched, tasks⟩)
  | reserved reservation =>
      obtain ⟨task, launched, tasks, _⟩ := launchCommand_eq entry event given
        room (some reservation) { world with agenda, waiter, cooldowns }
      exact .inr (.inr ⟨task, launched, tasks⟩)

theorem Addressed.invokes
    (addressed : Addressed event word arguments chat world)
    (found : world.commands.find? word = some entry)
    (permitted : entry.definition.adminOnly = true →
      world.config.system.isAdmin event.actor = true) :
    Invokes event entry arguments world := by
  have reaches := addressed.reaches found permitted
  have reception := receive_reception event world
  rcases receive_of_addressed addressed found permitted with
    ⟨cooldown, remaining, limited, refused⟩ |
    ⟨cooldown, limited, endless, broke⟩ |
    ⟨task, launched, tasks⟩
  · exact .refused cooldown remaining limited refused
  · exact .broken cooldown limited endless broke
  · have there : (world.receive event).2.tasks[world.tasks.length]? =
        some (.process task) := by
      rw [tasks, List.getElem?_concat_length]
    obtain ⟨other, invocation, alike, invoked, ⟨_, parsed, _⟩, _, _, stage⟩ :=
      reception.launches there
    obtain rfl := reaches.unique alike
    cases addressed.parsed.symm.trans parsed
    exact .launched task invocation launched tasks stage invoked rfl

/-- Every word leads to the last command that answers to it, all along. -/
theorem Run.indexed
    (run : Run (World.start settings (.ofCommands commands) horizon) episodes
      world) :
    world.commands.Indexed := by
  rw [run.accounted.commands]
  exact (Catalogue.indexed_ofCommands commands).overrideAll _

/-- The text that is written for a command invokes it. -/
theorem Run.invokes
    (run : Run (World.start settings (.ofCommands commands) horizon) episodes
      world)
    (usable : Message.Usable settings.commands.commandPrefix)
    (here : world.commands.entries[position]? = some entry)
    (isWord : Text.IsWord entry.definition.name.toList)
    (free : world.commands.Unshadowed entry.definition.name position)
    (permitted : entry.definition.adminOnly = true →
      world.config.system.isAdmin event.actor = true)
    (bare : Text.Bare arguments.toList)
    (utters : Utters event (Message.write settings.commands.commandPrefix
      entry.definition.name arguments) world) :
    Invokes event entry arguments world := by
  obtain ⟨chat, speaks⟩ := utters.speaks
  have addressed :
      Addressed event entry.definition.name arguments chat world := by
    refine ⟨utters.owner, utters.kind, ?_, speaks⟩
    rw [run.config, utters.text]
    exact usable _ _ isWord bare
  have found : world.commands.find? entry.definition.name = some entry :=
    run.indexed.find?_eq_some_iff.mpr
      ⟨position, here, entry.definition.answersTo_name, free⟩
  exact addressed.invokes found permitted

theorem receive_ne_launched
    (nothing : ∀ body, Message.parse?
      world.config.commands.commandPrefix body = none)
    (event : Event) (pid : Pid) : (world.receive event).1 ≠ .launched pid := by
  refine (receive_of_not_reaches fun entry reaches => ?_).1 pid
  obtain ⟨_, _, parsed, _⟩ := reaches.command
  cases (nothing event.bodyText).symm.trans parsed

/-- A prefix that passes the check of the configuration can be used just if it
does not start with a blank; otherwise no message launches anything.  If it can
be used, every command whose name is a word and is not shadowed is invoked, by
all to whom help shows it, by the text that help shows, and by that text with
any arguments behind it. -/
theorem prefix_usable_iff (valid : settings.validate = .ok ())
    (commands : List (CommandDef × Handler)) :
    ∃ first, settings.commands.commandPrefix.toList.head? = some first ∧
      (Message.Usable settings.commands.commandPrefix ↔
        Text.isBlank first = false) ∧
      ∀ episodes world,
        Run (start settings (.ofCommands commands) horizon) episodes world →
        (Text.isBlank first = true →
          (∀ body, Message.parse? settings.commands.commandPrefix body =
            none) ∧
          ∀ event pid, (world.receive event).1 ≠ .launched pid) ∧
        (Text.isBlank first = false →
          ∀ position entry, world.commands.entries[position]? = some entry →
            Text.IsWord entry.definition.name.toList →
            world.commands.Unshadowed entry.definition.name position →
            ∀ event, (entry.definition.adminOnly = true →
                world.config.system.isAdmin event.actor = true) →
              (∃ lines, Builtin.helpText settings.commands.commandPrefix
                  (world.config.system.isAdmin event.actor)
                  world.commands.definitions = "\n".intercalate lines ∧
                ∃ line ∈ lines, ∃ rest, line = "* `" ++
                  (settings.commands.commandPrefix ++
                    entry.definition.name) ++ rest) ∧
              ∀ arguments, Text.Bare arguments.toList →
                Utters event (Message.write settings.commands.commandPrefix
                  entry.definition.name arguments) world →
                Invokes event entry arguments world) := by
  obtain ⟨first, starts⟩ : ∃ first,
      settings.commands.commandPrefix.toList.head? = some first := by
    rw [← Option.isSome_iff_exists, List.isSome_head?]
    exact mt String.toList_eq_nil_iff.mp
      (Config.commandPrefix_ne_of_validate valid)
  have usable : Message.Usable settings.commands.commandPrefix ↔
      Text.isBlank first = false := by
    rw [Message.usable_iff, starts]
    simp
  refine ⟨first, starts, usable, fun episodes world run => ⟨?_, ?_⟩⟩
  · intro blank
    have nothing := Message.parse?_eq_none_of_first starts blank
    refine ⟨nothing, receive_ne_launched ?_⟩
    rw [run.config]
    exact nothing
  · intro solid position entry here isWord free event permitted
    refine ⟨⟨_, Builtin.helpText_eq_intercalate, _,
      Builtin.mem_helpLines_iff.mpr (.inr (.inr
        ⟨entry.definition, ?_, permitted, rfl⟩)), Builtin.helpLine_eq _⟩, ?_⟩
    · exact List.mem_map_of_mem (List.mem_of_getElem? here)
    · intro arguments bare utters
      exact run.invokes (usable.mpr solid) here isWord free permitted bare
        utters

end

/-- Everything is in order but the prefix, which starts with a blank. -/
def indentedSettings : Config :=
  { accounts := [⟨"keeper", "https://x", "keeper", "secret", none⟩]
    commands := { commandPrefix := " !" } }

/-- The settings pass the check, and help shows a command under the prefix, but
the prefix cannot be used. -/
theorem indentedSettings_unusable :
    indentedSettings.validate = .ok () ∧
      Builtin.helpLine indentedSettings.commands.commandPrefix
        { name := "hi", description := "Says hello." } =
          "* ` !hi`: Says hello." ∧
      Message.parse? indentedSettings.commands.commandPrefix " !hi" = none ∧
      ¬Message.Usable indentedSettings.commands.commandPrefix := by
  refine ⟨by decide +kernel, by decide +kernel, by decide +kernel, ?_⟩
  intro usable
  have read := usable "hi" "" (by decide) (by decide)
  rw [Message.parse?_eq_none_of_first (c := ' ') rfl (by decide)] at read
  cases read

/-- Settings with a prefix that ends in a blank, which does no harm. -/
def politeSettings : Config :=
  { indentedSettings with commands := { commandPrefix := "bot, " } }

/-- One command, and one for administrators. -/
def politeCommands : List (CommandDef × Handler) :=
  [({ name := "hi", description := "Says hello." }, fun _ => pure ()),
    ({ name := "halt", description := "Stops.", adminOnly := true },
      fun _ => pure ())]

/-- The text that help shows for a command, with an argument. -/
def politeEvent : Event :=
  ⟨0, "user", "lobby", "lobby", .message "first" "bot, hi there"⟩

/-- The prefix can be used, and so the command is invoked. -/
theorem politeSettings_usable :
    politeSettings.validate = .ok () ∧
      Message.Usable politeSettings.commands.commandPrefix ∧
      let bot := (start politeSettings (.ofCommands politeCommands)
        hostHorizon).happenAll
          [.register "keeper", .fleet (.joined 0 "lobby")]
      ∃ entry, bot.commands.entries[0]? = some entry ∧
        Invokes politeEvent entry "there" bot := by
  have valid : politeSettings.validate = .ok () := by decide +kernel
  obtain ⟨first, starts, usable, runs⟩ :=
    prefix_usable_iff valid politeCommands
  have solid : Text.isBlank first = false := by
    cases starts
    decide
  refine ⟨valid, usable.mpr solid, ?_⟩
  intro bot
  have run : Run (start politeSettings (.ofCommands politeCommands)
      hostHorizon) _ bot :=
    .of_occurrences
      [Occurrence.register "keeper", .fleet (.joined 0 "lobby")] _
  have free : bot.commands.Unshadowed "hi" 0 := by
    intro later other after here
    match later, after with
    | 1, _ =>
        cases here
        rintro ⟨own, member, same⟩
        cases List.mem_singleton.mp member
        exact absurd same (by decide +kernel)
    | _ + 2, _ => cases here
  have utters : Utters politeEvent "bot, hi there" bot :=
    ⟨by decide +kernel, rfl, rfl, ⟨0, "lobby"⟩, by decide +kernel⟩
  obtain ⟨_, invokes⟩ := (runs _ bot run).2 solid 0 _ rfl
    (by decide +kernel) free politeEvent fun restricted => nomatch restricted
  exact ⟨_, rfl, invokes "there" (by decide +kernel) utters⟩

end World

end Switchboard
