import Switchboard.Proofs.Bot.Accounting
import Switchboard.Proofs.Bot.Reception
import Switchboard.Proofs.Bot.SubscriptionCustody
import Switchboard.Proofs.Catalogue

/-!
# Privilege

The body of a command is started by a message that invokes it, and for a
command of administrators that is the message of one of them.  Of the built-in
commands everybody else has the one that gives help.  So as long as no
administrator speaks nobody is killed, no deadline is lifted and no room is
left, whatever else happens.
-/

namespace Switchboard

/-- A process is launched without a router. -/
def Occurrence.isLaunch : Occurrence → Bool
  | .launch .. => true
  | _ => false

/-- Somebody kills a process or lifts deadlines, and not by a command. -/
def Occurrence.meddles : Occurrence → Bool
  | .interrupt _ | .interruptHeld _ | .lift _ | .liftHeld _ => true
  | _ => false

/-- A message of an administrator is received. -/
def Occurrence.isAdminMessage (settings : SystemSettings) : Occurrence → Bool
  | .receive event => event.kind == .message && settings.isAdmin event.actor
  | _ => false

/-- A task gets the floor and starts the body of its process. -/
def Episode.Starts (task : ProcessTask) (program : Program Unit)
    (episode : Episode) : Prop :=
  ∃ position, episode.mover? = some position ∧
    episode.before.tasks[position]? = some (.process task) ∧
    task.stage = .unbuilt (.ok program) ∧
    episode.after.tasks[position]? =
      some (.process { task with stage := .body (.running program) })

/-- A process was launched by a message that invokes a command, and the one
who wrote it is an administrator if the command is for these only. -/
structure Invoked (config : Config) (commands : Catalogue Handler)
    (episodes : List Episode) (pid : Pid) (event : Event)
    (entry : CatalogueEntry Handler) (invocation : Invocation) : Prop where
  kind : event.kind = .message
  concerns : invocation.event = event
  received : ∃ episode ∈ episodes, episode.occurrence = .receive event ∧
    (episode.before.receive event).1 = .launched pid
  command : ∃ word, Message.parse? config.commands.commandPrefix
      event.bodyText = some (word, invocation.arguments) ∧
    commands.find? word = some entry
  permitted : entry.definition.adminOnly = true →
    ∃ admin ∈ config.system.admins,
      equalIgnoringAsciiCase admin event.actor = true

/-- A process has not been killed. -/
def Process.Unharmed (process : Process) : Prop :=
  process.state ≠ .interrupted ∧ process.killed = false

/-- No process has been killed. -/
def ProcessTable.Unharmed (table : ProcessTable) : Prop :=
  ∀ (pid : Pid) (process : Process),
    table.all[pid]? = some process → process.Unharmed

theorem ProcessTable.Unharmed.modify {table : ProcessTable} {pid : Pid}
    {change : Process → Process} (unharmed : table.Unharmed)
    (harmless : ∀ process : Process, process.Unharmed →
      (change process).Unharmed) :
    (table.modify pid change).Unharmed := by
  intro other process here
  rw [ProcessTable.all_modify] at here
  split at here
  · obtain ⟨before, known, rfl⟩ := Option.map_eq_some_iff.mp here
    exact harmless before (unharmed other before known)
  · exact unharmed other process here

/-- What may become of the stage of a task in one turn: the body that is built
is the one that was to be built. -/
structure Stage.LeadsTo (before after : Stage) : Prop where
  uses : ∀ allowed, before.Uses allowed → after.Uses allowed
  unbuilt : ∀ body, after = .unbuilt body → before = .unbuilt body

theorem Invoked.later {settings : Config} {commands : Catalogue Handler}
    {episodes : List Episode} {pid : Pid} {event : Event}
    {entry : CatalogueEntry Handler} {invocation : Invocation}
    (more : Episode)
    (invoked : Invoked settings commands episodes pid event entry invocation) :
    Invoked settings commands (episodes ++ [more]) pid event entry
      invocation where
  kind := invoked.kind
  concerns := invoked.concerns
  received := by
    obtain ⟨episode, member, rest⟩ := invoked.received
    exact ⟨episode, List.mem_append_left _ member, rest⟩
  command := invoked.command
  permitted := invoked.permitted

namespace World

section

variable {world after : World} {position : TaskId} {task next : ProcessTask}
  {made : TaskId → SubscriptionId → Prop} {settings : Config}
  {commands : Catalogue Handler} {horizon : Nat} {episodes : List Episode}
  {pid : Pid} {event : Event} {entry : CatalogueEntry Handler}
  {invocation : Invocation} {reader : Builtin.OptionReader}
  {selected : List String}

theorem Stride.leadsTo {activity : Activity}
    (stride : Stride position task activity world after)
    (stands : world.activity? position = some (task, activity)) :
    ∃ stage, after.tasks[position]? = some (.process { task with stage }) ∧
      task.stage.LeadsTo stage := by
  obtain ⟨found, body⟩ := activity?_eq_some stands
  have known := (List.getElem?_eq_some_iff.mp found).1
  have tasks := (Works.stepActivity (actorOf position task) activity
    world).frame.tasks
  rw [body]
  cases stride with
  | @steps next middle floor stepped =>
      rw [stepped] at tasks
      refine ⟨.body next, List.getElem?_set_self (tasks ▸ known), ?_, nofun⟩
      exact fun allowed uses => uses_stepActivity uses (.inl stepped)
  | @rests next middle floor stepped =>
      rw [stepped] at tasks
      refine ⟨.body next, List.getElem?_set_self (tasks ▸ known), ?_, nofun⟩
      exact fun allowed uses => uses_stepActivity uses (.inr stepped)
  | @ends outcome floor ending =>
      refine ⟨.closing outcome, ?_, fun _ _ => trivial, nofun⟩
      rw [(concludes position task outcome world).tasks]
      exact List.getElem?_set_self known
  | enters =>
      exact ⟨.body activity, body ▸ found, fun _ => id, fun _ => id⟩
  | @givenUp rest =>
      have frame := (Works.abandon (actorOf position task) activity
        (world.giveFloor position rest)).frame
      refine ⟨.closing (.error .interrupted), ?_, fun _ _ => trivial, nofun⟩
      rw [(concludes position task _ _).tasks]
      exact List.getElem?_set_self (frame.tasks ▸ known)

theorem Passage.leadsTo (passage : Passage position task world after)
    (found : world.tasks[position]? = some (.process task)) :
    ∃ stage, after.tasks[position]? = some (.process { task with stage }) ∧
      task.stage.LeadsTo stage := by
  have known := (List.getElem?_eq_some_iff.mp found).1
  cases passage with
  | @fails rest outcome unbuilt =>
      refine ⟨.closing outcome, ?_, fun _ _ => trivial, nofun⟩
      rw [(concludes position task outcome _).tasks]
      exact List.getElem?_set_self known
  | @builds rest program unbuilt =>
      refine ⟨.body (.running program), List.getElem?_set_self known, ?_,
        nofun⟩
      rw [unbuilt]
      exact fun _ => id
  | @tells stage _ same tells =>
      refine ⟨stage, tells.tasks ▸ List.getElem?_set_self known, ?_⟩
      rcases same with rfl | dealt
      · exact ⟨fun _ => id, fun _ => id⟩
      · constructor
        · exact fun _ _ => by cases dealt <;> trivial
        · exact fun _ unbuilt => by
            subst unbuilt
            cases dealt

theorem Orderly.leadsTo (orderly : Orderly made world)
    (found : world.tasks[position]? = some (.process task))
    (occurrence : Occurrence) :
    ∃ stage, (world.happen occurrence).tasks[position]? =
        some (.process { task with stage }) ∧ task.stage.LeadsTo stage := by
  by_cases mover : Episode.mover? ⟨world, occurrence⟩ = some position
  · obtain ⟨rfl, own⟩ := Episode.mover?_eq_some mover
    cases motion own with
    | body stands stride =>
        obtain ⟨foundToo, _⟩ := activity?_eq_some stands
        cases found.symm.trans foundToo
        exact stride.leadsTo stands
    | bodiless foundToo passage =>
        cases found.symm.trans foundToo
        exact passage.leadsTo found
    | notice notProcess => exact absurd found (notProcess task)
  · have same := (orderly.beside found occurrence mover).task
    exact ⟨task.stage, same.trans found, fun _ => id, fun _ => id⟩

theorem config_conclude (outcome : Outcome) :
    (world.conclude position task outcome).config = world.config := by
  obtain ⟨processes, waiter, released⟩ := releaseGuards_rest task.pid world
  unfold conclude
  simp only [setStage, setTask, released]

theorem Stride.config {activity : Activity}
    (stride : Stride position task activity world after) :
    after.config = world.config := by
  have frame := (Works.stepActivity (actorOf position task) activity
    world).frame
  cases stride with
  | steps floor stepped | rests floor stepped =>
      rw [stepped] at frame
      exact frame.config
  | ends floor ending => exact config_conclude _
  | enters => rfl
  | @givenUp rest =>
      have given := (Works.abandon (actorOf position task) activity
        (world.giveFloor position rest)).frame
      exact (config_conclude _).trans given.config

theorem Passage.config (passage : Passage position task world after) :
    after.config = world.config := by
  cases passage with
  | fails outcome unbuilt => exact config_conclude outcome
  | builds unbuilt => rfl
  | tells _ tells => exact tells.config

theorem frame_of_meddles {occurrence : Occurrence}
    (meddles : occurrence.meddles = true) :
    Frame 0 (fun _ => False) world (world.happen occurrence) := by
  cases occurrence with
  | interrupt pid => exact .interrupt pid
  | interruptHeld pid => exact .interruptHeld pid
  | lift pid => exact .lift pid
  | liftHeld pid => exact .liftHeld pid
  | _ => cases meddles

theorem config_happen (occurrence : Occurrence) :
    (world.happen occurrence).config = world.config := by
  cases occurrence with
  | work =>
      cases mover : world.mover? with
      | none =>
          rw [happen_work_of_nobody mover]
      | some position =>
          cases motion mover with
          | body stands stride => exact stride.config
          | bodiless found passage => exact passage.config
          | notice _ _ _ same => exact same
  | receive event =>
      obtain ⟨agenda, waiter, heard, _⟩ := dispatch_rest event world
      have offered : (world.offered event).config = world.config := by
        rw [World.offered, heard]
      have reception := receive_reception event world
      change (world.receive event).2.config = world.config
      generalize world.receive event = result at reception
      cases reception with
      | foreign => rfl
      | _ => exact offered
  | dispatch event =>
      obtain ⟨agenda, waiter, heard, _⟩ := dispatch_rest event world
      rw [happen, heard]
  | interrupt pid | interruptHeld pid | lift pid | liftHeld pid =>
      exact (frame_of_meddles rfl).config
  | _ => rfl

theorem Run.config
    (run : Run (World.start settings commands horizon) episodes world) :
    world.config = settings := by
  induction run with
  | start => rfl
  | next occurrence _ induction =>
      exact (config_happen occurrence).trans induction

/-- What a message launches: the command that it invokes. -/
theorem Reception.launches {result : Routed × World}
    (reception : Reception event world result)
    (there : result.2.tasks[world.tasks.length]? = some (.process next)) :
    ∃ (entry : CatalogueEntry Handler) (invocation : Invocation),
      Reaches event entry world ∧ invocation.event = event ∧
      (∃ word, Message.parse? world.config.commands.commandPrefix
          event.bodyText = some (word, invocation.arguments) ∧
        world.commands.find? word = some entry) ∧
      result.1 = .launched next.pid ∧ next.invocation = event ∧
      next.stage = .unbuilt (.ok (entry.handler invocation)) := by
  obtain ⟨agenda, waiter, heard, _⟩ := dispatch_rest event world
  have tasks : (world.offered event).tasks = world.tasks := by
    rw [World.offered, heard]
  have absent : world.tasks[world.tasks.length]? = none :=
    List.getElem?_eq_none (Nat.le_refl _)
  have told : ∀ {after : World} {stage : NoticeStage},
      after.tasks = world.tasks ++ [.notice stage] →
      after.tasks[world.tasks.length]? ≠ some (.process next) := by
    intro after stage added
    rw [added, List.getElem?_concat_length]
    intro same
    cases same
  have adds : ∀ {task : ProcessTask} {after : World},
      after.tasks = (world.offered event).tasks ++ [.process task] →
      after.tasks[world.tasks.length]? = some (.process next) →
      task = next := by
    intro task after added here
    rw [added, tasks, List.getElem?_concat_length] at here
    cases here
    rfl
  have leads : ∀ {entry : CatalogueEntry Handler} {word arguments : String}
      {chat : Chat}, Addressed event word arguments chat world →
      Reaches event entry world →
      Message.parse? world.config.commands.commandPrefix event.bodyText =
          some (word, arguments) ∧
        world.commands.find? word = some entry := by
    intro entry word arguments chat addressed reaches
    obtain ⟨other, _, parsed, found⟩ := reaches.command
    cases addressed.parsed.symm.trans parsed
    exact ⟨addressed.parsed, found⟩
  cases reception with
  | foreign =>
      rw [absent] at there
      cases there
  | heard | mute | broken =>
      rw [tasks, absent] at there
      cases there
  | unknown | denied | limited =>
      exact absurd there (told (congrArg (· ++ [_]) tasks))
  | free addressed reaches | counted addressed reaches =>
      cases adds rfl there
      exact ⟨_, _, reaches, rfl, ⟨_, leads addressed reaches⟩, rfl, rfl, rfl⟩

/-- Every process was launched by a message, and its body is the one of the
command that the message invokes. -/
def Invited (settings : Config) (commands : Catalogue Handler)
    (episodes : List Episode) (world : World) : Prop :=
  ∀ (position : TaskId) (task : ProcessTask),
    world.tasks[position]? = some (.process task) →
      ∃ entry invocation, Invoked settings commands episodes task.pid
          task.invocation entry invocation ∧
        ∀ body, task.stage = .unbuilt body →
          body = .ok (entry.handler invocation)

theorem Invited.happen
    (run : Run (World.start settings commands horizon) episodes world)
    (invited : Invited settings commands episodes world)
    {occurrence : Occurrence} (routed : occurrence.isLaunch = false) :
    Invited settings commands (episodes ++ [⟨world, occurrence⟩])
      (world.happen occurrence) := by
  intro position next there
  rcases run.orderly.task_cases occurrence there with
    ⟨task, found⟩ | ⟨absent, work, rfl, _⟩
  · obtain ⟨stage, set, leads⟩ := run.orderly.leadsTo found occurrence
    cases there.symm.trans set
    obtain ⟨entry, invocation, invoked, body⟩ := invited position task found
    exact ⟨entry, invocation, invoked.later _, fun unbuilt same =>
      body unbuilt (leads.unbuilt unbuilt same)⟩
  · have stays : (world.happen occurrence).tasks ≠ world.tasks := by
      intro same
      rw [same, absent] at there
      cases there
    cases occurrence with
    | work => exact absurd rfl work
    | launch => cases routed
    | receive event =>
        obtain ⟨found, invocation, reaches, concerns, ⟨word, parsed, leads⟩,
          launched, same, body⟩ := (receive_reception event world).launches
            there
        rw [run.config] at parsed
        rw [run.accounted.commands] at leads
        obtain ⟨entry, known, recast⟩ := Catalogue.find?_overrideAll leads
        refine ⟨entry, invocation, ⟨?_, ?_, ?_, ?_, ?_⟩, fun unbuilt here => ?_⟩
        · exact same ▸ reaches.kind
        · exact concerns.trans same.symm
        · refine ⟨⟨world, .receive event⟩, by simp, ?_, ?_⟩
          · rw [same]
          · rw [same]
            exact launched
        · rw [same]
          exact ⟨word, parsed, known⟩
        · intro adminOnly
          have admin := reaches.permitted (recast.adminOnly ▸ adminOnly)
          rw [run.config, SystemSettings.isAdmin, List.any_eq_true] at admin
          exact same ▸ admin
        · cases here.symm.trans body
          rw [recast.handler]
    | dispatch event =>
        obtain ⟨agenda, waiter, heard, _⟩ := dispatch_rest event world
        exact absurd (by rw [World.happen, heard]) stays
    | interrupt pid | interruptHeld pid | lift pid | liftHeld pid =>
        exact absurd (frame_of_meddles rfl).tasks stays
    | _ => exact absurd rfl stays

theorem Run.invited
    (run : Run (World.start settings commands horizon) episodes world)
    (routed : ∀ episode ∈ episodes, episode.occurrence.isLaunch = false) :
    Invited settings commands episodes world := by
  induction run with
  | start => exact fun position task found => by cases found
  | next occurrence prior induction =>
      refine Invited.happen prior (induction fun episode member => ?_) ?_
      · exact routed episode (List.mem_append_left _ member)
      · exact routed _ (List.mem_append_right _ List.mem_cons_self)

/-- A body that is started is the one of the command that the message that
launched its process invokes. -/
theorem Run.starts_invoked
    (run : Run (World.start settings commands horizon) episodes world)
    (routed : ∀ episode ∈ episodes, episode.occurrence.isLaunch = false)
    {episode : Episode} (member : episode ∈ episodes)
    {program : Program Unit} (starts : episode.Starts task program) :
    ∃ entry invocation, program = entry.handler invocation ∧
      Invoked settings commands episodes task.pid task.invocation entry
        invocation := by
  induction run with
  | start => cases member
  | @next earlier world occurrence prior induction =>
      have before : ∀ episode ∈ earlier, episode.occurrence.isLaunch = false :=
        fun episode member => routed episode (List.mem_append_left _ member)
      rcases List.mem_append.mp member with early | last
      · obtain ⟨entry, invocation, same, invoked⟩ := induction before early
        exact ⟨entry, invocation, same, invoked.later _⟩
      · cases List.mem_singleton.mp last
        obtain ⟨position, _, found, unbuilt, _⟩ := starts
        obtain ⟨entry, invocation, invoked, body⟩ :=
          Run.invited prior before position task found
        exact ⟨entry, invocation, Except.ok.inj (body _ unbuilt),
          invoked.later _⟩

/-- Nobody has been killed, no deadline has been lifted and no room has been
left, and no body is about to do such a thing. -/
structure Tranquil (world : World) : Prop where
  unharmed : world.processes.Unharmed
  lifted : ∀ id, (world.waiter.handoff id).lifted = false
  deeds : ∀ deed ∈ world.deeds, deed.act.isLeave = false
  stages : ∀ (position : TaskId) (task : ProcessTask),
    world.tasks[position]? = some (.process task) →
      task.stage.Uses fun call => call.isPlain = true

theorem unharmed_conclude (outcome : Outcome)
    (unharmed : world.processes.Unharmed) :
    (world.conclude position task outcome).processes.Unharmed := by
  have released : (world.releaseGuards task.pid).processes.Unharmed :=
    releaseGuards_induction
      (motive := fun after => after.processes.Unharmed) unharmed
      (fun _ _ _ _ _ kept => kept.modify fun _ before => before)
      fun _ kept => kept.modify fun _ before => before
  refine released.modify ?_
  exact fun process before => ⟨nofun, before.2⟩

theorem Discreet.unharmed (discreet : Discreet world after)
    (unharmed : world.processes.Unharmed) : after.processes.Unharmed := by
  intro pid process here
  have same := discreet.cores pid
  rw [here, Option.map_some] at same
  obtain ⟨before, known, core⟩ := Option.map_eq_some_iff.mp same.symm
  obtain ⟨alive, notKilled⟩ := unharmed pid before known
  have state : before.core.state = process.core.state := core ▸ rfl
  have killed : before.core.killed = process.core.killed := core ▸ rfl
  exact ⟨fun struck => alive (state.trans struck), killed.symm.trans notKilled⟩

namespace Tranquil

theorem start (settings : Config) (commands : Catalogue Handler)
    (horizon : Nat) :
    Tranquil (World.start settings commands horizon) where
  unharmed := fun pid process here => by cases here
  lifted := fun _ => rfl
  deeds := fun deed member => by cases member
  stages := fun position task found => by cases found

theorem plain {activity : Activity} (tranquil : Tranquil world)
    (stands : world.activity? position = some (task, activity)) :
    activity.isPlain = true := by
  obtain ⟨found, body⟩ := activity?_eq_some stands
  have uses := tranquil.stages position task found
  rw [body] at uses
  cases activity with
  | running program =>
      cases program with
      | call call next => exact uses.1
      | _ => rfl
  | resolving resolving next => exact uses.1
  | _ => rfl

theorem kept (tranquil : Tranquil world) : world.kept = [] := by
  rw [List.eq_nil_iff_forall_not_mem]
  intro pid member
  obtain ⟨other, task, pids, next, _, stands, _⟩ := mem_kept member
  cases tranquil.plain stands

/-- In a turn nobody is killed and no room is left. -/
theorem turn (tranquil : Tranquil world)
    (mover : world.mover? = some position) :
    (world.happen .work).processes.Unharmed ∧
      ∀ deed ∈ (world.happen .work).deeds, deed.act.isLeave = false := by
  have quiet : ∀ {after : World}, Discreet world after →
      after.processes.Unharmed ∧
        ∀ deed ∈ after.deeds, deed.act.isLeave = false := by
    intro after discreet
    refine ⟨discreet.unharmed tranquil.unharmed, fun deed member => ?_⟩
    rcases discreet.deeds deed member with before | stays
    · exact tranquil.deeds deed before
    · exact stays
  have moved := motion mover
  generalize world.happen .work = after at moved ⊢
  cases moved with
  | @body task activity stands stride =>
      have discreet : Discreet world (world.stepActivity
          (actorOf position task) activity).2 :=
        .stepActivity (tranquil.plain stands)
      cases stride with
      | steps floor stepped | rests floor stepped =>
          have calm := quiet discreet
          rw [stepped] at calm
          exact calm
      | ends floor ending =>
          refine ⟨unharmed_conclude _ tranquil.unharmed, ?_⟩
          rw [(concludes position task _ world).deeds]
          exact tranquil.deeds
      | enters floor => exact ⟨tranquil.unharmed, tranquil.deeds⟩
      | givenUp floor killed =>
          unfold isKilled at killed
          cases here : world.processes.all[task.pid]? with
          | none => simp [here] at killed
          | some process =>
              have alive := (tranquil.unharmed task.pid process here).2
              simp [here, alive] at killed
  | bodiless found passage =>
      cases passage with
      | fails outcome unbuilt =>
          refine ⟨unharmed_conclude _ tranquil.unharmed, ?_⟩
          rw [(concludes position _ outcome _).deeds]
          exact tranquil.deeds
      | builds unbuilt => exact ⟨tranquil.unharmed, tranquil.deeds⟩
      | tells _ tells =>
          exact quiet ⟨fun pid => by rw [tells.processes], tells.deeds⟩
  | notice _ _ _ _ discreet => exact quiet discreet

/-- What is received kills nobody and leaves no room, and what it launches
makes plain calls if it is not for administrators only. -/
theorem received (tranquil : Tranquil world)
    (restrained : ∀ (entry : CatalogueEntry Handler) (invocation : Invocation),
      Reaches event entry world → (entry.handler invocation).Uses
        fun call => call.isPlain = true) :
    (world.receive event).2.processes.Unharmed ∧
      (world.receive event).2.deeds = world.deeds ∧
      ∀ next : ProcessTask, (world.receive event).2.tasks[world.tasks.length]? =
        some (.process next) →
          next.stage.Uses fun call => call.isPlain = true := by
  obtain ⟨agenda, waiter, heard, _⟩ := dispatch_rest event world
  have processes : (world.offered event).processes = world.processes := by
    rw [World.offered, heard]
  have deeds : (world.offered event).deeds = world.deeds := by
    rw [World.offered, heard]
  have reception := receive_reception event world
  refine ⟨?_, ?_, fun next there => ?_⟩
  · have added : ∀ process : Process, process.Unharmed →
        ((world.offered event).processes.add process).2.Unharmed := by
      intro process unharmed pid other here
      rw [processes] at here
      change (world.processes.all ++ [process])[pid]? = some other at here
      rw [List.getElem?_append] at here
      split at here
      · exact tranquil.unharmed pid other here
      · rw [List.getElem?_singleton] at here
        split at here
        · cases here
          exact unharmed
        · cases here
    generalize world.receive event = result at reception
    cases reception with
    | foreign => exact tranquil.unharmed
    | free | counted => exact added _ ⟨ProcessState.noConfusion, rfl⟩
    | _ => exact processes ▸ tranquil.unharmed
  · generalize world.receive event = result at reception
    cases reception with
    | foreign => rfl
    | _ => exact deeds
  · obtain ⟨entry, invocation, reaches, _, _, _, _, body⟩ :=
      reception.launches there
    rw [body]
    exact restrained entry invocation reaches

theorem stages_happen (tranquil : Tranquil world)
    (orderly : Orderly made world) {occurrence : Occurrence}
    (newcomer : ∀ next : ProcessTask,
      (world.happen occurrence).tasks[world.tasks.length]? =
        some (.process next) →
      next.stage.Uses fun call => call.isPlain = true)
    (there : (world.happen occurrence).tasks[position]? =
      some (.process next)) :
    next.stage.Uses fun call => call.isPlain = true := by
  rcases orderly.task_cases occurrence there with
    ⟨task, found⟩ | ⟨_, _, rfl, _⟩
  · obtain ⟨stage, set, leads⟩ := orderly.leadsTo found occurrence
    cases there.symm.trans set
    exact leads.uses _ (tranquil.stages position task found)
  · exact newcomer next there

theorem lifted_happen (tranquil : Tranquil world)
    (watchful : Watchful world) (sound : world.waiter.Sound)
    {occurrence : Occurrence} (alone : occurrence.meddles = false)
    (id : SubscriptionId) :
    ((world.happen occurrence).waiter.handoff id).lifted = false := by
  have before := tranquil.lifted id
  cases offered : Episode.offered? ⟨world, occurrence⟩ with
  | some event =>
      have same : (world.happen occurrence).waiter = _ :=
        waiter_offered offered
      rw [same, Waiter.handoff_dispatch (sound.registered event.kind)]
      split <;> exact before
  | none =>
      have none : Episode.lifts ⟨world, occurrence⟩ = [] := by
        cases occurrence with
        | work => exact tranquil.kept
        | lift | liftHeld => cases alone
        | _ => rfl
      have moves := moves_unoffered watchful offered
      rw [none] at moves
      have same :=
        (moves.mono (fun _ free => free) fun some => some rfl).lifted id
      exact same.trans before

theorem happen (tranquil : Tranquil world)
    (run : Run (World.start settings commands horizon) episodes world)
    {occurrence : Occurrence} (routed : occurrence.isLaunch = false)
    (alone : occurrence.meddles = false)
    (restrained : ∀ (event : Event) (entry : CatalogueEntry Handler)
      (invocation : Invocation), occurrence = .receive event →
        Reaches event entry world → (entry.handler invocation).Uses
          fun call => call.isPlain = true) :
    Tranquil (world.happen occurrence) where
  unharmed := by
    cases occurrence with
    | work =>
        cases mover : world.mover? with
        | none =>
            rw [happen_work_of_nobody mover]
            exact tranquil.unharmed
        | some position => exact (tranquil.turn mover).1
    | receive event =>
        exact (tranquil.received fun entry invocation =>
          restrained event entry invocation rfl).1
    | dispatch event =>
        obtain ⟨agenda, waiter, heard, _⟩ := dispatch_rest event world
        rw [World.happen, heard]
        exact tranquil.unharmed
    | launch => cases routed
    | interrupt | interruptHeld | lift | liftHeld => cases alone
    | _ => exact tranquil.unharmed
  lifted := tranquil.lifted_happen run.watchful run.guarded.sound alone
  deeds := by
    cases occurrence with
    | work =>
        cases mover : world.mover? with
        | none =>
            rw [happen_work_of_nobody mover]
            exact tranquil.deeds
        | some position => exact (tranquil.turn mover).2
    | receive event =>
        have same := (tranquil.received fun entry invocation =>
          restrained event entry invocation rfl).2.1
        exact fun deed member => tranquil.deeds deed (same ▸ member)
    | dispatch event =>
        obtain ⟨agenda, waiter, heard, _⟩ := dispatch_rest event world
        rw [World.happen, heard]
        exact tranquil.deeds
    | launch => cases routed
    | interrupt | interruptHeld | lift | liftHeld => cases alone
    | _ => exact tranquil.deeds
  stages := by
    intro position task there
    refine tranquil.stages_happen run.orderly (fun next added => ?_) there
    have absent : world.tasks[world.tasks.length]? = none :=
      List.getElem?_eq_none (Nat.le_refl _)
    have nobody : (world.happen occurrence).tasks = world.tasks →
        next.stage.Uses fun call => call.isPlain = true := by
      intro same
      rw [same, absent] at added
      cases added
    cases occurrence with
    | work => exact absurd added (Accounted.work_adds_none run.orderly next)
    | receive event =>
        exact (tranquil.received fun entry invocation =>
          restrained event entry invocation rfl).2.2 next added
    | dispatch event =>
        obtain ⟨agenda, waiter, heard, _⟩ := dispatch_rest event world
        exact nobody (by rw [World.happen, heard])
    | launch => cases routed
    | interrupt | interruptHeld | lift | liftHeld => cases alone
    | _ => exact nobody rfl

end Tranquil

theorem restrained_of_builtin
    (run : Run
      (World.start settings (Builtin.catalogue reader selected) horizon)
      episodes world)
    (stranger : Occurrence.isAdminMessage settings.system (.receive event) =
      false)
    (reaches : Reaches event entry world) (invocation : Invocation) :
    (entry.handler invocation).Uses fun call => call.isPlain = true := by
  obtain ⟨word, arguments, _, leads⟩ := reaches.command
  rw [run.accounted.commands] at leads
  obtain ⟨original, known, recast⟩ := Catalogue.find?_overrideAll leads
  have everybody : original.definition.adminOnly = false := by
    cases adminOnly : original.definition.adminOnly with
    | false => rfl
    | true =>
        have admin := reaches.permitted (recast.adminOnly.trans adminOnly)
        rw [run.config] at admin
        simp [Occurrence.isAdminMessage, reaches.kind, admin] at stranger
  have builtin := Builtin.mem_commands (Catalogue.mem_of_find? known)
  rw [recast.handler]
  refine (Builtin.uses_of_not_adminOnly builtin everybody invocation).mono ?_
  rintro call ⟨text, rfl⟩
  rfl

/-- With the built-in commands alone, as long as no administrator speaks. -/
theorem Run.tranquil
    (run : Run
      (World.start settings (Builtin.catalogue reader selected) horizon)
      episodes world)
    (routed : ∀ episode ∈ episodes, episode.occurrence.isLaunch = false)
    (alone : ∀ episode ∈ episodes, episode.occurrence.meddles = false)
    (strangers : ∀ episode ∈ episodes,
      episode.occurrence.isAdminMessage settings.system = false) :
    Tranquil world := by
  induction run with
  | start => exact .start settings _ horizon
  | @next earlier world occurrence prior induction =>
      have last : (⟨world, occurrence⟩ : Episode) ∈
          earlier ++ [⟨world, occurrence⟩] :=
        List.mem_append_right _ List.mem_cons_self
      have tranquil := induction
        (fun episode member => routed episode (List.mem_append_left _ member))
        (fun episode member => alone episode (List.mem_append_left _ member))
        (fun episode member =>
          strangers episode (List.mem_append_left _ member))
      refine tranquil.happen prior (routed _ last) (alone _ last) ?_
      rintro event entry invocation rfl reaches
      exact restrained_of_builtin prior (strangers _ last) reaches invocation

/-- The body of a command is only ever started by a message that invokes it,
and if the command is for administrators only, by a message of one of them:
its actor equals a configured one but for the case of ASCII letters.  So with
the built-in commands alone, whatever reads the options of the listing, as long
as no administrator speaks and nobody meddles from outside, no process is ever
killed, no deadline is ever lifted, and no task ever makes an identity leave a
room. -/
theorem privilege_safety
    (run : Run (World.start settings commands horizon) episodes world)
    (routed : ∀ episode ∈ episodes, episode.occurrence.isLaunch = false) :
    (∀ episode ∈ episodes, ∀ (task : ProcessTask) (program : Program Unit),
      episode.Starts task program →
        ∃ entry invocation, program = entry.handler invocation ∧
          Invoked settings commands episodes task.pid task.invocation entry
            invocation) ∧
    ∀ (reader : Builtin.OptionReader) (selected : List String),
      commands = Builtin.catalogue reader selected →
      (∀ episode ∈ episodes, episode.occurrence.meddles = false) →
      (∀ episode ∈ episodes,
        episode.occurrence.isAdminMessage settings.system = false) →
      (∀ process ∈ world.processes.all, process.state ≠ .interrupted) ∧
        (∀ id, (world.waiter.handoff id).lifted = false) ∧
        ∀ deed ∈ world.deeds, deed.act.isLeave = false := by
  constructor
  · intro episode member task program starts
    exact run.starts_invoked routed member starts
  · rintro reader selected rfl alone strangers
    have tranquil := run.tranquil routed alone strangers
    refine ⟨fun process member => ?_, tranquil.lifted, tranquil.deeds⟩
    obtain ⟨pid, here⟩ := List.getElem?_of_mem member
    exact (tranquil.unharmed pid process here).1

end

/-- An administrator is configured, and a cooldown for a command of his. -/
def guardedConfig : Config where
  accounts := []
  commands := { overrides := [("KILL", { windowSeconds := 5 })] }
  system := { admins := ["@Admin:x"] }

/-- Somebody else asks for help and tries all the rest, in any letter case;
he reacts, and messages are deleted. -/
def strangerOccurrences : List Occurrence :=
  let message (id body : String) : Occurrence :=
    .receive ⟨0, "@stranger:x", "lobby", "lobby", .message id body⟩
  [.register "keeper", .fleet (.joined 0 "lobby"), message "first" ".H",
    .work, message "second" ".Kill 0", .work, message "third" ".keep 0",
    message "fourth" ".SHREDS resolve", message "fifth" ".ps --all",
    .receive ⟨0, "@stranger:x", "lobby", "lobby", .reaction "first" "y"⟩,
    .receive ⟨0, "@stranger:x", "lobby", "lobby", .deletion "first"⟩] ++
    List.replicate 30 .work

/-- He is given help, and that is all. -/
theorem strangers_get_help :
    let bot := start guardedConfig
      (Builtin.catalogue Builtin.ListOptions.read
        ["help", "ps", "kill", "keep", "shreds"]) hostHorizon
    let last := bot.happenAll strangerOccurrences
    last.processes.all.map (·.command.name) = ["help"] ∧
      last.ends.map ProcessEnd.verdict = [(0, .ok ())] ∧
      (∀ process ∈ last.processes.all, process.state ≠ .interrupted) ∧
      (∀ id, (last.waiter.handoff id).lifted = false) ∧
      ∀ deed ∈ last.deeds, deed.act.isLeave = false := by
  intro bot last
  have run : Run bot (bot.history strangerOccurrences) last :=
    .of_occurrences _ _
  have routed : ∀ episode ∈ bot.history strangerOccurrences,
      episode.occurrence.isLaunch = false := by decide +kernel
  exact ⟨by decide +kernel, by decide +kernel,
    (privilege_safety run routed).2 _ _ rfl (by decide +kernel)
      (by decide +kernel)⟩

end World

end Switchboard
