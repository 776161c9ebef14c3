import Switchboard.Proofs.Bot.Accounting
import Switchboard.Proofs.Bot.Reception
import Switchboard.Proofs.Bot.SubscriptionCustody

/-!
# What is not launched leaves no trace

A message that is refused, and an event that is no message, changes neither
the processes nor what anybody can see of the cooldowns.  The room is told at
most, and whoever waited for the event has it.  What is launched is one
process, and where its command has a cooldown one use is reserved.
-/

namespace Switchboard

/-- What the room is told with an answer of the router. -/
def Routed.notice? : Routed → Option String
  | .unknown => some Notice.unknownCommand
  | .adminOnly => some Notice.authDenied
  | .ratelimited remaining =>
    some (Notice.ratelimited (Duration.ofMillis remaining))
  | _ => none

namespace Cooldowns

variable {now : Nat} {name key : String} {one two three : Cooldowns}

/-- Whoever looks at a cooldown, now or later, sees the same. -/
def Alike (now : Nat) (one two : Cooldowns) : Prop :=
  ∀ moment, now ≤ moment → ∀ name key,
    (two.check moment name key).1 = (one.check moment name key).1

/-- Whoever looks at a cooldown, now or later, sees the same but for the one
use that has been reserved. -/
def Reserves (now : Nat) (reservation : Reservation) (one two : Cooldowns) :
    Prop :=
  ∀ moment, now ≤ moment → ∀ name key,
    (two.check moment name key).1 =
      if name = reservation.bucket ∧ key = reservation.key then
        if moment < reservation.expires then some (reservation.expires - moment)
        else none
      else (one.check moment name key).1

theorem Alike.refl (now : Nat) (cooldowns : Cooldowns) :
    Alike now cooldowns cooldowns := fun _ _ _ _ => rfl

theorem Alike.of_ends (same : ∀ name key,
    two.ends? now name key = one.ends? now name key) : Alike now one two := by
  intro moment later name key
  rw [check_eq, check_eq, ends?_later later, same, ← ends?_later later]

theorem Reserves.of_ends {reservation : Reservation}
    (ends : ∀ name key, two.ends? now name key =
      if name = reservation.bucket ∧ key = reservation.key then
        (some reservation.expires).filter (now < ·)
      else one.ends? now name key) : Reserves now reservation one two := by
  intro moment later name key
  rw [check_eq, check_eq, ends?_later later, ends]
  split
  · rw [Option.filter_filter]
    by_cases running : moment < reservation.expires
    · simp [running, Nat.lt_of_le_of_lt later running, Option.filter_some]
    · simp [running, Option.filter_some]
  · rw [← ends?_later later]

end Cooldowns

namespace World

/-- An event has been offered: those who wanted it have it and are off the
register, who watched for it is woken, and otherwise at most cooldowns and
tasks may have changed. -/
structure Heard (event : Event) (before after : World) : Prop where
  rest : ∃ agenda waiter tasks cooldowns, after =
    { before with agenda, waiter, tasks, cooldowns }
  handoffs : after.waiter.handoffs.length = before.waiter.handoffs.length
  resolved : ∀ id ∈ before.waiter.takers event,
    (before.waiter.handoff id).slot = .empty ∧
      after.waiter.handoff id =
        { before.waiter.handoff id with slot := .value event }
  others : ∀ id, id ∉ before.waiter.takers event →
    after.waiter.handoff id = before.waiter.handoff id
  registered : ∀ kind, after.waiter.registered kind =
    (before.waiter.registered kind).filter
      (·.id ∉ before.waiter.takers event)
  agenda : before.agenda.Extends after.agenda
  serial : after.agenda.serial = before.agenda.serial
  woken : ∀ position ∈ after.agenda.ready, position ∈ before.agenda.ready ∨
    before.tasks.length ≤ position ∨
      ∃ id ∈ before.waiter.takers event, ∃ task,
        before.tasks[position]? = some task ∧ id ∈ task.watched

section

variable {world middle : World} {event : Event} {position : TaskId}
  {chat : Chat} {id : SubscriptionId} {settings : Config}
  {commands : Catalogue Handler} {horizon : Nat} {episodes : List Episode}

theorem mem_watchers : position ∈ (world.tasks.zipIdx.filterMap
      fun (task, place) => if id ∈ task.watched then some place else none) ↔
    ∃ task, world.tasks[position]? = some task ∧ id ∈ task.watched := by
  constructor
  · intro member
    obtain ⟨⟨task, place⟩, listed, chosen⟩ := List.mem_filterMap.mp member
    dsimp only at chosen
    split at chosen
    · rename_i watches
      cases chosen
      exact ⟨task, List.mem_zipIdx_iff_getElem?.mp listed, watches⟩
    · cases chosen
  · rintro ⟨task, here, watches⟩
    refine List.mem_filterMap.mpr
      ⟨(task, position), List.mem_zipIdx_iff_getElem?.mpr here, ?_⟩
    exact if_pos watches

theorem wakeAllWatchers_wakes (ids : List SubscriptionId) (world : World) :
    let after := ids.foldl (fun world id => world.wakeWatchers id) world
    after.agenda.serial = world.agenda.serial ∧
      ∀ position ∈ after.agenda.ready, position ∈ world.agenda.ready ∨
        ∃ id ∈ ids, ∃ task, world.tasks[position]? = some task ∧
          id ∈ task.watched := by
  induction ids generalizing world with
  | nil => exact ⟨rfl, fun _ => .inl⟩
  | cons id rest induction =>
      obtain ⟨serial, woken⟩ := induction (world.wakeWatchers id)
      refine ⟨serial.trans (Agenda.serial_wakeAll _ _),
        fun position member => ?_⟩
      rcases woken position member with before | ⟨other, listed, watches⟩
      · refine (Agenda.ready_of_wakeAll before).imp_right fun first => ?_
        exact ⟨id, List.mem_cons_self, mem_watchers.mp first⟩
      · exact .inr ⟨other, List.mem_cons_of_mem _ listed, watches⟩

theorem heard_offered (sound : world.waiter.Sound) (event : Event) :
    Heard event world (world.offered event) := by
  have wanting := sound.registered event.kind
  have waiter : (world.offered event).waiter = _ := waiter_dispatch event world
  have frame : Frame 0 (fun _ => False) world (world.offered event) :=
    .dispatch event
  have takers : (world.waiter.dispatch event).1 =
      world.waiter.takers event := by
    rw [Waiter.dispatch_eq wanting]
  obtain ⟨serial, woken⟩ := wakeAllWatchers_wakes
    (world.waiter.dispatch event).1
    { world with waiter := (world.waiter.dispatch event).2 }
  constructor
  · obtain ⟨agenda, waiter, heard, _⟩ := dispatch_rest event world
    exact ⟨agenda, waiter, world.tasks, world.cooldowns, heard⟩
  · rw [waiter]
    exact Waiter.length_offerAll event _ world.waiter
  · intro id taker
    rw [waiter, Waiter.handoff_dispatch wanting, if_pos taker]
    obtain ⟨subscription, wants, rfl⟩ := List.mem_map.mp taker
    exact ⟨wanting.empty subscription (List.mem_of_mem_filter wants), rfl⟩
  · intro id other
    rw [waiter, Waiter.handoff_dispatch wanting, if_neg other]
  · intro kind
    rw [waiter]
    exact sound.registered_dispatch event kind
  · exact frame.agenda
  · exact serial
  · intro position member
    rcases woken position member with before | watches
    · exact .inl before
    · exact .inr (.inr (takers ▸ watches))

theorem Heard.of_cooldowns (heard : Heard event world middle)
    (cooldowns : Cooldowns) : Heard event world { middle with cooldowns } := by
  obtain ⟨agenda, waiter, tasks, counts, rfl⟩ := heard.rest
  exact ⟨⟨agenda, waiter, tasks, cooldowns, rfl⟩, heard.handoffs,
    heard.resolved, heard.others, heard.registered, heard.agenda, heard.serial,
    heard.woken⟩

theorem Heard.tell (heard : Heard event world middle)
    (tasks : middle.tasks = world.tasks) (text : String)
    (cooldowns : Cooldowns) :
    Heard event world
      (({ middle with cooldowns } : World).tell chat text) := by
  obtain ⟨agenda, waiter, others, counts, rfl⟩ := heard.rest
  have wakes : agenda.Extends (agenda.wake others.length) := .wake _ _
  constructor
  · exact ⟨_, _, _, _, rfl⟩
  · exact heard.handoffs
  · exact heard.resolved
  · exact heard.others
  · exact heard.registered
  · exact heard.agenda.trans wakes
  · exact (Agenda.serial_wake _ _).trans heard.serial
  · intro position member
    rcases Agenda.ready_of_wake member with before | rfl
    · exact heard.woken position before
    · exact .inr (.inl (Nat.le_of_eq (congrArg List.length tasks).symm))

/-- Asking for a cooldown has four answers.  Only an admitted use shows. -/
theorem Accounted.admission_cases {catalogue : Catalogue Handler}
    {uses : Use → Prop} {refunded : Pid → Prop}
    {entry : CatalogueEntry Handler}
    (accounted : Accounted catalogue horizon uses refunded world)
    (reaches : Reaches event entry world) {answer : Admission}
    {cooldowns : Cooldowns}
    (asked : world.admission entry.definition event.origin =
      (answer, cooldowns)) :
    match answer with
    | .limited _ => world.cooldowns.Alike world.agenda.now cooldowns
    | .uncounted => entry.definition.cooldown = none ∧
        cooldowns = world.cooldowns
    | .beyond => world.cooldowns.Alike world.agenda.now cooldowns
    | .reserved reservation => ∃ cooldown window,
        entry.definition.cooldown = some cooldown ∧
        world.cooldowns.window? cooldown.bucket = some window ∧
        reservation = { bucket := cooldown.bucket
                        key := cooldown.keyFor event.origin
                        expires := world.agenda.now + window } ∧
        (world.cooldowns.check world.agenda.now reservation.bucket
          reservation.key).1 = none ∧
        world.cooldowns.Reserves world.agenda.now reservation cooldowns := by
  unfold admission at asked
  cases limited : entry.definition.cooldown with
  | none =>
      rw [limited] at asked
      cases asked
      exact ⟨rfl, rfl⟩
  | some cooldown =>
      rw [limited] at asked
      dsimp only at asked
      have turn := world.cooldowns.acquire_acquisition world.agenda.now
        cooldown.bucket (cooldown.keyFor event.origin)
      rw [asked] at turn
      cases turn with
      | uncounted undeclared =>
          obtain ⟨_, declared⟩ := accounted.window?_eq reaches limited
          cases undeclared.symm.trans declared
      | limited _ _ ends => exact .of_ends ends
      | beyond _ _ _ _ ends => exact .of_ends ends
      | reserved declared idle _ _ ends =>
          refine ⟨cooldown, _, rfl, declared, rfl, ?_, .of_ends ends⟩
          rw [Cooldowns.check_eq, idle]
          rfl

/-- What is left of an event that launches nothing. -/
structure Untraced (event : Event) (answer : Routed) (before after : World) :
    Prop where
  processes : after.processes = before.processes
  cooldowns : before.cooldowns.Alike before.agenda.now after.cooldowns
  tasks : ∃ chat, after.tasks = before.tasks ++
    (answer.notice?.map fun text => Task.notice (.fresh chat text)).toList
  foreign : answer = .notOwner → after = before
  heard : answer ≠ .notOwner → Heard event before after

/-- What a message has launched: one process with a task of its own, and a
reserved use where its command has a cooldown. -/
structure Launches (event : Event) (pid : Pid) (before after : World)
    (entry : CatalogueEntry Handler) (process : Process)
    (task : ProcessTask) : Prop where
  reaches : Reaches event entry before
  number : pid = before.processes.all.length
  processes : after.processes =
    { all := before.processes.all ++ [process]
      live := before.processes.live ++ [pid] }
  process : process = .fresh entry.definition event.origin before.wallClock
    before.tasks.length
  tasks : after.tasks = before.tasks ++ [.process task]
  runs : task.pid = pid ∧ task.invocation = event
  free : entry.definition.cooldown = none →
    task.reservation? = none ∧ after.cooldowns = before.cooldowns
  counted : ∀ cooldown, entry.definition.cooldown = some cooldown →
    ∃ reservation window, task.reservation? = some reservation ∧
      before.cooldowns.window? cooldown.bucket = some window ∧
      reservation = { bucket := cooldown.bucket
                      key := cooldown.keyFor event.origin
                      expires := before.agenda.now + window } ∧
      (before.cooldowns.check before.agenda.now reservation.bucket
        reservation.key).1 = none ∧
      before.cooldowns.Reserves before.agenda.now reservation after.cooldowns

theorem Heard.untraced (heard : Heard event world middle)
    (processes : middle.processes = world.processes)
    (tasks : middle.tasks = world.tasks) {answer : Routed} {text : String}
    {cooldowns : Cooldowns} (told : answer.notice? = some text)
    (alike : world.cooldowns.Alike world.agenda.now cooldowns)
    (chat : Chat) :
    Untraced event answer world
      (({ middle with cooldowns } : World).tell chat text) where
  processes := processes
  cooldowns := alike
  tasks := ⟨chat, by rw [told]; exact congrArg (· ++ _) tasks⟩
  foreign := by
    rintro rfl
    cases told
  heard := fun _ => heard.tell tasks text cooldowns

/-- A command that is admitted is launched. -/
theorem launches_launchCommand {entry : CatalogueEntry Handler}
    {arguments : String} {reservation : Option Reservation}
    {cooldowns : Cooldowns}
    (reaches : Reaches event entry world)
    (heard : Heard event world middle)
    (processes : middle.processes = world.processes)
    (tasks : middle.tasks = world.tasks)
    (free : entry.definition.cooldown = none →
      reservation = none ∧ cooldowns = world.cooldowns)
    (counted : ∀ cooldown, entry.definition.cooldown = some cooldown →
      ∃ use window, reservation = some use ∧
        world.cooldowns.window? cooldown.bucket = some window ∧
        use = { bucket := cooldown.bucket
                key := cooldown.keyFor event.origin
                expires := world.agenda.now + window } ∧
        (world.cooldowns.check world.agenda.now use.bucket use.key).1 = none ∧
        world.cooldowns.Reserves world.agenda.now use cooldowns) :
    ∃ process task, Launches event world.processes.all.length world
      (({ middle with cooldowns } : World).launchCommand entry event arguments
        chat reservation).2 entry process task := by
  obtain ⟨_, _, _, _, same⟩ := heard.rest
  have wallClock : middle.wallClock = world.wallClock := by rw [same]
  let asked : World := { middle with cooldowns }
  let invocation := asked.invocationOf middle.processes.all.length event
    arguments
  refine ⟨.fresh entry.definition event.origin middle.wallClock
    middle.tasks.length,
    { pid := middle.processes.all.length, invocation := event, chat
      stage := .unbuilt (.ok (entry.handler invocation))
      aftermath := some { chat, reservation } }, ?_⟩
  constructor
  · exact reaches
  · rfl
  · change ProcessTable.mk (middle.processes.all ++ [_])
      (middle.processes.live ++ [middle.processes.all.length]) = _
    rw [processes]
    rfl
  · rw [wallClock, tasks]
  · exact congrArg (· ++ [_]) tasks
  · exact ⟨congrArg (fun table => table.all.length) processes, rfl⟩
  · exact free
  · exact counted

theorem Reception.traces {result : Routed × World}
    (reception : Reception event world result)
    (run : Run (World.start settings commands horizon) episodes world) :
    ((∀ pid, result.1 ≠ .launched pid) →
      Untraced event result.1 world result.2) ∧
    ∀ pid, result.1 = .launched pid → ∃ entry process task,
      Launches event pid world result.2 entry process task := by
  have heard := heard_offered run.guarded.sound event
  obtain ⟨agenda, waiter, offers, _⟩ := dispatch_rest event world
  have processes : (world.offered event).processes = world.processes := by
    rw [offered, offers]
  have tasks : (world.offered event).tasks = world.tasks := by
    rw [offered, offers]
  have cooldowns : (world.offered event).cooldowns = world.cooldowns := by
    rw [offered, offers]
  have same := Cooldowns.Alike.refl world.agenda.now world.cooldowns
  have silent : ∀ {answer : Routed} {asked : Cooldowns},
      world.cooldowns.Alike world.agenda.now asked →
      answer.notice? = none → answer ≠ .notOwner →
      Untraced event answer world
        { world.offered event with cooldowns := asked } := by
    intro answer asked alike nothing counts
    refine ⟨processes, alike, ⟨⟨0, ""⟩, ?_⟩, ?_,
      fun _ => heard.of_cooldowns asked⟩
    · rw [nothing]
      exact tasks.trans (List.append_nil _).symm
    · exact fun foreign => absurd foreign counts
  have unchanged : world.offered event =
      { world.offered event with cooldowns := world.cooldowns } := by
    rw [← cooldowns]
  cases reception with
  | foreign notOwner =>
      refine ⟨fun _ => ⟨rfl, same, ⟨⟨0, ""⟩, ?_⟩, fun _ => rfl, ?_⟩,
        fun _ => Routed.noConfusion⟩
      · exact (List.append_nil _).symm
      · exact fun counts => absurd rfl counts
  | heard owner nothing =>
      rw [unchanged]
      exact ⟨fun _ => silent same rfl Routed.noConfusion,
        fun _ => Routed.noConfusion⟩
  | mute owner nobody =>
      rw [unchanged]
      exact ⟨fun _ => silent same rfl Routed.noConfusion,
        fun _ => Routed.noConfusion⟩
  | unknown addressed =>
      rw [unchanged]
      exact ⟨fun _ => heard.untraced processes tasks rfl same _,
        fun _ => Routed.noConfusion⟩
  | denied addressed =>
      rw [unchanged]
      exact ⟨fun _ => heard.untraced processes tasks rfl same _,
        fun _ => Routed.noConfusion⟩
  | limited addressed reaches asked =>
      have alike := run.accounted.admission_cases reaches asked
      exact ⟨fun _ => heard.untraced processes tasks rfl alike _,
        fun _ => Routed.noConfusion⟩
  | broken addressed reaches asked =>
      have alike := run.accounted.admission_cases reaches asked
      exact ⟨fun _ => silent alike rfl Routed.noConfusion,
        fun _ => Routed.noConfusion⟩
  | @free _ _ chat entry cooldowns addressed reaches asked =>
      obtain ⟨free, unasked⟩ := run.accounted.admission_cases reaches asked
      refine ⟨fun refused => absurd rfl (refused _), fun pid launched => ?_⟩
      have number : pid = world.processes.all.length := by
        rw [← processes]
        exact (Routed.launched.inj launched).symm
      rw [number]
      refine ⟨entry, launches_launchCommand reaches heard processes tasks
        (fun _ => ⟨rfl, unasked⟩) fun cooldown limited => ?_⟩
      cases free.symm.trans limited
  | @counted _ _ chat entry reservation cooldowns addressed reaches asked =>
      obtain ⟨cooldown, window, limits, declared, use, idle, reserves⟩ :=
        run.accounted.admission_cases reaches asked
      refine ⟨fun refused => absurd rfl (refused _), fun pid launched => ?_⟩
      have number : pid = world.processes.all.length := by
        rw [← processes]
        exact (Routed.launched.inj launched).symm
      rw [number]
      refine ⟨entry, launches_launchCommand reaches heard processes tasks
        (fun free => ?_) fun other limited => ?_⟩
      · cases free.symm.trans limits
      · cases limits.symm.trans limited
        exact ⟨reservation, window, rfl, declared, use, idle, reserves⟩

/-- What is not launched leaves no trace: no process is added, whoever looks
at a cooldown, now or later, sees what was to be seen before, and the room is
told once if a message is refused and else not at all.  An event that does not
count changes nothing; any other one changes besides that the subscriptions
that it satisfies, and nothing else.  What is launched is one process, and if
its command has a cooldown one use is reserved, with the key of the scope of
the event. -/
theorem refused_leaves_no_trace
    (run : Run (World.start settings commands horizon) episodes world)
    (event : Event) :
    ((∀ pid, (world.receive event).1 ≠ .launched pid) →
      Untraced event (world.receive event).1 world (world.receive event).2) ∧
    ∀ pid, (world.receive event).1 = .launched pid → ∃ entry process task,
      Launches event pid world (world.receive event).2 entry process task :=
  (receive_reception event world).traces run

end

/-- The first use of a command with a cooldown is launched and reserved; the
second one comes too early, and nobody can tell afterwards that it was there,
but for the notice. -/
theorem hastyBot_leaves_no_trace :
    let bot := start { accounts := [] } hastyCommands hostHorizon
    let idle := bot.happenAll (hastyRun.take 2)
    let busy := bot.happenAll hastyRun
    (idle.receive hastyEvent).1 = .launched 0 ∧
      (∃ entry process task,
        Launches hastyEvent 0 idle (idle.receive hastyEvent).2 entry process
          task) ∧
      (busy.receive hastyEvent).1 = .ratelimited 600 ∧
      (busy.receive hastyEvent).2.processes = busy.processes ∧
      busy.cooldowns.Alike 400 (busy.receive hastyEvent).2.cooldowns := by
  intro bot idle busy
  have toIdle : Run bot (bot.history (hastyRun.take 2)) idle :=
    .of_occurrences _ _
  have toBusy : Run bot (bot.history hastyRun) busy := .of_occurrences _ _
  have launched : (idle.receive hastyEvent).1 = .launched 0 := by
    decide +kernel
  have refused : (busy.receive hastyEvent).1 = .ratelimited 600 := by
    decide +kernel
  have untraced := (refused_leaves_no_trace toBusy hastyEvent).1 fun pid same =>
    nomatch refused.symm.trans same
  have now : busy.agenda.now = 400 := by decide +kernel
  exact ⟨launched, (refused_leaves_no_trace toIdle hastyEvent).2 0 launched,
    refused, untraced.processes, now ▸ untraced.cooldowns⟩

end World

end Switchboard
