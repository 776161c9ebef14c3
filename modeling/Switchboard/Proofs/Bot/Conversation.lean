import Switchboard.Proofs.Bot.Privilege

/-!
# What a body is told

A body goes through its program call by call, and it hears the answers to its
calls in turns of its own.  So where it stands is told by the program and by
the answers so far, and how its process ends is told by where the body has
come to, unless it has been killed meanwhile.
-/

namespace Switchboard

/-- The answer to a call may be long in coming. -/
def Call.takesTime : Call → Bool
  | .reply _ | .notify _ | .sleep _ | .wait .. | .ask .. | .confirm ..
  | .resolveClashes => true
  | _ => false

/-- A call that a body has made, and the answer that it has got. -/
structure Exchange where
  call : Call
  answer : call.Reply

/-- What a program comes to when its calls get some answers. -/
inductive Program.Comes {α : Type} (program : Program α) :
    List Exchange → Program α → Prop where
  | begins : Comes program [] program
  | hears {talk : List Exchange} {call : Call}
      {next : call.Reply → Program α} (answer : call.Reply) :
      Comes program talk (.call call next) →
      Comes program (talk ++ [⟨call, answer⟩]) (next answer)

namespace Activity

/-- A body stands at a point of its program: it is about to go on there, or
the call that it has made there is under way. -/
inductive StandsAt : Activity → Program Unit → Prop where
  | running (program : Program Unit) : StandsAt (.running program) program
  | sleeping (answer : Alarm) (millis : Nat) (next : Unit → Program Unit) :
      StandsAt (.sleeping answer (next ())) (.call (.sleep millis) next)
  | replying (sending : Sending)
      (next : Except CommandError String → Program Unit) :
      StandsAt (.replying sending next) (.call (.reply sending.text) next)
  | notifying (sending : Sending)
      (next : Except CommandError Unit → Program Unit) :
      StandsAt (.notifying sending next) (.call (.notify sending.text) next)
  | waiting (wait : Wait) (kind : EventKind) (predicate : Event → Bool)
      (timeout : Option Nat) (next : Except WaitError Event → Program Unit) :
      StandsAt (.waiting wait next) (.call (.wait kind predicate timeout) next)
  | asking (question : Asking) (prompt : String) (timeout : Option Nat)
      (next : Except CommandError Event → Program Unit) :
      StandsAt (.asking question next) (.call (.ask prompt timeout) next)
  | confirming (confirming : Confirming) (prompt : String)
      (timeout poll : Option Nat)
      (next : Except CommandError Bool → Program Unit) :
      StandsAt (.confirming confirming next)
        (.call (.confirm prompt timeout poll) next)
  | resolving (resolving : Resolving)
      (next : List Resolution → Program Unit) :
      StandsAt (.resolving resolving next) (.call .resolveClashes next)

/-- The call that the body has made is under way. -/
def IsCalling (activity : Activity) : Prop :=
  ∀ program, activity ≠ .running program

theorem StandsAt.running_of_swift {activity : Activity} {call : Call}
    {next : call.Reply → Program Unit}
    (stands : activity.StandsAt (.call call next))
    (swift : call.takesTime = false) :
    activity = .running (.call call next) := by
  generalize same : Program.call call next = point at stands
  cases stands with
  | running => rfl
  | _ =>
      cases same
      cases swift

end Activity

/-- How a body goes on when a step of its call has been taken. -/
def Progress.resume {α β : Type} (calling : α → Activity)
    (next : β → Program Unit) : Progress α β → Progress Activity Outcome
  | .done answer => .go (.running (next answer))
  | .go here => .go (calling here)
  | .blocked here => .blocked (calling here)

namespace World

/-- The answer that a body gets to its call in its next step: at once, or when
the call that is under way has come to its end. -/
inductive Gets (actor : Actor) (world : World) :
    Activity → (call : Call) → call.Reply → Prop where
  | atOnce {call : Call} {next : call.Reply → Program Unit}
      {answer : call.Reply} :
      (∀ next, (world.perform actor call next).1 = .running (next answer)) →
      Gets actor world (.running (.call call next)) call answer
  | slept {alarm : Alarm} {millis : Nat} {next : Program Unit} :
      world.isDue alarm = true →
      Gets actor world (.sleeping alarm next) (.sleep millis) ()
  | replied {sending : Sending}
      {next : Except CommandError String → Program Unit} :
      world.isDue sending.answer = true →
      Gets actor world (.replying sending next) (.reply sending.text)
        (world.finishMessage sending).1
  | notified {sending : Sending}
      {next : Except CommandError Unit → Program Unit} :
      world.isDue sending.answer = true →
      Gets actor world (.notifying sending next) (.notify sending.text)
        (finishNotice sending)
  | waited {wait : Wait} {kind : EventKind} {predicate : Event → Bool}
      {timeout : Option Nat} {answer : Except WaitError Event}
      {next : Except WaitError Event → Program Unit} :
      (world.stepOpenWait actor "" wait).1 = .done answer →
      Gets actor world (.waiting wait next) (.wait kind predicate timeout)
        answer
  | asked {question : Asking} {prompt : String} {timeout : Option Nat}
      {answer : Except CommandError Event}
      {next : Except CommandError Event → Program Unit} :
      (world.stepAsking actor question).1 = .done answer →
      Gets actor world (.asking question next) (.ask prompt timeout) answer
  | confirmed {confirming : Confirming} {prompt : String}
      {timeout poll : Option Nat} {answer : Except CommandError Bool}
      {next : Except CommandError Bool → Program Unit} :
      (world.stepConfirming actor confirming).1 = .done answer →
      Gets actor world (.confirming confirming next)
        (.confirm prompt timeout poll) answer
  | resolved {resolving : Resolving} {answer : List Resolution}
      {next : List Resolution → Program Unit} :
      (world.stepResolving actor resolving).1 = .done answer →
      Gets actor world (.resolving resolving next) .resolveClashes answer

/-- What the next step of a body comes to that stands at a point of its
program: it gets an answer, or its call is under way, or it has come to the
end. -/
inductive Speaks (actor : Actor) (world : World) (activity : Activity)
    (point : Program Unit) : Progress Activity Outcome → Prop where
  | hears {call : Call} {next : call.Reply → Program Unit}
      (answer : call.Reply) : point = .call call next →
      Gets actor world activity call answer →
      Speaks actor world activity point (.go (.running (next answer)))
  | goes (later : Activity) : later.StandsAt point → later.IsCalling →
      (∀ call answer, ¬Gets actor world activity call answer) →
      Speaks actor world activity point (.go later)
  | rests (later : Activity) : later.StandsAt point → later.IsCalling →
      (∀ call answer, ¬Gets actor world activity call answer) →
      Speaks actor world activity point (.blocked later)
  | ends (outcome : Outcome) : activity = .running point →
      activity.end? = some outcome →
      (∀ call answer, ¬Gets actor world activity call answer) →
      Speaks actor world activity point (.done outcome)

end World

/-- In this turn the body of a task gets an answer. -/
def Episode.Tells (position : TaskId) (exchange : Exchange)
    (episode : Episode) : Prop :=
  episode.occurrence = .work ∧
    episode.before.agenda.floor = some position ∧
    ∃ task activity,
      episode.before.activity? position = some (task, activity) ∧
      World.Gets (World.actorOf position task) episode.before activity
        exchange.call exchange.answer

theorem Episode.Tells.mover {position : TaskId} {exchange : Exchange}
    {episode : Episode} (tells : episode.Tells position exchange) :
    episode.mover? = some position := by
  obtain ⟨work, floor, _⟩ := tells
  simp [Episode.mover?, work, World.mover?_of_floor floor]

namespace World

/-- All answers that the body of a task gets in the course of a history. -/
inductive Talk (position : TaskId) : List Episode → List Exchange → Prop where
  | nothing : Talk position [] []
  | silent {history : List Episode} {talk : List Exchange} {episode : Episode} :
      Talk position history talk →
      (∀ exchange, ¬episode.Tells position exchange) →
      Talk position (history ++ [episode]) talk
  | hears {history : List Episode} {talk : List Exchange} {episode : Episode}
      {exchange : Exchange} : Talk position history talk →
      episode.Tells position exchange →
      Talk position (history ++ [episode]) (talk ++ [exchange])

/-- Where a task stands whose body has been started with a program, and what
has been told it since. -/
inductive Converses (position : TaskId) (pid : Pid) (program : Program Unit)
    (later : List Episode) (world : World) : Prop where
  | talks (task : ProcessTask) (talk : List Exchange) (point : Program Unit)
      (activity : Activity) :
      world.activity? position = some (task, activity) → task.pid = pid →
      Talk position later talk → program.Comes talk point →
      activity.StandsAt point →
      (∀ rest, activity = .running rest →
        world.agenda.floor = some position) →
      Converses position pid program later world
  | finished (task : ProcessTask) (talk : List Exchange) (point : Program Unit)
      (outcome : Outcome) :
      world.tasks[position]? = some (.process task) → task.pid = pid →
      ¬task.stage.HasBody → world.endings pid = [outcome] →
      Talk position later talk → program.Comes talk point →
      ((Activity.running point).end? = some outcome ∨
        outcome = .error .interrupted ∧
          (∃ activity : Activity, activity.StandsAt point ∧
            activity.IsCalling) ∧
          ∃ turn ∈ later, turn.before.isKilled pid = true) →
      Converses position pid program later world

section

variable {actor : Actor} {world after : World} {activity : Activity}
  {point program : Program Unit} {position : TaskId} {task : ProcessTask}
  {pid : Pid} {later past : List Episode} {talk : List Exchange}
  {exchange : Exchange}
  {made : TaskId → SubscriptionId → Prop} {config : Config}
  {commands : Catalogue Handler} {horizon : Nat}

theorem perform_speaks (actor : Actor) (world : World) (call : Call)
    (next : call.Reply → Program Unit) :
    Speaks actor world (.running (.call call next)) (.call call next)
      (.go (world.perform actor call next).1) := by
  have slow : (world.perform actor call next).1.IsCalling →
      (world.perform actor call next).1.StandsAt (.call call next) →
        Speaks actor world (.running (.call call next)) (.call call next)
          (.go (world.perform actor call next).1) := by
    intro calling stands
    refine .goes _ stands calling fun other answer gets => ?_
    cases gets with
    | atOnce same => exact calling _ (same next)
  cases call with
  | reply text => exact slow (by rintro _ ⟨⟩) (.replying _ next)
  | notify text => exact slow (by rintro _ ⟨⟩) (.notifying _ next)
  | sleep millis => exact slow (by rintro _ ⟨⟩) (.sleeping _ millis next)
  | wait kind predicate timeout =>
      exact slow (by rintro _ ⟨⟩) (.waiting _ _ _ _ next)
  | ask prompt timeout => exact slow (by rintro _ ⟨⟩) (.asking _ _ _ next)
  | confirm prompt timeout poll =>
      exact slow (by rintro _ ⟨⟩) (.confirming _ _ _ _ next)
  | resolveClashes => exact slow (by rintro _ ⟨⟩) (.resolving _ next)
  | _ => exact .hears _ rfl (.atOnce fun _ => rfl)

theorem Gets.running {call : Call} {answer : call.Reply}
    (gets : Gets actor world activity call answer)
    (swift : call.takesTime = false) :
    ∃ next, activity = .running (.call call next) := by
  cases gets with
  | atOnce => exact ⟨_, rfl⟩
  | _ => cases swift

theorem Speaks.of_calling {α : Type} {call : Call}
    {next : call.Reply → Program Unit} {after : Progress Activity Outcome}
    (progress : Progress α call.Reply) (calling : α → Activity)
    (stands : ∀ here, (calling here).StandsAt (.call call next))
    (isCalling : ∀ here, (calling here).IsCalling)
    (hears : ∀ answer, progress = .done answer →
      Gets actor world activity call answer)
    (silent : ∀ other answer, Gets actor world activity other answer →
      ∃ result, progress = .done result)
    (same : after = progress.resume calling next) :
    Speaks actor world activity (.call call next) after := by
  subst same
  cases progress with
  | done answer => exact .hears answer rfl (hears answer rfl)
  | go here | blocked here =>
      have quiet : ∀ other answer,
          ¬Gets actor world activity other answer := by
        intro other answer gets
        obtain ⟨result, ends⟩ := silent other answer gets
        cases ends
      first
        | exact .goes _ (stands here) (isCalling here) quiet
        | exact .rests _ (stands here) (isCalling here) quiet

theorem Speaks.of_alarm {call : Call} {next : call.Reply → Program Unit}
    {after : Progress Activity Outcome} {alarm : Alarm}
    (answer : call.Reply) (stands : activity.StandsAt (.call call next))
    (isCalling : activity.IsCalling)
    (hears : world.isDue alarm = true →
      Gets actor world activity call answer)
    (silent : ∀ other reply, Gets actor world activity other reply →
      world.isDue alarm = true)
    (same : after = if world.isDue alarm then .go (.running (next answer))
      else .blocked activity) :
    Speaks actor world activity (.call call next) after := by
  subst same
  split
  · rename_i due
    exact .hears answer rfl (hears due)
  · rename_i early
    exact .rests _ stands isCalling fun other reply gets =>
      early (silent other reply gets)

theorem stepActivity_speaks (actor : Actor) (world : World)
    (stands : activity.StandsAt point) :
    Speaks actor world activity point
      (world.stepActivity actor activity).1 := by
  cases stands with
  | running =>
      cases point with
      | call call next => exact perform_speaks actor world call next
      | _ =>
          refine .ends _ rfl rfl fun call answer gets => ?_
          cases gets
  | sleeping alarm millis next =>
      refine .of_alarm () (.sleeping alarm millis next) (by rintro _ ⟨⟩)
        .slept ?_ rfl
      intro other reply gets
      cases gets with
      | slept due => exact due
  | replying sending next =>
      refine .of_alarm _ (.replying sending next) (by rintro _ ⟨⟩)
        .replied ?_ ?_
      · intro other reply gets
        cases gets with
        | replied due => exact due
      · rw [stepActivity]
        cases world.isDue sending.answer <;> rfl
  | notifying sending next =>
      refine .of_alarm _ (.notifying sending next) (by rintro _ ⟨⟩)
        .notified ?_ rfl
      intro other reply gets
      cases gets with
      | notified due => exact due
  | waiting wait kind predicate timeout next =>
      refine .of_calling (world.stepOpenWait actor "" wait).1
        (.waiting · next) (.waiting · _ _ _ _) (by rintro _ _ ⟨⟩)
        (fun _ => .waited) ?_ ?_
      · intro other reply gets
        cases gets with
        | waited ends => exact ⟨_, ends⟩
      · rw [stepActivity]
        generalize world.stepOpenWait actor "" wait = result
        obtain ⟨progress, after⟩ := result
        cases progress <;> rfl
  | asking question prompt timeout next =>
      refine .of_calling (world.stepAsking actor question).1
        (.asking · next) (.asking · _ _ _) (by rintro _ _ ⟨⟩)
        (fun _ => .asked) ?_ ?_
      · intro other reply gets
        cases gets with
        | asked ends => exact ⟨_, ends⟩
      · rw [stepActivity]
        generalize world.stepAsking actor question = result
        obtain ⟨progress, after⟩ := result
        cases progress <;> rfl
  | confirming confirming prompt timeout poll next =>
      refine .of_calling (world.stepConfirming actor confirming).1
        (.confirming · next) (.confirming · _ _ _ _) (by rintro _ _ ⟨⟩)
        (fun _ => .confirmed) ?_ ?_
      · intro other reply gets
        cases gets with
        | confirmed ends => exact ⟨_, ends⟩
      · rw [stepActivity]
        generalize world.stepConfirming actor confirming = result
        obtain ⟨progress, after⟩ := result
        cases progress <;> rfl
  | resolving resolving next =>
      refine .of_calling (world.stepResolving actor resolving).1
        (.resolving · next) (.resolving · _) (by rintro _ _ ⟨⟩)
        (fun _ => .resolved) ?_ ?_
      · intro other reply gets
        cases gets with
        | resolved ends => exact ⟨_, ends⟩
      · rw [stepActivity]
        generalize world.stepResolving actor resolving = result
        obtain ⟨progress, after⟩ := result
        cases progress <;> rfl

theorem Talk.told (talked : Talk position later talk)
    (member : exchange ∈ talk) :
    ∃ turn ∈ later, turn.Tells position exchange := by
  induction talked with
  | nothing => cases member
  | silent _ _ induction =>
      obtain ⟨turn, earlier, tells⟩ := induction member
      exact ⟨turn, List.mem_append_left _ earlier, tells⟩
  | hears _ tells induction =>
      rcases List.mem_append.mp member with earlier | last
      · obtain ⟨turn, earlier, tells⟩ := induction earlier
        exact ⟨turn, List.mem_append_left _ earlier, tells⟩
      · cases List.mem_singleton.mp last
        exact ⟨_, List.mem_append_right _ (List.mem_singleton_self _), tells⟩

theorem Talk.heard (talked : Talk position later talk) {turn : Episode}
    (member : turn ∈ later) (tells : turn.Tells position exchange) :
    ∃ other ∈ talk, turn.Tells position other := by
  induction talked with
  | nothing => cases member
  | silent _ quiet induction =>
      rcases List.mem_append.mp member with earlier | last
      · exact induction earlier
      · cases List.mem_singleton.mp last
        exact absurd tells (quiet exchange)
  | hears _ told induction =>
      rcases List.mem_append.mp member with earlier | last
      · obtain ⟨other, known, tells⟩ := induction earlier
        exact ⟨other, List.mem_append_left _ known, tells⟩
      · cases List.mem_singleton.mp last
        exact ⟨_, List.mem_append_right _ (List.mem_singleton_self _), told⟩

theorem Talk.quiet {occurrence : Occurrence} (talked : Talk position later talk)
    (elsewhere : world.agenda.floor ≠ some position) :
    Talk position (later ++ [⟨world, occurrence⟩]) talk :=
  .silent talked fun _ tells => elsewhere tells.2.1

theorem Talk.unanswered (talked : Talk position later talk)
    (silent : ∀ task activity,
      world.activity? position = some (task, activity) → ∀ call answer,
        ¬Gets (actorOf position task) world activity call answer) :
    Talk position (later ++ [⟨world, .work⟩]) talk := by
  refine .silent talked fun exchange tells => ?_
  obtain ⟨_, _, task, activity, stands, gets⟩ := tells
  exact silent task activity stands _ _ gets

theorem activity?_of_bodiless
    (found : world.tasks[position]? = some (.process task))
    (bodiless : ¬task.stage.HasBody) : world.activity? position = none := by
  rw [activity?, found, Option.bind_some, Task.activity?]
  cases stage : task.stage with
  | body activity => exact absurd (stage ▸ .body activity) bodiless
  | _ => rfl

theorem Converses.of_conclude {last given : World} {outcome : Outcome}
    (orderly : Orderly made last)
    (concluded : last = given.conclude position task outcome)
    (known : position < given.tasks.length)
    (talked : Talk position later talk) (comes : program.Comes talk point)
    (reason : (Activity.running point).end? = some outcome ∨
      outcome = .error .interrupted ∧
        (∃ activity : Activity, activity.StandsAt point ∧
          activity.IsCalling) ∧
        ∃ turn ∈ later, turn.before.isKilled task.pid = true) :
    Converses position task.pid program later last := by
  have there : last.tasks[position]? =
      some (.process { task with stage := .closing outcome }) := by
    rw [concluded, (concludes position task outcome given).tasks]
    exact List.getElem?_set_self known
  obtain ⟨process, _, _, agrees⟩ := orderly.tasks position _ there
  exact .finished _ talk point outcome there rfl nofun agrees.1.endings talked
    comes reason

/-- What a body has come to that stood at a point of its program, once its task
has had its turn. -/
theorem Converses.of_stride (orderly : Orderly made after)
    (reached : world.happen .work = after)
    (here : world.activity? position = some (task, activity))
    (talked : Talk position later talk) (comes : program.Comes talk point)
    (stands : activity.StandsAt point)
    (running : ∀ rest, activity = .running rest →
      world.agenda.floor = some position)
    (stride : Stride position task activity world after) :
    Converses position task.pid program (later ++ [⟨world, .work⟩]) after := by
  have known := (List.getElem?_eq_some_iff.mp (activity?_eq_some here).1).1
  have speaks := stepActivity_speaks (actorOf position task) world stands
  have frame := (Works.stepActivity (actorOf position task) activity
    world).frame
  have silently : (∀ call answer,
      ¬Gets (actorOf position task) world activity call answer) →
        Talk position (later ++ [⟨world, .work⟩]) talk := by
    intro silent
    refine talked.unanswered fun other activity stands => ?_
    cases here.symm.trans stands
    exact silent
  -- Before it gets the floor, a call of the body is under way.
  have calling : world.agenda.floor = none → activity.IsCalling := by
    intro floor rest same
    cases floor.symm.trans (running rest same)
  cases stride with
  | @steps next middle floor stepped =>
      have set := activity?_stepped here next
      rw [stepped] at speaks frame set
      cases speaks with
      | hears answer same gets =>
          subst same
          exact .talks _ _ _ _ set rfl
            (.hears talked ⟨rfl, floor, task, activity, here, gets⟩)
            (comes.hears answer) (.running _)
            fun _ _ => frame.agenda.floor.trans floor
      | goes later standsThen calling silent =>
          exact .talks _ talk point next set rfl (silently silent) comes
            standsThen fun rest same => absurd same (calling rest)
  | @rests next middle floor stepped =>
      have set := activity?_stepped here next
      rw [stepped] at speaks set
      cases speaks with
      | rests later standsThen calling silent =>
          exact .talks _ talk point next set rfl (silently silent) comes
            standsThen fun rest same => absurd same (calling rest)
  | @ends outcome floor ending =>
      rw [stepActivity_of_end ending] at speaks
      cases speaks with
      | ends outcome same ending silent =>
          subst same
          exact .of_conclude orderly rfl known (silently silent) comes
            (.inl ending)
  | @enters rest floor spared =>
      refine .talks task talk point activity here rfl
        (talked.quiet (by simp [floor])) comes stands fun rest same => ?_
      exact absurd same (calling floor rest)
  | @givenUp rest floor killed =>
      have abandoned := (Works.abandon (actorOf position task) activity
        (world.giveFloor position rest)).frame
      refine .of_conclude orderly rfl (abandoned.tasks ▸ known)
        (talked.quiet (by simp [floor])) comes (.inr ⟨rfl, ?_, ?_⟩)
      · exact ⟨activity, stands, calling floor⟩
      · exact ⟨⟨world, .work⟩, by simp, killed⟩

theorem Converses.turn (orderly : Orderly made world)
    (converses : Converses position pid program later world)
    (mover : world.mover? = some position) :
    Converses position pid program (later ++ [⟨world, .work⟩])
      (world.happen .work) := by
  cases converses with
  | talks task talk point activity here same talked comes stands running =>
      subst same
      exact .of_stride (orderly.happen .work) rfl here talked comes stands
        running (stride here mover)
  | finished task talk point outcome found same bodiless ended talked comes
      reason =>
      subst same
      have nowhere := activity?_of_bodiless found bodiless
      have talkedOn : Talk position (later ++ [⟨world, .work⟩]) talk := by
        refine talked.unanswered fun other activity stands => ?_
        cases nowhere.symm.trans stands
      have onward : ∀ next : Stage,
          (world.happen .work).tasks[position]? =
            some (.process { task with stage := next }) → ¬next.HasBody →
          (world.happen .work).endings task.pid = world.endings task.pid →
          Converses position task.pid program (later ++ [⟨world, .work⟩])
            (world.happen .work) := by
        intro next there bodilessThen same
        refine .finished _ talk point outcome there rfl bodilessThen
          (same.trans ended) talkedOn comes (reason.imp_right ?_)
        rintro ⟨interrupted, calling, turn, member, killed⟩
        exact ⟨interrupted, calling, turn, List.mem_append_left _ member,
          killed⟩
      cases orderly.turns found mover with
      | stays _ there same => exact onward task.stage there bodiless same
      | works _ body | ends _ body => exact absurd body bodiless
      | closes _ next _ dealt there same | tells next _ dealt there same =>
          exact onward next there (fun body => body.not_dealt dealt) same

theorem Converses.elsewhere (orderly : Orderly made world)
    {occurrence : Occurrence}
    (converses : Converses position pid program later world)
    (elsewhere : Episode.mover? ⟨world, occurrence⟩ ≠ some position) :
    Converses position pid program (later ++ [⟨world, occurrence⟩])
      (world.happen occurrence) := by
  have quiet : ∀ {talk}, Talk position later talk →
      Talk position (later ++ [⟨world, occurrence⟩]) talk := fun talked =>
    .silent talked fun _ tells => elsewhere (Episode.Tells.mover tells)
  cases converses with
  | talks task talk point activity here same talked comes stands running =>
      have beside := orderly.beside (activity?_eq_some here).1 occurrence
        elsewhere
      refine .talks task talk point activity ?_ same (quiet talked) comes
        stands fun rest same => beside.floor.mpr (running rest same)
      rw [activity?, beside.task]
      exact here
  | finished task talk point outcome found same bodiless ended talked comes
      reason =>
      subst same
      have beside := orderly.beside found occurrence elsewhere
      refine .finished task talk point outcome (beside.task.trans found) rfl
        bodiless (beside.endings.trans ended) (quiet talked) comes
        (reason.imp_right ?_)
      rintro ⟨interrupted, calling, turn, member, killed⟩
      exact ⟨interrupted, calling, turn, List.mem_append_left _ member,
        killed⟩

theorem Converses.exists_talk
    (converses : Converses position pid program later world) :
    ∃ talk point, Talk position later talk ∧ program.Comes talk point := by
  cases converses with
  | talks _ talk point _ _ _ talked comes => exact ⟨talk, point, talked, comes⟩
  | finished _ talk point _ _ _ _ _ talked comes =>
      exact ⟨talk, point, talked, comes⟩

theorem Converses.of_starts {episode : Episode}
    (starts : episode.Starts task program)
    (mover : episode.mover? = some position) :
    Converses position task.pid program [] episode.after := by
  obtain ⟨before, occurrence⟩ := episode
  obtain ⟨other, moverToo, found, unbuilt, there⟩ := starts
  cases mover.symm.trans moverToo
  obtain ⟨rfl, moves⟩ := Episode.mover?_eq_some mover
  refine .talks _ [] program (.running program) (activity?_of_stage there rfl)
    rfl .nothing .begins (.running program) fun _ _ => ?_
  obtain ⟨_, worked⟩ | ⟨_, rest, entered⟩ := turn_cases moves
  · -- Whoever has the floor already does not start a body.
    have same : (before.happen .work).tasks = before.tasks := by
      simp only [worked, work, found, workProcess, unbuilt]
      rfl
    have stayed := Option.some.inj ((same ▸ there).symm.trans found)
    rw [← Task.process.inj stayed] at unbuilt
    cases unbuilt
  · have frees : (before.happen .work).agenda.floor = some position := by
      have given : (before.giveFloor position rest).tasks[position]? =
          some (.process task) := found
      simp only [entered, enter, given, enterProcess, unbuilt]
      split
      · exact congrArg Agenda.floor (concludes position task _ _).agenda
      · rfl
    exact frees

/-- What the body of a task has come to in the course of a run since it was
started. -/
theorem Run.converses {start : Episode}
    (run : Run (World.start config commands horizon) past start.before)
    (starts : start.Starts task program)
    (mover : start.mover? = some position)
    (goesOn : Run start.after later world) :
    Converses position task.pid program later world := by
  induction goesOn with
  | start => exact .of_starts starts mover
  | @next later middle occurrence prior induction =>
      have orderly := Run.orderly ((Run.next start.occurrence run).trans prior)
      by_cases own : Episode.mover? ⟨middle, occurrence⟩ = some position
      · obtain ⟨rfl, moves⟩ := Episode.mover?_eq_some own
        exact induction.turn orderly moves
      · exact induction.elsewhere orderly own

/-- So it is at every moment of the run. -/
theorem Run.converses_at {start turn : Episode} {earlier rest : List Episode}
    (run : Run (World.start config commands horizon) past start.before)
    (starts : start.Starts task program)
    (mover : start.mover? = some position)
    (goesOn : Run start.after later world)
    (split : later = earlier ++ turn :: rest) :
    Converses position task.pid program earlier turn.before := by
  subst split
  exact run.converses starts mover goesOn.split.1

end

end World

end Switchboard
