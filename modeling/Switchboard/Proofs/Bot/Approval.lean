import Switchboard.Proofs.Bot.Consent
import Switchboard.Proofs.Builtin.Errand

/-!
# Killing and keeping by command

Both commands read the numbers of the processes before they do anything, and
answer the first word that is none.  Several processes are killed only after a
confirmation; whatever else becomes of it, nobody is killed.  Then the listed
processes are dealt with in one turn, one after the other.
-/

namespace Switchboard

/-- Nobody is killed, and no deadline is lifted. -/
structure World.Harmless (before after : World) : Prop where
  killed : ∀ pid, after.isKilled pid = before.isKilled pid
  lifted : ∀ id, (after.waiter.handoff id).lifted =
    (before.waiter.handoff id).lifted

/-- In this turn the body of a task makes a call. -/
def Episode.Performs (position : TaskId) (call : Call) (episode : Episode) :
    Prop :=
  episode.occurrence = .work ∧
    episode.before.agenda.floor = some position ∧
    ∃ task next, episode.before.activity? position =
      some (task, .running (.call call next))

/-- In this turn the confirmation that a body is at ends with a result. -/
def Episode.Returns (position : TaskId) (result : Except CommandError Bool)
    (episode : Episode) : Prop :=
  episode.occurrence = .work ∧
    episode.before.verdict? position = some result

/-- A process is about to fail with an error, or has failed with it. -/
def World.Fails (position : TaskId) (pid : Pid) (error : CommandError)
    (world : World) : Prop :=
  (world.agenda.floor = some position ∧
    ∃ task, world.activity? position = some (task, .running (.fail error))) ∨
  world.endings pid = [.error error]

namespace Errand

/-- Where a question has to be put, it has been answered with a yes. -/
def Approved (errand : Errand) (position : TaskId) (pids : List Pid)
    (earlier : List Episode) : Prop :=
  errand.confirms = true → 1 < pids.length →
    ∃ turn ∈ earlier, turn.Returns position (.ok true)

/-- What such a command keeps to all the time. -/
structure Obeys (errand : Errand) (position : TaskId) (pid : Pid)
    (invocation : Invocation) (later : List Episode) (world : World) :
    Prop where
  /-- Processes are dealt with at most once, and then it is those listed, in
  their order, with nothing between. -/
  acts : ∀ (earlier : List Episode) (turn : Episode) (rest : List Episode)
    (pids : List Pid), later = earlier ++ turn :: rest →
      turn.Performs position (errand.call pids) →
        Builtin.Lists invocation.arguments pids ∧
          errand.Approved position pids earlier ∧
          (∃ task stage, turn.after =
            (pids.foldl (fun world pid => errand.deal pid world)
              turn.before).setStage position task stage) ∧
          ∀ other ∈ earlier ++ rest, ∀ others,
            ¬other.Performs position (errand.call others)
  /-- In every other turn nobody is killed and no deadline is lifted. -/
  harmless : ∀ turn ∈ later, turn.mover? = some position →
    (∀ pids, ¬turn.Performs position (errand.call pids)) →
      World.Harmless turn.before turn.after
  /-- So it is in all turns as long as it is not settled which and whether. -/
  spares : (∀ pids, Builtin.Lists invocation.arguments pids →
      ¬errand.Approved position pids later) →
    ∀ turn ∈ later, turn.mover? = some position →
      World.Harmless turn.before turn.after
  refuses : ∀ word, Builtin.FirstBad invocation.arguments word →
    world.Fails position pid (.refunded (Notice.invalidPid word))
  explains : Text.tokens invocation.arguments = [] →
    world.Fails position pid (.refunded errand.usage)
  declines : ∀ turn ∈ later, ∀ answer, turn.Returns position answer →
    answer ≠ .ok true →
      world.Fails position pid (.ofVerdict answer) ∧
        ∀ other ∈ later, ∀ pids,
          ¬other.Performs position (errand.call pids)
  /-- When all is settled, the processes have been dealt with, or it is the
  next thing that happens in a turn. -/
  carriesOut : ∀ pids, Builtin.Lists invocation.arguments pids →
    errand.Approved position pids later →
      ∃ turn ∈ later ++ [⟨world, .work⟩],
        turn.Performs position (errand.call pids)

end Errand

namespace Episode

variable {turn : Episode} {position : TaskId} {call : Call}
  {exchange : Exchange} {errand : Errand} {pids : List Pid}
  {answer : Except CommandError Bool}

theorem Tells.performs (tells : turn.Tells position exchange)
    (swift : exchange.call.takesTime = false) :
    turn.Performs position exchange.call := by
  obtain ⟨work, floor, task, activity, here, gets⟩ := tells
  obtain ⟨next, rfl⟩ := gets.running swift
  exact ⟨work, floor, task, next, here⟩

theorem Performs.call_eq (performs : turn.Performs position call)
    (tells : turn.Tells position exchange) : exchange.call = call := by
  obtain ⟨_, _, task, next, here⟩ := performs
  obtain ⟨_, _, other, activity, there, gets⟩ := tells
  cases here.symm.trans there
  cases gets
  rfl

theorem Performs.tells (performs : turn.Performs position (errand.call pids)) :
    ∃ answer, turn.Tells position ⟨errand.call pids, answer⟩ := by
  obtain ⟨work, floor, task, next, here⟩ := performs
  obtain ⟨answer, performed⟩ :=
    errand.atOnce (World.actorOf position task) turn.before pids
  exact ⟨answer, work, floor, task, _, here,
    .atOnce fun next => congrArg Prod.fst (performed next)⟩

theorem Performs.after_eq
    (performs : turn.Performs position (errand.call pids)) :
    ∃ task stage, turn.after =
      (pids.foldl (fun world pid => errand.deal pid world)
        turn.before).setStage position task stage := by
  obtain ⟨before, occurrence⟩ := turn
  obtain ⟨rfl, floor, task, next, here⟩ := performs
  obtain ⟨answer, performed⟩ :=
    errand.atOnce (World.actorOf position task) before pids
  have stepped : before.stepActivity (World.actorOf position task)
      (.running (.call (errand.call pids) next)) =
        (.go (.running (next answer)),
          pids.foldl (fun world pid => errand.deal pid world) before) :=
    congrArg (fun result : Activity × World => (Progress.go result.1, result.2))
      (performed next)
  exact ⟨task, .body (.running (next answer)),
    World.happen_of_steps here floor stepped⟩

theorem Tells.returns {prompt : String} {timeout poll : Option Nat}
    (tells : turn.Tells position ⟨.confirm prompt timeout poll, answer⟩) :
    turn.Returns position answer := by
  obtain ⟨work, floor, task, activity, here, gets⟩ := tells
  refine ⟨work, ?_⟩
  rw [World.verdict?, if_pos floor]
  cases gets with
  | atOnce instant => cases instant fun _ => .result ()
  | confirmed ended =>
      rw [World.confirming?_of_activity here, Option.bind_some]
      exact congrArg Progress.result? ended

theorem Returns.tells (returns : turn.Returns position answer) :
    ∃ prompt timeout poll,
      turn.Tells position ⟨.confirm prompt timeout poll, answer⟩ := by
  obtain ⟨work, verdict⟩ := returns
  have floor : turn.before.agenda.floor = some position := by
    unfold World.verdict? at verdict
    split at verdict
    · assumption
    · cases verdict
  obtain ⟨actor, confirming, confirms, ended⟩ := World.step_of_verdict? verdict
  obtain ⟨task, next, here, rfl⟩ := World.confirming?_eq_some confirms
  exact ⟨"", none, none, work, floor, task, _, here, .confirmed ended⟩

theorem Returns.exchange_eq (returns : turn.Returns position answer)
    (tells : turn.Tells position exchange) :
    ∃ prompt timeout poll,
      exchange = ⟨.confirm prompt timeout poll, answer⟩ := by
  obtain ⟨_, verdict⟩ := returns
  obtain ⟨actor, confirming, confirms, ended⟩ := World.step_of_verdict? verdict
  obtain ⟨task, next, here, rfl⟩ := World.confirming?_eq_some confirms
  obtain ⟨_, _, other, activity, there, gets⟩ := tells
  cases here.symm.trans there
  obtain ⟨call, result⟩ := exchange
  cases gets with
  | confirmed same =>
      cases ended.symm.trans same
      exact ⟨_, _, _, rfl⟩

end Episode

namespace World

section

variable {world after : World} {position : TaskId} {task : ProcessTask}
  {made : TaskId → SubscriptionId → Prop} {turn start : Episode}
  {errand : Errand} {invocation : Invocation} {pids : List Pid} {pid : Pid}
  {talk : List Exchange} {point program : Program Unit} {call : Call}
  {past later : List Episode} {config : Config}
  {commands : Catalogue Handler} {horizon : Nat} {exchange : Exchange}
  {answer : Except CommandError Bool}

theorem isKilled_modifyProcess {change : Process → Process}
    (spares : ∀ process : Process,
      (change process).killed = process.killed) (other : Pid) :
    (world.modifyProcess pid change).isKilled other =
      world.isKilled other := by
  unfold isKilled modifyProcess
  rw [ProcessTable.all_modify]
  split
  · rw [Option.map_map]
    congr 2
    funext process
    exact spares process
  · rfl

theorem isKilled_conclude (outcome : Outcome) (other : Pid) :
    (world.conclude position task outcome).isKilled other =
      world.isKilled other := by
  have released : (world.releaseGuards task.pid).isKilled other =
      world.isKilled other := by
    refine releaseGuards_induction (motive := fun after =>
      after.isKilled other = world.isKilled other) rfl
      (fun _ _ _ _ _ same => ?_) fun _ same => ?_
    · exact .trans (isKilled_modifyProcess (by exact fun _ => rfl) other) same
    · exact .trans (isKilled_modifyProcess (by exact fun _ => rfl) other) same
  exact .trans (isKilled_modifyProcess (by exact fun _ => rfl) other) released

theorem Discreet.isKilled (discreet : Discreet world after) (other : Pid) :
    after.isKilled other = world.isKilled other := by
  have through : ∀ world : World, world.isKilled other =
      (((world.processes.all[other]?).map Process.core).map
        Process.killed).getD false := fun world => by
    rw [Option.map_map]
    rfl
  rw [through, discreet.cores, ← through]

/-- In its turn a task kills nobody and lifts no deadline unless its body makes
a call of that kind. -/
theorem harmless_turn (watchful : Watchful world)
    (mover : world.mover? = some position)
    (plain : ∀ task activity,
      world.activity? position = some (task, activity) →
        activity.isPlain = true) :
    Harmless world (world.happen .work) where
  killed := by
    intro other
    have moved := motion mover
    generalize world.happen .work = after at moved ⊢
    cases moved with
    | @body task activity stands stride =>
        have discreet : Discreet world (world.stepActivity
            (actorOf position task) activity).2 :=
          .stepActivity (plain task activity stands)
        cases stride with
        | steps floor stepped | rests floor stepped =>
            rw [stepped] at discreet
            exact discreet.isKilled other
        | ends => exact isKilled_conclude _ other
        | enters => rfl
        | @givenUp rest =>
            have given : Discreet (world.giveFloor position rest)
                ((world.giveFloor position rest).abandon
                  (actorOf position task) activity) := .abandon activity
            exact (isKilled_conclude _ other).trans (given.isKilled other)
    | bodiless found passage =>
        cases passage with
        | fails => exact isKilled_conclude _ other
        | builds => rfl
        | tells _ tells => rw [World.isKilled, tells.processes, World.isKilled]
    | notice _ _ _ _ discreet => exact discreet.isKilled other
  lifted := by
    have none : world.kept = [] := by
      rw [List.eq_nil_iff_forall_not_mem]
      intro other member
      obtain ⟨somebody, _, _, _, floor, stands, _⟩ := mem_kept member
      cases (mover?_of_floor floor).symm.trans mover
      cases plain _ _ stands
    have moves := moves_turn watchful mover
    exact (moves.mono (fun _ => id) fun lifts => lifts none).lifted

theorem Talk.approved (talked : Talk position later talk)
    (approval : errand.Approval invocation pids talk) :
    errand.Approved position pids later := by
  intro confirms several
  cases approval with
  | needless none => exact absurd ⟨confirms, several⟩ none
  | given =>
      obtain ⟨turn, member, tells⟩ := talked.told (List.mem_singleton_self _)
      exact ⟨turn, member, tells.returns⟩

theorem Converses.fails {error : CommandError}
    (converses : Converses position pid program later world)
    (fails : ∀ talk point, Talk position later talk →
      program.Comes talk point → point = .fail error) :
    world.Fails position pid error := by
  cases converses with
  | talks task talk point activity here _ talked comes stands running =>
      obtain rfl := fails talk point talked comes
      cases stands
      exact .inl ⟨running _ rfl, task, here⟩
  | finished task talk point outcome _ _ _ ended talked comes reason =>
      obtain rfl := fails talk point talked comes
      rcases reason with ending | ⟨_, ⟨activity, stands, calling⟩, _⟩
      · cases ending
        exact .inr ended
      · cases stands
        exact absurd rfl (calling _)

section

variable (converses : Converses position pid (errand.program invocation) later
  world)

include converses

theorem Converses.course {next : call.Reply → Program Unit}
    (here : world.activity? position =
      some (task, .running (.call call next))) :
    ∃ talk, Talk position later talk ∧
      errand.Course invocation talk (.call call next) := by
  cases converses with
  | talks other talk point activity there _ talked comes stands =>
      cases here.symm.trans there
      cases stands
      exact ⟨talk, talked, .of_comes comes⟩
  | finished _ _ _ _ found _ bodiless =>
      cases here.symm.trans (activity?_of_bodiless found bodiless)

theorem Converses.of_performs
    (performs : Episode.Performs position (errand.call pids) ⟨world, .work⟩) :
    Builtin.Lists invocation.arguments pids ∧
      errand.Approved position pids later ∧
      ∀ other ∈ later, ∀ others,
        ¬other.Performs position (errand.call others) := by
  obtain ⟨_, _, task, next, here⟩ := performs
  obtain ⟨talk, talked, course⟩ := converses.course here
  obtain ⟨read, approval⟩ := course.of_call
  refine ⟨Builtin.parsePids_eq_ok_iff.mp read, talked.approved approval, ?_⟩
  intro other member others dealt
  obtain ⟨answer, tells⟩ := dealt.tells
  obtain ⟨⟨call, reply⟩, known, told⟩ := talked.heard member tells
  obtain rfl : call = errand.call others := dealt.call_eq told
  exact approval.not_mem reply known

theorem Converses.plain
    (idle : ∀ pids,
      ¬Episode.Performs position (errand.call pids) ⟨world, .work⟩)
    (here : world.activity? position = some (task, activity)) :
    activity.isPlain = true := by
  cases converses with
  | talks other talk point activity there _ talked comes stands running =>
      cases here.symm.trans there
      have course := Errand.Course.of_comes comes
      cases stands with
      | running =>
          cases point with
          | call call next =>
              rcases course.plain with ⟨plain, _⟩ | ⟨pids, rfl⟩
              · exact plain
              · exact absurd ⟨rfl, running _ rfl, task, next, here⟩ (idle pids)
          | _ => rfl
      | resolving =>
          rcases course.plain with ⟨_, other⟩ | ⟨pids, same⟩
          · exact absurd rfl other
          · exact absurd same.symm (errand.call_ne rfl pids)
      | _ => rfl
  | finished _ _ _ _ found _ bodiless =>
      cases here.symm.trans (activity?_of_bodiless found bodiless)

theorem Converses.of_declined {turn : Episode} (member : turn ∈ later)
    (returns : turn.Returns position answer) (no : answer ≠ .ok true) :
    world.Fails position pid (.ofVerdict answer) ∧
      ∀ other ∈ later, ∀ pids,
        ¬other.Performs position (errand.call pids) := by
  obtain ⟨_, _, _, tells⟩ := returns.tells
  have declined : ∀ talk point, Talk position later talk →
      (errand.program invocation).Comes talk point →
        point = .fail (.ofVerdict answer) ∧
          ∀ others (reply : (errand.call others).Reply),
            ⟨errand.call others, reply⟩ ∉ talk := by
    intro talk point talked comes
    obtain ⟨exchange, known, told⟩ := talked.heard member tells
    obtain ⟨_, _, _, rfl⟩ := returns.exchange_eq told
    exact (Errand.Course.of_comes comes).of_declined known no
  refine ⟨converses.fails fun talk point talked comes =>
    (declined talk point talked comes).1, ?_⟩
  intro other earlier others dealt
  obtain ⟨talk, point, talked, comes⟩ := converses.exists_talk
  obtain ⟨reply, heard⟩ := dealt.tells
  obtain ⟨⟨call, reply⟩, known, told⟩ := talked.heard earlier heard
  obtain rfl : call = errand.call others := dealt.call_eq told
  exact (declined talk point talked comes).2 others reply known

theorem Converses.performs (lists : Builtin.Lists invocation.arguments pids)
    (approved : errand.Approved position pids later) :
    ∃ turn ∈ later ++ [⟨world, .work⟩],
      turn.Performs position (errand.call pids) := by
  have settled : ∀ talk point, Talk position later talk →
      (errand.program invocation).Comes talk point →
        point = errand.acting pids ∨
          ∃ answer, ⟨errand.call pids, answer⟩ ∈ talk := by
    intro talk point talked comes
    refine (Errand.Course.of_comes comes).of_approved
      (Builtin.parsePids_eq_ok_iff.mpr lists) fun confirms several => ?_
    obtain ⟨turn, member, returns⟩ := approved confirms several
    obtain ⟨_, _, _, tells⟩ := returns.tells
    obtain ⟨exchange, known, told⟩ := talked.heard member tells
    obtain ⟨prompt, timeout, poll, rfl⟩ := returns.exchange_eq told
    exact ⟨prompt, timeout, poll, known⟩
  have before : ∀ talk, Talk position later talk →
      (∃ answer, ⟨errand.call pids, answer⟩ ∈ talk) →
        ∃ turn ∈ later ++ [⟨world, .work⟩],
          turn.Performs position (errand.call pids) := by
    rintro talk talked ⟨answer, known⟩
    obtain ⟨turn, member, tells⟩ := talked.told known
    exact ⟨turn, List.mem_append_left _ member,
      tells.performs (errand.swift pids)⟩
  cases converses with
  | talks task talk point activity here _ talked comes stands running =>
      rcases settled talk point talked comes with rfl | known
      · obtain rfl := stands.running_of_swift (errand.swift pids)
        exact ⟨_, List.mem_append_right _ (List.mem_singleton_self _), rfl,
          running _ rfl, task, _, here⟩
      · exact before talk talked known
  | finished task talk point outcome _ _ _ _ talked comes reason =>
      rcases settled talk point talked comes with rfl | known
      · rcases reason with ending | ⟨_, ⟨activity, stands, calling⟩, _⟩
        · cases ending
        · exact absurd (stands.running_of_swift (errand.swift pids))
            (calling _)
      · exact before talk talked known

end

section

variable (run : Run (World.start config commands horizon) past start.before)
  (starts : start.Starts task (errand.program invocation))
  (mover : start.mover? = some position)
  (goesOn : Run start.after later world)

include run starts mover goesOn

/-- Until a command of this kind deals with processes, it has not done so. -/
theorem Run.performs_first {earlier rest : List Episode}
    (split : later = earlier ++ turn :: rest)
    (performs : turn.Performs position (errand.call pids)) :
    Builtin.Lists invocation.arguments pids ∧
      errand.Approved position pids earlier ∧
      ∀ other ∈ earlier, ∀ others,
        ¬other.Performs position (errand.call others) := by
  have converses := run.converses_at starts mover goesOn split
  obtain ⟨before, occurrence⟩ := turn
  obtain rfl := performs.1
  exact converses.of_performs performs

/-- And it does not do so again. -/
theorem Run.performs_once {earlier rest : List Episode}
    (split : later = earlier ++ turn :: rest)
    (performs : turn.Performs position (errand.call pids)) :
    ∀ other ∈ rest, ∀ others,
      ¬other.Performs position (errand.call others) := by
  intro other member others again
  obtain ⟨between, after, rfl⟩ := List.append_of_mem member
  have splitAgain := split.trans
    (List.append_assoc earlier (turn :: between) (other :: after)).symm
  exact (run.performs_first starts mover goesOn splitAgain again).2.2 turn
    (by simp) pids performs

theorem Run.harmless (member : turn ∈ later)
    (own : turn.mover? = some position)
    (idle : ∀ pids, ¬turn.Performs position (errand.call pids)) :
    Harmless turn.before turn.after := by
  obtain ⟨before, occurrence⟩ := turn
  obtain ⟨rfl, moves⟩ := Episode.mover?_eq_some own
  obtain ⟨earlier, rest, split⟩ := List.append_of_mem member
  have converses := run.converses_at starts mover goesOn split
  have reached : Run (World.start config commands horizon)
      (past ++ [⟨start.before, start.occurrence⟩] ++ earlier) before := by
    subst split
    exact (Run.next start.occurrence run).trans goesOn.split.1
  exact harmless_turn reached.watchful moves fun other activity here =>
    converses.plain idle here

theorem Run.obeys : errand.Obeys position task.pid invocation later world := by
  have converses := run.converses starts mover goesOn
  have refused : ∀ error,
      Builtin.parsePids errand.usage invocation.arguments = .error error →
        world.Fails position task.pid error := fun error refused =>
    converses.fails fun talk point _ comes =>
      (Errand.Course.of_comes comes).of_refused refused
  refine ⟨fun earlier turn rest pids split performs => ?_,
    fun turn => run.harmless starts mover goesOn,
    fun unsettled turn member own => ?_, fun word bad => ?_,
    fun nothing => ?_, fun turn member answer => converses.of_declined member,
    fun pids => converses.performs⟩
  · obtain ⟨lists, approved, before⟩ :=
      run.performs_first starts mover goesOn split performs
    exact ⟨lists, approved, performs.after_eq, List.forall_mem_append.mpr
      ⟨before, run.performs_once starts mover goesOn split performs⟩⟩
  · refine run.harmless starts mover goesOn member own fun pids performs => ?_
    obtain ⟨earlier, rest, rfl⟩ := List.append_of_mem member
    obtain ⟨lists, approved, _⟩ :=
      run.performs_first starts mover goesOn rfl performs
    refine unsettled pids lists fun confirms several => ?_
    obtain ⟨answering, known, returns⟩ := approved confirms several
    exact ⟨answering, List.mem_append_left _ known, returns⟩
  · exact refused _ (Builtin.parsePids_eq_error_iff.mpr (.inl ⟨word, bad, rfl⟩))
  · exact refused _ (Builtin.parsePids_eq_error_iff.mpr (.inr ⟨nothing, rfl⟩))

end

/-- The command that kills processes deals with all that its arguments list,
in their order and in a single turn, or it kills nobody at all: it does so only
when every word of the arguments writes a number and there is one at least,
and, if there are several, a confirmation of its own has been answered with a
yes.  Then it does so in its next turn.  Otherwise it fails, with the first bad
word, with its usage, or with what the confirmation came to.  The command that
lifts deadlines reads its arguments in the same way, and asks nobody. -/
theorem all_or_nothing
    (run : Run (World.start config commands horizon) past start.before)
    (mover : start.mover? = some position)
    (goesOn : Run start.after later world) :
    (∀ invocation, start.Starts task (Builtin.kill invocation) →
      Builtin.killing.Obeys position task.pid invocation later world) ∧
    (∀ invocation, start.Starts task (Builtin.keep invocation) →
      Builtin.keeping.Obeys position task.pid invocation later world) := by
  constructor
  · intro invocation starts
    rw [Errand.kill_eq] at starts
    exact run.obeys starts mover goesOn
  · intro invocation starts
    rw [Errand.keep_eq] at starts
    exact run.obeys starts mover goesOn

end

/-- Two processes sleep, and an administrator has a word with them. -/
def strictBot (order : String) : World :=
  let message (actor id body : String) : Occurrence :=
    .receive ⟨0, actor, "lobby", "lobby", .message id body⟩
  let nap : CommandDef := { name := "nap", description := "Sleeps." }
  let commands := Catalogue.register Builtin.killDefinition Builtin.kill
    (Catalogue.register Builtin.keepDefinition Builtin.keep
      (Catalogue.register nap (fun _ => .call (.sleep 60000) .result) {}))
  (start { accounts := [], system := { admins := ["admin"] } }
    commands hostHorizon).happenAll
      ([.register "keeper", .fleet (.joined 0 "lobby"),
        message "user" "first" ".nap", message "user" "second" ".nap"] ++
        List.replicate 6 .work ++ [message "admin" "third" order])

/-- He is asked whether he means it, and he reacts to that. -/
def reacts (key : String) : List Occurrence :=
  List.replicate 6 .work ++ [.receive ⟨0, "admin", "lobby", "lobby",
    .reaction "$Kill 2 processes?#1" key⟩, .work]

theorem strictBot_starts_killing : ∃ task invocation,
    Episode.Starts task (Builtin.kill invocation)
        ⟨strictBot ".kill +0 01", .work⟩ ∧
      task.pid = 2 ∧ invocation.arguments = "+0 01" :=
  ⟨_, (strictBot ".kill +0 01").invocationOf 2
      ⟨0, "admin", "lobby", "lobby", .message "third" ".kill +0 01"⟩ "+0 01",
    ⟨2, by decide +kernel, rfl, rfl, rfl⟩, rfl, rfl⟩

theorem strictBot_starts_keeping : ∃ task invocation,
    Episode.Starts task (Builtin.keep invocation)
        ⟨strictBot ".keep 0 x", .work⟩ ∧
      task.pid = 2 ∧ invocation.arguments = "0 x" :=
  ⟨_, (strictBot ".keep 0 x").invocationOf 2
      ⟨0, "admin", "lobby", "lobby", .message "third" ".keep 0 x"⟩ "0 x",
    ⟨2, by decide +kernel, rfl, rfl, rfl⟩, rfl, rfl⟩

/-- With a yes the two are killed next, with a no the command is about to be
cancelled, and a word that is no number stops the other command at once. -/
theorem strictBot_kills_both_or_none :
    let begun := (strictBot ".kill +0 01").happen .work
    let answered (key : String) : World :=
      (begun.happenAll (reacts key)).happen .work
    (∃ later : List Episode, Run begun later (answered Notice.confirmYes) ∧
      ∃ turn ∈ later ++ [⟨answered Notice.confirmYes, .work⟩],
        turn.Performs 2 (.interruptAll [0, 1])) ∧
    (answered Notice.confirmNo).Fails 2 2 .cancelled ∧
    ((strictBot ".keep 0 x").happen .work).Fails 2 2
      (.refunded (Notice.invalidPid "x")) := by
  intro begun answered
  have ran : ∀ order, ∃ commands past, Run (start
      { accounts := [], system := { admins := ["admin"] } } commands
        hostHorizon) past
        (Happening.mk (strictBot order) Occurrence.work).before :=
    fun order => ⟨_, _, .of_occurrences _ _⟩
  have obeys : ∀ key, ∃ invocation : Invocation,
      invocation.arguments = "+0 01" ∧ ∃ earlier : List Episode,
        let later := earlier ++ [⟨begun.happenAll (reacts key), .work⟩]
        Run begun later (answered key) ∧
          Builtin.killing.Obeys 2 2 invocation later (answered key) := by
    intro key
    obtain ⟨commands, past, run⟩ := ran ".kill +0 01"
    obtain ⟨task, invocation, starts, pid, arguments⟩ :=
      strictBot_starts_killing
    have mover : Episode.mover? ⟨strictBot ".kill +0 01", .work⟩ = some 2 := by
      decide +kernel
    have goesOn : Run begun _ (answered key) :=
      .next _ (.of_occurrences (reacts key) begun)
    have obeys := (all_or_nothing run mover goesOn).1 _ starts
    rw [pid] at obeys
    exact ⟨invocation, arguments, _, goesOn, obeys⟩
  refine ⟨?_, ?_, ?_⟩
  · obtain ⟨invocation, arguments, earlier, goesOn, obeys⟩ :=
      obeys Notice.confirmYes
    have lists : Builtin.Lists invocation.arguments [0, 1] := by
      rw [arguments, ← Builtin.parsePids_eq_ok_iff]
      exact (by decide +kernel : Builtin.parsePids "" "+0 01" = .ok [0, 1])
    refine ⟨_, goesOn, obeys.carriesOut [0, 1] lists fun _ _ => ?_⟩
    exact ⟨_, List.mem_append_right _ (List.mem_singleton_self _), rfl,
      by decide +kernel⟩
  · obtain ⟨invocation, _, earlier, _, obeys⟩ := obeys Notice.confirmNo
    exact (obeys.declines _
      (List.mem_append_right _ (List.mem_singleton_self _)) (.ok false)
      ⟨rfl, by decide +kernel⟩ nofun).1
  · obtain ⟨commands, past, run⟩ := ran ".keep 0 x"
    obtain ⟨task, invocation, starts, pid, arguments⟩ :=
      strictBot_starts_keeping
    have mover : Episode.mover? ⟨strictBot ".keep 0 x", .work⟩ = some 2 := by
      decide +kernel
    have obeys := (all_or_nothing run mover .start).2 _ starts
    rw [pid] at obeys
    refine obeys.refuses "x" (Builtin.firstBad_iff.mpr ?_)
    rw [arguments]
    decide +kernel

end World

end Switchboard
