import Mathlib.Data.List.Count
import Switchboard.Proofs.Bot.Approval
import Switchboard.Proofs.Bot.Lifespan

/-!
# What a kill reports

The processes are killed while they are sorted into two groups, and the sorting
asks each of them whether it could be killed just now.  So a process that is
listed twice finds its way into both groups: it is killed the first time and is
not there any more the second time.
-/

namespace Switchboard

section

variable {α : Type} [BEq α] [LawfulBEq α]

theorem eraseDups_of_nodup {items : List α} (once : items.Nodup) :
    items.eraseDups = items := by
  induction items with
  | nil => rfl
  | cons first rest induction =>
      obtain ⟨fresh, once⟩ := List.nodup_cons.mp once
      have others : rest.filter (!· == first) = rest :=
        List.filter_eq_self.mpr fun item member => by
          simpa using ne_of_mem_of_not_mem member fresh
      rw [List.eraseDups_cons, others, induction once]

theorem diff_filter (test : α → Bool) (items : List α) :
    items.diff (items.filter test) = items.filter (!test ·) := by
  induction items with
  | nil => rfl
  | cons first rest induction =>
      by_cases passes : test first = true
      · simp [passes, induction]
      · have absent : first ∉ rest.filter test := fun member =>
          passes (List.mem_filter.mp member).2
        simp [passes, List.cons_diff_of_not_mem absent, induction]

end

namespace World

variable {world : World} {pid first : Pid} {pids rest : List Pid}

/-- A process is on the register, and it runs. -/
def runs (pid : Pid) (world : World) : Bool :=
  (world.processes.get? pid).any fun process => process.state = .running

theorem runs_iff :
    world.runs pid = true ↔
      pid ∈ world.processes.live ∧ IsRunning pid world := by
  unfold runs IsRunning
  rw [Option.any_eq_true]
  constructor
  · rintro ⟨process, found, running⟩
    obtain ⟨live, here⟩ := ProcessTable.get?_eq_some_iff.mp found
    exact ⟨live, process, here, of_decide_eq_true running⟩
  · rintro ⟨live, process, here, running⟩
    exact ⟨process, ProcessTable.get?_eq_some_iff.mpr ⟨live, here⟩,
      decide_eq_true running⟩

theorem interrupt_fst : (world.interrupt pid).1 = world.runs pid := by
  rw [Bool.eq_iff_iff, interrupt_iff, runs_iff]

theorem runs_interrupt (struck : world.runs first = true) :
    (world.interrupt first).2.runs pid = (pid != first && world.runs pid) := by
  have frame : Frame 0 (fun _ => False) world (world.interrupt first).2 :=
    .interrupt first
  rw [Bool.eq_iff_iff, Bool.and_eq_true, runs_iff, runs_iff,
    isRunning_interrupt (interrupt_fst.trans struck), frame.live, bne_iff_ne]
  exact ⟨fun ⟨live, running, other⟩ => ⟨other, live, running⟩,
    fun ⟨other, live, running⟩ => ⟨live, running, other⟩⟩

/-- The listed processes that can be killed, in the order in which they are
listed first. -/
def killable (pids : List Pid) (world : World) : List Pid :=
  (pids.filter (world.runs ·)).eraseDups

/-- What is left of a list when every process that can be killed is crossed out
where it is listed first. -/
def unfound (pids : List Pid) (world : World) : List Pid :=
  pids.diff (world.killable pids)

/-- What the room is told of a kill. -/
def killReport (pids : List Pid) (world : World) : String :=
  Notice.killResult (world.killable pids) (world.unfound pids)

theorem mem_killable :
    pid ∈ world.killable pids ↔ pid ∈ pids ∧ world.runs pid = true := by
  rw [killable, List.mem_eraseDups, List.mem_filter]

theorem killable_cons_of_runs (struck : world.runs first = true) :
    world.killable (first :: rest) =
      first :: (world.interrupt first).2.killable rest := by
  rw [killable, List.filter_cons, if_pos struck, List.eraseDups_cons,
    List.filter_filter]
  congr 2
  refine List.filter_congr fun pid _ => ?_
  rw [runs_interrupt struck]
  rfl

theorem killable_cons_of_not_runs (spared : ¬world.runs first = true) :
    world.killable (first :: rest) = world.killable rest := by
  rw [killable, List.filter_cons, if_neg spared, killable]

theorem interruptEach_fst :
    (world.interruptEach pids).1 =
      (world.killable pids, world.unfound pids) := by
  -- The rest of the list is sorted by a register that has lost the first one.
  induction pids generalizing world with
  | nil => simp [interruptEach, killable, unfound]
  | cons first rest induction =>
      have accepted := @interrupt_fst world first
      by_cases struck : world.runs first = true
      · have unfoundRest : world.unfound (first :: rest) =
            (world.interrupt first).2.unfound rest := by
          rw [unfound, killable_cons_of_runs struck, List.diff_cons,
            List.erase_cons_head, unfound]
        simp only [interruptEach, accepted, struck, if_true, induction,
          killable_cons_of_runs struck, unfoundRest]
      · have refused : (world.interrupt first).1 = false := by
          rw [accepted, Bool.eq_false_iff]
          exact struck
        have absent : first ∉ world.killable rest := fun member =>
          struck (mem_killable.mp member).2
        have unfoundRest :
            world.unfound (first :: rest) = first :: world.unfound rest := by
          rw [unfound, killable_cons_of_not_runs struck,
            List.cons_diff_of_not_mem absent, unfound]
        simp only [interruptEach, refused, interrupt_of_refused refused,
          Bool.false_eq_true, if_false, induction,
          killable_cons_of_not_runs struck, unfoundRest]

theorem nodup_killable : (world.killable pids).Nodup := by
  have once := @nodup_interruptEach world pids
  rwa [interruptEach_fst] at once

theorem count_unfound :
    (world.unfound pids).count pid =
      pids.count pid - (world.killable pids).count pid :=
  List.count_diff pid pids (world.killable pids)

theorem count_killable_le :
    (world.killable pids).count pid ≤ pids.count pid := by
  by_cases member : pid ∈ world.killable pids
  · rw [nodup_killable.count, if_pos member]
    exact List.count_pos_iff.mpr (mem_killable.mp member).1
  · rw [List.count_eq_zero_of_not_mem member]
    exact Nat.zero_le _

theorem mem_unfound :
    pid ∈ world.unfound pids ↔
      pid ∈ pids ∧ (world.runs pid = false ∨ 1 < pids.count pid) := by
  rw [← List.count_pos_iff, count_unfound, nodup_killable.count]
  split
  · rename_i member
    obtain ⟨listed, struck⟩ := mem_killable.mp member
    simp only [listed, struck, Bool.true_eq_false, false_or, true_and]
    omega
  · rename_i spared
    rw [mem_killable, not_and, Bool.not_eq_true] at spared
    rw [Nat.sub_zero, List.count_pos_iff]
    exact ⟨fun listed => ⟨listed, .inl (spared listed)⟩, And.left⟩

/-- No process that runs is listed more than once. -/
def ListsOnce (pids : List Pid) (world : World) : Prop :=
  ∀ pid, world.runs pid = true → pids.count pid ≤ 1

theorem killable_eq_filter_iff :
    world.killable pids = pids.filter (world.runs ·) ↔
      world.ListsOnce pids := by
  have once : (pids.filter (world.runs ·)).Nodup ↔ world.ListsOnce pids := by
    rw [List.nodup_iff_count_le_one]
    refine forall_congr' fun pid => ?_
    by_cases running : world.runs pid = true
    · have counted : (pids.filter (world.runs ·)).count pid =
          pids.count pid := List.count_filter running
      rw [counted]
      exact ⟨fun once _ => once, fun once => once running⟩
    · have absent : pid ∉ pids.filter (world.runs ·) := fun member =>
        running (List.mem_filter.mp member).2
      simp [List.count_eq_zero_of_not_mem absent, running]
  rw [← once]
  exact ⟨fun same => same ▸ nodup_killable, eraseDups_of_nodup⟩

/-- What the two groups say of the listed processes. -/
structure Sorted (pids : List Pid) (world : World) : Prop where
  /-- Those are killed that run, each of them once. -/
  killed : ∀ pid, pid ∈ world.killable pids ↔
    pid ∈ pids ∧ world.runs pid = true
  once : (world.killable pids).Nodup
  /-- Not found is who does not run, and who is listed more than once. -/
  missing : ∀ pid, pid ∈ world.unfound pids ↔
    pid ∈ pids ∧ (world.runs pid = false ∨ 1 < pids.count pid)
  whole : (world.killable pids ++ world.unfound pids).Perm pids
  /-- Nobody is in both groups just if no process that runs is listed twice,
  and then the groups are those who run and those who do not. -/
  apart : (∀ pid ∈ world.killable pids, pid ∉ world.unfound pids) ↔
    world.ListsOnce pids
  exact : (world.killable pids = pids.filter (world.runs ·) ∧
    world.unfound pids = pids.filter (!world.runs ·)) ↔ world.ListsOnce pids

theorem sorted (pids : List Pid) (world : World) : Sorted pids world where
  killed := fun _ => mem_killable
  once := nodup_killable
  missing := fun _ => mem_unfound
  whole := by
    refine List.perm_iff_count.mpr fun pid => ?_
    rw [List.count_append, count_unfound]
    exact Nat.add_sub_cancel' count_killable_le
  apart := by
    refine forall_congr' fun pid => ?_
    rw [mem_killable, mem_unfound]
    constructor
    · intro apart running
      by_contra twice
      have listed : pid ∈ pids := List.count_pos_iff.mp (by omega)
      exact apart ⟨listed, running⟩ ⟨listed, .inr (by omega)⟩
    · rintro once ⟨_, running⟩ ⟨_, stopped | twice⟩
      · cases running.symm.trans stopped
      · exact absurd (once running) (by omega)
  exact := by
    rw [← killable_eq_filter_iff]
    refine ⟨And.left, fun same => ⟨same, ?_⟩⟩
    rw [unfound, same, diff_filter]

end World

namespace Errand

variable {errand : Errand} {invocation : Invocation} {pids : List Pid}
  {talk : List Exchange} {text : String}

theorem Course.acting_eq {next : (errand.call pids).Reply → Program Unit}
    (course : errand.Course invocation talk (.call (errand.call pids) next)) :
    Program.call (errand.call pids) next = errand.acting pids := by
  generalize same : Program.call (errand.call pids) next = point at course ⊢
  cases course with
  | refused | declined => cases same
  | asks | reports =>
      exact absurd (Program.call.inj same).1 (errand.call_ne rfl pids)
  | acts others =>
      rw [errand.faithful _ _ (Program.call.inj same).1]
  | ends _ _ _ told => cases told <;> cases same

theorem Course.of_reply {next : Except CommandError String → Program Unit}
    (course : errand.Course invocation talk (.call (.reply text) next)) :
    ∃ pids answer, ⟨errand.call pids, answer⟩ ∈ talk ∧
      text = errand.report pids answer := by
  generalize same : Program.call (.reply text) next = point at course
  cases course with
  | refused | declined | asks => cases same
  | acts pids =>
      exact absurd (Program.call.inj same).1.symm (errand.call_ne rfl pids)
  | reports pids talk answer =>
      cases same
      exact ⟨pids, answer, by simp, rfl⟩
  | ends _ _ _ told => cases told <;> cases same

end Errand

namespace Episode

variable {turn : Episode} {position : TaskId} {pids : List Pid}

theorem Tells.sorted {answer : (Call.interruptAll pids).Reply}
    (tells : turn.Tells position ⟨.interruptAll pids, answer⟩) :
    answer = (turn.before.killable pids, turn.before.unfound pids) := by
  obtain ⟨_, _, task, activity, here, gets⟩ := tells
  rw [← World.interruptEach_fst]
  cases gets with
  | atOnce instant =>
      -- A program that notices any other answer tells the two apart.
      by_contra other
      have noticed := instant fun reply =>
        if reply = answer then .result () else .fail .cancelled
      rw [World.perform] at noticed
      simp only [if_true, Activity.running.injEq] at noticed
      split at noticed
      · rename_i same
        exact other same.symm
      · cases noticed

end Episode

namespace World

section

variable {turn start : Episode} {position : TaskId} {pids : List Pid}
  {errand : Errand} {invocation : Invocation} {task : ProcessTask}
  {past later earlier rest : List Episode} {world : World} {text : String}
  {config : Config} {commands : Catalogue Handler} {horizon : Nat}

theorem goesOn_of_instant {call : Call} {next : call.Reply → Program Unit}
    {answer : call.Reply} (floor : world.agenda.floor = some position)
    (here : world.activity? position =
      some (task, .running (.call call next)))
    (instant : ∀ next, (world.perform (actorOf position task) call next).1 =
      .running (next answer)) :
    (world.happen .work).agenda.floor = some position ∧
      ∃ other, (world.happen .work).activity? position =
        some (other, .running (next answer)) := by
  have frame := (Works.stepActivity (actorOf position task)
    (.running (.call call next)) world).frame
  have stays := activity?_stepped here
  have stepped : (world.stepActivity (actorOf position task)
      (.running (.call call next))).1 = .go (.running (next answer)) :=
    congrArg Progress.go (instant next)
  rw [happen_of_steps here floor (Prod.ext stepped rfl)]
  exact ⟨frame.agenda.floor.trans floor, _, stays _⟩

variable (run : Run (World.start config commands horizon) past start.before)
  (starts : start.Starts task (errand.program invocation))
  (mover : start.mover? = some position)
  (goesOn : Run start.after later world)
  (split : later = earlier ++ turn :: rest)

include run starts mover goesOn split

/-- The room is told next of what has been done. -/
theorem Run.reports_next
    (performs : turn.Performs position (errand.call pids)) :
    ∃ answer, turn.Tells position ⟨errand.call pids, answer⟩ ∧
      Episode.Performs position (.reply (errand.report pids answer))
        ⟨turn.after, .work⟩ := by
  have converses := run.converses_at starts mover goesOn split
  obtain ⟨before, occurrence⟩ := turn
  obtain ⟨rfl, floor, task, next, here⟩ := performs
  obtain ⟨_, _, course⟩ := converses.course here
  cases course.acting_eq
  obtain ⟨answer, performed⟩ :=
    errand.atOnce (actorOf position task) before pids
  have instant := fun next => congrArg Prod.fst (performed next)
  obtain ⟨still, other, reports⟩ := goesOn_of_instant floor here instant
  exact ⟨answer, ⟨rfl, floor, task, _, here, .atOnce instant⟩, rfl, still,
    other, _, reports⟩

/-- Nor is it told anything else. -/
theorem Run.reports_only (performs : turn.Performs position (.reply text)) :
    ∃ acting ∈ earlier, ∃ pids answer,
      acting.Tells position ⟨errand.call pids, answer⟩ ∧
        text = errand.report pids answer := by
  have converses := run.converses_at starts mover goesOn split
  obtain ⟨_, _, task, next, here⟩ := performs
  obtain ⟨talk, talked, course⟩ := converses.course here
  obtain ⟨pids, answer, known, same⟩ := course.of_reply
  obtain ⟨acting, member, tells⟩ := talked.told known
  exact ⟨acting, member, pids, answer, tells, same⟩

end

/-- A kill reports on what was the case in the turn in which it acts, and on
nothing else.  As killed it lists all those of the requested processes that
were on the register and running, each once; and as not found what is left of
the request, which is those that were not and every further mention of one that
was.  So the two groups have nothing in common, and the second one lists
exactly those that could not be killed, just if no process that runs has been
requested more than once. -/
theorem kill_report_exact_iff {start : Episode} {position : TaskId}
    {task : ProcessTask} {invocation : Invocation} {config : Config}
    {commands : Catalogue Handler}
    {horizon : Nat} {past later : List Episode} {world : World}
    (run : Run (World.start config commands horizon) past start.before)
    (starts : start.Starts task (Builtin.kill invocation))
    (mover : start.mover? = some position)
    (goesOn : Run start.after later world) :
    (∀ acting ∈ later, ∀ pids,
      acting.Performs position (.interruptAll pids) →
        Builtin.Lists invocation.arguments pids ∧
          Episode.Performs position (.reply (acting.before.killReport pids))
            ⟨acting.after, .work⟩) ∧
    (∀ (earlier : List Episode) (telling : Episode) (rest : List Episode)
      (text : String), later = earlier ++ telling :: rest →
        telling.Performs position (.reply text) →
          ∃ acting ∈ earlier, ∃ pids,
            acting.Performs position (.interruptAll pids) ∧
              text = acting.before.killReport pids) ∧
    ∀ (pids : List Pid) (moment : World), Sorted pids moment := by
  rw [Errand.kill_eq] at starts
  refine ⟨fun acting member pids performs => ?_,
    fun earlier telling rest text split performs => ?_, sorted⟩
  · obtain ⟨earlier, rest, split⟩ := List.append_of_mem member
    obtain ⟨lists, _⟩ :=
      run.performs_first starts mover goesOn split performs
    obtain ⟨answer, tells, reports⟩ :=
      run.reports_next starts mover goesOn split performs
    obtain rfl := tells.sorted
    exact ⟨lists, reports⟩
  · obtain ⟨acting, member, pids, answer, tells, same⟩ :=
      run.reports_only starts mover goesOn split performs
    refine ⟨acting, member, pids, tells.performs rfl, same.trans ?_⟩
    obtain rfl := tells.sorted
    rfl

/-- Whom the body of a task is about to kill. -/
def victims? (position : TaskId) (world : World) : Option (List Pid) :=
  (world.activity? position).bind fun standing =>
    match standing.2 with
    | .running (.call (.interruptAll pids) _) => some pids
    | _ => none

theorem performs_of_victims? {world : World} {position : TaskId}
    {pids : List Pid} (floor : world.agenda.floor = some position)
    (victims : world.victims? position = some pids) :
    Episode.Performs position (.interruptAll pids) ⟨world, .work⟩ := by
  obtain ⟨⟨task, activity⟩, here, victims⟩ :=
    Option.bind_eq_some_iff.mp victims
  split at victims
  · rename_i next running
    cases victims
    cases running
    exact ⟨rfl, floor, task, next, here⟩
  · cases victims

/-- The moment at which the order of an administrator is carried out, once he
has said yes. -/
def strictMoment (order : String) : World :=
  (((strictBot order).happen .work).happenAll
    (reacts Notice.confirmYes)).happen .work

/-- Two processes that run are killed, and the room is told so. -/
theorem strictBot_reports_both_killed :
    Episode.Performs 2 (.interruptAll [0, 1])
        ⟨strictMoment ".kill +0 01", .work⟩ ∧
      Episode.Performs 2 (.reply "Killed: 0, 1")
        ⟨(strictMoment ".kill +0 01").happen .work, .work⟩ := by
  have performs : Episode.Performs 2 (.interruptAll [0, 1])
      ⟨strictMoment ".kill +0 01", .work⟩ :=
    performs_of_victims? (by decide +kernel) (by decide +kernel)
  refine ⟨performs, ?_⟩
  obtain ⟨task, invocation, starts, _⟩ := strictBot_starts_killing
  have mover : Episode.mover? ⟨strictBot ".kill +0 01", .work⟩ = some 2 := by
    decide +kernel
  have asked : Run ((strictBot ".kill +0 01").happen .work) _ _ :=
    .of_occurrences (reacts Notice.confirmYes) _
  have goesOn := Run.next .work (.next .work asked)
  have reports := (kill_report_exact_iff (.of_occurrences _ _) starts mover
    goesOn).1 _ (List.mem_append_right _ (List.mem_singleton_self _))
    [0, 1] performs
  have report : (strictMoment ".kill +0 01").killReport [0, 1] =
      "Killed: 0, 1" := by
    decide +kernel
  exact report ▸ reports.2

/-- A process that is listed twice is running and is killed, and the room is
told that it has not been found. -/
theorem strictBot_misses_its_victim :
    let acting := strictMoment ".kill 0 0"
    Episode.Performs 2 (.interruptAll [0, 0]) ⟨acting, .work⟩ ∧
      acting.runs 0 = true ∧ 0 ∈ acting.unfound [0, 0] ∧
      ∃ deed ∈ (acting.happenAll [.work, .work]).deeds,
        deed.act = .send "keeper" "lobby" "Killed: 0\nNot found: 0" false := by
  intro acting
  exact ⟨performs_of_victims? (by decide +kernel) (by decide +kernel),
    by decide +kernel, by decide +kernel, by decide +kernel⟩

end World

end Switchboard
