import Switchboard.Proofs.Bot.Conversation
import Switchboard.Proofs.Builtin.Pids

/-!
# Commands that deal with processes

Killing and keeping are one program with other words: it reads the numbers of
the processes, asks whether it may go on where there has to be a question,
deals with the processes in one call, and tells the room.  What such a command
has been told says how far it has come.
-/

namespace Switchboard

/-- What becomes of a command that is not confirmed. -/
def CommandError.ofVerdict : Except CommandError Bool → CommandError
  | .ok _ => .cancelled
  | .error error => error

/-- A command that does something to listed processes at once, and tells the
room what came of it. -/
structure Errand where
  usage : String
  call : List Pid → Call
  /-- What is done to one process. -/
  deal : Pid → World → World
  report : (pids : List Pid) → (call pids).Reply → String
  /-- More than one process needs a confirmation. -/
  confirms : Bool
  swift : ∀ pids, (call pids).takesTime = false
  faithful : ∀ one two, call one = call two → one = two
  /-- The processes are dealt with in their order, and nothing else is done. -/
  atOnce : ∀ actor world pids, ∃ answer, ∀ next,
    World.perform actor world (call pids) next =
      (.running (next answer),
        pids.foldl (fun world pid => deal pid world) world)

namespace World

theorem interruptEach_eq_foldl (pids : List Pid) (world : World) :
    (world.interruptEach pids).2 =
      pids.foldl (fun world pid => (world.interrupt pid).2) world := by
  induction pids generalizing world with
  | nil => rfl
  | cons pid rest induction => exact induction _

theorem liftEach_eq_foldl (pids : List Pid) (world : World) :
    (world.liftEach pids).2 =
      pids.foldl (fun world pid => (world.lift pid).2) world := by
  induction pids generalizing world with
  | nil => rfl
  | cons pid rest induction => exact induction _

end World

namespace Builtin

def killing : Errand where
  usage := Notice.killUsage
  call := .interruptAll
  deal := fun pid world => (world.interrupt pid).2
  report := fun _ answer => Notice.killResult answer.1 answer.2
  confirms := true
  swift := fun _ => rfl
  faithful := fun _ _ => Call.interruptAll.inj
  atOnce := fun _ world pids => ⟨(world.interruptEach pids).1, fun _ => by
    rw [← World.interruptEach_eq_foldl]
    rfl⟩

def keeping : Errand where
  usage := Notice.keepUsage
  call := .liftAll
  deal := fun pid world => (world.lift pid).2
  report := fun _ answer => Notice.keepResult answer.1 answer.2
  confirms := false
  swift := fun _ => rfl
  faithful := fun _ _ => Call.liftAll.inj
  atOnce := fun _ world pids => ⟨(world.liftEach pids).1, fun _ => by
    rw [← World.liftEach_eq_foldl]
    rfl⟩

end Builtin

/-- A body ends when its room has been told. -/
def Program.told : Except CommandError String → Program Unit
  | .ok _ => .result ()
  | .error error => .fail error

namespace Errand

/-- The question whether several processes may be dealt with. -/
abbrev question (invocation : Invocation) (pids : List Pid) : Call :=
  .confirm (Notice.killConfirm pids.length) invocation.confirmTimeout
    invocation.livenessPoll

def acting (errand : Errand) (pids : List Pid) : Program Unit :=
  .call (errand.call pids) fun answer =>
    .call (.reply (errand.report pids answer)) Program.told

/-- How a command goes on when its question has been answered. -/
def decided (errand : Errand) (pids : List Pid) :
    Except CommandError Bool → Program Unit
  | .ok true => errand.acting pids
  | .ok false => .fail .cancelled
  | .error error => .fail error

/-- The numbers are read, there is a question where there has to be, and the
processes are dealt with. -/
def program (errand : Errand) (invocation : Invocation) : Program Unit :=
  match Builtin.parsePids errand.usage invocation.arguments with
  | .error error => .fail error
  | .ok pids =>
    if errand.confirms = true ∧ 1 < pids.length then
      .call (question invocation pids) (errand.decided pids)
    else errand.acting pids

theorem ok_bind {α β : Type} (value : α) (next : α → Program β) :
    (Program.ofExcept (.ok value) >>= next) = next value := rfl

theorem kill_eq (invocation : Invocation) :
    Builtin.kill invocation = Builtin.killing.program invocation := by
  have acts : ∀ pids : List Pid, (do
      let answer ← Program.request (.interruptAll pids)
      discard (Program.reply (Notice.killResult answer.1 answer.2))) =
        Builtin.killing.acting pids := by
    intro pids
    refine congrArg (Program.call (.interruptAll pids))
      (funext fun answer => ?_)
    refine congrArg (Program.call (.reply _)) (funext fun reply => ?_)
    cases reply <;> rfl
  have usage : Builtin.killing.usage = Notice.killUsage := rfl
  unfold Builtin.kill program
  rw [usage]
  cases Builtin.parsePids Notice.killUsage invocation.arguments with
  | error error => rfl
  | ok pids =>
      rw [ok_bind]
      dsimp only
      by_cases several : 1 < pids.length
      · rw [if_pos several, if_pos ⟨rfl, several⟩]
        refine congrArg (Program.call (question invocation pids))
          (funext fun answer => ?_)
        cases answer with
        | error error => rfl
        | ok yes =>
            cases yes with
            | false => rfl
            | true => exact acts pids
      · rw [if_neg several, if_neg fun asks => several asks.2]
        exact acts pids

theorem keep_eq (invocation : Invocation) :
    Builtin.keep invocation = Builtin.keeping.program invocation := by
  have usage : Builtin.keeping.usage = Notice.keepUsage := rfl
  unfold Builtin.keep program
  rw [usage]
  cases Builtin.parsePids Notice.keepUsage invocation.arguments with
  | error error => rfl
  | ok pids =>
      dsimp only
      rw [ok_bind, if_neg fun asks => Bool.noConfusion asks.1]
      refine congrArg (Program.call (.liftAll pids)) (funext fun answer => ?_)
      refine congrArg (Program.call (.reply _)) (funext fun reply => ?_)
      cases reply <;> rfl

/-- What has been said of the question by the time the processes are dealt
with. -/
inductive Approval (errand : Errand) (invocation : Invocation)
    (pids : List Pid) : List Exchange → Prop where
  | needless : ¬(errand.confirms = true ∧ 1 < pids.length) →
      Approval errand invocation pids []
  | given : errand.confirms = true → 1 < pids.length →
      Approval errand invocation pids [⟨question invocation pids, .ok true⟩]

/-- What such a command has come to, and what it has been told by then. -/
inductive Course (errand : Errand) (invocation : Invocation) :
    List Exchange → Program Unit → Prop where
  | refused (error : CommandError) :
      Builtin.parsePids errand.usage invocation.arguments = .error error →
      Course errand invocation [] (.fail error)
  | asks (pids : List Pid) :
      Builtin.parsePids errand.usage invocation.arguments = .ok pids →
      errand.confirms = true → 1 < pids.length →
      Course errand invocation []
        (.call (question invocation pids) (errand.decided pids))
  | declined (pids : List Pid) (answer : Except CommandError Bool) :
      Builtin.parsePids errand.usage invocation.arguments = .ok pids →
      errand.confirms = true → 1 < pids.length → answer ≠ .ok true →
      Course errand invocation [⟨question invocation pids, answer⟩]
        (.fail (.ofVerdict answer))
  | acts (pids : List Pid) (talk : List Exchange) :
      Builtin.parsePids errand.usage invocation.arguments = .ok pids →
      errand.Approval invocation pids talk →
      Course errand invocation talk (errand.acting pids)
  | reports (pids : List Pid) (talk : List Exchange)
      (answer : (errand.call pids).Reply) :
      Builtin.parsePids errand.usage invocation.arguments = .ok pids →
      errand.Approval invocation pids talk →
      Course errand invocation (talk ++ [⟨errand.call pids, answer⟩])
        (.call (.reply (errand.report pids answer)) Program.told)
  | ends (pids : List Pid) (talk : List Exchange)
      (answer : (errand.call pids).Reply)
      (reply : Except CommandError String) :
      Builtin.parsePids errand.usage invocation.arguments = .ok pids →
      errand.Approval invocation pids talk →
      Course errand invocation (talk ++ [⟨errand.call pids, answer⟩] ++
        [⟨.reply (errand.report pids answer), reply⟩]) (Program.told reply)

variable {errand : Errand} {invocation : Invocation} {pids : List Pid}
  {talk : List Exchange} {point : Program Unit}

theorem Course.begins (errand : Errand) (invocation : Invocation) :
    errand.Course invocation [] (errand.program invocation) := by
  unfold program
  cases read : Builtin.parsePids errand.usage invocation.arguments with
  | error error => exact .refused error read
  | ok pids =>
      dsimp only
      split
      · rename_i asks
        exact .asks pids read asks.1 asks.2
      · rename_i needless
        exact .acts pids [] read (.needless needless)

theorem Course.hears {call : Call} {next : call.Reply → Program Unit}
    (course : errand.Course invocation talk (.call call next))
    (answer : call.Reply) :
    errand.Course invocation (talk ++ [⟨call, answer⟩]) (next answer) := by
  generalize same : Program.call call next = point at course
  cases course with
  | refused | declined => cases same
  | asks pids read confirms several =>
      cases same
      match answer with
      | .ok true =>
          exact .acts pids _ read (.given confirms several)
      | .ok false => exact .declined pids _ read confirms several nofun
      | .error error => exact .declined pids _ read confirms several nofun
  | acts pids _ read approval =>
      cases same
      exact .reports pids talk answer read approval
  | reports pids talk reply read approval =>
      cases same
      exact .ends pids talk reply answer read approval
  | ends pids talk reply told read approval =>
      cases told <;> cases same

theorem Course.of_comes (comes : (errand.program invocation).Comes talk point) :
    errand.Course invocation talk point := by
  induction comes with
  | begins => exact .begins errand invocation
  | hears answer _ induction => exact induction.hears answer

theorem call_ne {call : Call} (slow : call.takesTime = true)
    (pids : List Pid) : errand.call pids ≠ call := by
  rintro rfl
  cases slow.symm.trans (errand.swift pids)

theorem Course.of_call {next : (errand.call pids).Reply → Program Unit}
    (course : errand.Course invocation talk (.call (errand.call pids) next)) :
    Builtin.parsePids errand.usage invocation.arguments = .ok pids ∧
      errand.Approval invocation pids talk := by
  generalize same : Program.call (errand.call pids) next = point at course
  cases course with
  | refused | declined => cases same
  | asks | reports =>
      exact absurd (Program.call.inj same).1 (errand.call_ne rfl pids)
  | acts others _ read approval =>
      obtain rfl := errand.faithful _ _ (Program.call.inj same).1
      exact ⟨read, approval⟩
  | ends _ _ _ told => cases told <;> cases same

theorem Course.plain {call : Call} {next : call.Reply → Program Unit}
    (course : errand.Course invocation talk (.call call next)) :
    (call.isPlain = true ∧ call ≠ .resolveClashes) ∨
      ∃ pids, call = errand.call pids := by
  generalize same : Program.call call next = point at course
  cases course with
  | refused | declined => cases same
  | asks | reports =>
      cases same
      exact .inl ⟨rfl, nofun⟩
  | acts pids =>
      cases same
      exact .inr ⟨pids, rfl⟩
  | ends _ _ _ told => cases told <;> cases same

theorem Approval.not_mem (approval : errand.Approval invocation pids talk)
    {others : List Pid} (answer : (errand.call others).Reply) :
    ⟨errand.call others, answer⟩ ∉ talk := by
  intro member
  cases approval with
  | needless => cases member
  | given =>
      exact errand.call_ne rfl others
        (congrArg Exchange.call (List.mem_singleton.mp member))

theorem Approval.yes (approval : errand.Approval invocation pids talk)
    {prompt : String} {timeout poll : Option Nat}
    {answer : Except CommandError Bool}
    (member : ⟨.confirm prompt timeout poll, answer⟩ ∈ talk) :
    answer = .ok true := by
  cases approval with
  | needless => cases member
  | given =>
      cases List.mem_singleton.mp member
      rfl

theorem Course.of_declined (course : errand.Course invocation talk point)
    {prompt : String} {timeout poll : Option Nat}
    {answer : Except CommandError Bool}
    (member : ⟨.confirm prompt timeout poll, answer⟩ ∈ talk)
    (no : answer ≠ .ok true) :
    point = .fail (.ofVerdict answer) ∧
      ∀ others (reply : (errand.call others).Reply),
        ⟨errand.call others, reply⟩ ∉ talk := by
  have other : ∀ (pids : List Pid) (reply : (errand.call pids).Reply),
      (⟨.confirm prompt timeout poll, answer⟩ : Exchange) ∉
        [⟨errand.call pids, reply⟩] := fun pids reply last =>
    errand.call_ne rfl pids
      (congrArg Exchange.call (List.mem_singleton.mp last)).symm
  cases course with
  | refused | asks => cases member
  | declined pids result =>
      cases List.mem_singleton.mp member
      refine ⟨rfl, fun others reply dealt => ?_⟩
      exact errand.call_ne rfl others
        (congrArg Exchange.call (List.mem_singleton.mp dealt))
  | acts pids _ _ approval => exact absurd (approval.yes member) no
  | reports pids _ reply _ approval =>
      rcases List.mem_append.mp member with early | last
      · exact absurd (approval.yes early) no
      · exact absurd last (other pids reply)
  | ends pids _ reply _ _ approval =>
      rcases List.mem_append.mp member with member | last
      · rcases List.mem_append.mp member with early | last
        · exact absurd (approval.yes early) no
        · exact absurd last (other pids reply)
      · cases List.mem_singleton.mp last

theorem Course.of_refused (course : errand.Course invocation talk point)
    {error : CommandError}
    (refused : Builtin.parsePids errand.usage invocation.arguments =
      .error error) : point = .fail error := by
  cases course with
  | refused other same =>
      cases same.symm.trans refused
      rfl
  | asks _ read | declined _ _ read | acts _ _ read | reports _ _ _ read
  | ends _ _ _ _ read => cases read.symm.trans refused

theorem Course.of_approved (course : errand.Course invocation talk point)
    (read : Builtin.parsePids errand.usage invocation.arguments = .ok pids)
    (approved : errand.confirms = true → 1 < pids.length →
      ∃ prompt timeout poll, ⟨.confirm prompt timeout poll, .ok true⟩ ∈ talk) :
    point = errand.acting pids ∨
      ∃ answer, ⟨errand.call pids, answer⟩ ∈ talk := by
  cases course with
  | refused _ refused => cases refused.symm.trans read
  | asks _ known confirms several =>
      cases known.symm.trans read
      obtain ⟨_, _, _, member⟩ := approved confirms several
      cases member
  | declined _ _ known confirms several no =>
      cases known.symm.trans read
      obtain ⟨_, _, _, member⟩ := approved confirms several
      cases List.mem_singleton.mp member
      exact absurd rfl no
  | acts _ _ known =>
      cases known.symm.trans read
      exact .inl rfl
  | reports _ _ answer known | ends _ _ answer _ known =>
      cases known.symm.trans read
      exact .inr ⟨answer, by simp⟩

end Errand

end Switchboard
