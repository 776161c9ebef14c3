import Switchboard.Bot.Activity

/-!
# The turns of tasks

The task of a process runs the body and then deals with the outcome: the use may
be given back, the room is told, and operators read of faults. A kill is looked
at whenever the task gets the floor, before anything else; a body that has been
killed never takes another step.
-/

namespace Switchboard.World

def setTask (position : TaskId) (task : Task) (world : World) : World :=
  { world with tasks := world.tasks.set position task }

def setStage (position : TaskId) (task : ProcessTask) (stage : Stage)
    (world : World) : World :=
  world.setTask position (.process { task with stage })

/-- Lets go of all guards and marks that a body still holds. -/
def releaseGuards (pid : Pid) (world : World) : World :=
  match world.processes.all[pid]? with
  | none => world
  | some process =>
    let world :=
      process.guards.foldl (fun world id => world.closeWait pid id) world
    world.modifyProcess pid fun process =>
      { process with
        guards := []
        waits := process.waits - process.marks
        marks := 0 }

/-- The body has ended: the process is taken off the register, and its end is
noted. -/
def conclude (position : TaskId) (task : ProcessTask) (outcome : Outcome)
    (world : World) : World :=
  let world := world.releaseGuards task.pid
  let ending := { moment := world.agenda.now, pid := task.pid, outcome }
  { world with
    processes := world.processes.remove task.pid
    ends := world.ends ++ [ending] }.setStage position task (.closing outcome)

def actorOf (position : TaskId) (task : ProcessTask) : Actor where
  task := position
  pid := task.pid
  chat := task.chat
  invocation := task.invocation

/-- The task of a process has got the floor. The body is built on the first
occasion; a kill ends it wherever it stands. -/
def enterProcess (position : TaskId) (task : ProcessTask) (world : World) :
    World :=
  match task.stage with
  | .unbuilt (.error payload) =>
    world.conclude position task (.error payload.toError)
  | .unbuilt (.ok program) =>
    if world.isKilled task.pid
      then world.conclude position task (.error .interrupted)
    else world.setStage position task (.body (.running program))
  | .body activity =>
    if world.isKilled task.pid then
      (world.abandon (actorOf position task) activity).conclude position task
        (.error .interrupted)
    else world
  | _ => world

/-- Where operators are told of faults. -/
def reportChat? (world : World) : Option Chat := do
  let room ← world.config.system.reportRoom
  let shred ← world.territory.fleet.ownerOf room
  world.gateway.chat? shred room

def reportText (pid : Pid) (fault : Fault) (world : World) : String :=
  match world.processes.all[pid]? with
  | none => ""
  | some process =>
    Notice.operatorReport pid process.command.name process.origin.actor
      process.origin.room
      (CommandError.report fault)

/-- Tells operators of the outcome, where that is due and possible. -/
def startReport (position : TaskId) (task : ProcessTask) (outcome : Outcome)
    (world : World) : World :=
  match outcome, world.reportChat? with
  | .error (.internal fault), some chat =>
    let text := world.reportText task.pid fault
    let (sending, world) := world.startMessage position chat text
    world.setStage position task (.reporting sending)
  | _, _ => world.setStage position task .over

/-- Deals with the outcome: the use may be given back, and the room is told. -/
def close (position : TaskId) (task : ProcessTask) (outcome : Outcome)
    (world : World) : World :=
  match task.aftermath with
  | none => world.setStage position task .over
  | some aftermath =>
    let disposition := outcome.disposition
    let world :=
      match aftermath.reservation with
      | some reservation =>
        if disposition.keepCooldown then world
        else { world with cooldowns := world.cooldowns.release reservation }
      | none => world
    match disposition.notice with
    | some notice =>
      let (sending, world) := world.startNotice position aftermath.chat notice
      world.setStage position task (.announcing outcome sending)
    | none => world.setStage position task .over

def workProcess (position : TaskId) (task : ProcessTask) (world : World) :
    World :=
  match task.stage with
  | .unbuilt _ => world.yieldFloor
  | .body activity =>
    match world.stepActivity (actorOf position task) activity with
    | (.done outcome, world) => world.conclude position task outcome
    | (.go activity, world) => world.setStage position task (.body activity)
    | (.blocked activity, world) =>
      (world.setStage position task (.body activity)).yieldFloor
  | .closing outcome => world.close position task outcome
  | .announcing outcome sending =>
    if world.isDue sending.answer then world.startReport position task outcome
    else world.yieldFloor
  | .reporting sending =>
    if world.isDue sending.answer then
      (world.finishMessage sending).2.setStage position task .over
    else world.yieldFloor
  | .over => world.yieldFloor

/-- One small step of a notice that has a task of its own. -/
def workNotice (position : TaskId) (stage : NoticeStage) (world : World) :
    World :=
  match stage with
  | .fresh chat text =>
    let (sending, world) := world.startNotice position chat text
    world.setTask position (.notice (.sending sending))
  | .sending sending =>
    if world.isDue sending.answer then world.setTask position (.notice .over)
    else world.yieldFloor
  | .over => world.yieldFloor

def enter (position : TaskId) (world : World) : World :=
  match world.tasks[position]? with
  | some (.process task) => world.enterProcess position task
  | _ => world

def work (position : TaskId) (world : World) : World :=
  match world.tasks[position]? with
  | some (.process task) => world.workProcess position task
  | some (.notice stage) => world.workNotice position stage
  | none => world.yieldFloor

def alarms (world : World) : List (Alarm × TaskId) :=
  world.tasks.zipIdx.flatMap fun (task, position) =>
    task.alarms.map (·, position)

instance : Machine World where
  agenda := World.agenda
  setAgenda agenda world := { world with agenda }
  alarms := alarms
  enter := enter
  work := work

end Switchboard.World
