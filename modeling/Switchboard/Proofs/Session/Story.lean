import Switchboard.Proofs.Session.History

/-!
# The story of one wait

The history of a run tells of each wait how it was started, when its interrupt
fired, what its first match was, whether its deadline was lifted, and what its
probes found.
-/

namespace Switchboard

/-- The probe that a wait has started: its reason, and when it answers. -/
def SessionWait.probe? (entry : SessionWait) : Option (ProbeReason × Alarm) :=
  match entry.stage with
  | .active wait =>
    match wait.phase with
    | .probing reason answer => some (reason, answer)
    | .listening => none
  | _ => none

namespace Session

/-- How a wait was started. -/
structure Start where
  moment : Nat
  timeout : Option Nat
  watch : Option Watch
deriving DecidableEq, Repr

/-- What a probe has found. -/
structure Check where
  moment : Nat
  reason : ProbeReason
  alive : Bool
deriving DecidableEq, Repr

/-- What the probe of a wait that works now answers. -/
def answer? (entry : SessionWait) (session : Session) : Option Check :=
  entry.probe?.bind fun (reason, answer) =>
    if entry.dropped = false ∧ session.agenda.isDue answer = true then
      some
        { moment := session.agenda.now, reason, alive := session.finds entry }
    else none

namespace Episode

/-- The wait of a task is started. -/
def start? (task : TaskId) (episode : Episode) : Option Start :=
  match episode.occurrence with
  | .startWait name timeout watch =>
    if episode.before.locate? name = some task ∧
        (episode.before.waits[task]?).map SessionWait.stage =
          some .subscribed then
      some { moment := episode.moment, timeout, watch }
    else none
  | _ => none

/-- The interrupt of a task fires. -/
def interrupt? (task : TaskId) (episode : Episode) : Option Nat :=
  match episode.occurrence with
  | .interrupt name =>
    if episode.before.locate? name = some task ∧
        (episode.before.waits[task]?).map SessionWait.disarmed =
          some false then
      some episode.moment
    else none
  | _ => none

/-- The deadline of a task is lifted. -/
def lifts (task : TaskId) (episode : Episode) : Bool :=
  match episode.occurrence with
  | .lift name => decide (episode.before.locate? name = some task)
  | _ => false

/-- The wait of a task is dropped. -/
def Drops (task : TaskId) (episode : Episode) : Prop :=
  ∃ name, episode.occurrence = .drop name ∧
    episode.before.locate? name = some task

/-- A probe for a task answers. -/
def check? (task : TaskId) (episode : Episode) : Option Check :=
  match episode.occurrence with
  | .work =>
    if episode.before.agenda.floor = some task then
      (episode.before.waits[task]?).bind (episode.before.answer? ·)
    else none
  | _ => none

end Episode

/-- What a history tells of one wait. -/
structure Story where
  start? : Option Start
  interrupt? : Option Nat
  match? : Option (Nat × Event)
  lifted : Bool
  checks : List Check

/-- The story once a probe may have answered. -/
def Story.hear (answer : Option Check) (story : Story) : Story :=
  { story with checks := story.checks ++ answer.toList }

@[simp] theorem Story.hear_none (story : Story) :
    story.hear none = story := by
  simp [hear]

def story (task : TaskId) (episodes : List Episode) : Story where
  start? := episodes.findSome? (Episode.start? task)
  interrupt? := episodes.findSome? (Episode.interrupt? task)
  match? := firstMatch? task episodes
  lifted := episodes.any (Episode.lifts task)
  checks := episodes.filterMap (Episode.check? task)

/-- A wait has been dropped on the way. -/
def Dropped (task : TaskId) (episodes : List Episode) : Prop :=
  ∃ episode ∈ episodes, episode.Drops task

variable {task : TaskId} {episodes : List Episode} {episode : Episode}

theorem story_append (task : TaskId) (episodes : List Episode)
    (episode : Episode) :
    story task (episodes ++ [episode]) =
      { start? := (story task episodes).start?.or (episode.start? task)
        interrupt? :=
          (story task episodes).interrupt?.or (episode.interrupt? task)
        match? := firstMatch? task (episodes ++ [episode])
        lifted := (story task episodes).lifted || episode.lifts task
        checks :=
          (story task episodes).checks ++ (episode.check? task).toList } := by
  have last : [episode].filterMap (Episode.check? task) =
      (episode.check? task).toList := by
    cases answers : episode.check? task <;> simp [answers]
  have first : ∀ {α : Type} (reading : Episode → Option α),
      [episode].findSome? reading = reading episode := by
    intro α reading
    cases answers : reading episode <;> simp [answers]
  simp only [story, List.findSome?_append, List.any_append,
    List.filterMap_append, last, first, List.any_cons, List.any_nil,
    Bool.or_false]

theorem story_append_quiet (starts : episode.start? task = none)
    (interrupts : episode.interrupt? task = none)
    (lifts : episode.lifts task = false)
    (answers : episode.check? task = none)
    (matched : firstMatch? task (episodes ++ [episode]) =
      firstMatch? task episodes) :
    story task (episodes ++ [episode]) = story task episodes := by
  rw [story_append, starts, interrupts, lifts, answers, matched]
  simp [story]

theorem check?_of_story_append
    (same : (story task (episodes ++ [episode])).checks =
      (story task episodes).checks) : episode.check? task = none := by
  rw [story_append] at same
  simpa using same

theorem checks_append (task : TaskId) (episodes : List Episode)
    (episode : Episode) :
    (story task (episodes ++ [episode])).checks =
      (story task episodes).checks ++ (episode.check? task).toList := by
  rw [story_append]

theorem Dropped.later (dropped : Dropped task episodes) (episode : Episode) :
    Dropped task (episodes ++ [episode]) := by
  obtain ⟨culprit, member, drops⟩ := dropped
  exact ⟨culprit, List.mem_append_left _ member, drops⟩

theorem Episode.Drops.dropped (drops : episode.Drops task)
    (episodes : List Episode) : Dropped task (episodes ++ [episode]) :=
  ⟨episode, List.mem_append_right _ (List.mem_singleton_self _), drops⟩

end Session

end Switchboard
