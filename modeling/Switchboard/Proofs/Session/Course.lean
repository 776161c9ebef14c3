import Mathlib.Data.List.MinMax
import Switchboard.Proofs.Session.Attention

/-!
# The course of a wait

The story of a wait that has been started names everything that can end it,
each with its moment: the interrupt, the first match, the deadline, and a
regular probe that finds the resource gone.  Where probes answer at once a
wait runs on schedule, with one regular probe after each period, and as long
as it has not ended none of these moments has been missed.
-/

namespace Switchboard.Session

/-- An end of a wait: when, and with what. -/
abbrev Outcome := Nat × Except WaitError Event

namespace Start

/-- The deadline; a timeout of zero is none. -/
def deadline? (start : Start) : Option Nat :=
  (start.timeout.filter (0 < ·)).map (start.moment + ·)

def liveness (start : Start) : Option Liveness :=
  start.watch.map fun watch => { period := watch.period }

/-- The moment of a probe, counted from zero: after each full period since the
start, where the period is not zero. -/
def poll? (start : Start) (count : Nat) : Option Nat :=
  (Liveness.period? start.liveness).map fun period =>
    start.moment + (count + 1) * period

/-- The moments of the first probes. -/
def polls (start : Start) (count : Nat) : List Nat :=
  (List.range count).filterMap start.poll?

end Start

namespace Story

/-- The probe at the deadline finds that the resource is gone. -/
def goneAtDeadline (story : Story) : Bool :=
  story.checks.any fun check => check.reason = .deadline && !check.alive

/-- The first regular probe that finds that the resource is gone. -/
def gone? (story : Story) : Option Check :=
  story.checks.find? fun check => check.reason = .tick && !check.alive

/-- The moments at which regular probes have been made. -/
def polled (story : Story) : List Nat :=
  (story.checks.filter (·.reason = .tick)).map Check.moment

/-- What ends a wait that was started, in the order of precedence: the
interrupt and the first match, not before the start; the deadline, unless it
was lifted; a regular probe that finds the resource gone. -/
def causes (story : Story) (start : Start) : List Outcome :=
  (story.interrupt?.map fun moment =>
      (max start.moment moment, .error .interrupted)).toList ++
    ((story.match?.map fun (moment, event) =>
      (max start.moment moment, .ok event)).toList ++
    (((if story.lifted then none else start.deadline?).map fun moment =>
      (moment, .error (if story.goneAtDeadline then .resourceGone
        else .timeout))).toList ++
    (story.gone?.map fun check =>
      (check.moment, .error .resourceGone)).toList))

/-- The earliest end, and the first of those that come at once. -/
def verdict? (story : Story) (start : Start) : Option Outcome :=
  (story.causes start).argmin Prod.fst

/-- None of the causes lies before a moment. -/
structure OnTime (story : Story) (start : Start) (now : Nat) : Prop where
  interrupt : ∀ moment, story.interrupt? = some moment →
    now ≤ max start.moment moment
  matched : ∀ found, story.match? = some found →
    now ≤ max start.moment found.1
  deadline : story.lifted = false → ∀ moment,
    start.deadline? = some moment → now ≤ moment
  gone : ∀ check, story.gone? = some check → now ≤ check.moment

end Story

section Causes

variable {story : Story} {start : Start} {now : Nat} {rest : List Outcome}
  {first : Outcome}

theorem Story.OnTime.least (onTime : story.OnTime start now)
    {cause : Outcome} (member : cause ∈ story.causes start) :
    now ≤ cause.1 := by
  simp only [Story.causes, List.mem_append, Option.mem_toList,
    Option.map_eq_some_iff] at member
  rcases member with ⟨moment, interrupt, rfl⟩ | ⟨found, matched, rfl⟩ |
    ⟨moment, deadline, rfl⟩ | ⟨check, gone, rfl⟩
  · exact onTime.interrupt moment interrupt
  · exact onTime.matched found matched
  · cases lifted : story.lifted with
    | true => simp [lifted] at deadline
    | false =>
        apply onTime.deadline lifted
        simpa [lifted] using deadline
  · exact onTime.gone check gone

theorem Story.OnTime.of_quiet (calm : story.interrupt? = none)
    (unmatched : story.match? = none) (alive : story.gone? = none)
    (deadline : story.lifted = false → ∀ moment,
      start.deadline? = some moment → now ≤ moment) :
    story.OnTime start now := by
  constructor
  · intro moment interrupt
    rw [calm] at interrupt
    cases interrupt
  · intro found matched
    rw [unmatched] at matched
    cases matched
  · exact deadline
  · intro check gone
    rw [alive] at gone
    cases gone

theorem verdict?_of_first (onTime : story.OnTime start first.1)
    (causes : story.causes start = first :: rest) :
    story.verdict? start = some first := by
  have least : ∀ cause ∈ rest, first.1 ≤ cause.1 := by
    intro cause member
    apply onTime.least
    rw [causes]
    exact List.mem_cons_of_mem first member
  rw [Story.verdict?, causes, List.argmin_cons]
  cases later : rest.argmin Prod.fst with
  | none => rfl
  | some cause =>
      have bound := least cause (List.argmin_mem later)
      exact if_neg (Nat.not_lt.mpr bound)

theorem causes_of_interrupt {moment : Nat} (start : Start)
    (interrupt : story.interrupt? = some moment) :
    ∃ rest, story.causes start =
      (max start.moment moment, .error .interrupted) :: rest := by
  rw [Story.causes, interrupt]
  exact ⟨_, rfl⟩

theorem causes_of_match {moment : Nat} {event : Event} (start : Start)
    (calm : story.interrupt? = none)
    (matched : story.match? = some (moment, event)) :
    ∃ rest, story.causes start =
      (max start.moment moment, .ok event) :: rest := by
  rw [Story.causes, calm, matched]
  exact ⟨_, rfl⟩

theorem causes_of_deadline {moment : Nat} (bound : story.lifted = false)
    (calm : story.interrupt? = none) (unmatched : story.match? = none)
    (deadline : start.deadline? = some moment) :
    ∃ rest, story.causes start =
      (moment, .error (if story.goneAtDeadline then .resourceGone
        else .timeout)) :: rest := by
  rw [Story.causes, calm, unmatched, bound, deadline]
  exact ⟨_, rfl⟩

theorem verdict?_of_gone {check : Check} (gone : story.gone? = some check)
    (calm : story.interrupt? = none) (unmatched : story.match? = none)
    (early : story.lifted = false → ∀ moment,
      start.deadline? = some moment → check.moment < moment) :
    story.verdict? start = some (check.moment, .error .resourceGone) := by
  rw [Story.verdict?, Story.causes, calm, unmatched, gone]
  cases lifted : story.lifted with
  | true => rfl
  | false =>
      cases deadline : start.deadline? with
      | none => rfl
      | some moment =>
          have before := early lifted moment deadline
          simp [List.argmin_cons, before]

end Causes

section Courses

variable {task : TaskId} {story : Story} {start : Start} {wait : Wait}
  {count next : Nat} {session before after : Session}
  {entry : SessionWait} {episodes : List Episode} {episode : Episode}

/-- What has happened to a wait is what its story tells. -/
structure Told (task : TaskId) (story : Story) (session : Session)
    (entry : SessionWait) : Prop where
  interrupted : entry.interrupted = story.interrupt?.isSome
  lifted : (session.waiter.handoff task).lifted = story.lifted
  slot : (session.waiter.handoff task).slot =
    .holding (story.match?.map (·.2))
  interruptPast : ∀ moment, story.interrupt? = some moment →
    moment ≤ session.agenda.now
  matchPast : ∀ found, story.match? = some found →
    found.1 ≤ session.agenda.now

/-- The alarms of a wait are those of its start, and so far all its probes
have been regular and found the resource alive.  `next` counts the probes
before the one that the wait is set to make. -/
structure Scheduled (start : Start) (count next : Nat) (story : Story)
    (wait : Wait) : Prop where
  liveness : wait.liveness = start.liveness
  deadline : wait.deadline.map Alarm.due = start.deadline?
  tick : wait.tick.map Alarm.due = start.poll? next
  checks : story.checks = (start.polls count).map fun moment =>
    { moment, reason := .tick, alive := true }

/-- How far a wait is, with nothing overdue. -/
inductive Course (story : Story) (session : Session) (entry : SessionWait) :
    Prop where
  | subscribed : entry.stage = .subscribed → story.start? = none →
      story.checks = [] → Course story session entry
  | fresh (start : Start) : entry.stage = .fresh start.timeout →
      story.start? = some start → entry.liveness = start.liveness →
      start.moment = session.agenda.now → story.checks = [] →
      story.OnTime start session.agenda.now →
      Course story session entry
  | listening (start : Start) (count : Nat) (wait : Wait) :
      story.start? = some start → entry.stage = .active wait →
      wait.phase = .listening → Scheduled start count count story wait →
      (∀ moment, start.poll? count = some moment →
        session.agenda.now ≤ moment) →
      start.moment ≤ session.agenda.now →
      story.OnTime start session.agenda.now →
      Course story session entry
  | atDeadline (start : Start) (count : Nat) (wait : Wait)
      (answer : Alarm) : story.start? = some start →
      entry.stage = .active wait → wait.phase = .probing .deadline answer →
      answer.due ≤ session.agenda.now →
      Scheduled start count count story wait →
      (∀ moment, start.poll? count = some moment →
        session.agenda.now ≤ moment) →
      story.interrupt? = none → story.match? = none →
      story.lifted = false → start.deadline? = some session.agenda.now →
      Course story session entry
  | atTick (start : Start) (count : Nat) (wait : Wait) (answer : Alarm) :
      story.start? = some start → entry.stage = .active wait →
      wait.phase = .probing .tick answer →
      answer.due ≤ session.agenda.now →
      Scheduled start count (count + 1) story wait →
      start.poll? count = some session.agenda.now →
      story.interrupt? = none → story.match? = none →
      (story.lifted = false → ∀ moment, start.deadline? = some moment →
        session.agenda.now < moment) →
      Course story session entry

theorem polls_succ {moment : Nat} (due : start.poll? count = some moment) :
    start.polls (count + 1) = start.polls count ++ [moment] := by
  simp [Start.polls, List.range_succ, due]

theorem poll?_succ {moment : Nat} (due : start.poll? count = some moment) :
    start.poll? (count + 1) =
      (Liveness.period? start.liveness).map (moment + ·) := by
  obtain ⟨period, set, rfl⟩ := Option.map_eq_some_iff.mp due
  rw [Start.poll?, set, Option.map_some, Option.map_some,
    Nat.add_mul (count + 1) 1 period, Nat.one_mul, Nat.add_assoc]

theorem answer?_of_listens (listens : entry.probe? = none) :
    session.answer? entry = none := by
  simp [answer?, listens]

namespace Scheduled

theorem gone? (scheduled : Scheduled start count next story wait) :
    story.gone? = none := by
  rw [Story.gone?, scheduled.checks, List.find?_eq_none]
  intro check member
  obtain ⟨moment, _, rfl⟩ := List.mem_map.mp member
  simp

theorem goneAtDeadline (scheduled : Scheduled start count next story wait) :
    story.goneAtDeadline = false := by
  rw [Story.goneAtDeadline, scheduled.checks, List.any_eq_false]
  intro check member
  obtain ⟨moment, _, rfl⟩ := List.mem_map.mp member
  simp

theorem polled (scheduled : Scheduled start count next story wait) :
    story.polled = start.polls count := by
  have regular : story.checks.filter (·.reason = .tick) = story.checks := by
    rw [scheduled.checks]
    apply List.filter_eq_self.mpr
    intro check member
    obtain ⟨moment, _, rfl⟩ := List.mem_map.mp member
    simp
  rw [Story.polled, regular, scheduled.checks, List.map_map]
  exact List.map_id _

end Scheduled

namespace Told

theorem keeps {story' : Story} {entry' : SessionWait}
    (told : Told task story before entry)
    (alarm : entry'.interrupted = entry.interrupted)
    (handoff : after.waiter.handoff task = before.waiter.handoff task)
    (now : before.agenda.now ≤ after.agenda.now)
    (interrupt : story'.interrupt? = story.interrupt?)
    (matched : story'.match? = story.match?)
    (lifted : story'.lifted = story.lifted) :
    Told task story' after entry' where
  interrupted := by
    rw [alarm, interrupt]
    exact told.interrupted
  lifted := by
    rw [handoff, lifted]
    exact told.lifted
  slot := by
    rw [handoff, matched]
    exact told.slot
  interruptPast := by
    intro moment fired
    rw [interrupt] at fired
    exact Nat.le_trans (told.interruptPast moment fired) now
  matchPast := by
    intro found first
    rw [matched] at first
    exact Nat.le_trans (told.matchPast found first) now

theorem calm (told : Told task story session entry)
    (calm : entry.interrupted = false) : story.interrupt? = none := by
  have same := told.interrupted
  rw [calm] at same
  simpa using same.symm

theorem unmatched (told : Told task story session entry)
    (empty : (session.waiter.handoff task).slot = .empty) :
    story.match? = none := by
  have same := told.slot
  rw [empty] at same
  cases matched : story.match? with
  | none => rfl
  | some found =>
      rw [matched] at same
      cases same

theorem deadline_now (told : Told task story session entry)
    (scheduled : Scheduled start count next story wait)
    (onTime : story.OnTime start session.agenda.now)
    (expired : wait.expired session.agenda (session.waiter.handoff task) =
      true) :
    story.lifted = false ∧ start.deadline? = some session.agenda.now := by
  obtain ⟨alarm, set, due⟩ := Wait.deadline_of_expired expired
  have unlifted := told.lifted.symm.trans (Wait.lifted_of_expired expired)
  have deadline : start.deadline? = some alarm.due := by
    rw [← scheduled.deadline, set]
    rfl
  have now : alarm.due = session.agenda.now :=
    Nat.le_antisymm due (onTime.deadline unlifted _ deadline)
  exact ⟨unlifted, now ▸ deadline⟩

theorem ahead (told : Told task story session entry)
    (scheduled : Scheduled start count count story wait)
    (phase : wait.phase = .listening)
    (idles : wait.Idles session.agenda entry.interrupted
      (session.waiter.handoff task)) {later : Nat}
    (unrung : ∀ alarm ∈ wait.alarms,
      alarm.due ≤ session.agenda.now ∨ later ≤ alarm.due) :
    story.OnTime start later ∧
      ∀ moment, start.poll? count = some moment → later ≤ moment := by
  cases idles with
  | probing _ _ probing =>
      rw [phase] at probing
      cases probing
  | listening _ calm empty patient quiet =>
      have alarms : wait.alarms =
          wait.deadline.toList ++ wait.tick.toList := by
        rw [Wait.alarms, phase]
      constructor
      · apply Story.OnTime.of_quiet (told.calm calm) (told.unmatched empty)
          scheduled.gone?
        intro bound moment deadline
        rw [← scheduled.deadline] at deadline
        obtain ⟨alarm, set, rfl⟩ := Option.map_eq_some_iff.mp deadline
        have open_ := Wait.lt_deadline patient (told.lifted.trans bound) set
        exact (unrung alarm (by simp [alarms, set])).resolve_left
          (Nat.not_le_of_lt open_)
      · intro moment poll
        rw [← scheduled.tick] at poll
        obtain ⟨alarm, set, rfl⟩ := Option.map_eq_some_iff.mp poll
        have open_ := Wait.lt_tick quiet set
        exact (unrung alarm (by simp [alarms, set])).resolve_left
          (Nat.not_le_of_lt open_)

end Told

namespace Course

variable {story' : Story} {entry' : SessionWait}

theorem befallen (course : Course story before entry)
    (now : after.agenda.now = before.agenda.now)
    (listens : entry.probe? = none)
    (stage : entry'.stage = entry.stage)
    (liveness : entry'.liveness = entry.liveness)
    (started : story'.start? = story.start?)
    (checks : story'.checks = story.checks)
    (onTime : ∀ start, story.OnTime start before.agenda.now →
      story'.OnTime start before.agenda.now) :
    Course story' after entry' := by
  cases course with
  | subscribed subscribed unstarted none =>
      exact .subscribed (stage.trans subscribed) (started.trans unstarted)
        (checks.trans none)
  | fresh start fresh begun watched moment none timely =>
      have later := onTime start timely
      rw [← now] at moment later
      exact .fresh start (stage.trans fresh) (started.trans begun)
        (liveness.trans watched) moment (checks.trans none) later
  | listening start count wait begun active phase scheduled poll moment
      timely =>
      have later := onTime start timely
      rw [← now] at poll moment later
      refine .listening start count wait (started.trans begun)
        (stage.trans active) phase ?_ poll moment later
      exact ⟨scheduled.liveness, scheduled.deadline, scheduled.tick,
        checks.trans scheduled.checks⟩
  | atDeadline _ _ wait answer _ active phase
  | atTick _ _ wait answer _ active phase =>
      rw [probe?_eq_some.mpr ⟨wait, active, phase⟩] at listens
      cases listens

theorem beside (course : Course story before entry)
    (now : after.agenda.now = before.agenda.now)
    (alike : entry.Alike entry') : Course story after entry' := by
  cases listens : entry.probe? with
  | none =>
      exact course.befallen now listens alike.stage alike.liveness rfl rfl
        fun _ onTime => onTime
  | some probe =>
      cases course with
      | atDeadline start count wait answer started stage phase due scheduled
          poll calm unmatched bound deadline =>
          rw [← now] at due poll deadline
          exact .atDeadline start count wait answer started
            (alike.stage.trans stage) phase due scheduled poll calm unmatched
            bound deadline
      | atTick start count wait answer started stage phase due scheduled poll
          calm unmatched early =>
          rw [← now] at due poll early
          exact .atTick start count wait answer started
            (alike.stage.trans stage) phase due scheduled poll calm unmatched
            early
      | subscribed stage | fresh _ stage =>
          rw [SessionWait.probe?, stage] at listens
          cases listens
      | listening start count wait _ stage phase =>
          simp [SessionWait.probe?, stage, phase] at listens

theorem passes (course : Course story session entry)
    (told : Told task story session entry)
    (mindful : Mindful task entry session)
    (found : session.waits[task]? = some entry)
    (listens : entry.probe? = none) {span : Nat}
    (prompt : Episode.Prompt ⟨session, .pass span⟩)
    (now : after.agenda.now = session.agenda.now + span) :
    Course story after entry := by
  obtain ⟨settled, unrung⟩ := prompt
  cases course with
  | subscribed stage unstarted none =>
      exact .subscribed stage unstarted none
  | fresh start stage =>
      exact absurd settled (mindful.fresh _ stage).not_settled
  | listening start count wait started stage phase scheduled poll begun
      onTime =>
      obtain ⟨_, idles⟩ := mindful.attends_or_idles stage settled
      have alarms : entry.alarms = wait.alarms := by
        simp [SessionWait.alarms, stage]
      obtain ⟨later, ahead⟩ := told.ahead scheduled phase idles
        fun alarm set => unrung _ (mem_alarms found (alarms ▸ set))
      have moved : Episode.moment ⟨session, .pass span⟩ + span =
          after.agenda.now := now.symm
      rw [moved] at later ahead
      exact .listening start count wait started stage phase scheduled ahead
        (by omega) later
  | atDeadline _ _ wait answer _ active phase
  | atTick _ _ wait answer _ active phase =>
      rw [probe?_eq_some.mpr ⟨wait, active, phase⟩] at listens
      cases listens

theorem begins (started : story.start? = some start)
    (liveness : entry.liveness = start.liveness)
    (moment : start.moment = before.agenda.now)
    (checks : story.checks = [])
    (onTime : story.OnTime start before.agenda.now) (task : TaskId) :
    Course story (before.beginWait task entry start.timeout)
      { entry with stage := .active (Wait.start entry.subscription
        start.timeout entry.liveness before.agenda).1 } := by
  refine .listening start 0 _ started rfl rfl ⟨liveness, ?_, ?_, checks⟩ ?_
    (Nat.le_of_eq moment) onTime
  · rw [Start.deadline?, moment]
    exact Option.map_map _ _ _
  · rw [Start.poll?, moment, ← liveness]
    simp only [Nat.zero_add, Nat.one_mul]
    exact Option.map_map _ _ _
  · intro poll due
    obtain ⟨period, _, rfl⟩ := Option.map_eq_some_iff.mp due
    have now : (before.beginWait task entry start.timeout).agenda.now =
        start.moment := moment.symm
    omega

/-- A wait that listens starts a probe at its deadline or at a poll. -/
theorem probes {reason : ProbeReason}
    (started : story.start? = some start)
    (scheduled : Scheduled start count count story wait)
    (told : Told task story before entry)
    (calm : entry.interrupted = false)
    (empty : (before.waiter.handoff task).slot = .empty)
    (cause : wait.Probes before.agenda (before.waiter.handoff task) reason)
    (poll : ∀ moment, start.poll? count = some moment →
      before.agenda.now ≤ moment)
    (onTime : story.OnTime start before.agenda.now)
    (delay : (entry.watch.map Watch.delay).getD 0 = 0) :
    Course story (before.startProbe task entry wait reason)
      { entry with stage := .active (wait.probing reason
        (before.agenda.alarmIn ((entry.watch.map Watch.delay).getD 0))
        before.agenda.countAlarm) } := by
  have instant : (before.agenda.alarmIn
      ((entry.watch.map Watch.delay).getD 0)).due ≤ before.agenda.now := by
    simp [Agenda.alarmIn, delay]
  cases cause with
  | deadline expired =>
      obtain ⟨unlifted, deadline⟩ :=
        told.deadline_now scheduled onTime expired
      refine .atDeadline start count _ _ started rfl rfl instant ?_ poll
        (told.calm calm) (told.unmatched empty) unlifted deadline
      exact ⟨scheduled.liveness, scheduled.deadline, scheduled.tick,
        scheduled.checks⟩
  | tick patient due =>
      obtain ⟨alarm, set, rings⟩ := Wait.tick_of_probes due
      have next : start.poll? count = some alarm.due := by
        rw [← scheduled.tick, set]
        rfl
      have now : alarm.due = before.agenda.now :=
        Nat.le_antisymm rings (poll _ next)
      rw [now] at next
      refine .atTick start count _ _ started rfl rfl instant ?_ next
        (told.calm calm) (told.unmatched empty) ?_
      · refine ⟨scheduled.liveness, scheduled.deadline, ?_,
          scheduled.checks⟩
        rw [poll?_succ next, ← scheduled.liveness]
        exact Option.map_map _ _ _
      · intro bound moment deadline
        rw [← scheduled.deadline] at deadline
        obtain ⟨alarm, set, rfl⟩ := Option.map_eq_some_iff.mp deadline
        exact Wait.lt_deadline patient (told.lifted.trans bound) set

/-- A regular probe has found the resource alive. -/
theorem resumes {answer : Alarm} (course : Course story before entry)
    (active : entry.stage = .active wait)
    (phase : wait.phase = .probing .tick answer)
    (now : after.agenda.now = before.agenda.now) :
    Course (story.hear (some ⟨before.agenda.now, .tick, true⟩)) after
      { entry with stage := .active { wait with phase := .listening } } := by
  cases course with
  | atTick start count other also started stage phase due scheduled poll
      calm unmatched early =>
      rw [active] at stage
      cases stage
      have continued : Scheduled start (count + 1) (count + 1)
          (story.hear (some ⟨before.agenda.now, .tick, true⟩))
          { wait with phase := .listening } := by
        refine ⟨scheduled.liveness, scheduled.deadline, scheduled.tick, ?_⟩
        rw [polls_succ poll, Story.hear, scheduled.checks, List.map_append]
        rfl
      have moment : start.moment ≤ before.agenda.now := by
        obtain ⟨period, _, same⟩ := Option.map_eq_some_iff.mp poll
        omega
      have timely : (story.hear (some ⟨before.agenda.now, .tick, true⟩)).OnTime
          start after.agenda.now := by
        apply Story.OnTime.of_quiet
        · exact calm
        · exact unmatched
        · exact continued.gone?
        · intro bound moment deadline
          rw [now]
          exact Nat.le_of_lt (early bound moment deadline)
      refine .listening start (count + 1) _ started rfl rfl continued ?_
        (now ▸ moment) timely
      · intro later next
        rw [poll?_succ poll] at next
        obtain ⟨period, _, rfl⟩ := Option.map_eq_some_iff.mp next
        omega
  | atDeadline _ _ other also _ stage probing
  | listening _ _ other _ stage probing =>
      rw [active] at stage
      cases stage
      rw [phase] at probing
      cases probing
  | subscribed stage | fresh _ stage =>
      rw [active] at stage
      cases stage

/-- A small step of the wait that does not end it. -/
theorem turn (course : Course story before entry)
    (told : Told task story before entry)
    (turn : Turn task entry before after)
    (delay : (entry.watch.map Watch.delay).getD 0 = 0)
    (found : before.waits[task]? = some entry)
    (there : after.waits[task]? = some entry') :
    entry'.stage = .ended ∨
      Course (story.hear (before.answer? entry)) after entry' := by
  have silent : entry.probe? = none →
      story.hear (before.answer? entry) = story := by
    intro listens
    simp [answer?_of_listens listens]
  cases turn with
  | discards | ends =>
      obtain rfl := eq_change_of_modify found there
      exact .inl rfl
  | rests stage =>
      obtain rfl := Option.some.inj (found.symm.trans there)
      rcases stage with subscribed | ended
      · right
        rw [silent (by simp [SessionWait.probe?, subscribed])]
        exact course.beside rfl (.refl entry)
      · exact .inl ended
  | begins timeout fresh =>
      obtain rfl := eq_change_of_modify found there
      right
      rw [silent (by simp [SessionWait.probe?, fresh])]
      cases course with
      | fresh start stage started liveness moment checks onTime =>
          rw [fresh] at stage
          cases stage
          exact begins started liveness moment checks onTime task
      | subscribed stage | listening _ _ _ _ stage
      | atDeadline _ _ _ _ _ stage | atTick _ _ _ _ _ stage =>
          rw [fresh] at stage
          cases stage
  | probes wait reason active kept phase calm empty cause =>
      obtain rfl := eq_change_of_modify found there
      right
      rw [silent (by simp [SessionWait.probe?, active, phase])]
      cases course with
      | listening start count other started stage _ scheduled poll _ onTime =>
          rw [active] at stage
          cases stage
          exact probes started scheduled told calm empty cause poll onTime
            delay
      | atDeadline _ _ other _ _ stage probing
      | atTick _ _ other _ _ stage probing =>
          rw [active] at stage
          cases stage
          rw [phase] at probing
          cases probing
      | subscribed stage | fresh _ stage =>
          rw [active] at stage
          cases stage
  | resumes wait answer probes active kept phase due alive =>
      obtain rfl := eq_change_of_modify found there
      right
      have answers : before.answer? entry =
          some ⟨before.agenda.now, .tick, true⟩ := by
        simp [answer?, SessionWait.probe?, active, phase, kept, due, alive]
      rw [answers]
      exact course.resumes active phase rfl
  | waits wait active kept idles =>
      obtain rfl := Option.some.inj (found.symm.trans there)
      right
      cases idles with
      | listening phase =>
          rw [silent (by simp [SessionWait.probe?, active, phase])]
          exact course.beside rfl (.refl entry)
      | probing reason answer phase open_ =>
          have late : ¬ answer.due ≤ before.agenda.now := by
            simpa [Agenda.isDue] using open_
          cases course with
          | atDeadline _ _ other _ _ stage probing due
          | atTick _ _ other _ _ stage probing due =>
              rw [active] at stage
              cases stage
              rw [phase] at probing
              cases probing
              exact absurd due late
          | listening _ _ other _ stage listens =>
              rw [active] at stage
              cases stage
              rw [phase] at listens
              cases listens
          | subscribed stage | fresh _ stage =>
              rw [active] at stage
              cases stage

end Course

end Courses

end Switchboard.Session
