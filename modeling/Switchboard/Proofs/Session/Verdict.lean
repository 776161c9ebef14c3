import Switchboard.Proofs.Session.Course
import Switchboard.Proofs.Session.Disarming

/-!
# The outcome of a wait

Where probes answer at once the outcome of a wait is determined by its story:
it ends at the earliest moment at which something ends it, and what comes
first in the order interrupt, event, deadline, probe decides where several
come at once.  What happens after the end of a wait, even at the same moment,
does not belong to its story.
-/

namespace Switchboard.Session

variable {task : TaskId} {episodes : List Episode} {episode : Episode}
  {session before after : Session} {entry next : SessionWait}

instance : (occurrence : Occurrence) → Decidable (occurrence = .work)
  | .work => .isTrue rfl
  | .pass _ | .subscribe .. | .startWait .. | .dispatch _ | .lift _
  | .interrupt _ | .disarm _ | .drop _ | .setFlag .. | .pace .. =>
    .isFalse nofun

/-- The probes of a task answer at once: they take no time, and nothing else
happens between a probe and its answer. -/
def Episode.Instant (task : TaskId) (episode : Episode) : Prop :=
  ∀ entry ∈ episode.before.waits[task]?,
    (entry.watch.map Watch.delay).getD 0 = 0 ∧
      (entry.probe? ≠ none → episode.occurrence = .work)

instance (task : TaskId) (episode : Episode) :
    Decidable (episode.Instant task) :=
  inferInstanceAs (Decidable (∀ entry ∈ episode.before.waits[task]?, _))

/-- What is told of a wait goes on being told of it until it ends. -/
theorem Told.fate
    (told : Told task (story task episodes) episode.before entry)
    (found : episode.before.waits[task]? = some entry)
    (there : episode.after.waits[task]? = some next)
    (fate : Fate task episodes episode entry next) :
    next.stage = .ended ∨
      Told task (story task (episodes ++ [episode])) episode.after next := by
  cases fate with
  | beside _ alike steady handoff same =>
      right
      rw [same]
      exact told.keeps alike.interrupted handoff (Nat.le_of_eq steady.now.symm)
        rfl rfl rfl
  | passes span passes same =>
      right
      rw [same]
      obtain ⟨waiter, now⟩ := Episode.after_of_pass passes
      apply told.keeps rfl _ _ rfl rfl rfl
      · rw [waiter]
      · omega
  | starts timeout watch _ _ steady _ handoff same =>
      right
      rw [same]
      exact told.keeps rfl handoff (Nat.le_of_eq steady.now.symm) rfl rfl rfl
  | matched event _ steady _ handoff unmatched same =>
      right
      rw [same]
      constructor
      · exact told.interrupted
      · rw [handoff]
        exact told.lifted
      · rw [handoff]
        rfl
      · rw [steady.now]
        exact told.interruptPast
      · intro found first
        cases first
        exact Nat.le_of_eq steady.now.symm
  | lifted _ steady _ handoff same =>
      right
      rw [same]
      constructor
      · exact told.interrupted
      · rw [handoff]
        rfl
      · rw [handoff]
        exact told.slot
      · rw [steady.now]
        exact told.interruptPast
      · rw [steady.now]
        exact told.matchPast
  | interrupted _ steady _ handoff same =>
      right
      rw [same]
      constructor
      · cases (story task episodes).interrupt? <;> rfl
      · rw [handoff]
        exact told.lifted
      · rw [handoff]
        exact told.slot
      · intro moment fired
        rw [steady.now]
        cases earlier : (story task episodes).interrupt? with
        | none =>
            rw [earlier] at fired
            cases fired
            exact Nat.le_refl _
        | some former =>
            rw [earlier] at fired
            cases fired
            exact told.interruptPast moment earlier
      · rw [steady.now]
        exact told.matchPast
  | dropped _ _ steady _ handoff same =>
      right
      rw [same]
      exact told.keeps rfl handoff (Nat.le_of_eq steady.now.symm) rfl rfl rfl
  | withdrawn => exact .inl rfl
  | finished _ _ ended => exact .inl ended
  | works _ works floor turn same =>
      rcases turn.goes_on found there with ended | ⟨alarm, handoff⟩
      · exact .inl ended
      · right
        rw [same]
        exact told.keeps alarm handoff (Nat.le_of_eq turn.now_eq.symm)
          rfl rfl rfl

/-- A wait that runs on schedule keeps to it until it ends. -/
theorem Course.fate
    (course : Course (story task episodes) episode.before entry)
    (told : Told task (story task episodes) episode.before entry)
    (mindful : Mindful task entry episode.before)
    (prompt : episode.Prompt) (instant : episode.Instant task)
    (found : episode.before.waits[task]? = some entry)
    (there : episode.after.waits[task]? = some next)
    (fate : Fate task episodes episode entry next) :
    next.stage = .ended ∨
      Course (story task (episodes ++ [episode])) episode.after next := by
  obtain ⟨delay, undisturbed⟩ := instant entry found
  have listens : episode.occurrence ≠ .work → entry.probe? = none := by
    intro outside
    by_contra probing
    exact outside (undisturbed probing)
  cases fate with
  | beside _ alike steady _ same =>
      right
      rw [same]
      exact course.beside steady.now alike
  | passes span passes same =>
      right
      rw [same]
      obtain ⟨session, occurrence⟩ := episode
      dsimp only at passes
      subst passes
      exact course.passes told mindful found (listens nofun) prompt
        (Episode.after_of_pass rfl).2
  | starts timeout watch outside subscribed steady _ _ same =>
      right
      cases course with
      | subscribed _ unstarted checks =>
          rw [same, unstarted]
          have now : (Start.mk episode.moment timeout watch).moment =
              episode.after.agenda.now := steady.now.symm
          refine .fresh ⟨episode.moment, timeout, watch⟩ rfl rfl rfl now checks
            ⟨?_, ?_, ?_, ?_⟩
          · intro moment _
            rw [← now]
            exact Nat.le_max_left _ _
          · intro found _
            rw [← now]
            exact Nat.le_max_left _ _
          · intro _ moment deadline
            obtain ⟨span, _, rfl⟩ := Option.map_eq_some_iff.mp deadline
            rw [← now]
            exact Nat.le_add_right _ _
          · intro check gone
            rw [Story.gone?, checks] at gone
            cases gone
      | fresh _ stage | listening _ _ _ _ stage
      | atDeadline _ _ _ _ _ stage | atTick _ _ _ _ _ stage =>
          rw [subscribed] at stage
          cases stage
  | matched event outside steady _ _ unmatched same =>
      right
      rw [same]
      refine course.befallen steady.now (listens outside) rfl rfl rfl rfl ?_
      intro start onTime
      refine ⟨onTime.interrupt, ?_, onTime.deadline, onTime.gone⟩
      intro found first
      cases first
      exact Nat.le_max_right _ _
  | lifted outside steady _ _ same =>
      right
      rw [same]
      refine course.befallen steady.now (listens outside) rfl rfl rfl rfl ?_
      intro start onTime
      refine ⟨onTime.interrupt, onTime.matched, ?_, onTime.gone⟩
      intro bound
      cases bound
  | interrupted outside steady _ _ same =>
      right
      rw [same]
      refine course.befallen steady.now (listens outside) rfl rfl rfl rfl ?_
      intro start onTime
      refine ⟨?_, onTime.matched, onTime.deadline, onTime.gone⟩
      intro moment fired
      cases earlier : (story task episodes).interrupt? with
      | none =>
          rw [earlier] at fired
          cases fired
          exact Nat.le_max_right _ _
      | some former =>
          rw [earlier] at fired
          cases fired
          exact onTime.interrupt moment earlier
  | dropped drops _ steady _ _ same =>
      right
      rw [same]
      obtain ⟨name, drops, _⟩ := drops
      have outside : episode.occurrence ≠ .work := by
        rw [drops]
        nofun
      exact course.befallen steady.now (listens outside) rfl rfl rfl rfl
        fun _ onTime => onTime
  | withdrawn => exact .inl rfl
  | finished _ _ ended => exact .inl ended
  | works _ works floor turn same =>
      rw [same]
      exact course.turn told turn delay found there

/-- Nothing is told of a wait that has just been subscribed. -/
theorem Run.story_subscribed (run : Run {} episodes session)
    (absent : session.waits[task]? = none) (name : String) (kind : EventKind)
    (predicate : Event → Bool) :
    story task (episodes ++ [⟨session, .subscribe name kind predicate⟩]) =
      ⟨none, none, none, false, []⟩ := by
  rw [← run.story_unknown (List.getElem?_eq_none_iff.mp absent)]
  apply story_append_quiet <;> try rfl
  exact run.kept.firstMatch?_subscribe name kind predicate task

/-- In every run what has happened to a wait is what its story tells, until it
ends. -/
theorem Run.told (run : Run {} episodes session)
    (found : session.waits[task]? = some entry)
    (opened : entry.stage ≠ .ended) :
    Told task (story task episodes) session entry := by
  refine (run.tracks (motive := fun episodes session entry =>
    entry.stage = .ended ∨ Told task (story task episodes) session entry)
    found ?_ ?_).resolve_left opened
  · intro earlier before name own kind predicate run absent
    have handoff : (before.happen
        (.subscribe name kind predicate)).waiter.handoff task = {} := by
      have same : (before.happen
          (.subscribe name kind predicate)).waiter.handoff task =
            before.waiter.handoff task :=
        Waiter.handoff_subscribe kind predicate task before.waiter
      rw [same, Waiter.handoff, List.getElem?_eq_none]
      · rfl
      · rw [run.kept.handoffs]
        exact List.getElem?_eq_none_iff.mp absent
    right
    rw [run.story_subscribed absent]
    refine ⟨rfl, ?_, ?_, by simp, by simp⟩
    · rw [handoff]
    · rw [handoff]
      rfl
  · intro earlier episode entry next _ here there fate holds
    rcases holds with ended | told
    · exact .inl (fate.ended here there ended)
    · exact told.fate here there fate

/-- In a prompt run in which its probes answer at once a wait runs on
schedule until it ends. -/
theorem Run.course (run : Run {} episodes session)
    (prompt : ∀ episode ∈ episodes, episode.Prompt)
    (instant : ∀ episode ∈ episodes, episode.Instant task)
    (found : session.waits[task]? = some entry)
    (opened : entry.stage ≠ .ended) :
    Told task (story task episodes) session entry ∧
      Course (story task episodes) session entry := by
  refine ⟨run.told found opened, ?_⟩
  have instantly := run.tracksPromptly (motive := fun episodes session entry =>
    (∀ episode ∈ episodes, episode.Instant task) →
      entry.stage = .ended ∨ Course (story task episodes) session entry)
    prompt found ?_ ?_
  · exact (instantly instant).resolve_left opened
  · intro earlier before name own kind predicate run absent _
    right
    rw [run.story_subscribed absent]
    exact .subscribed rfl rfl rfl
  · intro earlier episode entry next run prompt mindful here there fate holds
      instant
    rcases holds fun episode member =>
        instant episode (List.mem_append_left _ member) with ended | course
    · exact .inl (fate.ended here there ended)
    · by_cases past : entry.stage = .ended
      · exact .inl (fate.ended here there past)
      · exact course.fate (run.told here past) mindful prompt
          (instant _ List.mem_concat_self)
          here there fate

/-- What a story says of a wait that ended at a moment: its verdict, and that
the regular probes made are all that were due before. -/
def Closes (story : Story) (moment : Nat)
    (result : Except WaitError Event) : Prop :=
  ∃ start count, story.start? = some start ∧
    story.verdict? start = some (moment, result) ∧
      story.polled = start.polls count ∧
        ∀ poll, start.poll? count = some poll → moment ≤ poll

section Closing

variable {story : Story} {start : Start} {count : Nat} {wait : Wait}
  {answer : Alarm} {alive : Bool} {result : Except WaitError Event}

/-- A wait that listens ends with the first cause whose moment has come. -/
theorem closes_of_listening (told : Told task story before entry)
    (started : story.start? = some start)
    (phase : wait.phase = .listening)
    (scheduled : Scheduled start count count story wait)
    (poll : ∀ moment, start.poll? count = some moment →
      before.agenda.now ≤ moment)
    (begun : start.moment ≤ before.agenda.now)
    (onTime : story.OnTime start before.agenda.now)
    (concludes : wait.Concludes before.agenda entry.interrupted alive
      (before.waiter.handoff task) result) :
    Closes story before.agenda.now result := by
  refine ⟨start, count, started, ?_, scheduled.polled, poll⟩
  cases concludes with
  | interrupted _ alarmed =>
      obtain ⟨moment, fired⟩ : ∃ moment, story.interrupt? = some moment := by
        rw [told.interrupted] at alarmed
        exact Option.isSome_iff_exists.mp alarmed
      have now : max start.moment moment = before.agenda.now := by
        apply Nat.le_antisymm
        · exact Nat.max_le.mpr ⟨begun, told.interruptPast moment fired⟩
        · exact onTime.interrupt moment fired
      obtain ⟨rest, causes⟩ := causes_of_interrupt start fired
      rw [now] at causes
      exact verdict?_of_first onTime causes
  | event event _ calm holds =>
      obtain ⟨found, matched, same⟩ : ∃ found,
          story.match? = some found ∧ found.2 = event := by
        rw [told.slot] at holds
        cases first : story.match? with
        | none =>
            rw [first] at holds
            cases holds
        | some found =>
            rw [first] at holds
            cases holds
            exact ⟨found, rfl, rfl⟩
      have now : max start.moment found.1 = before.agenda.now := by
        apply Nat.le_antisymm
        · exact Nat.max_le.mpr ⟨begun, told.matchPast found matched⟩
        · exact onTime.matched found matched
      obtain ⟨rest, causes⟩ :=
        causes_of_match start (told.calm calm) matched
      rw [now, same] at causes
      exact verdict?_of_first onTime causes
  | timeout _ calm empty expired =>
      obtain ⟨unlifted, deadline⟩ :=
        told.deadline_now scheduled onTime expired
      obtain ⟨rest, causes⟩ := causes_of_deadline unlifted
        (told.calm calm) (told.unmatched empty) deadline
      rw [scheduled.goneAtDeadline] at causes
      exact verdict?_of_first onTime causes
  | lateEvent _ _ _ probing | found _ _ probing =>
      rw [phase] at probing
      cases probing

/-- The probe at the deadline decides how the wait ends. -/
theorem closes_atDeadline (started : story.start? = some start)
    (scheduled : Scheduled start count count story wait)
    (poll : ∀ moment, start.poll? count = some moment →
      before.agenda.now ≤ moment)
    (calm : story.interrupt? = none) (unmatched : story.match? = none)
    (bound : story.lifted = false)
    (deadline : start.deadline? = some before.agenda.now) (alive : Bool) :
    Closes (story.hear (some ⟨before.agenda.now, .deadline, alive⟩))
      before.agenda.now
      (.error (if alive then .timeout else .resourceGone)) := by
  have checks : (story.hear (some
      ⟨before.agenda.now, .deadline, alive⟩)).checks =
        story.checks ++ [⟨before.agenda.now, .deadline, alive⟩] := rfl
  have unlifted : (story.hear (some
      ⟨before.agenda.now, .deadline, alive⟩)).lifted = false := bound
  have quiet : (story.hear (some
      ⟨before.agenda.now, .deadline, alive⟩)).gone? = none := by
    have none := scheduled.gone?
    rw [Story.gone?] at none ⊢
    simp [checks, List.find?_append, none]
  have decides : (story.hear (some
      ⟨before.agenda.now, .deadline, alive⟩)).goneAtDeadline = !alive := by
    have none := scheduled.goneAtDeadline
    rw [Story.goneAtDeadline] at none ⊢
    simp [checks, none]
  refine ⟨start, count, started, ?_, ?_, poll⟩
  · have onTime : (story.hear (some
        ⟨before.agenda.now, .deadline, alive⟩)).OnTime start
          before.agenda.now := by
      apply Story.OnTime.of_quiet
      · exact calm
      · exact unmatched
      · exact quiet
      · intro _ moment due
        rw [deadline] at due
        cases due
        exact Nat.le_refl _
    have first : ∃ rest, (story.hear (some
        ⟨before.agenda.now, .deadline, alive⟩)).causes start =
          (before.agenda.now, .error (if alive then .timeout
            else .resourceGone)) :: rest := by
      obtain ⟨rest, causes⟩ :=
        causes_of_deadline unlifted calm unmatched deadline
      rw [decides] at causes
      refine ⟨rest, causes.trans ?_⟩
      cases alive <;> rfl
    obtain ⟨rest, causes⟩ := first
    exact verdict?_of_first onTime causes
  · rw [← scheduled.polled]
    simp [Story.polled, checks]

theorem closes_atTick (started : story.start? = some start)
    (scheduled : Scheduled start count (count + 1) story wait)
    (poll : start.poll? count = some before.agenda.now)
    (calm : story.interrupt? = none) (unmatched : story.match? = none)
    (early : story.lifted = false → ∀ moment,
      start.deadline? = some moment → before.agenda.now < moment) :
    Closes (story.hear (some ⟨before.agenda.now, .tick, false⟩))
      before.agenda.now (.error .resourceGone) := by
  have gone : (story.hear (some ⟨before.agenda.now, .tick, false⟩)).gone? =
      some ⟨before.agenda.now, .tick, false⟩ := by
    have none := scheduled.gone?
    rw [Story.gone?] at none ⊢
    simp [Story.hear, List.find?_append, none]
  refine ⟨start, count + 1, started, ?_, ?_, ?_⟩
  · exact verdict?_of_gone gone calm unmatched early
  · rw [polls_succ poll, ← scheduled.polled]
    simp [Story.polled, Story.hear]
  · intro later next
    rw [poll?_succ poll] at next
    obtain ⟨period, _, rfl⟩ := Option.map_eq_some_iff.mp next
    exact Nat.le_add_right _ _

end Closing

theorem Course.closes {story : Story} {wait : Wait}
    {result : Except WaitError Event}
    (course : Course story before entry)
    (told : Told task story before entry)
    (active : entry.stage = .active wait) (kept : entry.dropped = false)
    (concludes : wait.Concludes before.agenda entry.interrupted
      (before.finds entry) (before.waiter.handoff task) result) :
    Closes (story.hear (before.answer? entry)) before.agenda.now result := by
  cases course with
  | subscribed stage | fresh _ stage =>
      rw [active] at stage
      cases stage
  | listening start count other started stage phase scheduled poll begun
      onTime =>
      rw [active] at stage
      cases stage
      rw [answer?_of_listens (by simp [SessionWait.probe?, active, phase])]
      rw [Story.hear_none]
      exact closes_of_listening told started phase scheduled poll begun onTime
        concludes
  | atDeadline start count other answer started stage phase due scheduled
      poll calm unmatched bound deadline =>
      rw [active] at stage
      cases stage
      have answers : before.answer? entry =
          some ⟨before.agenda.now, .deadline, before.finds entry⟩ := by
        simp [answer?, SessionWait.probe?, active, phase, kept, due,
          Agenda.isDue]
      rw [answers]
      cases concludes with
      | found _ _ also =>
          exact closes_atDeadline started scheduled poll calm unmatched bound
            deadline (before.finds entry)
      | lateEvent _ _ event _ _ _ holds =>
          rw [told.slot, unmatched] at holds
          cases holds
      | interrupted listens | event _ listens | timeout listens =>
          rw [phase] at listens
          cases listens
  | atTick start count other answer started stage phase due scheduled poll
      calm unmatched early =>
      rw [active] at stage
      cases stage
      cases concludes with
      | found _ _ also _ decides =>
          rw [phase] at also
          cases also
          have gone := decides rfl
          have answers : before.answer? entry =
              some ⟨before.agenda.now, .tick, false⟩ := by
            simp [answer?, SessionWait.probe?, active, phase, kept, due, gone,
              Agenda.isDue]
          rw [answers, gone]
          exact closes_atTick started scheduled poll calm unmatched early
      | lateEvent _ _ event _ _ _ holds =>
          rw [told.slot, unmatched] at holds
          cases holds
      | interrupted listens | event _ listens | timeout listens =>
          rw [phase] at listens
          cases listens

/-- What a story says of a wait that goes on: nothing that ends it has come
yet, and all regular probes that were due have been made. -/
def Goes (story : Story) (start : Start) (now : Nat) : Prop :=
  (∀ cause ∈ story.causes start, now < cause.1) ∧
    ∃ count, story.polled = start.polls count ∧
      ∀ poll, start.poll? count = some poll → now < poll

/-- A wait that ends closes its story. -/
theorem Run.closes {ending : Episode} {result : Except WaitError Event}
    (run : Run {} episodes ending.before)
    (prompt : ∀ episode ∈ episodes, episode.Prompt)
    (instant : ∀ episode ∈ episodes, episode.Instant task)
    (ends : ending.Ends task result) :
    Closes (story task (episodes ++ [ending])) ending.moment result := by
  obtain ⟨entry, wait, found, active, kept, concludes⟩ :=
    run.kept.concludes ends
  obtain ⟨told, course⟩ :=
    run.course prompt instant found (by simp [active])
  obtain ⟨works, floor, _⟩ := ends
  rw [story_of_floor episodes works floor found]
  exact course.closes told active kept concludes

theorem Course.goes {start : Start} {story : Story}
    (course : Course story session entry)
    (told : Told task story session entry)
    (mindful : Mindful task entry session) (settled : session.Settled)
    (started : story.start? = some start) :
    Goes story start session.agenda.now := by
  cases course with
  | subscribed _ unstarted =>
      rw [unstarted] at started
      cases started
  | fresh _ stage =>
      exact absurd settled (mindful.fresh _ stage).not_settled
  | listening other count wait begun stage phase scheduled =>
      obtain rfl := Option.some.inj (begun.symm.trans started)
      obtain ⟨_, idles⟩ := mindful.attends_or_idles stage settled
      have unrung : ∀ alarm ∈ wait.alarms,
          alarm.due ≤ session.agenda.now ∨
            session.agenda.now + 1 ≤ alarm.due := by
        intro alarm _
        omega
      obtain ⟨onTime, polls⟩ := told.ahead scheduled phase idles unrung
      exact ⟨fun cause member => onTime.least member, count,
        scheduled.polled, polls⟩
  | atDeadline _ _ wait answer _ stage phase due
  | atTick _ _ wait answer _ stage phase due =>
      obtain ⟨_, idles⟩ := mindful.attends_or_idles stage settled
      cases idles with
      | listening listens =>
          rw [phase] at listens
          cases listens
      | probing _ _ also early =>
          rw [phase] at also
          cases also
          simp [Agenda.isDue, due] at early

/-- In a prompt run a wait whose probes answer at once ends only with the
verdict of its story, at the moment of the verdict, with a regular probe after
each full period until then.  A wait that was started and not dropped has
ended, once all waits have settled, if any of the moments in its story has
come, and without anything new from outside all waits do settle.  To disarm an
interrupt that is not fired again changes nothing but that it is disarmed.

The story of a wait that has ended tells what happened up to its last step: an
interrupt or an event that came at the same moment, but after that step, found
nobody waiting. -/
theorem wait_outcome (run : Run {} episodes session)
    (prompt : ∀ episode ∈ episodes, episode.Prompt)
    (instant : ∀ episode ∈ episodes, episode.Instant task) :
    (∀ (earlier later : List Episode) (ending : Episode)
        (result : Except WaitError Event),
      episodes = earlier ++ ending :: later → ending.Ends task result →
        Closes (story task (earlier ++ [ending])) ending.moment result) ∧
    (∀ start, (story task episodes).start? = some start →
      session.Settled → Dropped task episodes ∨
        (∃ ending ∈ episodes, ∃ result, ending.Ends task result) ∨
          Goes (story task episodes) start session.agenda.now) ∧
    (∃ steps, (session.happenAll (List.replicate steps .work)).Settled) ∧
    ∀ (name : String) (rest : List Occurrence),
      session.locate? name = some task →
        (∀ episode ∈ session.history rest,
          episode.interrupt? task = none) →
        session.happenAll (.disarm name :: rest) =
          (session.happenAll rest).disarmed task := by
  refine ⟨?_, ?_, run.kept.exists_settled, fun name rest located calm =>
    run.happenAll_disarm located calm⟩
  · intro earlier later ending result split ends
    subst split
    apply Run.closes run.split.1 _ _ ends
    · intro episode member
      exact prompt episode (List.mem_append_left _ member)
    · intro episode member
      exact instant episode (List.mem_append_left _ member)
  · intro start started settled
    cases found : session.waits[task]? with
    | none =>
        have unknown := List.getElem?_eq_none_iff.mp found
        rw [run.story_unknown unknown] at started
        cases started
    | some entry =>
        by_cases ended : entry.stage = .ended
        · rcases run.finished_cases found (.inl ended) with dropped | ends
          · exact .inl dropped
          · exact .inr (.inl ends)
        · obtain ⟨told, course⟩ := run.course prompt instant found ended
          exact .inr (.inr (course.goes told (run.mindful prompt found)
            settled started))

/-- A wait of 150 ms with a probe every 100 ms, on a resource that is there for
the probe and goes after it. -/
def flicker : List Occurrence :=
  [.subscribe "a" .message fun _ => true,
    .startWait "a" (some 150) (some ⟨"lamp", some 100, 0⟩),
    .work, .work, .work, .pass 100, .work, .work, .work, .work,
    .setFlag "lamp" false, .pass 50, .work, .work]

/-- The wait when its probe at the deadline is about to answer. -/
def flickering : SessionWait where
  name := "a"
  subscription := 0
  stage := .active
    { subscription := 0
      deadline := some ⟨150, 0⟩
      liveness := some { period := some 100 }
      tick := some ⟨200, 3⟩
      phase := .probing .deadline ⟨150, 4⟩ }
  watch := some ⟨"lamp", some 100, 0⟩

/-- The probe at the deadline finds the resource gone. -/
theorem flicker_outcome :
    Episode.Ends 0 (.error .resourceGone) ⟨happenAll flicker {}, .work⟩ ∧
      Closes (story 0 (history flicker {} ++
        [⟨happenAll flicker {}, .work⟩])) 150 (.error .resourceGone) := by
  have run : Run {} _ _ := .of_split flicker [] .work _
  have ends : Episode.Ends 0 (.error .resourceGone)
      ⟨happenAll flicker {}, .work⟩ := by
    refine ⟨rfl, by decide +kernel, flickering, by decide +kernel, ?_⟩
    cbv
  have now : Episode.moment ⟨happenAll flicker {}, .work⟩ = 150 := by
    decide +kernel
  have closes := (wait_outcome run (by decide +kernel)
    (by decide +kernel)).1 (history flicker {}) [] _ _ rfl ends
  rw [now] at closes
  exact ⟨ends, closes⟩

end Switchboard.Session
