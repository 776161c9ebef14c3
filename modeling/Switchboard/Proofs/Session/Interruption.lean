import Switchboard.Proofs.Session.Attention

/-!
# When an interrupt ends a wait

A wait that is not in a probe when its interrupt fires ends with it at that
very moment, whatever else happens.  A wait that is in a probe does not look
at its interrupt before the probe has answered: it ends with the interrupt
only if the probe was made for a tick and finds the resource alive.
-/

namespace Switchboard.Session

variable {task : TaskId} {episodes past middle : List Episode}
  {episode : Episode} {session start before after : Session}
  {entry next : SessionWait} {moment : Nat}

/-- The interrupt of a wait that has been started and is not in a probe has
fired. -/
structure Struck (entry : SessionWait) : Prop where
  started : entry.stage ≠ .subscribed
  interrupted : entry.interrupted = true
  listens : entry.probe? = none

namespace Struck

theorem of_stage (struck : Struck entry) (stage : next.stage = entry.stage)
    (interrupted : next.interrupted = entry.interrupted) : Struck next where
  started := by
    rw [stage]
    exact struck.started
  interrupted := interrupted.trans struck.interrupted
  listens := (probe?_of_stage stage).trans struck.listens

theorem not_settled (struck : Struck entry)
    (opened : entry.stage ≠ .ended) (mindful : Mindful task entry session) :
    ¬ session.Settled := by
  intro settled
  cases stage : entry.stage with
  | subscribed => exact struck.started stage
  | ended => exact opened stage
  | fresh timeout => exact (mindful.fresh timeout stage).not_settled settled
  | active wait =>
      obtain ⟨_, idles⟩ := mindful.attends_or_idles stage settled
      cases idles with
      | listening _ calm =>
          rw [struck.interrupted] at calm
          cases calm
      | probing reason answer phase =>
          have probing := probe?_eq_some.mpr ⟨wait, stage, phase⟩
          rw [struck.listens] at probing
          cases probing

/-- When such a wait has its turn it begins, ends with the interrupt, or has
been dropped. -/
theorem turn (struck : Struck entry) (turn : Turn task entry before after)
    (opened : entry.stage ≠ .ended)
    (found : before.waits[task]? = some entry)
    (there : after.waits[task]? = some next) :
    (Struck next ∧ next.stage ≠ .ended ∧ next.dropped = entry.dropped) ∨
      next.stage = .ended ∧ (entry.dropped = true ∨
        after.ended = before.ended ++
          [⟨before.agenda.now, entry.name, .error .interrupted⟩]) := by
  have active : ∀ {wait : Wait} {reason : ProbeReason} {answer : Alarm},
      entry.stage = .active wait → wait.phase ≠ .probing reason answer := by
    intro wait reason answer stage phase
    have probing := probe?_eq_some.mpr ⟨wait, stage, phase⟩
    rw [struck.listens] at probing
    cases probing
  have alarmed := struck.interrupted
  cases turn with
  | rests stage =>
      rcases stage with stage | stage
      · exact absurd stage struck.started
      · exact absurd stage opened
  | discards _ _ dropped =>
      obtain rfl := eq_change_of_modify found there
      exact .inr ⟨rfl, .inl dropped⟩
  | begins timeout stage =>
      obtain rfl := eq_change_of_modify found there
      left
      refine ⟨⟨?_, alarmed, rfl⟩, ?_, rfl⟩ <;> simp
  | ends wait result handoff probes stage kept concludes =>
      obtain rfl := eq_change_of_modify found there
      cases concludes with
      | interrupted => exact .inr ⟨rfl, .inr rfl⟩
      | event _ _ calm | timeout _ calm =>
          rw [alarmed] at calm
          cases calm
      | lateEvent _ _ _ phase | found _ _ phase =>
          exact absurd phase (active stage)
  | probes wait reason stage kept phase calm =>
      rw [alarmed] at calm
      cases calm
  | resumes wait answer probes stage kept phase =>
      exact absurd phase (active stage)
  | waits wait stage kept idles =>
      cases idles with
      | listening _ calm =>
          rw [alarmed] at calm
          cases calm
      | probing _ _ phase => exact absurd phase (active stage)

end Struck

/-- What has become of a wait that was struck at a moment: it is still that
moment, or the wait has ended with the interrupt at it, unless it was
dropped. -/
inductive Stricken (task : TaskId) (moment : Nat) (middle : List Episode)
    (session : Session) (entry : SessionWait) : Prop where
  | struck : Struck entry → entry.stage ≠ .ended →
      session.agenda.now = moment →
      (entry.dropped = true → Dropped task middle) →
      Stricken task moment middle session entry
  | finished : entry.stage = .ended →
      (Dropped task middle ∨ ∃ ending ∈ middle,
        ending.Ends task (.error .interrupted) ∧ ending.moment = moment) →
      Stricken task moment middle session entry

theorem Stricken.over_of_ended (ended : entry.stage = .ended)
    (before : Dropped task middle ∨ ∃ ending ∈ middle,
      ending.Ends task (.error .interrupted) ∧ ending.moment = moment)
    (episode : Episode) :
    Stricken task moment (middle ++ [episode]) session entry := by
  refine .finished ended ?_
  rcases before with drops | ⟨ending, member, ends⟩
  · exact .inl (drops.later episode)
  · exact .inr ⟨ending, List.mem_append_left _ member, ends⟩

theorem Stricken.fate
    (stricken : Stricken task moment middle episode.before entry)
    (prompt : episode.Prompt)
    (mindful : Mindful task entry episode.before)
    (found : episode.before.waits[task]? = some entry)
    (there : episode.after.waits[task]? = some next)
    (fate : Fate task episodes episode entry next) :
    Stricken task moment (middle ++ [episode]) episode.after next := by
  cases stricken with
  | finished ended outcome =>
      have still := fate.ended found there ended
      exact .over_of_ended still outcome episode
  | struck struck opened now dropped =>
      have later := fun given => (dropped given).later episode
      cases fate with
      | beside _ alike steady =>
          refine .struck ?_ ?_ (steady.now.trans now) ?_
          · exact struck.of_stage alike.stage alike.interrupted
          · rw [alike.stage]
            exact opened
          · rw [alike.dropped]
            exact later
      | passes span passes =>
          obtain ⟨session, occurrence⟩ := episode
          dsimp only at passes
          subst passes
          exact absurd prompt.1 (struck.not_settled opened mindful)
      | starts _ _ _ stage => exact absurd stage struck.started
      | matched _ _ steady | lifted _ steady =>
          exact .struck struck opened (steady.now.trans now) later
      | interrupted _ steady =>
          refine .struck ?_ opened (steady.now.trans now) later
          exact ⟨struck.started, rfl, struck.listens⟩
      | dropped drops _ steady =>
          refine .struck ?_ opened (steady.now.trans now) ?_
          · exact ⟨struck.started, struck.interrupted, struck.listens⟩
          · exact fun _ => drops.dropped middle
      | withdrawn _ stage => exact absurd stage struck.started
      | finished _ ended => exact absurd ended opened
      | works _ works floor turn =>
          rcases struck.turn turn opened found there with
            ⟨still, running, same⟩ | ⟨ended, outcome⟩
          · refine .struck still running (turn.now_eq.trans now) ?_
            rw [same]
            exact later
          · refine .finished ended ?_
            rcases outcome with given | recorded
            · exact .inl (later given)
            · right
              refine ⟨episode, ?_, ?_, now⟩
              · exact List.mem_append_right _ (List.mem_singleton_self _)
              · exact ⟨works, floor, entry, found, recorded⟩

theorem Struck.concludes (struck : Struck entry) {wait : Wait}
    {agenda : Agenda} {alive : Bool} {handoff : Handoff Event}
    {result : Except WaitError Event} (stage : entry.stage = .active wait)
    (concludes : wait.Concludes agenda entry.interrupted alive handoff
      result) : result = .error .interrupted := by
  have alarmed := struck.interrupted
  cases concludes with
  | interrupted => rfl
  | event _ _ calm | timeout _ calm =>
      rw [alarmed] at calm
      cases calm
  | lateEvent _ _ _ phase | found _ _ phase =>
      have probing := probe?_eq_some.mpr ⟨wait, stage, phase⟩
      rw [struck.listens] at probing
      cases probing

/-- What has become of a wait whose interrupt fired during a probe: it is in
the probe yet, or the probe was made for a tick and has found the resource
alive, or the wait has ended. -/
inductive Deferred (task : TaskId) (reason : ProbeReason) (answer : Alarm)
    (middle : List Episode) (session : Session) (entry : SessionWait) :
    Prop where
  | probing : entry.probe? = some (reason, answer) →
      entry.interrupted = true → (story task middle).checks = [] →
      Deferred task reason answer middle session entry
  | struck (part : List Episode) : reason = .tick →
      (∃ check ∈ (story task middle).checks, check.alive = true) →
      Stricken task answer.due part session entry →
      Deferred task reason answer middle session entry
  | finished : entry.stage = .ended →
      Deferred task reason answer middle session entry

namespace Deferred

variable {reason : ProbeReason} {answer : Alarm}

/-- The turn of a wait in a probe. -/
theorem turn (probing : entry.probe? = some (reason, answer))
    (alarmed : entry.interrupted = true)
    (silent : (story task middle).checks = [])
    (mindful : Mindful task entry episode.before)
    (works : episode.occurrence = .work)
    (floor : episode.before.agenda.floor = some task)
    (found : episode.before.waits[task]? = some entry)
    (there : after.waits[task]? = some next)
    (turn : Turn task entry episode.before after) :
    Deferred task reason answer (middle ++ [episode]) after next := by
  obtain ⟨wait, active, phase⟩ := probe?_eq_some.mp probing
  have answers := check?_of_floor works floor found
  cases turn with
  | rests stage => simp [active] at stage
  | discards | ends =>
      obtain rfl := eq_change_of_modify found there
      exact .finished rfl
  | begins timeout stage =>
      rw [active] at stage
      cases stage
  | probes other cause stage _ listens =>
      rw [active] at stage
      cases stage
      rw [phase] at listens
      cases listens
  | resumes other answer' probes stage kept also due alive =>
      obtain rfl := eq_change_of_modify found there
      rw [active] at stage
      cases stage
      rw [phase] at also
      cases also
      have late : answer.due ≤ episode.before.agenda.now := by
        simpa [Agenda.isDue] using due
      have early := mindful.answers .tick answer probing
      have now := Nat.le_antisymm early late
      refine .struck [] rfl ?_ (.struck ⟨?_, alarmed, rfl⟩ ?_ now ?_)
      · rw [checks_append, answers]
        simp [answer?, probing, kept, due, alive]
      · simp
      · simp
      · intro dropped
        rw [kept] at dropped
        cases dropped
  | waits other stage kept idles =>
      obtain rfl := Option.some.inj (found.symm.trans there)
      rw [active] at stage
      cases stage
      cases idles with
      | listening listens =>
          rw [phase] at listens
          cases listens
      | probing _ _ also due =>
          rw [phase] at also
          cases also
          refine .probing probing alarmed ?_
          rw [checks_append, answers, silent]
          simp [answer?, probing, due]

theorem fate (deferred : Deferred task reason answer middle
      episode.before entry)
    (prompt : episode.Prompt)
    (mindful : Mindful task entry episode.before)
    (found : episode.before.waits[task]? = some entry)
    (there : episode.after.waits[task]? = some next)
    (fate : Fate task episodes episode entry next) :
    Deferred task reason answer (middle ++ [episode]) episode.after next := by
  cases deferred with
  | finished ended => exact .finished (fate.ended found there ended)
  | struck part tick alive stricken =>
      refine .struck (part ++ [episode]) tick ?_
        (stricken.fate prompt mindful found there fate)
      obtain ⟨check, member, alive⟩ := alive
      refine ⟨check, ?_, alive⟩
      rw [checks_append]
      exact List.mem_append_left _ member
  | probing probing alarmed silent =>
      have quiet : (story task (episodes ++ [episode])).checks =
          (story task episodes).checks →
            (story task (middle ++ [episode])).checks = [] := by
        intro same
        rw [checks_append, silent, check?_of_story_append same]
        rfl
      cases fate with
      | beside _ alike _ _ same =>
          refine .probing ?_ ?_ (quiet (by rw [same]))
          · rw [probe?_of_stage alike.stage]
            exact probing
          · rw [alike.interrupted]
            exact alarmed
      | passes _ _ same =>
          exact .probing probing alarmed (quiet (by rw [same]))
      | starts _ _ _ stage =>
          rw [SessionWait.probe?, stage] at probing
          cases probing
      | matched _ _ _ _ _ _ same | lifted _ _ _ _ same =>
          exact .probing probing alarmed (quiet (by rw [same]))
      | interrupted _ _ _ _ same =>
          exact .probing probing rfl (quiet (by rw [same]))
      | dropped _ _ _ _ _ same =>
          exact .probing probing alarmed (quiet (by rw [same]))
      | withdrawn _ stage | finished _ stage =>
          rw [SessionWait.probe?, stage] at probing
          cases probing
      | works _ works floor turn =>
          exact Deferred.turn probing alarmed silent mindful works floor found
            there turn

end Deferred

section Firing

variable {name : String} {later : List Episode}

theorem interrupt_of_fires
    (fires : Episode.interrupt? task ⟨before, .interrupt name⟩ = some moment)
    (found : before.waits[task]? = some entry)
    (own : entry.subscription = task) :
    moment = before.agenda.now ∧ before.interrupt name =
      (before.modifyWait task fun entry =>
        { entry with interrupted := true }).wakeWatcher task := by
  obtain ⟨⟨located, armed⟩, now⟩ :
      (before.locate? name = some task ∧
        (before.waits[task]?).map SessionWait.disarmed = some false) ∧
          before.agenda.now = moment := by
    simpa [Episode.interrupt?, Episode.moment] using fires
  have live : entry.disarmed = false := by simpa [found] using armed
  refine ⟨now.symm, ?_⟩
  simp [interrupt, located, found, live, own]

theorem after_interrupt (kept : Kept past before)
    (fires : Episode.interrupt? task ⟨before, .interrupt name⟩ = some moment)
    (found : before.waits[task]? = some entry) :
    ((before.happen (.interrupt name)).waits[task]? =
        some { entry with interrupted := true }) ∧
      (before.happen (.interrupt name)).agenda.now = moment := by
  obtain ⟨rfl, after⟩ :=
    interrupt_of_fires fires found (kept.ordered task entry found)
  obtain ⟨agenda, longer, woken⟩ := Woken.wakeWatcher task
    (before.modifyWait task fun entry => { entry with interrupted := true })
  rw [happen, after, woken]
  exact ⟨getElem?_modify_self found, longer.now⟩

theorem Stricken.ends {ending : Episode} {result : Except WaitError Event}
    (stricken : Stricken task moment middle ending.before entry)
    (kept : Kept episodes ending.before)
    (found : ending.before.waits[task]? = some entry)
    (ends : ending.Ends task result) :
    result = .error .interrupted ∧ ending.moment = moment := by
  obtain ⟨other, wait, here, stage, _, concludes⟩ := kept.concludes ends
  obtain rfl := Option.some.inj (found.symm.trans here)
  cases stricken with
  | struck struck _ now => exact ⟨struck.concludes stage concludes, now⟩
  | finished ended =>
      rw [stage] at ended
      cases ended

/-- A wait whose interrupt fired during a probe ends when the probe answers;
the interrupt is what it ends with just if the probe lets it go on. -/
theorem Deferred.ends {ending : Episode} {result : Except WaitError Event}
    {reason : ProbeReason} {answer : Alarm}
    (deferred : Deferred task reason answer middle ending.before entry)
    (kept : Kept episodes ending.before)
    (mindful : Mindful task entry ending.before)
    (found : ending.before.waits[task]? = some entry)
    (ends : ending.Ends task result) :
    ending.moment = answer.due ∧
      (result = .error .interrupted ↔ reason = .tick ∧
        ∃ check ∈ (story task middle).checks, check.alive = true) := by
  cases deferred with
  | struck part tick alive stricken =>
      obtain ⟨interrupted, now⟩ := stricken.ends kept found ends
      exact ⟨now, fun _ => ⟨tick, alive⟩, fun _ => interrupted⟩
  | finished ended =>
      obtain ⟨other, wait, here, stage, _⟩ := kept.concludes ends
      obtain rfl := Option.some.inj (found.symm.trans here)
      rw [stage] at ended
      cases ended
  | probing probing _ silent =>
      obtain ⟨other, wait, here, stage, _, concludes⟩ := kept.concludes ends
      obtain rfl := Option.some.inj (found.symm.trans here)
      obtain ⟨same, active, phase⟩ := probe?_eq_some.mp probing
      rw [stage] at active
      cases active
      have early := mindful.answers reason answer probing
      rw [silent]
      cases concludes with
      | interrupted listens | event _ listens | timeout listens =>
          rw [phase] at listens
          cases listens
      | lateEvent _ _ event also due =>
          rw [phase] at also
          cases also
          have late : answer.due ≤ ending.before.agenda.now := by
            simpa [Agenda.isDue] using due
          exact ⟨Nat.le_antisymm early late, by simp⟩
      | found _ _ also due =>
          rw [phase] at also
          cases also
          have late : answer.due ≤ ending.before.agenda.now := by
            simpa [Agenda.isDue] using due
          refine ⟨Nat.le_antisymm early late, ?_⟩
          split <;> simp

theorem Stricken.settles (prior : Run {} past start)
    (prompt : ∀ episode ∈ past, episode.Prompt)
    (found : start.waits[task]? = some entry)
    (stricken : Stricken task moment [] start entry) :
    ∃ steps, ∃ ending ∈ history (List.replicate steps .work) start,
      ending.Ends task (.error .interrupted) ∧ ending.moment = moment := by
  obtain ⟨steps, settled⟩ := prior.kept.exists_settled
  have run : Run start _ _ :=
    .of_occurrences (List.replicate steps Occurrence.work) start
  have works : ∀ episode ∈ history (List.replicate steps .work) start,
      episode.occurrence = .work := by
    intro episode member
    exact (List.mem_replicate.mp (occurrence_mem_of_mem_history member)).2
  have promptAll : ∀ episode ∈
      past ++ history (List.replicate steps .work) start,
        episode.Prompt := by
    intro episode member
    rcases List.mem_append.mp member with earlier | later
    · exact prompt episode earlier
    · rw [Episode.Prompt, works episode later]
      trivial
  obtain ⟨current, here, outcome⟩ := prior.carries run promptAll found
    stricken fun _ _ _ _ prompt mindful found there fate stricken =>
      stricken.fate prompt mindful found there fate
  refine ⟨steps, ?_⟩
  cases outcome with
  | struck struck opened =>
      have mindful := Run.mindful (prior.trans run) promptAll here
      exact absurd settled (struck.not_settled opened mindful)
  | finished _ outcome =>
      rcases outcome with ⟨episode, member, name, drops, _⟩ | ends
      · rw [works episode member] at drops
        cases drops
      · exact ends

/-- When an interrupt fires while the wait is in no probe, the wait ends with
it at that moment and in no other way, and without anything else happening it
does end.  When the wait is in a probe it does not end before the answer, and
it ends with the interrupt just if the probe was made for a tick and found the
resource alive. -/
theorem interrupt_waits_for_probe
    (run : Run {} (past ++ ⟨before, .interrupt name⟩ :: later) session)
    (prompt : ∀ episode ∈ past ++ ⟨before, .interrupt name⟩ :: later,
      episode.Prompt)
    (fires : Episode.interrupt? task ⟨before, .interrupt name⟩ = some moment)
    (found : before.waits[task]? = some entry)
    (started : entry.stage ≠ .subscribed) (opened : entry.stage ≠ .ended)
    (undropped : entry.dropped = false) :
    (entry.probe? = none →
      (∀ (middle rest : List Episode) (ending : Episode)
          (result : Except WaitError Event),
        later = middle ++ ending :: rest → ending.Ends task result →
          result = .error .interrupted ∧ ending.moment = moment) ∧
      ∃ steps, ∃ ending ∈ history (List.replicate steps .work)
          (before.happen (.interrupt name)),
        ending.Ends task (.error .interrupted) ∧ ending.moment = moment) ∧
    ∀ (reason : ProbeReason) (answer : Alarm),
      entry.probe? = some (reason, answer) → moment ≤ answer.due ∧
        ∀ (middle rest : List Episode) (ending : Episode)
            (result : Except WaitError Event),
          later = middle ++ ending :: rest → ending.Ends task result →
            ending.moment = answer.due ∧
              (result = .error .interrupted ↔ reason = .tick ∧
                ∃ check ∈ (story task middle).checks,
                  check.alive = true) := by
  obtain ⟨toBefore, onwards⟩ := run.split
  have prior := toBefore.next (.interrupt name)
  obtain ⟨there, now⟩ := after_interrupt (Run.kept toBefore) fires found
  have promptPrior : ∀ episode ∈ past ++ [⟨before, .interrupt name⟩],
      episode.Prompt := by
    intro episode member
    apply prompt
    rw [List.append_cons]
    exact List.mem_append_left later member
  have promptTo : ∀ (middle rest : List Episode) (ending : Episode),
      later = middle ++ ending :: rest → ∀ episode ∈
        (past ++ [⟨before, .interrupt name⟩]) ++ middle, episode.Prompt := by
    intro middle rest ending split episode member
    apply prompt
    rw [List.append_cons, split, ← List.append_assoc]
    exact List.mem_append_left (ending :: rest) member
  constructor
  · intro listens
    have struck : Struck { entry with interrupted := true } :=
      ⟨started, rfl, listens⟩
    have stricken : Stricken task moment []
        (before.happen (.interrupt name))
        { entry with interrupted := true } := by
      refine .struck struck opened now fun dropped => ?_
      rw [undropped] at dropped
      cases dropped
    refine ⟨?_, stricken.settles prior promptPrior there⟩
    intro middle rest ending result split ends
    subst split
    have reached := onwards.split.1
    obtain ⟨current, here, still⟩ := Run.carries prior reached
      (promptTo middle rest ending rfl) there stricken
      fun _ _ _ _ prompt mindful found there fate stricken =>
        stricken.fate prompt mindful found there fate
    exact still.ends (Run.kept (prior.trans reached)) here ends
  · intro reason answer probing
    have mindful := Run.mindful toBefore (fun episode member => prompt episode
      (List.mem_append_left _ member)) found
    have same := (interrupt_of_fires fires found
      ((Run.kept toBefore).ordered task entry found)).1
    refine ⟨same ▸ mindful.answers reason answer probing, ?_⟩
    intro middle rest ending result split ends
    subst split
    have deferred : Deferred task reason answer []
        (before.happen (.interrupt name))
        { entry with interrupted := true } :=
      .probing probing rfl rfl
    have reached := onwards.split.1
    have promptReached := promptTo middle rest ending rfl
    obtain ⟨current, here, still⟩ := Run.carries prior reached promptReached
      there deferred fun _ _ _ _ prompt mindful found there fate deferred =>
        deferred.fate prompt mindful found there fate
    have whole : Run _ _ _ := prior.trans reached
    exact still.ends whole.kept (whole.mindful promptReached here) here ends

end Firing

section Unheard

/-- A wait of 100 ms whose probe at the deadline takes 1000 ms, 200 ms after
its start. -/
def slowProbe : List Occurrence :=
  [.subscribe "a" .message fun _ => true,
    .startWait "a" (some 100) (some ⟨"resource", none, 1000⟩),
    .work, .work, .work, .pass 100, .work, .work, .work, .pass 100]

/-- What follows until the probe answers. -/
def probeAnswers : List Occurrence := [.work, .work, .pass 900, .work]

/-- A wait without a deadline, 50 ms after its start. -/
def patientWait : List Occurrence :=
  [.subscribe "a" .message fun _ => true, .startWait "a" none none,
    .work, .work, .work, .pass 50]

/-- The patient wait, which listens. -/
def listener : SessionWait where
  name := "a"
  subscription := 0
  stage := .active
    { subscription := 0, deadline := none, liveness := none, tick := none }

/-- The other wait, which has its probe under way. -/
def prober : SessionWait where
  name := "a"
  subscription := 0
  stage := .active
    { subscription := 0
      deadline := some ⟨100, 0⟩
      liveness := some {}
      tick := none
      phase := .probing .deadline ⟨1100, 2⟩ }
  watch := some ⟨"resource", none, 1000⟩

/-- The patient wait ends with its interrupt; the other one has to wait for
its probe, which was made at the deadline and so decides how it ends. -/
theorem slowProbe_interrupt_waits :
    (∃ steps, ∃ ending ∈ history (List.replicate steps .work)
        ((happenAll patientWait {}).happen (.interrupt "a")),
      ending.Ends 0 (.error .interrupted) ∧ ending.moment = 50) ∧
    ∀ (middle rest : List Episode) (ending : Episode)
        (result : Except WaitError Event),
      history (probeAnswers ++ [.work])
          ((happenAll slowProbe {}).happen (.interrupt "a")) =
        middle ++ ending :: rest → ending.Ends 0 result →
          ending.moment = 1100 ∧ result ≠ .error .interrupted := by
  constructor
  · have run : Run {} _ _ := .of_split patientWait [] (.interrupt "a") _
    have found : (happenAll patientWait {}).waits[0]? = some listener := by
      decide +kernel
    have fires : Episode.interrupt? 0
        ⟨happenAll patientWait {}, .interrupt "a"⟩ = some 50 := by
      decide +kernel
    obtain ⟨listening, _⟩ := interrupt_waits_for_probe run
      (by decide +kernel) fires found (by decide) (by decide) rfl
    exact (listening rfl).2
  · have run : Run {} _ _ :=
      .of_split slowProbe (probeAnswers ++ [.work]) (.interrupt "a") _
    have found : (happenAll slowProbe {}).waits[0]? = some prober := by
      decide +kernel
    have fires : Episode.interrupt? 0
        ⟨happenAll slowProbe {}, .interrupt "a"⟩ = some 200 := by
      decide +kernel
    obtain ⟨_, probing⟩ := interrupt_waits_for_probe run
      (by decide +kernel) fires found (by decide) (by decide) rfl
    obtain ⟨_, decides⟩ := probing .deadline ⟨1100, 2⟩ rfl
    intro middle rest ending result split ends
    obtain ⟨now, only⟩ := decides middle rest ending result split ends
    refine ⟨now, fun interrupted => ?_⟩
    cases (only.mp interrupted).1

/-- An interrupt can fire during a wait, and the wait end 900 ms later with
something else. -/
theorem slowProbe_interrupt_masked : ∃ past before later session ending,
    Run {} (past ++ ⟨before, .interrupt "a"⟩ :: later) session ∧
    (∀ episode ∈ past ++ ⟨before, .interrupt "a"⟩ :: later,
      episode.Prompt) ∧
    Episode.interrupt? 0 ⟨before, .interrupt "a"⟩ = some 200 ∧
    (∃ entry, before.waits[0]? = some entry ∧ entry.isActive = true ∧
      entry.dropped = false) ∧
    ending ∈ later ∧ ending.Ends 0 (.error .timeout) ∧
    ending.moment = 1100 := by
  have run : Run {} _ _ :=
    .of_split slowProbe (probeAnswers ++ [.work]) (.interrupt "a") _
  have later : happenAll probeAnswers
      ((happenAll slowProbe {}).happen (.interrupt "a")) =
        happenAll (slowProbe ++ .interrupt "a" :: probeAnswers) {} :=
    (happenAll_append happen slowProbe (.interrupt "a" :: probeAnswers)
      {}).symm
  refine ⟨_, _, _, _, ⟨happenAll (slowProbe ++ .interrupt "a" ::
    probeAnswers) {}, .work⟩, run, ?_, ?_, ?_, ?_, ?_, ?_⟩
  · decide +kernel
  · decide +kernel
  · exact ⟨prober, by decide +kernel, rfl, rfl⟩
  · rw [history_append, ← later]
    exact List.mem_append_right _ List.mem_cons_self
  · refine ⟨rfl, by decide +kernel, { prober with interrupted := true },
      by decide +kernel, ?_⟩
    cbv
  · decide +kernel

end Unheard

end Switchboard.Session
