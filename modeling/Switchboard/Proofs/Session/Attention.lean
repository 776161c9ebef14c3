import Switchboard.Proofs.Session.Fate

/-!
# Waits pay attention

In a prompt run a wait that has been started is either about to work or has
nothing to do: its interrupt has not fired, there is no event for it, and
neither its deadline nor a probe is due.  So when all waits have settled none
of them has missed anything, and they do settle: without anything new from
outside they stop working after finitely many small steps.
-/

namespace Switchboard

namespace Wait

variable {earlier later : Agenda} {interrupted : Bool}
  {handoff : Handoff Event} {wait : Wait}

/-- Between two moments no alarm of the wait rings. -/
def Undisturbed (earlier later : Agenda) (wait : Wait) : Prop :=
  ∀ alarm ∈ wait.alarms, later.isDue alarm = earlier.isDue alarm

theorem undisturbed_of_now (same : later.now = earlier.now) (wait : Wait) :
    wait.Undisturbed earlier later := by
  intro alarm _
  simp [Agenda.isDue, same]

theorem Idles.persist (idles : wait.Idles earlier interrupted handoff)
    (undisturbed : wait.Undisturbed earlier later) :
    wait.Idles later interrupted handoff := by
  have same : ∀ alarm? : Option Alarm, alarm?.toList ⊆ wait.alarms →
      alarm?.any later.isDue = alarm?.any earlier.isDue := by
    intro alarm? set
    cases alarm? with
    | none => rfl
    | some alarm => exact undisturbed alarm (set (by simp))
  cases idles with
  | listening phase calm empty patient quiet =>
      have alarms : wait.alarms = wait.deadline.toList ++ wait.tick.toList := by
        rw [Wait.alarms, phase]
      apply Idles.listening phase calm empty
      · rw [expired, same wait.deadline (by simp [alarms])]
        exact patient
      · rw [probes, same wait.tick (by simp [alarms])]
        exact quiet
  | probing reason answer phase open_ =>
      apply Idles.probing reason answer phase
      rw [undisturbed answer (by simp [Wait.alarms, phase])]
      exact open_

end Wait

namespace Session

variable {task : TaskId} {episodes : List Episode} {episode : Episode}
  {session before after : Session} {entry next : SessionWait}

/-- A wait that has been started is about to work or has nothing to do, and
the answer of its probe has not been overlooked. -/
structure Mindful (task : TaskId) (entry : SessionWait) (session : Session) :
    Prop where
  fresh : ∀ timeout, entry.stage = .fresh timeout → session.Attends task
  active : ∀ wait, entry.stage = .active wait → session.Attends task ∨
    (entry.dropped = false ∧ wait.Idles session.agenda entry.interrupted
      (session.waiter.handoff task))
  answers : ∀ reason answer, entry.probe? = some (reason, answer) →
    session.agenda.now ≤ answer.due

theorem mem_alarms (found : session.waits[task]? = some entry)
    {alarm : Alarm} (set : alarm ∈ entry.alarms) :
    (alarm, task) ∈ Machine.alarms session := by
  apply List.mem_flatMap.mpr
  refine ⟨(entry, task), ?_, List.mem_map_of_mem set⟩
  exact List.mk_mem_zipIdx_iff_getElem?.mpr found

theorem probe?_eq_some {reason : ProbeReason} {answer : Alarm} :
    entry.probe? = some (reason, answer) ↔ ∃ wait,
      entry.stage = .active wait ∧ wait.phase = .probing reason answer := by
  unfold SessionWait.probe?
  cases stage : entry.stage with
  | active wait => cases phase : wait.phase <;> simp [phase]
  | _ => simp

theorem probe?_of_stage (same : next.stage = entry.stage) :
    next.probe? = entry.probe? := by
  rw [SessionWait.probe?, same, SessionWait.probe?]

namespace Mindful

theorem of_attends (attends : session.Attends task)
    (answers : ∀ reason answer, entry.probe? = some (reason, answer) →
      session.agenda.now ≤ answer.due) : Mindful task entry session :=
  ⟨fun _ _ => attends, fun _ _ => .inl attends, answers⟩

theorem of_not_started (stage : entry.stage = .subscribed ∨
    entry.stage = .ended) : Mindful task entry session := by
  constructor
  · intro timeout fresh
    rw [fresh] at stage
    simp at stage
  · intro wait active
    rw [active] at stage
    simp at stage
  · intro reason answer probing
    rcases stage with stage | stage <;>
      simp [SessionWait.probe?, stage] at probing

theorem attends_or_idles (mindful : Mindful task entry session)
    {wait : Wait} (stage : entry.stage = .active wait)
    (settled : session.Settled) :
    entry.dropped = false ∧ wait.Idles session.agenda entry.interrupted
      (session.waiter.handoff task) := by
  rcases mindful.active wait stage with attends | idles
  · exact absurd settled attends.not_settled
  · exact idles

/-- Time passes promptly. -/
theorem pass (mindful : Mindful task entry session)
    (found : session.waits[task]? = some entry) {span : Nat}
    (prompt : Episode.Prompt ⟨session, .pass span⟩) :
    Mindful task entry (Machine.ring (session.agenda.now + span) session) := by
  obtain ⟨settled, unrung⟩ := prompt
  have now : (Machine.ring (session.agenda.now + span) session).agenda.now =
      session.agenda.now + span :=
    (@Episode.after_of_pass ⟨session, .pass span⟩ span rfl).2
  constructor
  · intro timeout fresh
    exact absurd settled (mindful.fresh timeout fresh).not_settled
  · intro wait active
    obtain ⟨kept, idles⟩ := mindful.attends_or_idles active settled
    have alarms : entry.alarms = wait.alarms := by
      simp [SessionWait.alarms, active]
    by_cases rung : ∃ alarm ∈ wait.alarms,
        alarm.due = session.agenda.now + span
    · obtain ⟨alarm, set, due⟩ := rung
      left
      right
      apply Agenda.mem_ready_wakeAll
      apply Machine.mem_dueTasks.mpr
      exact ⟨alarm, mem_alarms found (alarms ▸ set), due⟩
    · right
      refine ⟨kept, idles.persist ?_⟩
      intro alarm set
      have apart := unrung _ (mem_alarms found (alarms ▸ set))
      have silent : alarm.due ≠ session.agenda.now + span :=
        fun due => rung ⟨alarm, set, due⟩
      simp only [Agenda.isDue, now, Episode.moment] at apart ⊢
      apply decide_eq_decide.mpr
      omega
  · intro reason answer probing
    obtain ⟨wait, active, phase⟩ := probe?_eq_some.mp probing
    obtain ⟨_, idles⟩ := mindful.attends_or_idles active settled
    cases idles with
    | listening listens =>
        rw [phase] at listens
        cases listens
    | probing other same also open_ =>
        rw [phase] at also
        cases also
        have set : answer ∈ entry.alarms := by
          simp [SessionWait.alarms, active, Wait.alarms, phase]
        have apart := unrung _ (mem_alarms found set)
        simp only [Agenda.isDue, decide_eq_false_iff_not,
          Episode.moment] at apart open_
        rw [now]
        omega

/-- A small step of the wait. -/
theorem turn (turn : Turn task entry before after)
    (found : before.waits[task]? = some entry)
    (there : after.waits[task]? = some next)
    (floor : before.agenda.floor = some task) :
    Mindful task next after := by
  cases turn with
  | rests stage =>
      obtain rfl := Option.some.inj (found.symm.trans there)
      exact .of_not_started stage
  | discards =>
      obtain rfl := eq_change_of_modify found there
      exact .of_not_started (.inr rfl)
  | begins timeout stage =>
      obtain rfl := eq_change_of_modify found there
      apply Mindful.of_attends
      · exact .inl floor
      · intro reason answer probing
        cases probing
  | ends =>
      obtain rfl := eq_change_of_modify found there
      exact .of_not_started (.inr rfl)
  | probes wait reason =>
      obtain rfl := eq_change_of_modify found there
      apply Mindful.of_attends
      · exact .inl floor
      · intro other answer probing
        obtain ⟨after, active, phase⟩ := probe?_eq_some.mp probing
        cases active
        cases reason <;> cases phase <;> exact Nat.le_add_right _ _
  | resumes wait answer probes =>
      obtain rfl := eq_change_of_modify found there
      apply Mindful.of_attends
      · exact .inl floor
      · intro reason answer probing
        cases probing
  | waits wait stage kept idles =>
      obtain rfl := Option.some.inj (found.symm.trans there)
      constructor
      · intro timeout fresh
        rw [stage] at fresh
        cases fresh
      · intro other active
        rw [stage] at active
        cases active
        right
        refine ⟨kept, idles.persist ?_⟩
        exact Wait.undisturbed_of_now rfl wait
      · intro reason answer probing
        obtain ⟨other, active, phase⟩ := probe?_eq_some.mp probing
        rw [stage] at active
        cases active
        cases idles with
        | listening listens =>
            rw [phase] at listens
            cases listens
        | probing other same also open_ =>
            rw [phase] at also
            cases also
            simp only [Agenda.isDue, decide_eq_false_iff_not] at open_
            exact Nat.le_of_not_le open_

theorem steady (mindful : Mindful task entry before)
    (steady : Steady task before after) (alike : entry.Alike next)
    (handoff : after.waiter.handoff task = before.waiter.handoff task) :
    Mindful task next after := by
  constructor
  · intro timeout fresh
    rw [alike.stage] at fresh
    exact steady.attends (mindful.fresh timeout fresh)
  · intro wait active
    rw [alike.stage] at active
    rcases mindful.active wait active with attends | ⟨kept, idles⟩
    · exact .inl (steady.attends attends)
    · right
      rw [alike.dropped, alike.interrupted, handoff]
      refine ⟨kept, idles.persist ?_⟩
      exact Wait.undisturbed_of_now steady.now wait
  · intro reason answer probing
    rw [probe?_of_stage alike.stage] at probing
    rw [steady.now]
    exact mindful.answers reason answer probing

theorem woken (mindful : Mindful task entry before)
    (steady : Steady task before after) (same : next.stage = entry.stage)
    (woken : entry.isActive = true → after.Attends task) :
    Mindful task next after := by
  constructor
  · intro timeout fresh
    rw [same] at fresh
    exact steady.attends (mindful.fresh timeout fresh)
  · intro wait active
    rw [same] at active
    left
    apply woken
    simp [SessionWait.isActive, active]
  · intro reason answer probing
    rw [probe?_of_stage same] at probing
    rw [steady.now]
    exact mindful.answers reason answer probing

theorem fate (mindful : Mindful task entry episode.before)
    (found : episode.before.waits[task]? = some entry)
    (prompt : episode.Prompt)
    (there : episode.after.waits[task]? = some next)
    (fate : Fate task episodes episode entry next) :
    Mindful task next episode.after := by
  cases fate with
  | beside _ alike steady handoff =>
      exact mindful.steady steady alike handoff
  | passes span passes =>
      obtain ⟨session, occurrence⟩ := episode
      dsimp only at passes
      subst passes
      exact mindful.pass found prompt
  | starts timeout watch _ _ _ attends =>
      apply Mindful.of_attends attends
      intro reason answer probing
      cases probing
  | matched event _ steady woken => exact mindful.woken steady rfl woken
  | lifted _ steady woken => exact mindful.woken steady rfl woken
  | interrupted _ steady woken => exact mindful.woken steady rfl woken
  | dropped _ _ steady attends =>
      exact mindful.woken steady rfl fun _ => attends
  | withdrawn => exact .of_not_started (.inr rfl)
  | finished _ _ ended => exact .of_not_started (.inr ended)
  | works _ _ floor turn => exact .turn turn found there floor

end Mindful

/-- In a prompt run every wait is mindful. -/
theorem Run.mindful (run : Run {} episodes session)
    (prompt : ∀ episode ∈ episodes, episode.Prompt)
    (found : session.waits[task]? = some entry) :
    Mindful task entry session := by
  refine run.tracks (motive := fun episodes session entry =>
    (∀ episode ∈ episodes, episode.Prompt) → Mindful task entry session)
    found ?_ ?_ prompt
  · exact fun _ _ _ _ _ _ _ _ _ => .of_not_started (.inl rfl)
  · intro earlier episode entry next _ here there fate mindful prompt
    have before := mindful fun episode member =>
      prompt episode (List.mem_append_left _ member)
    exact before.fate here
      (prompt _ List.mem_concat_self)
      there fate

/-- What holds of a wait when it is subscribed and is kept by all its fates
holds of it in every prompt run. -/
theorem Run.tracksPromptly
    {motive : List Episode → Session → SessionWait → Prop}
    (run : Run {} episodes session)
    (prompt : ∀ episode ∈ episodes, episode.Prompt)
    (found : session.waits[task]? = some entry)
    (subscribed : ∀ (earlier : List Episode) (before : Session)
      (name own : String) (kind : EventKind) (predicate : Event → Bool),
      Run {} earlier before → before.waits[task]? = none →
        motive (earlier ++ [⟨before, .subscribe name kind predicate⟩])
          (before.happen (.subscribe name kind predicate))
          { name := own, subscription := task })
    (keeps : ∀ (earlier : List Episode) (episode : Episode)
      (entry next : SessionWait), Run {} earlier episode.before →
        episode.Prompt → Mindful task entry episode.before →
        episode.before.waits[task]? = some entry →
        episode.after.waits[task]? = some next →
        Fate task earlier episode entry next →
        motive earlier episode.before entry →
        motive (earlier ++ [episode]) episode.after next) :
    motive episodes session entry := by
  refine run.tracks (motive := fun episodes session entry =>
    (∀ episode ∈ episodes, episode.Prompt) → motive episodes session entry)
    found ?_ ?_ prompt
  · intro earlier before name own kind predicate run absent _
    exact subscribed earlier before name own kind predicate run absent
  · intro earlier episode entry next run here there fate holds prompt
    have promptEarlier : ∀ episode ∈ earlier, episode.Prompt :=
      fun episode member => prompt episode (List.mem_append_left _ member)
    exact keeps earlier episode entry next run
      (prompt _ List.mem_concat_self)
      (run.mindful promptEarlier here) here there fate (holds promptEarlier)

/-- What every fate of a wait keeps holds to the end of a prompt run. -/
theorem Run.carries {past middle : List Episode} {start : Session}
    {Holds : List Episode → Session → SessionWait → Prop}
    (prior : Run {} past start) (run : Run start middle session)
    (prompt : ∀ episode ∈ past ++ middle, episode.Prompt)
    (found : start.waits[task]? = some entry) (begins : Holds [] start entry)
    (keeps : ∀ (middle : List Episode) (episode : Episode)
      (entry next : SessionWait), episode.Prompt →
        Mindful task entry episode.before →
        episode.before.waits[task]? = some entry →
        episode.after.waits[task]? = some next →
        Fate task (past ++ middle) episode entry next →
        Holds middle episode.before entry →
        Holds (middle ++ [episode]) episode.after next) :
    ∃ current, session.waits[task]? = some current ∧
      Holds middle session current := by
  have promptly : ∃ current, session.waits[task]? = some current ∧
      ((∀ episode ∈ past ++ middle, episode.Prompt) →
        Holds middle session current) := by
    apply prior.follows run found fun _ => begins
    intro middle episode entry next whole here there fate holds promptAll
    rw [← List.append_assoc] at promptAll
    have before : ∀ episode ∈ past ++ middle, episode.Prompt :=
      fun episode member => promptAll episode (List.mem_append_left _ member)
    have last : episode.Prompt := promptAll episode
      List.mem_concat_self
    exact keeps middle episode entry next last (whole.mindful before here) here
      there fate (holds before)
  obtain ⟨current, here, holds⟩ := promptly
  exact ⟨current, here, holds prompt⟩

section Settling

/-- A bound on the small steps that a wait with the floor can take before it
gives the floor back. -/
def effort (agenda : Agenda) (entry : SessionWait) : Nat :=
  match entry.stage with
  | .subscribed | .ended => 0
  | .fresh _ => 3
  | .active wait => wait.effort agenda

theorem effort_active {wait : Wait} (stage : entry.stage = .active wait)
    (agenda : Agenda) : effort agenda entry = wait.effort agenda := by
  simp [effort, stage]

theorem effort_le (agenda : Agenda) (entry : SessionWait) :
    effort agenda entry ≤ 5 := by
  unfold effort
  split
  · omega
  · omega
  · omega
  · exact Wait.effort_le agenda _

/-- A bound on the small steps before all waits have settled. -/
def unrest (session : Session) : Nat :=
  7 * session.agenda.ready.length +
    match session.agenda.floor with
    | none => 0
    | some task =>
      1 + ((session.waits[task]?).map (effort session.agenda)).getD 0

theorem effort_turn (turn : Turn task entry before after)
    (found : before.waits[task]? = some entry)
    (there : after.waits[task]? = some next) :
    after.agenda.floor = none ∨
      (after.agenda.floor = before.agenda.floor ∧
        effort after.agenda next < effort before.agenda entry) := by
  cases turn with
  | rests | discards | ends | waits => exact .inl rfl
  | begins timeout stage =>
      obtain rfl := eq_change_of_modify found there
      refine .inr ⟨rfl, ?_⟩
      rw [effort_active rfl, Wait.effort_listening rfl, Wait.probes,
        Wait.not_due_of_period, effort, stage]
      · simp
      · rfl
  | probes wait reason stage kept phase calm empty cause =>
      obtain rfl := eq_change_of_modify found there
      refine .inr ⟨rfl, ?_⟩
      rw [effort_active stage, effort_active rfl]
      exact Wait.effort_probing phase cause rfl
  | resumes wait answer probes stage kept phase =>
      obtain rfl := eq_change_of_modify found there
      refine .inr ⟨rfl, ?_⟩
      rw [effort_active stage, effort_active rfl]
      exact Wait.effort_resumed phase before.agenda

theorem unrest_work (kept : Kept episodes session)
    (moving : ¬ session.Settled) :
    (session.happen .work).unrest < session.unrest := by
  rcases work_cases session with
    ⟨worker, floor, after⟩ | ⟨first, rest, floor, ready, after⟩ |
      ⟨settled, _⟩
  · rw [after]
    cases found : session.waits[worker]? with
    | none =>
        have rests : session.work worker = session.yieldFloor := by
          simp [work, found]
        simp [rests, unrest, floor, found, yieldFloor, Agenda.yieldFloor]
    | some entry =>
        have turn := kept.turn found
        obtain ⟨next, there⟩ := turn.found found
        have ready := turn.ready_eq
        rcases effort_turn turn found there with free | ⟨held, less⟩
        · rw [unrest, unrest, ready, free, floor]
          dsimp only
          omega
        · simp only [unrest, ready, held, floor, found, there,
            Option.map_some, Option.getD_some]
          omega
  · rw [after]
    have bound : ((session.waits[first]?).map
        (effort (session.giveFloor first rest).agenda)).getD 0 ≤ 5 := by
      cases session.waits[first]? with
      | none => simp
      | some entry => exact effort_le _ entry
    rw [unrest, unrest, floor, ready]
    simp only [giveFloor, List.length_cons] at bound ⊢
    omega
  · exact absurd settled moving

theorem Kept.exists_settled (kept : Kept episodes session) :
    ∃ steps, (session.happenAll (List.replicate steps .work)).Settled := by
  generalize size : session.unrest = bound
  induction bound using Nat.strongRecOn generalizing session
    episodes with
  | _ bound induction =>
      by_cases settled : session.Settled
      · exact ⟨0, settled⟩
      · have less := unrest_work kept settled
        rw [size] at less
        obtain ⟨steps, settles⟩ :=
          induction _ less (kept.happen .work) rfl
        exact ⟨steps + 1, settles⟩

end Settling

end Session

end Switchboard
