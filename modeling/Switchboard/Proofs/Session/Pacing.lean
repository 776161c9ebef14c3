import Switchboard.Proofs.Session.Probing

/-!
# How often a wait probes

The regular probes of a wait keep a full period between each other and from its
beginning, however long a probe takes: the next one is due a period after the
last one was started, so that a slow probe puts off those after it.  The only
other probe is the one at the deadline, which is the last.
-/

namespace Switchboard.Session

/-- Between any two moments there is a full period. -/
def Spaced (period : Nat) (moments : List Nat) : Prop :=
  moments.Pairwise fun earlier later => earlier + period ≤ later

theorem Spaced.countP_le {period begun : Nat} {moments : List Nat}
    (spaced : Spaced period (begun :: moments)) (limit : Nat) :
    moments.countP (· ≤ limit) * period ≤ limit - begun := by
  induction moments generalizing begun with
  | nil => simp
  | cons moment rest induction =>
      obtain ⟨apart, tail⟩ := List.pairwise_cons.mp spaced
      have first := apart moment List.mem_cons_self
      have others := induction tail
      by_cases within : moment ≤ limit
      · rw [List.countP_cons_of_pos (by simpa using within), Nat.add_mul,
          Nat.one_mul]
        omega
      · rw [List.countP_cons_of_neg (by simpa using within)]
        omega

theorem Spaced.countP_le_div {period begun : Nat} {moments : List Nat}
    (spaced : Spaced period (begun :: moments)) (positive : 0 < period)
    (span : Nat) :
    moments.countP (· ≤ begun + span) ≤ span / period := by
  rw [Nat.le_div_iff_mul_le positive]
  have bound := spaced.countP_le (begun + span)
  rwa [Nat.add_sub_cancel_left] at bound

theorem Spaced.concat {period moment : Nat} {moments : List Nat}
    (spaced : Spaced period moments)
    (after : ∀ earlier ∈ moments, earlier + period ≤ moment) :
    Spaced period (moments ++ [moment]) := by
  refine List.pairwise_append.mpr ⟨spaced, List.pairwise_singleton _ _, ?_⟩
  intro earlier member later last
  rw [List.mem_singleton.mp last]
  exact after earlier member

/-- The wait of a task gets the floor for the first time since it was
started. -/
def Episode.begins? (task : TaskId) (episode : Episode) : Option Nat :=
  if (episode.before.waits[task]?).any SessionWait.isActive = false ∧
      (episode.after.waits[task]?).any SessionWait.isActive = true then
    some episode.moment
  else none

/-- When the wait of a task began. -/
def begun? (task : TaskId) (episodes : List Episode) : Option Nat :=
  episodes.findSome? (Episode.begins? task)

/-- The probes that have been started for a task. -/
def probings (task : TaskId) (episodes : List Episode) : List Probe :=
  episodes.filterMap (Episode.probe? task)

/-- The start as it counts from a moment on. -/
def Start.since (begun : Nat) (start : Start) : Start :=
  { start with moment := begun }

@[simp] theorem Start.liveness_since (begun : Nat) (start : Start) :
    (start.since begun).liveness = start.liveness := rfl

/-- The probes of a wait with that start: regular ones, and last of all at
most one when the deadline has passed.  A wait that watches nothing makes
none. -/
structure Paced (start : Start) (probes : List Probe) (ticks : List Nat)
    (last? : Option Nat) : Prop where
  made : probes =
    ticks.map (⟨·, .tick⟩) ++ last?.toList.map (⟨·, .deadline⟩)
  unwatched : start.watch = none → probes = []
  unpaced : Liveness.period? start.liveness = none → ticks = []
  spaced : ∀ period, Liveness.period? start.liveness = some period →
    Spaced period (start.moment :: ticks)
  late : ∀ moment, last? = some moment →
    ∃ due, start.deadline? = some due ∧ due ≤ moment

/-- The alarms of a wait: the deadline of its start, and the next regular
probe, which is a full period ahead of the beginning and of all those before
it. -/
structure Ahead (start : Start) (ticks : List Nat) (wait : Wait) : Prop where
  liveness : wait.liveness = start.liveness
  deadline : wait.deadline.map Alarm.due = start.deadline?
  unpaced : Liveness.period? start.liveness = none → wait.tick = none
  next : ∀ period, Liveness.period? start.liveness = some period →
    ∃ alarm, wait.tick = some alarm ∧
      ∀ moment ∈ start.moment :: ticks, moment + period ≤ alarm.due

/-- How far a wait is with its probes. -/
inductive Tempo (start? : Option Start) (begun? : Option Nat)
    (probes : List Probe) (entry : SessionWait) : Prop where
  | subscribed : entry.stage = .subscribed → start? = none → begun? = none →
      probes = [] → Tempo start? begun? probes entry
  | fresh (start : Start) : entry.stage = .fresh start.timeout →
      start? = some start → entry.liveness = start.liveness →
      begun? = none → probes = [] → Tempo start? begun? probes entry
  | active (start : Start) (begun : Nat) (wait : Wait) (ticks : List Nat)
      (last? : Option Nat) : entry.stage = .active wait →
      start? = some start → begun? = some begun →
      Paced (start.since begun) probes ticks last? →
      Ahead (start.since begun) ticks wait →
      (last? ≠ none → ∃ answer, wait.phase = .probing .deadline answer) →
      Tempo start? begun? probes entry
  | spared : entry.stage = .ended → begun? = none → probes = [] →
      Tempo start? begun? probes entry
  | ended (start : Start) (begun : Nat) (ticks : List Nat)
      (last? : Option Nat) : entry.stage = .ended → start? = some start →
      begun? = some begun → Paced (start.since begun) probes ticks last? →
      Tempo start? begun? probes entry

section Steps

variable {task : TaskId} {episodes : List Episode} {episode : Episode}
  {session after : Session} {entry next : SessionWait} {wait : Wait}
  {start : Start} {began? : Option Nat} {start? : Option Start}
  {probes : List Probe} {ticks : List Nat} {last? : Option Nat}

theorem begun?_append (task : TaskId) (episodes : List Episode)
    (episode : Episode) :
    begun? task (episodes ++ [episode]) =
      (begun? task episodes).or (episode.begins? task) := by
  rw [begun?, List.findSome?_append]
  cases begins : episode.begins? task <;> simp [begun?, begins]

theorem probings_append (task : TaskId) (episodes : List Episode)
    (episode : Episode) :
    probings task (episodes ++ [episode]) =
      probings task episodes ++ (episode.probe? task).toList := by
  rw [probings, List.filterMap_append]
  cases started : episode.probe? task <;> simp [probings, started]

theorem Episode.begins?_eq (found : episode.before.waits[task]? = some entry)
    (there : episode.after.waits[task]? = some next) :
    episode.begins? task =
      if entry.isActive = false ∧ next.isActive = true then
        some episode.moment
      else none := by
  rw [Episode.begins?, found, there]
  rfl

theorem Episode.start?_eq_none
    (found : episode.before.waits[task]? = some entry)
    (started : entry.stage ≠ .subscribed) : episode.start? task = none := by
  obtain ⟨before, occurrence⟩ := episode
  cases occurrence with
  | startWait name timeout watch =>
      dsimp only at found
      simp [Episode.start?, found, started]
  | _ => rfl

theorem Tempo.quiet
    (found : episode.before.waits[task]? = some entry)
    (there : episode.after.waits[task]? = some next)
    (begins : next.isActive = true → entry.isActive = true)
    (probes : entry.probe? = none → next.probe? = none)
    (same : (story task (episodes ++ [episode])).start? = start?)
    (tempo : Tempo start? (begun? task episodes) (probings task episodes)
      next) :
    Tempo (story task (episodes ++ [episode])).start?
      (begun? task (episodes ++ [episode]))
      (probings task (episodes ++ [episode])) next := by
  have unbegun : episode.begins? task = none := by
    rw [Episode.begins?_eq found there, if_neg]
    rintro ⟨idle, active⟩
    rw [begins active] at idle
    cases idle
  have unprobed : episode.probe? task = none := by
    cases started : episode.probe? task with
    | none => rfl
    | some probe =>
        obtain ⟨idle, _, _, probing⟩ := Episode.probe?_eq_some.mp started
        rw [probing?_eq found] at idle
        rw [probing?_eq there, probes idle] at probing
        cases probing
  rw [begun?_append, probings_append, unbegun, unprobed, same, Option.or_none,
    Option.toList_none, List.append_nil]
  exact tempo

theorem Tempo.alike (tempo : Tempo start? began? probes entry)
    (stage : next.stage = entry.stage)
    (liveness : next.liveness = entry.liveness) :
    Tempo start? began? probes next := by
  cases tempo with
  | subscribed other unstarted unbegun none =>
      exact .subscribed (stage.trans other) unstarted unbegun none
  | fresh start other started same unbegun none =>
      exact .fresh start (stage.trans other) started (liveness.trans same)
        unbegun none
  | active start begun wait ticks last? other started began paced ahead
      final =>
      exact .active start begun wait ticks last? (stage.trans other) started
        began paced ahead final
  | spared other unbegun none =>
      exact .spared (stage.trans other) unbegun none
  | ended start begun ticks last? other started began paced =>
      exact .ended start begun ticks last? (stage.trans other) started began
        paced

theorem Tempo.ends (tempo : Tempo start? began? probes entry)
    (ended : next.stage = .ended) : Tempo start? began? probes next := by
  cases tempo with
  | subscribed _ _ unbegun none | fresh _ _ _ _ unbegun none
  | spared _ unbegun none => exact .spared ended unbegun none
  | active start begun _ ticks last? _ started began paced
  | ended start begun ticks last? _ started began paced =>
      exact .ended start begun ticks last? ended started began paced

theorem Tempo.regular (tempo : Tempo start? began? probes entry)
    (active : entry.stage = .active wait)
    (phase : wait.phase = .listening ∨
      ∃ answer, wait.phase = .probing .tick answer) :
    ∃ start begun ticks, start? = some start ∧ began? = some begun ∧
      Paced (start.since begun) probes ticks none ∧
      Ahead (start.since begun) ticks wait := by
  cases tempo with
  | active start begun _ ticks last? also started begins paced ahead last =>
      cases active.symm.trans also
      cases last? with
      | none => exact ⟨start, begun, ticks, started, begins, paced, ahead⟩
      | some moment =>
          obtain ⟨answer, final⟩ := last (Option.some_ne_none moment)
          rcases phase with listens | ⟨_, probing⟩
          · cases final.symm.trans listens
          · cases final.symm.trans probing
  | subscribed stage | fresh _ stage | spared stage | ended _ _ _ _ stage =>
      cases active.symm.trans stage

theorem Ahead.begins (liveness : entry.liveness = start.liveness)
    (agenda : Agenda) :
    Ahead (start.since agenda.now) []
      (Wait.start entry.subscription start.timeout entry.liveness agenda).1
    where
  liveness := liveness
  deadline := Option.map_map _ _ _
  unpaced := by
    intro none
    rw [Start.liveness_since, ← liveness] at none
    simp [Wait.start, none]
  next := by
    intro period every
    rw [Start.liveness_since, ← liveness] at every
    refine ⟨agenda.countAlarm.alarmIn period, by simp [Wait.start, every], ?_⟩
    intro moment member
    cases List.mem_singleton.mp member
    exact Nat.le_refl _

theorem Paced.begins (start : Start) : Paced start [] [] none where
  made := rfl
  unwatched _ := rfl
  unpaced _ := rfl
  spaced _ _ := List.pairwise_singleton _ _
  late := nofun

/-- After a regular probe the next one is due a period later, whatever had
been due before. -/
theorem Paced.tick (paced : Paced start probes ticks none)
    (ahead : Ahead start ticks wait) {agenda : Agenda}
    (due : wait.probes agenda = true) (answer : Alarm) :
    Paced start (probes ++ [⟨agenda.now, .tick⟩]) (ticks ++ [agenda.now])
        none ∧
      Ahead start (ticks ++ [agenda.now])
        (wait.probing .tick answer agenda.countAlarm) := by
  obtain ⟨alarm, set, passed⟩ := Wait.tick_of_probes due
  have paces : Liveness.period? start.liveness ≠ none := by
    intro none
    rw [ahead.unpaced none] at set
    cases set
  have clear : ∀ period, Liveness.period? start.liveness = some period →
      ∀ moment ∈ start.moment :: ticks, moment + period ≤ agenda.now := by
    intro period every moment member
    obtain ⟨other, also, bound⟩ := ahead.next period every
    obtain rfl := Option.some.inj (set.symm.trans also)
    exact Nat.le_trans (bound moment member) passed
  constructor
  · refine ⟨?_, ?_, fun none => absurd none paces, ?_, nofun⟩
    · rw [paced.made]
      simp
    · intro none
      apply absurd _ paces
      rw [Start.liveness, none]
      rfl
    · intro period every
      exact (paced.spaced period every).concat (clear period every)
  · refine ⟨ahead.liveness, ahead.deadline, fun none => absurd none paces, ?_⟩
    intro period every
    refine ⟨agenda.countAlarm.alarmIn period, ?_, ?_⟩
    · rw [← ahead.liveness] at every
      simp [Wait.probing, every]
    · intro moment member
      rw [← List.cons_append] at member
      rcases List.mem_append.mp member with earlier | last
      · have before := clear period every moment earlier
        exact Nat.le_trans before (Nat.le_add_right _ _)
      · cases List.mem_singleton.mp last
        exact Nat.le_refl _

theorem Paced.deadline (paced : Paced start probes ticks none)
    (ahead : Ahead start ticks wait) {agenda : Agenda}
    {handoff : Handoff Event} (expired : wait.expired agenda handoff = true)
    (watched : wait.liveness.isSome = true) (answer : Alarm) :
    Paced start (probes ++ [⟨agenda.now, .deadline⟩]) ticks
        (some agenda.now) ∧
      Ahead start ticks (wait.probing .deadline answer agenda.countAlarm) := by
  constructor
  · refine ⟨?_, ?_, paced.unpaced, paced.spaced, ?_⟩
    · rw [paced.made]
      simp
    · intro none
      rw [ahead.liveness, Start.liveness, none] at watched
      cases watched
    · intro moment last
      cases last
      obtain ⟨alarm, set, due⟩ := Wait.deadline_of_expired expired
      refine ⟨alarm.due, ?_, due⟩
      rw [← ahead.deadline, set]
      rfl
  · exact ⟨ahead.liveness, ahead.deadline, ahead.unpaced, ahead.next⟩

/-- The tempo of a wait as its history tells it. -/
def InTempo (task : TaskId) (episodes : List Episode) (entry : SessionWait) :
    Prop :=
  Tempo (story task episodes).start? (begun? task episodes)
    (probings task episodes) entry

theorem InTempo.begun {timeout : Option Nat}
    (tempo : InTempo task episodes entry)
    (found : episode.before.waits[task]? = some entry)
    (there : episode.after.waits[task]? = some
      { entry with stage := .active (Wait.start entry.subscription timeout
          entry.liveness episode.before.agenda).1 })
    (same : (story task (episodes ++ [episode])).start? =
      (story task episodes).start?)
    (fresh : entry.stage = .fresh timeout) :
    InTempo task (episodes ++ [episode])
      { entry with stage := .active (Wait.start entry.subscription timeout
          entry.liveness episode.before.agenda).1 } := by
  have begins : episode.begins? task = some episode.moment := by
    rw [Episode.begins?_eq found there, if_pos]
    simp [SessionWait.isActive, fresh]
  have unprobed : episode.probe? task = none := by
    rw [Episode.probe?, probing?_eq there]
    simp [SessionWait.probe?, Wait.start]
  cases tempo with
  | fresh start stage started liveness unbegun none =>
      cases fresh.symm.trans stage
      rw [InTempo, same, begun?_append, probings_append, begins, unprobed,
        unbegun, none]
      exact .active start episode.moment _ [] .none rfl started rfl
        (.begins _) (.begins liveness episode.before.agenda) (absurd rfl)
  | subscribed stage | active _ _ _ _ _ stage | spared stage
  | ended _ _ _ _ stage =>
      cases fresh.symm.trans stage

theorem InTempo.probed {reason : ProbeReason} {answer : Alarm}
    {handoff : Handoff Event} (tempo : InTempo task episodes entry)
    (found : episode.before.waits[task]? = some entry)
    (there : episode.after.waits[task]? = some
      { entry with stage := .active (wait.probing reason answer
          episode.before.agenda.countAlarm) })
    (same : (story task (episodes ++ [episode])).start? =
      (story task episodes).start?)
    (active : entry.stage = .active wait) (listens : wait.phase = .listening)
    (cause : wait.Probes episode.before.agenda handoff reason) :
    InTempo task (episodes ++ [episode])
      { entry with stage := .active (wait.probing reason answer
          episode.before.agenda.countAlarm) } := by
  obtain ⟨start, begun, ticks, started, began, paced, ahead⟩ :=
    Tempo.regular tempo active (.inl listens)
  have unbegun : episode.begins? task = none := by
    rw [Episode.begins?_eq found there, if_neg]
    simp [SessionWait.isActive, active]
  have probed : episode.probe? task = some ⟨episode.moment, reason⟩ := by
    apply Episode.probe?_eq_some.mpr
    rw [probing?_eq found, probing?_eq there]
    refine ⟨?_, rfl, ?_⟩
    · simp [SessionWait.probe?, active, listens]
    · cases reason <;> exact ⟨_, rfl⟩
  rw [InTempo, same, begun?_append, probings_append, unbegun, probed,
    Option.or_none]
  cases cause with
  | tick _ due =>
      obtain ⟨paced, ahead⟩ := paced.tick ahead due answer
      exact .active start begun _ _ none rfl started began paced ahead
        (absurd rfl)
  | deadline expired watched =>
      obtain ⟨paced, ahead⟩ := paced.deadline ahead expired watched answer
      exact .active start begun _ ticks _ rfl started began paced ahead
        fun _ => ⟨_, rfl⟩

theorem Turn.tempo (turn : Turn task entry episode.before episode.after)
    (found : episode.before.waits[task]? = some entry)
    (there : episode.after.waits[task]? = some next)
    (same : (story task (episodes ++ [episode])).start? =
      (story task episodes).start?)
    (tempo : InTempo task episodes entry) :
    InTempo task (episodes ++ [episode]) next := by
  generalize reached : episode.after = after at turn
  rw [reached] at there
  have arrives := reached.symm ▸ there
  cases turn with
  | rests | waits =>
      obtain rfl := Option.some.inj (found.symm.trans there)
      exact Tempo.quiet found arrives id id same tempo
  | discards | ends =>
      obtain rfl := eq_change_of_modify found there
      refine (Tempo.ends tempo rfl).quiet found arrives ?_ (fun _ => rfl) same
      intro active
      cases active
  | begins timeout fresh =>
      obtain rfl := eq_change_of_modify found there
      exact tempo.begun found arrives same fresh
  | probes wait reason active _ listens _ _ cause =>
      obtain rfl := eq_change_of_modify found there
      exact tempo.probed found arrives same active listens cause
  | resumes wait answer _ active _ phase =>
      obtain rfl := eq_change_of_modify found there
      obtain ⟨start, begun, ticks, started, began, paced, ahead⟩ :=
        Tempo.regular tempo active (.inr ⟨answer, phase⟩)
      have resumed : Tempo (story task episodes).start? (begun? task episodes)
          (probings task episodes)
          { entry with stage := .active { wait with phase := .listening } } :=
        .active start begun _ ticks none rfl started began paced
          ⟨ahead.liveness, ahead.deadline, ahead.unpaced, ahead.next⟩
          (absurd rfl)
      refine resumed.quiet found arrives ?_ (fun _ => rfl) same
      intro _
      rw [SessionWait.isActive, active]

/-- Whatever befalls a wait, it keeps its tempo. -/
theorem Fate.tempo (fate : Fate task episodes episode entry next)
    (found : episode.before.waits[task]? = some entry)
    (there : episode.after.waits[task]? = some next)
    (tempo : InTempo task episodes entry) :
    InTempo task (episodes ++ [episode]) next := by
  have alike : next.stage = entry.stage → next.liveness = entry.liveness →
      (story task (episodes ++ [episode])).start? =
        (story task episodes).start? →
      InTempo task (episodes ++ [episode]) next := by
    intro stage liveness same
    refine (Tempo.alike tempo stage liveness).quiet found there ?_ ?_ same
    · intro active
      rwa [SessionWait.isActive, stage] at active
    · intro listens
      rwa [probe?_of_stage stage]
  cases fate with
  | beside _ same _ _ told =>
      exact alike same.stage same.liveness (congrArg Story.start? told)
  | passes _ _ told | matched _ _ _ _ _ _ told | lifted _ _ _ _ told
  | interrupted _ _ _ _ told | dropped _ _ _ _ _ told =>
      have same := congrArg Story.start? told
      exact alike rfl rfl same
  | starts timeout watch _ subscribed _ _ _ told =>
      cases tempo with
      | subscribed _ unstarted unbegun none =>
          have started : Tempo (some ⟨episode.moment, timeout, watch⟩)
              (begun? task episodes) (probings task episodes)
              { entry with stage := .fresh timeout, watch } :=
            .fresh ⟨episode.moment, timeout, watch⟩ rfl rfl rfl unbegun none
          refine started.quiet found there ?_ (fun _ => rfl) ?_
          · intro active
            cases active
          · rw [told, unstarted]
            rfl
      | fresh _ stage | active _ _ _ _ _ stage | spared stage
      | ended _ _ _ _ stage =>
          cases subscribed.symm.trans stage
  | withdrawn _ _ told =>
      refine (Tempo.ends tempo rfl).quiet found there ?_ (fun _ => rfl)
        (congrArg Story.start? told)
      intro active
      cases active
  | finished _ past ended =>
      have idle : episode.start? task = none := by
        apply Episode.start?_eq_none found
        intro subscribed
        cases past.symm.trans subscribed
      refine (Tempo.ends tempo ended).quiet found there ?_ ?_ ?_
      · intro active
        rw [SessionWait.isActive, ended] at active
        cases active
      · exact fun _ => probe?_of_ended ended
      · rw [story_append, idle, Option.or_none]
  | works _ works floor turn told =>
      have same := congrArg Story.start? told
      exact turn.tempo found there same tempo

theorem Episode.nothing_begins (idle : ∀ next,
      episode.after.waits[task]? = some next → next.isActive = false) :
    episode.begins? task = none ∧ episode.probe? task = none := by
  constructor
  · rw [Episode.begins?, if_neg]
    rintro ⟨_, active⟩
    obtain ⟨next, there, active⟩ := (Option.any_eq_true _ _).mp active
    rw [idle next there] at active
    cases active
  · cases started : episode.probe? task with
    | none => rfl
    | some probe =>
        obtain ⟨_, _, _, probing⟩ := Episode.probe?_eq_some.mp started
        obtain ⟨next, there, probing⟩ := Option.bind_eq_some_iff.mp probing
        obtain ⟨wait, active, _⟩ := Session.probe?_eq_some.mp probing
        have waits := idle next there
        rw [SessionWait.isActive, active] at waits
        cases waits

/-- Nothing is to be told of a wait that does not exist yet. -/
theorem Run.nothing_begun (run : Run {} episodes session)
    (absent : session.waits[task]? = none) :
    begun? task episodes = none ∧ probings task episodes = [] := by
  induction run with
  | start => exact ⟨rfl, rfl⟩
  | @next earlier before occurrence run induction =>
      have kept : Kept earlier (Happening.mk before occurrence).before :=
        Run.kept run
      cases here : before.waits[task]? with
      | some entry =>
          obtain ⟨_, there, _⟩ := kept.fate here
          cases absent.symm.trans there
      | none =>
          obtain ⟨unbegun, none⟩ := induction here
          have silent : Episode.begins? task ⟨before, occurrence⟩ = .none ∧
              Episode.probe? task ⟨before, occurrence⟩ = .none :=
            Episode.nothing_begins fun _ there => nomatch absent.symm.trans
              there
          rw [begun?_append, probings_append, unbegun, none, silent.1,
            silent.2]
          exact ⟨rfl, rfl⟩

/-- In every run every wait is in its tempo. -/
theorem Run.inTempo (run : Run {} episodes session)
    (found : session.waits[task]? = some entry) :
    InTempo task episodes entry := by
  refine run.tracks (motive := fun episodes _ entry =>
    InTempo task episodes entry) found ?_ ?_
  · intro earlier before name own kind predicate run absent
    obtain ⟨unbegun, none⟩ := run.nothing_begun absent
    have silent :
        Episode.begins? task ⟨before, .subscribe name kind predicate⟩ =
            .none ∧
          Episode.probe? task ⟨before, .subscribe name kind predicate⟩ =
            .none := by
      apply Episode.nothing_begins
      intro next there
      obtain ⟨_, _, rfl⟩ := run.kept.newcomer absent there
      rfl
    rw [InTempo, begun?_append, probings_append, unbegun, none, silent.1,
      silent.2]
    exact .subscribed rfl (by rw [run.story_subscribed absent]) rfl rfl
  · intro earlier episode entry next _ here there fate tempo
    exact fate.tempo here there tempo

end Steps

section Deadline

variable {task : TaskId} {episodes past later : List Episode}
  {episode : Episode} {session : Session} {entry next : SessionWait}
  {wait : Wait} {moment : Nat}

/-- A wait that listens has not missed its deadline, unless a regular probe has
answered just now. -/
def Punctual (story : Story) (session : Session) (entry : SessionWait) :
    Prop :=
  ∀ wait alarm, entry.stage = .active wait → wait.phase = .listening →
    wait.deadline = some alarm → story.lifted = false →
      session.agenda.now ≤ alarm.due ∨
        ⟨session.agenda.now, .tick, true⟩ ∈ story.checks

theorem Punctual.steady {story later : Story} {before after : Session}
    (punctual : Punctual story before entry)
    (now : after.agenda.now = before.agenda.now)
    (stage : next.stage = entry.stage)
    (lifted : later.lifted = false → story.lifted = false)
    (checks : ∀ check ∈ story.checks, check ∈ later.checks) :
    Punctual later after next := by
  intro wait alarm active listens set bound
  rw [now]
  exact (punctual wait alarm (stage.symm.trans active) listens set
    (lifted bound)).imp id (checks _)

theorem Punctual.of_idle {story : Story} (idle : entry.isActive = false) :
    Punctual story session entry := by
  intro wait alarm active
  rw [SessionWait.isActive, active] at idle
  cases idle

theorem Punctual.passes {story : Story} {span : Nat}
    (told : Told task story episode.before entry)
    (mindful : Mindful task entry episode.before)
    (found : episode.before.waits[task]? = some entry)
    (passes : episode.occurrence = .pass span) (prompt : episode.Prompt) :
    Punctual story episode.after entry := by
  obtain ⟨before, occurrence⟩ := episode
  dsimp only at passes
  subst passes
  obtain ⟨settled, unrung⟩ := prompt
  intro wait alarm active listens set bound
  obtain ⟨_, idles⟩ := mindful.attends_or_idles active settled
  have rings : alarm ∈ entry.alarms := by
    simp [SessionWait.alarms, active, Wait.alarms, listens, set]
  left
  rw [(Episode.after_of_pass rfl).2]
  cases idles with
  | probing _ _ phase => cases listens.symm.trans phase
  | listening _ _ _ patient _ =>
      have ahead := Wait.lt_deadline patient (told.lifted.trans bound) set
      exact (unrung _ (mem_alarms found rings)).resolve_left
        (Nat.not_le_of_lt ahead)

theorem Turn.punctual (turn : Turn task entry episode.before episode.after)
    (found : episode.before.waits[task]? = some entry)
    (there : episode.after.waits[task]? = some next)
    (told : story task (episodes ++ [episode]) =
      (story task episodes).hear (episode.before.answer? entry))
    (punctual : Punctual (story task episodes) episode.before entry) :
    Punctual (story task (episodes ++ [episode])) episode.after next := by
  have still := turn.now_eq
  rw [told]
  generalize episode.after = after at turn there still ⊢
  cases turn with
  | rests | waits =>
      obtain rfl := Option.some.inj (found.symm.trans there)
      exact punctual.steady rfl rfl id fun _ => List.mem_append_left _
  | discards | ends =>
      obtain rfl := eq_change_of_modify found there
      exact .of_idle rfl
  | begins timeout =>
      obtain rfl := eq_change_of_modify found there
      intro wait alarm active _ set _
      cases active
      obtain ⟨span, _, rfl⟩ := Option.map_eq_some_iff.mp set
      exact .inl (Nat.le_add_right _ _)
  | probes wait reason =>
      obtain rfl := eq_change_of_modify found there
      intro _ _ active listens
      cases active
      cases reason <;> cases listens
  | resumes wait answer _ active kept phase due alive =>
      obtain rfl := eq_change_of_modify found there
      intro _ _ _ _ _ _
      right
      have underway : entry.probe? = some (.tick, answer) :=
        probe?_of_active active phase
      have hears : episode.before.answer? entry =
          some ⟨episode.before.agenda.now, .tick, true⟩ := by
        simp [answer?, underway, kept, due, alive]
      rw [hears, still]
      exact List.mem_concat_self

theorem Fate.punctual (fate : Fate task episodes episode entry next)
    (told : entry.stage ≠ .ended →
      Told task (story task episodes) episode.before entry)
    (mindful : Mindful task entry episode.before) (prompt : episode.Prompt)
    (found : episode.before.waits[task]? = some entry)
    (there : episode.after.waits[task]? = some next)
    (punctual : Punctual (story task episodes) episode.before entry) :
    Punctual (story task (episodes ++ [episode])) episode.after next := by
  cases fate with
  | beside _ alike steady _ same =>
      rw [same]
      exact punctual.steady steady.now alike.stage id fun _ => id
  | passes span passes same =>
      rw [same]
      by_cases ended : entry.stage = .ended
      · exact .of_idle (by rw [SessionWait.isActive, ended])
      · exact .passes (told ended) mindful found passes prompt
  | starts | withdrawn => exact .of_idle rfl
  | finished _ _ ended =>
      exact .of_idle (by rw [SessionWait.isActive, ended])
  | matched _ _ steady _ _ _ same | lifted _ steady _ _ same
  | interrupted _ steady _ _ same | dropped _ _ steady _ _ same =>
      rw [same]
      exact punctual.steady steady.now rfl (by simp) fun _ => id
  | works _ _ _ turn same => exact turn.punctual found there same punctual

/-- In a prompt run no wait that listens has missed its deadline, unless a
regular probe has answered just now. -/
theorem Run.punctual (run : Run {} episodes session)
    (prompt : ∀ episode ∈ episodes, episode.Prompt)
    (found : session.waits[task]? = some entry) :
    Punctual (story task episodes) session entry := by
  apply run.tracksPromptly (motive := fun episodes session entry =>
    Punctual (story task episodes) session entry) prompt found
  · exact fun _ _ _ _ _ _ _ _ => .of_idle rfl
  · intro earlier episode entry next run prompt mindful here there fate
      punctual
    exact fate.punctual (run.told here) mindful prompt here there punctual

/-- A regular probe is started before the deadline, unless that has been
lifted.  The one at the deadline is started only when the deadline has passed
and has not been lifted, and nothing has matched; in a prompt run it is started
at the deadline itself, or as soon as the regular probe that was under way then
has answered. -/
theorem Run.starts_probe {probe : Probe}
    (run : Run {} past episode.before)
    (started : episode.probe? task = some probe) :
    ∃ start begun, (story task past).start? = some start ∧
      begun? task past = some begun ∧
      (probe.reason = .tick → (story task past).lifted = true ∨
        ∀ due, (start.since begun).deadline? = some due →
          probe.moment < due) ∧
      (probe.reason = .deadline → (story task past).lifted = false ∧
        firstMatch? task past = none ∧
        ∃ due, (start.since begun).deadline? = some due ∧
          due ≤ probe.moment ∧
          ((∀ episode ∈ past, episode.Prompt) → probe.moment = due ∨
            ⟨probe.moment, .tick, true⟩ ∈ (story task past).checks)) := by
  obtain ⟨now, entry, next, answer, wait, found, there, probing, sets⟩ :=
    run.sets started
  have going : entry.stage ≠ .ended := fun ended =>
    sets.not_over (.inl ended)
  have told := run.told found going
  obtain ⟨start, begun, ticks, begins, began, _, ahead⟩ :=
    Tempo.regular (run.inTempo found) sets.active (.inl sets.listens)
  refine ⟨start, begun, begins, began, ?_, ?_⟩
  · intro regular
    have cause := sets.cause
    rw [regular] at cause
    cases cause with
    | tick patient _ =>
        cases lifted : (story task past).lifted with
        | true => exact .inl rfl
        | false =>
            right
            intro due deadline
            rw [← ahead.deadline] at deadline
            obtain ⟨alarm, set, rfl⟩ := Option.map_eq_some_iff.mp deadline
            rw [now]
            exact Wait.lt_deadline patient (told.lifted.trans lifted) set
  · intro last
    have cause := sets.cause
    rw [last] at cause
    cases cause with
    | deadline expired =>
        have bound := told.lifted.symm.trans (Wait.lifted_of_expired expired)
        obtain ⟨alarm, set, due⟩ := Wait.deadline_of_expired expired
        refine ⟨bound, told.unmatched sets.empty, alarm.due, ?_, ?_, ?_⟩
        · rw [← ahead.deadline, set]
          rfl
        · rw [now]
          exact due
        · intro prompt
          rw [now]
          exact (run.punctual prompt found wait alarm sets.active sets.listens
            set bound).imp (Nat.le_antisymm · due) id

end Deadline

variable {task : TaskId} {episodes : List Episode} {session : Session}

/-- Once a wait has made a probe it has begun, and its probes are paced. -/
theorem Run.paced (run : Run {} episodes session)
    (probed : probings task episodes ≠ []) :
    ∃ start begun ticks last?, (story task episodes).start? = some start ∧
      begun? task episodes = some begun ∧
      Paced (start.since begun) (probings task episodes) ticks last? := by
  cases found : session.waits[task]? with
  | none => exact absurd (run.nothing_begun found).2 probed
  | some entry =>
      cases run.inTempo found with
      | subscribed _ _ _ none | fresh _ _ _ _ _ none | spared _ _ none =>
          exact absurd none probed
      | active start begun _ ticks last? _ started began paced
      | ended start begun ticks last? _ started began paced =>
          exact ⟨start, begun, ticks, last?, started, began, paced⟩

/-- In every run, with probes of any duration, the probes of a wait are made one
at a time.  A probe that is under way goes on until it answers or the wait is
over, and another one is started only after the answer of a regular probe has
let the wait go on; once the wait has ended or has been dropped none is
started.  The regular probes are spaced: in the first `span` after its beginning
a wait starts at most `span / period` of them.  Besides there is at most one
more, the last, at the deadline, which is started only when the deadline has
passed and has not been lifted and nothing has matched.  Without a period there
are no regular ones. -/
theorem probes_sequential_and_bounded (run : Run {} episodes session)
    (task : TaskId) :
    (∀ episode ∈ episodes, ∀ reason answer,
      episode.before.probing? task = some (reason, answer) →
        episode.after.probing? task = some (reason, answer) ∨
          episode.after.probing? task = none) ∧
    (∀ past first middle second later one two,
      episodes = past ++ first :: (middle ++ second :: later) →
        first.probe? task = some one → second.probe? task = some two →
        one.reason = .tick ∧ ∃ answer,
          first.after.probing? task = some (.tick, answer) ∧
          ∃ answering ∈ middle, ∃ moment,
            answering.check? task = some ⟨moment, .tick, true⟩ ∧
              answer.due ≤ moment) ∧
    (∀ past ending later, episodes = past ++ ending :: later →
      ending.Leaves task ∨ ending.Drops task →
        ∀ episode ∈ later, episode.probe? task = none) ∧
    (probings task episodes ≠ [] → ∃ start begun ticks last?,
      (story task episodes).start? = some start ∧
      begun? task episodes = some begun ∧
      Paced (start.since begun) (probings task episodes) ticks last? ∧
      ∀ period, Liveness.period? start.liveness = some period → ∀ span,
        ticks.countP (· ≤ begun + span) ≤ span / period) ∧
    (∀ past episode later probe, episodes = past ++ episode :: later →
      episode.probe? task = some probe → ∃ start begun,
        (story task past).start? = some start ∧
        begun? task past = some begun ∧
        (probe.reason = .tick → (story task past).lifted = true ∨
          ∀ due, (start.since begun).deadline? = some due →
            probe.moment < due) ∧
        (probe.reason = .deadline → (story task past).lifted = false ∧
          firstMatch? task past = none ∧
          ∃ due, (start.since begun).deadline? = some due ∧
            due ≤ probe.moment ∧
            ((∀ episode ∈ past, episode.Prompt) → probe.moment = due ∨
              ⟨probe.moment, .tick, true⟩ ∈
                (story task past).checks))) := by
  refine ⟨?_, ?_, ?_, ?_, ?_⟩
  · intro episode member reason answer underway
    obtain ⟨past, later, rfl⟩ := List.append_of_mem member
    have kept := Run.kept run.split.1
    obtain ⟨entry, found, probing⟩ := Option.bind_eq_some_iff.mp underway
    obtain ⟨next, there, fate⟩ := kept.fate found
    rw [probing?_eq there]
    rcases fate.pursues found there probing with still | ended | ⟨idle, _⟩
    · exact .inl still
    · exact .inr (probe?_of_ended ended)
    · exact .inr idle
  · rintro past first middle second later one two rfl started startedAgain
    exact run.answered_between started startedAgain
  · rintro past ending later rfl leaves episode member
    obtain ⟨middle, rest, rfl⟩ := List.append_of_mem member
    exact run.none_after_end leaves
  · intro probed
    obtain ⟨start, begun, ticks, last?, started, began, paced⟩ :=
      run.paced probed
    refine ⟨start, begun, ticks, last?, started, began, paced, ?_⟩
    intro period every
    have positive : 0 < period := by
      simpa using (Option.filter_eq_some_iff.mp every).2
    exact (paced.spaced period every).countP_le_div positive
  · rintro past episode later probe rfl started
    exact Run.starts_probe run.split.1 started

/-- A wait of 600 ms that looks at its kettle every 100 ms, where each look
takes 250 ms. -/
def slowLooks : List Occurrence :=
  [.subscribe "tea" .message fun _ => true,
    .startWait "tea" (some 600) (some ⟨"kettle", some 100, 250⟩),
    .work, .work, .work, .pass 100, .work, .work, .work, .pass 250,
    .work, .work, .work, .work, .pass 250, .work, .work, .work, .work]

/-- Slow looks are not made up for: until its deadline the wait has looked
twice, where six would have been allowed, and it looks once more then. -/
theorem slowLooks_probes :
    probings 0 (history slowLooks {}) =
        [⟨100, .tick⟩, ⟨350, .tick⟩, ⟨600, .deadline⟩] ∧
      ∃ (start : Start) (begun : Nat) (ticks : List Nat)
        (last? : Option Nat),
        begun? 0 (history slowLooks {}) = some begun ∧
        Paced (start.since begun) (probings 0 (history slowLooks {})) ticks
          last? ∧
        ticks.countP (· ≤ begun + 600) ≤ 6 := by
  have run : Run {} _ _ := .of_occurrences slowLooks _
  have probed : probings 0 (history slowLooks {}) =
      [⟨100, .tick⟩, ⟨350, .tick⟩, ⟨600, .deadline⟩] := by decide +kernel
  have asked : (story 0 (history slowLooks {})).start? =
      some ⟨0, some 600, some ⟨"kettle", some 100, 250⟩⟩ := by decide +kernel
  obtain ⟨start, begun, ticks, last?, started, began, paced, bounded⟩ :=
    (probes_sequential_and_bounded run 0).2.2.2.1 (by rw [probed]; nofun)
  obtain rfl := Option.some.inj (started.symm.trans asked)
  exact ⟨probed, _, begun, ticks, last?, began, paced,
    bounded 100 (by decide) 600⟩

end Switchboard.Session
