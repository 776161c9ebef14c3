import Switchboard.Proofs.Session.Story

/-!
# What becomes of one wait

Whatever happens next leaves a wait alone or befalls it in one of a few ways,
and its story says so.
-/

namespace Switchboard

/-- Nothing that the course of a wait depends on has changed. -/
structure SessionWait.Alike (entry next : SessionWait) : Prop where
  stage : next.stage = entry.stage
  interrupted : next.interrupted = entry.interrupted
  dropped : next.dropped = entry.dropped
  liveness : next.liveness = entry.liveness

/-- A wait that has ended, or will when it notices that it has been
dropped. -/
def SessionWait.Over (entry : SessionWait) : Prop :=
  entry.stage = .ended ∨ entry.dropped = true

theorem SessionWait.Alike.refl (entry : SessionWait) : entry.Alike entry :=
  ⟨rfl, rfl, rfl, rfl⟩

namespace Session

/-- The wait has the floor or stands in line for it. -/
def Attends (task : TaskId) (session : Session) : Prop :=
  session.agenda.floor = some task ∨ task ∈ session.agenda.ready

/-- Time stands still, and a wait that attends goes on attending. -/
structure Steady (task : TaskId) (before after : Session) : Prop where
  now : after.agenda.now = before.agenda.now
  attends : before.Attends task → after.Attends task

section Attending

variable {task other : TaskId} {before after session : Session}
  {entry : SessionWait}

theorem Attends.not_settled (attends : session.Attends task) :
    ¬ session.Settled := by
  rintro ⟨floor, ready⟩
  rcases attends with holds | waits
  · rw [floor] at holds
    cases holds
  · rw [ready] at waits
    cases waits

theorem Attends.of_extends (attends : before.Attends task)
    (longer : before.agenda.Extends after.agenda) : after.Attends task := by
  rcases attends with holds | waits
  · left
    rw [longer.floor]
    exact holds
  · right
    exact longer.ready.subset waits

theorem Steady.of_extends (task : TaskId)
    (longer : before.agenda.Extends after.agenda) :
    Steady task before after :=
  ⟨longer.now, fun attends => attends.of_extends longer⟩

theorem Steady.of_agenda (task : TaskId)
    (same : after.agenda = before.agenda) : Steady task before after := by
  apply Steady.of_extends
  rw [same]
  exact .refl _

theorem attends_wake (task : TaskId) (session : Session) :
    (session.wake task).Attends task :=
  .inr (Agenda.mem_ready_wake task session.agenda)

/-- Every subscription is that of its wait. -/
def Ordered (session : Session) : Prop :=
  ∀ (task : TaskId) (entry : SessionWait),
    session.waits[task]? = some entry → entry.subscription = task

theorem watcher?_eq (ordered : session.Ordered)
    (found : session.waits[task]? = some entry)
    (active : entry.isActive = true) :
    session.watcher? task = some task := by
  obtain ⟨below, here⟩ := List.getElem?_eq_some_iff.mp found
  apply List.findIdx?_eq_some_iff_getElem.mpr
  refine ⟨below, ?_, ?_⟩
  · rw [here]
    simp [ordered task entry found, active]
  · intro earlier before
    have known : earlier < session.waits.length := by omega
    have own := ordered earlier _ (List.getElem?_eq_getElem known)
    simp [own, Nat.ne_of_lt before]

theorem attends_wakeWatcher (ordered : session.Ordered)
    (found : session.waits[task]? = some entry)
    (active : entry.isActive = true) :
    (session.wakeWatcher task).Attends task := by
  rw [wakeWatcher, watcher?_eq ordered found active]
  exact attends_wake task session

theorem Woken.extends (woken : before.Woken after) :
    before.agenda.Extends after.agenda := by
  obtain ⟨agenda, longer, rfl⟩ := woken
  exact longer

theorem attends_wakeWatchers {ids : List SubscriptionId}
    (member : task ∈ ids) (ordered : session.Ordered)
    (found : session.waits[task]? = some entry)
    (active : entry.isActive = true) :
    (ids.foldl (fun session id => session.wakeWatcher id)
      session).Attends task := by
  induction ids generalizing session with
  | nil => cases member
  | cons id rest induction =>
      rcases List.mem_cons.mp member with rfl | later
      · apply Attends.of_extends _ (Woken.wakeWatchers rest _).extends
        exact attends_wakeWatcher ordered found active
      · obtain ⟨agenda, _, woken⟩ := Woken.wakeWatcher id session
        rw [List.foldl_cons, woken]
        exact induction later ordered found

theorem Ordered.modifyWait (ordered : session.Ordered)
    {change : SessionWait → SessionWait}
    (same : ∀ entry, (change entry).subscription = entry.subscription) :
    (session.modifyWait other change).Ordered := by
  intro task entry there
  rcases modify_cases there with ⟨_, here⟩ | ⟨rfl, old, here, rfl⟩
  · exact ordered task entry here
  · rw [same]
    exact ordered task old here

theorem Kept.ordered {episodes : List Episode}
    (kept : Kept episodes session) : session.Ordered :=
  fun task entry found => (kept.own task entry found).1

end Attending

namespace Turn

variable {task other : TaskId} {entry : SessionWait}
  {before after : Session}

theorem now_eq (turn : Turn task entry before after) :
    after.agenda.now = before.agenda.now := by
  cases turn <;> rfl

theorem ready_eq (turn : Turn task entry before after) :
    after.agenda.ready = before.agenda.ready := by
  cases turn <;> rfl

theorem waits_of_ne (turn : Turn other entry before after)
    (different : task ≠ other) :
    after.waits[task]? = before.waits[task]? := by
  cases turn with
  | rests | waits => rfl
  | _ => exact getElem?_modify_of_ne different

theorem found (turn : Turn task entry before after)
    (found : before.waits[task]? = some entry) :
    ∃ next, after.waits[task]? = some next := by
  cases turn with
  | rests | waits => exact ⟨entry, found⟩
  | _ => exact ⟨_, getElem?_modify_self found⟩

theorem handoff_of_ne (turn : Turn other entry before after)
    (different : task ≠ other) :
    after.waiter.handoff task = before.waiter.handoff task := by
  cases turn with
  | ends =>
      exact Waiter.handoff_setHandoff_of_ne (Ne.symm different)
  | _ => rfl

end Turn

/-- What becomes of a wait, and how its story goes on until it has ended. -/
inductive Fate (task : TaskId) (episodes : List Episode) (episode : Episode)
    (entry : SessionWait) : SessionWait → Prop where
  | beside (next : SessionWait) : entry.Alike next →
      Steady task episode.before episode.after →
      episode.after.waiter.handoff task =
        episode.before.waiter.handoff task →
      story task (episodes ++ [episode]) = story task episodes →
      Fate task episodes episode entry next
  | passes (span : Nat) : episode.occurrence = .pass span →
      story task (episodes ++ [episode]) = story task episodes →
      Fate task episodes episode entry entry
  | starts (timeout : Option Nat) (watch : Option Watch) :
      episode.occurrence ≠ .work → entry.stage = .subscribed →
      Steady task episode.before episode.after →
      episode.after.Attends task →
      episode.after.waiter.handoff task =
        episode.before.waiter.handoff task →
      story task (episodes ++ [episode]) =
        { story task episodes with
          start? := (story task episodes).start?.or
            (some ⟨episode.moment, timeout, watch⟩) } →
      Fate task episodes episode entry
        { entry with stage := .fresh timeout, watch }
  | matched (event : Event) : episode.occurrence ≠ .work →
      Steady task episode.before episode.after →
      (entry.isActive = true → episode.after.Attends task) →
      episode.after.waiter.handoff task =
        { episode.before.waiter.handoff task with slot := .value event } →
      (story task episodes).match? = none →
      story task (episodes ++ [episode]) =
        { story task episodes with
          match? := some (episode.moment, event) } →
      Fate task episodes episode entry entry
  | lifted : episode.occurrence ≠ .work →
      Steady task episode.before episode.after →
      (entry.isActive = true → episode.after.Attends task) →
      episode.after.waiter.handoff task =
        (episode.before.waiter.handoff task).lift →
      story task (episodes ++ [episode]) =
        { story task episodes with lifted := true } →
      Fate task episodes episode entry entry
  | interrupted : episode.occurrence ≠ .work →
      Steady task episode.before episode.after →
      (entry.isActive = true → episode.after.Attends task) →
      episode.after.waiter.handoff task =
        episode.before.waiter.handoff task →
      story task (episodes ++ [episode]) =
        { story task episodes with
          interrupt? := (story task episodes).interrupt?.or
            (some episode.moment) } →
      Fate task episodes episode entry { entry with interrupted := true }
  | dropped : episode.Drops task → entry.stage ≠ .subscribed →
      Steady task episode.before episode.after →
      episode.after.Attends task →
      episode.after.waiter.handoff task =
        episode.before.waiter.handoff task →
      story task (episodes ++ [episode]) = story task episodes →
      Fate task episodes episode entry { entry with dropped := true }
  | withdrawn : episode.Drops task → entry.stage = .subscribed →
      story task (episodes ++ [episode]) = story task episodes →
      Fate task episodes episode entry { entry with stage := .ended }
  | finished (next : SessionWait) : entry.stage = .ended →
      next.stage = .ended → Fate task episodes episode entry next
  | works (next : SessionWait) : episode.occurrence = .work →
      episode.before.agenda.floor = some task →
      Turn task entry episode.before episode.after →
      story task (episodes ++ [episode]) =
        (story task episodes).hear (episode.before.answer? entry) →
      Fate task episodes episode entry next

section Outside

variable {task : TaskId} {episodes : List Episode} {episode : Episode}
  {session : Session} {entry : SessionWait}

theorem Fate.of_spared
    (found : episode.before.waits[task]? = some entry)
    (waits : episode.after.waits[task]? = episode.before.waits[task]?)
    (steady : Steady task episode.before episode.after)
    (handoff : episode.after.waiter.handoff task =
      episode.before.waiter.handoff task)
    (same : story task (episodes ++ [episode]) = story task episodes) :
    ∃ next, episode.after.waits[task]? = some next ∧
      Fate task episodes episode entry next :=
  ⟨entry, waits.trans found, .beside entry (.refl entry) steady handoff same⟩

theorem Fate.of_agenda {agenda : Agenda}
    (found : episode.before.waits[task]? = some entry)
    (after : episode.after = { episode.before with agenda })
    (steady : Steady task episode.before { episode.before with agenda })
    (same : story task (episodes ++ [episode]) = story task episodes) :
    ∃ next, episode.after.waits[task]? = some next ∧
      Fate task episodes episode entry next := by
  apply Fate.of_spared found
  · rw [after]
  · rw [after]
    exact steady
  · rw [after]
  · exact same

theorem Fate.of_still
    (found : episode.before.waits[task]? = some entry)
    (after : episode.after = episode.before)
    (same : story task (episodes ++ [episode]) = story task episodes) :
    ∃ next, episode.after.waits[task]? = some next ∧
      Fate task episodes episode entry next := by
  apply Fate.of_spared found
  · rw [after]
  · rw [after]
    exact ⟨rfl, id⟩
  · rw [after]
  · exact same

theorem check?_of_other (floor : session.agenda.floor ≠ some task) :
    Episode.check? task ⟨session, .work⟩ = none := by
  simp [Episode.check?, floor]

theorem check?_of_floor (works : episode.occurrence = .work)
    (floor : episode.before.agenda.floor = some task)
    (found : episode.before.waits[task]? = some entry) :
    episode.check? task = episode.before.answer? entry := by
  simp [Episode.check?, works, floor, found]

theorem story_of_floor (episodes : List Episode)
    (works : episode.occurrence = .work)
    (floor : episode.before.agenda.floor = some task)
    (found : episode.before.waits[task]? = some entry) :
    story task (episodes ++ [episode]) =
      (story task episodes).hear (episode.before.answer? entry) := by
  have matched : firstMatch? task (episodes ++ [episode]) =
      firstMatch? task episodes := by
    apply firstMatch?_append_quiet
    · simp [Episode.wish?, works]
    · simp [Episode.offer?, works]
  rw [story_append, check?_of_floor works floor found, matched]
  simp [story, Story.hear, Episode.start?, Episode.interrupt?, Episode.lifts,
    works]

/-- A small step is the turn of a wait or leaves it alone. -/
theorem fate_work (kept : Kept episodes session)
    (found : session.waits[task]? = some entry) :
    ∃ next, (Episode.after ⟨session, .work⟩).waits[task]? = some next ∧
      Fate task episodes ⟨session, .work⟩ entry next := by
  have matched : firstMatch? task
      (episodes ++ [⟨session, .work⟩]) =
        firstMatch? task episodes :=
    firstMatch?_append_quiet rfl rfl
  have same : session.agenda.floor ≠ some task →
      story task (episodes ++ [⟨session, .work⟩]) = story task episodes :=
    fun other => story_append_quiet rfl rfl rfl (check?_of_other other) matched
  rcases work_cases session with
    ⟨worker, floor, after⟩ | ⟨first, rest, floor, ready, after⟩ |
      ⟨settled, after⟩
  · by_cases own : worker = task
    · subst own
      have turn : Turn worker entry session
          (Episode.after ⟨session, .work⟩) := by
        rw [Episode.after, after]
        exact kept.turn found
      obtain ⟨next, there⟩ := turn.found found
      exact ⟨next, there, .works next rfl floor turn
        (story_of_floor episodes rfl floor found)⟩
    · have other : session.agenda.floor ≠ some task := by
        simpa [floor] using own
      cases here : session.waits[worker]? with
      | some working =>
          have turn : Turn worker working session
              (Episode.after ⟨session, .work⟩) := by
            rw [Episode.after, after]
            exact kept.turn here
          apply Fate.of_spared found
          · exact turn.waits_of_ne (Ne.symm own)
          · constructor
            · exact turn.now_eq
            · rintro (holds | waits)
              · exact absurd holds other
              · right
                rw [turn.ready_eq]
                exact waits
          · exact turn.handoff_of_ne (Ne.symm own)
          · exact same other
      | none =>
          have rests : Episode.after ⟨session, .work⟩ =
              session.yieldFloor := by
            rw [Episode.after, after]
            simp [work, here]
          apply Fate.of_agenda found rests
          · constructor
            · rfl
            · rintro (holds | waits)
              · exact absurd holds other
              · exact .inr waits
          · exact same other
  · have other : session.agenda.floor ≠ some task := by simp [floor]
    have given : Episode.after ⟨session, .work⟩ =
        session.giveFloor first rest := after
    apply Fate.of_agenda found given
    · constructor
      · rfl
      · rintro (holds | waits)
        · exact absurd holds other
        · rw [ready] at waits
          rcases List.mem_cons.mp waits with rfl | later
          · exact .inl rfl
          · exact .inr later
    · exact same other
  · have other : session.agenda.floor ≠ some task := by simp [settled.1]
    have still : Episode.after ⟨session, .work⟩ = session := after
    apply Fate.of_still found still
    · exact same other

theorem fate_startWait (found : session.waits[task]? = some entry)
    (name : String) (timeout : Option Nat) (watch : Option Watch) :
    ∃ next, (Episode.after
        ⟨session, .startWait name timeout watch⟩).waits[task]? = some next ∧
      Fate task episodes ⟨session, .startWait name timeout watch⟩ entry
        next := by
  have matched : firstMatch? task
      (episodes ++ [⟨session, .startWait name timeout watch⟩]) =
        firstMatch? task episodes :=
    firstMatch?_append_quiet rfl rfl
  have same : ¬ (session.locate? name = some task ∧
      (session.waits[task]?).map SessionWait.stage = some .subscribed) →
        story task (episodes ++
          [⟨session, .startWait name timeout watch⟩]) =
            story task episodes :=
    fun other => story_append_quiet (if_neg other) rfl rfl rfl matched
  cases located : session.locate? name with
  | none =>
      apply Fate.of_still found
      · simp [Episode.after, happen, startWait, located]
      · apply same
        simp [located]
  | some starter =>
      by_cases stage :
          (session.waits[starter]?).map SessionWait.stage = some .subscribed
      · have started : Episode.after ⟨session, .startWait name timeout watch⟩ =
              (session.modifyWait starter fun entry =>
                { entry with stage := .fresh timeout, watch }).wake
                  starter := by
          simp [Episode.after, happen, startWait, located, stage]
        by_cases own : starter = task
        · subst own
          refine ⟨_, ?_, .starts timeout watch ?_ ?_ ?_ ?_ ?_ ?_⟩
          · rw [started]
            exact getElem?_modify_self found
          · simp
          · simpa [found] using stage
          · rw [started]
            exact .of_extends starter (Woken.wake starter _).extends
          · rw [started]
            exact attends_wake starter _
          · rw [started]
            rfl
          · have starts : Episode.start? starter
                ⟨session, .startWait name timeout watch⟩ =
                  some ⟨session.agenda.now, timeout, watch⟩ :=
              if_pos ⟨located, stage⟩
            rw [story_append, starts, matched]
            simp [story, Episode.interrupt?, Episode.lifts, Episode.check?,
              Episode.moment]
        · apply Fate.of_spared found
          · rw [started]
            exact getElem?_modify_of_ne (Ne.symm own)
          · rw [started]
            exact .of_extends task (Woken.wake starter _).extends
          · rw [started]
            rfl
          · apply same
            simp [located, own]
      · apply Fate.of_still found
        · simp only [Episode.after, happen, startWait, located]
        · apply same
          rintro ⟨here, subscribed⟩
          rw [located] at here
          cases here
          exact stage subscribed

theorem fate_dispatch (kept : Kept episodes session)
    (found : session.waits[task]? = some entry) (event : Event) :
    ∃ next, (Episode.after ⟨session, .dispatch event⟩).waits[task]? =
        some next ∧
      Fate task episodes ⟨session, .dispatch event⟩ entry next := by
  obtain ⟨agenda, longer, after⟩ := Woken.dispatch event session
  have waits : (Episode.after ⟨session, .dispatch event⟩).waits =
      session.waits := by
    rw [Episode.after, happen, after]
  by_cases opened : entry.stage = .ended
  · exact ⟨entry, waits ▸ found, .finished entry opened opened⟩
  have stands : session.Stands task := ⟨entry, found, opened⟩
  have matched := kept.firstMatch?_dispatched event stands
  have handoff := Waiter.handoff_dispatch (kept.wanting event.kind) task
  have steady : Steady task session
      (Episode.after ⟨session, .dispatch event⟩) :=
    Steady.of_extends task (Woken.dispatch event session).extends
  have same : (Episode.after ⟨session, .dispatch event⟩).waiter.handoff
      task = (session.waiter.dispatch event).2.handoff task := by
    rw [Episode.after, happen, after]
  by_cases member : task ∈ session.waiter.takers event
  · rw [if_pos member] at matched handoff
    refine ⟨entry, waits ▸ found, .matched event ?_ steady ?_ ?_ ?_ ?_⟩
    · simp
    · intro active
      have woken : task ∈ (session.waiter.dispatch event).1 := by
        rw [Waiter.dispatch_eq (kept.wanting event.kind)]
        exact member
      exact @attends_wakeWatchers task
        { session with waiter := (session.waiter.dispatch event).2 } entry _
        woken kept.ordered found active
    · exact same.trans handoff
    · exact (kept.mem_takers.mp member).2.1
    · rw [story_append, matched]
      simp [story, Episode.start?, Episode.interrupt?, Episode.lifts,
        Episode.check?, Episode.moment]
  · rw [if_neg member] at matched handoff
    apply Fate.of_spared found
    · rw [waits]
    · exact steady
    · exact same.trans handoff
    · exact story_append_quiet rfl rfl rfl rfl matched

theorem fate_lift (kept : Kept episodes session)
    (found : session.waits[task]? = some entry) (name : String) :
    ∃ next, (Episode.after ⟨session, .lift name⟩).waits[task]? =
        some next ∧ Fate task episodes ⟨session, .lift name⟩ entry next := by
  have matched : firstMatch? task
      (episodes ++ [⟨session, .lift name⟩]) =
        firstMatch? task episodes :=
    firstMatch?_append_quiet rfl rfl
  have same : session.locate? name ≠ some task →
      story task (episodes ++ [⟨session, .lift name⟩]) =
        story task episodes :=
    fun other => story_append_quiet rfl rfl (decide_eq_false other) rfl matched
  cases located : (session.locate? name).bind (session.waits[·]?) with
  | none =>
      apply Fate.of_still found
      · simp [Episode.after, happen, lift, located]
      · apply same
        intro here
        rw [here, Option.bind_some, found] at located
        cases located
  | some lifted =>
      obtain ⟨owner, here, there⟩ := Option.bind_eq_some_iff.mp located
      have own := kept.ordered owner lifted there
      have after : Episode.after ⟨session, .lift name⟩ =
          { session with waiter := session.waiter.lift owner }.wakeWatcher
            owner := by
        simp [Episode.after, happen, lift, located, own]
      obtain ⟨agenda, longer, woken⟩ := Woken.wakeWatcher owner
        { session with waiter := session.waiter.lift owner }
      by_cases mine : owner = task
      · subst mine
        refine ⟨entry, ?_, .lifted ?_ ?_ ?_ ?_ ?_⟩
        · rw [after, woken]
          exact found
        · simp
        · rw [after, woken]
          exact .of_extends owner longer
        · intro active
          rw [after]
          exact attends_wakeWatcher kept.ordered found active
        · rw [after, woken]
          rw [Waiter.lift, Waiter.handoff_setHandoff, if_pos]
          refine ⟨rfl, ?_⟩
          rw [kept.handoffs]
          exact (List.getElem?_eq_some_iff.mp found).1
        · have lifts : Episode.lifts owner ⟨session, .lift name⟩ = true :=
            decide_eq_true here
          rw [story_append, lifts, matched]
          simp [story, Episode.start?, Episode.interrupt?, Episode.check?]
      · apply Fate.of_spared found
        · rw [after, woken]
        · rw [after, woken]
          exact .of_extends task longer
        · rw [after, woken]
          exact Waiter.handoff_setHandoff_of_ne mine
        · apply same
          rw [here]
          simpa using mine

theorem fate_interrupt (kept : Kept episodes session)
    (found : session.waits[task]? = some entry) (name : String) :
    ∃ next, (Episode.after ⟨session, .interrupt name⟩).waits[task]? =
        some next ∧
      Fate task episodes ⟨session, .interrupt name⟩ entry next := by
  have matched : firstMatch? task
      (episodes ++ [⟨session, .interrupt name⟩]) =
        firstMatch? task episodes :=
    firstMatch?_append_quiet rfl rfl
  have same : ¬ (session.locate? name = some task ∧
      (session.waits[task]?).map SessionWait.disarmed = some false) →
        story task (episodes ++ [⟨session, .interrupt name⟩]) =
          story task episodes :=
    fun other => story_append_quiet rfl (if_neg other) rfl rfl matched
  cases located : session.locate? name with
  | none =>
      apply Fate.of_still found
      · simp [Episode.after, happen, interrupt, located]
      · apply same
        simp [located]
  | some owner =>
      cases here : session.waits[owner]? with
      | none =>
          apply Fate.of_still found
          · simp [Episode.after, happen, interrupt, located, here]
          · apply same
            rintro ⟨mine, _⟩
            rw [located] at mine
            cases mine
            rw [found] at here
            cases here
      | some struck =>
          cases armed : struck.disarmed with
          | true =>
              apply Fate.of_still found
              · simp [Episode.after, happen, interrupt, located, here, armed]
              · apply same
                rintro ⟨mine, live⟩
                rw [located] at mine
                cases mine
                simp [here, armed] at live
          | false =>
              have own := kept.ordered owner struck here
              have after : Episode.after ⟨session, .interrupt name⟩ =
                  (session.modifyWait owner fun entry =>
                    { entry with interrupted := true }).wakeWatcher
                      owner := by
                simp [Episode.after, happen, interrupt, located, here,
                  armed, own]
              obtain ⟨agenda, longer, woken⟩ := Woken.wakeWatcher owner
                (session.modifyWait owner fun entry =>
                  { entry with interrupted := true })
              by_cases mine : owner = task
              · subst mine
                refine ⟨_, ?_, .interrupted ?_ ?_ ?_ ?_ ?_⟩
                · rw [after, woken]
                  exact getElem?_modify_self found
                · simp
                · rw [after, woken]
                  exact .of_extends owner longer
                · intro active
                  rw [after]
                  apply attends_wakeWatcher
                  · exact kept.ordered.modifyWait fun _ => rfl
                  · exact getElem?_modify_self found
                  · exact active
                · rw [after, woken]
                  rfl
                · have fires : Episode.interrupt? owner
                      ⟨session, .interrupt name⟩ =
                        some session.agenda.now := by
                    apply if_pos
                    exact ⟨located, by simp [here, armed]⟩
                  rw [story_append, fires, matched]
                  simp [story, Episode.start?, Episode.lifts,
                    Episode.check?, Episode.moment]
              · apply Fate.of_spared found
                · rw [after, woken]
                  exact getElem?_modify_of_ne (Ne.symm mine)
                · rw [after, woken]
                  exact .of_extends task longer
                · rw [after, woken]
                  rfl
                · apply same
                  simp [located, mine]

theorem drop_cases {name : String} {owner : TaskId} {given : SessionWait}
    (located : session.locate? name = some owner)
    (here : session.waits[owner]? = some given) :
    (given.stage = .subscribed ∧ session.drop name =
        { session.setStage owner .ended with
          waiter := session.waiter.unsubscribe given.subscription }) ∨
      (given.stage = .ended ∧ session.drop name = session) ∨
      (given.stage ≠ .subscribed ∧ session.drop name =
        (session.modifyWait owner fun entry =>
          { entry with dropped := true }).wake owner) := by
  cases stage : given.stage <;> simp [drop, located, here, stage]

theorem fate_drop (found : session.waits[task]? = some entry)
    (name : String) :
    ∃ next, (Episode.after ⟨session, .drop name⟩).waits[task]? =
        some next ∧ Fate task episodes ⟨session, .drop name⟩ entry next := by
  have matched : firstMatch? task
      (episodes ++ [⟨session, .drop name⟩]) =
        firstMatch? task episodes :=
    firstMatch?_append_quiet rfl rfl
  have same : story task (episodes ++ [⟨session, .drop name⟩]) =
      story task episodes := story_append_quiet rfl rfl rfl rfl matched
  have dropped : Episode.after ⟨session, .drop name⟩ =
      session.drop name := rfl
  cases located : session.locate? name with
  | none =>
      apply Fate.of_still found _ same
      simp [Episode.after, happen, drop, located]
  | some owner =>
      cases here : session.waits[owner]? with
      | none =>
          apply Fate.of_still found _ same
          simp [Episode.after, happen, drop, located, here]
      | some given =>
          rcases drop_cases located here with
            ⟨subscribed, after⟩ | ⟨ended, after⟩ | ⟨started, after⟩
          · by_cases mine : owner = task
            · subst mine
              obtain rfl := Option.some.inj (here.symm.trans found)
              refine ⟨_, ?_, .withdrawn ⟨name, rfl, located⟩ subscribed same⟩
              rw [dropped, after]
              exact getElem?_modify_self found
            · apply Fate.of_spared found _ _ _ same
              · rw [dropped, after]
                exact getElem?_modify_of_ne (Ne.symm mine)
              · rw [dropped, after]
                exact .of_agenda task rfl
              · rw [dropped, after]
                rfl
          · exact Fate.of_still found (dropped.trans after) same
          · by_cases mine : owner = task
            · subst mine
              obtain rfl := Option.some.inj (here.symm.trans found)
              refine ⟨_, ?_, .dropped ⟨name, rfl, located⟩ started ?_ ?_ ?_
                same⟩
              · rw [dropped, after]
                exact getElem?_modify_self found
              · rw [dropped, after]
                exact .of_extends owner (Woken.wake owner _).extends
              · rw [dropped, after]
                exact attends_wake owner _
              · rw [dropped, after]
                rfl
            · apply Fate.of_spared found _ _ _ same
              · rw [dropped, after]
                exact getElem?_modify_of_ne (Ne.symm mine)
              · rw [dropped, after]
                exact .of_extends task (Woken.wake owner _).extends
              · rw [dropped, after]
                rfl

theorem fate_marked {occurrence : Occurrence} {owner : TaskId}
    {change : SessionWait → SessionWait}
    (found : session.waits[task]? = some entry)
    (after : session.happen occurrence = session.modifyWait owner change)
    (alike : ∀ entry : SessionWait, entry.Alike (change entry))
    (same : story task (episodes ++ [⟨session, occurrence⟩]) =
      story task episodes) :
    ∃ next, (Episode.after ⟨session, occurrence⟩).waits[task]? = some next ∧
      Fate task episodes ⟨session, occurrence⟩ entry next := by
  have marked : Episode.after ⟨session, occurrence⟩ =
      session.modifyWait owner change := after
  by_cases mine : owner = task
  · subst mine
    refine ⟨_, ?_, .beside (change entry) (alike entry) ?_ ?_ same⟩
    · rw [marked]
      exact getElem?_modify_self found
    · rw [marked]
      exact .of_agenda owner rfl
    · rw [marked]
      rfl
  · apply Fate.of_spared found _ _ _ same
    · rw [marked]
      exact getElem?_modify_of_ne (Ne.symm mine)
    · rw [marked]
      exact .of_agenda task rfl
    · rw [marked]
      rfl

/-- Whatever happens, a wait meets with one of the fates above. -/
theorem Kept.fate (kept : Kept episodes episode.before)
    (found : episode.before.waits[task]? = some entry) :
    ∃ next, episode.after.waits[task]? = some next ∧
      Fate task episodes episode entry next := by
  obtain ⟨session, occurrence⟩ := episode
  cases occurrence with
  | work => exact fate_work kept found
  | pass span =>
      refine ⟨entry, found, .passes span rfl ?_⟩
      apply story_append_quiet <;> try rfl
      exact firstMatch?_append_quiet rfl rfl
  | subscribe name kind predicate =>
      apply Fate.of_spared found
      · apply List.getElem?_append_left
        exact (List.getElem?_eq_some_iff.mp found).1
      · exact .of_agenda task rfl
      · exact Waiter.handoff_subscribe kind predicate task session.waiter
      · apply story_append_quiet <;> try rfl
        exact kept.firstMatch?_subscribe name kind predicate task
  | startWait name timeout watch =>
      exact fate_startWait found name timeout watch
  | dispatch event => exact fate_dispatch kept found event
  | lift name => exact fate_lift kept found name
  | interrupt name => exact fate_interrupt kept found name
  | disarm name =>
      have same : story task (episodes ++ [⟨session, .disarm name⟩]) =
          story task episodes := by
        apply story_append_quiet <;> try rfl
        exact firstMatch?_append_quiet rfl rfl
      cases located : session.locate? name with
      | none =>
          apply Fate.of_still found _ same
          simp [Episode.after, Session.happen, disarm, located]
      | some owner =>
          have after : session.happen (.disarm name) =
              session.modifyWait owner fun entry =>
                { entry with disarmed := true } := by
            simp [Session.happen, disarm, located]
          exact fate_marked found after (fun _ => ⟨rfl, rfl, rfl, rfl⟩) same
  | drop name => exact fate_drop found name
  | setFlag flag alive =>
      apply Fate.of_spared found rfl (.of_agenda task rfl) rfl
      apply story_append_quiet <;> try rfl
      exact firstMatch?_append_quiet rfl rfl
  | pace owner delay =>
      have after : session.happen (.pace owner delay) =
          session.pace owner delay := rfl
      apply fate_marked found after
      · intro other
        refine ⟨rfl, rfl, rfl, ?_⟩
        cases watched : other.watch <;> simp [SessionWait.liveness, watched]
      · apply story_append_quiet <;> try rfl
        exact firstMatch?_append_quiet rfl rfl

theorem Turn.goes_on {before after : Session} {next : SessionWait}
    (turn : Turn task entry before after)
    (found : before.waits[task]? = some entry)
    (there : after.waits[task]? = some next) :
    next.stage = .ended ∨ (next.interrupted = entry.interrupted ∧
      after.waiter.handoff task = before.waiter.handoff task) := by
  cases turn with
  | rests | waits =>
      obtain rfl := Option.some.inj (found.symm.trans there)
      exact .inr ⟨rfl, rfl⟩
  | discards | ends =>
      obtain rfl := eq_change_of_modify found there
      exact .inl rfl
  | begins | probes | resumes =>
      obtain rfl := eq_change_of_modify found there
      exact .inr ⟨rfl, rfl⟩

theorem Turn.ended {before after : Session} {next : SessionWait}
    (turn : Turn task entry before after)
    (found : before.waits[task]? = some entry)
    (there : after.waits[task]? = some next)
    (ended : entry.stage = .ended) : next.stage = .ended := by
  cases turn with
  | rests =>
      obtain rfl := Option.some.inj (found.symm.trans there)
      exact ended
  | discards _ other => exact absurd ended other
  | begins _ stage | ends _ _ _ _ stage | probes _ _ stage
  | resumes _ _ _ stage | waits _ stage =>
      rw [stage] at ended
      cases ended

theorem Fate.ended {next : SessionWait}
    (fate : Fate task episodes episode entry next)
    (found : episode.before.waits[task]? = some entry)
    (there : episode.after.waits[task]? = some next)
    (ended : entry.stage = .ended) : next.stage = .ended := by
  cases fate with
  | beside _ alike => exact alike.stage.trans ended
  | passes | matched | lifted | interrupted | dropped => exact ended
  | starts _ _ _ stage =>
      rw [stage] at ended
      cases ended
  | withdrawn => rfl
  | finished _ _ ended => exact ended
  | works _ _ _ turn => exact turn.ended found there ended

theorem Turn.finished_cases {next : SessionWait}
    (turn : Turn task entry episode.before episode.after)
    (works : episode.occurrence = .work)
    (floor : episode.before.agenda.floor = some task)
    (found : episode.before.waits[task]? = some entry)
    (there : episode.after.waits[task]? = some next)
    (finished : next.Over) :
    entry.Over ∨ ∃ result, episode.Ends task result := by
  generalize reached : episode.after = after at turn there
  cases turn with
  | rests | waits =>
      obtain rfl := Option.some.inj (found.symm.trans there)
      exact .inl finished
  | discards _ _ given => exact .inl (.inr given)
  | begins _ _ kept | probes _ _ _ kept | resumes _ _ _ _ kept =>
      obtain rfl := eq_change_of_modify found there
      simp [SessionWait.Over, kept] at finished
  | ends wait result =>
      refine .inr ⟨result, works, floor, entry, found, ?_⟩
      rw [reached]
      rfl

theorem Fate.finished_cases {next : SessionWait}
    (fate : Fate task episodes episode entry next)
    (found : episode.before.waits[task]? = some entry)
    (there : episode.after.waits[task]? = some next)
    (finished : next.Over) :
    entry.Over ∨ episode.Drops task ∨
      ∃ result, episode.Ends task result := by
  cases fate with
  | beside _ alike =>
      rw [SessionWait.Over, alike.stage, alike.dropped] at finished
      exact .inl finished
  | passes | matched | lifted | interrupted => exact .inl finished
  | starts =>
      rcases finished with ended | given
      · cases ended
      · exact .inl (.inr given)
  | dropped drops | withdrawn drops => exact .inr (.inl drops)
  | finished _ ended => exact .inl (.inl ended)
  | works _ works floor turn =>
      exact (turn.finished_cases works floor found there finished).imp id .inr

end Outside

section Newcomers

variable {task : TaskId} {episodes : List Episode} {episode : Episode}
  {session : Session} {next : SessionWait}

theorem Kept.newcomer (kept : Kept episodes episode.before)
    (absent : episode.before.waits[task]? = none)
    (there : episode.after.waits[task]? = some next) :
    (∃ name kind predicate,
        episode.occurrence = .subscribe name kind predicate) ∧
      ∃ name, next = { name, subscription := task } := by
  obtain ⟨session, occurrence⟩ := episode
  have beyond := List.getElem?_eq_none_iff.mp absent
  have below := (List.getElem?_eq_some_iff.mp there).1
  have known := (kept.happen occurrence).asked
  have same := kept.asked
  cases occurrence with
  | subscribe name kind predicate =>
      refine ⟨⟨name, kind, predicate, rfl⟩, name, ?_⟩
      have waits : (Episode.after
          ⟨session, .subscribe name kind predicate⟩).waits =
            session.waits ++
              [{ name, subscription := session.waits.length }] := by
        rw [← kept.handoffs]
        rfl
      rw [waits] at below there
      rw [List.length_append, List.length_singleton] at below
      have last : task = session.waits.length :=
        Nat.le_antisymm (Nat.lt_succ_iff.mp below) beyond
      subst last
      rw [List.getElem?_concat_length] at there
      exact (Option.some.inj there).symm
  | _ =>
      rw [wishes_append_silent rfl] at known
      dsimp only [Episode.after] at same beyond below known
      omega

theorem locate?_known {name : String}
    (located : session.locate? name = some task) :
    task < session.waits.length := by
  obtain ⟨⟨entry, id⟩, last, rfl⟩ := Option.map_eq_some_iff.mp located
  have member := List.mem_of_mem_filter (List.mem_of_getLast? last)
  exact (List.mem_zipIdx' member).1

/-- Nothing is told of a wait that does not exist yet. -/
theorem Run.story_unknown (run : Run {} episodes session)
    (unknown : session.waits.length ≤ task) :
    story task episodes = ⟨none, none, none, false, []⟩ := by
  induction run with
  | start => rfl
  | @next earlier session occurrence run induction =>
      have kept := Run.kept run
      have before : session.waits.length ≤ task := by
        have former := kept.asked
        have later := (kept.happen occurrence).asked
        rw [wishes] at former
        rw [wishes, List.filterMap_append, List.length_append] at later
        omega
      have absent := List.getElem?_eq_none before
      have nowhere : ∀ name, session.locate? name ≠ some task :=
        fun name located => absurd (locate?_known located)
          (Nat.not_lt.mpr before)
      have unmatched := firstMatch?_of_no_offers
        ((kept.happen occurrence).unheard task unknown)
      have same := induction before
      have prior : firstMatch? task earlier = none :=
        congrArg Story.match? same
      rw [← same]
      apply story_append_quiet
      · cases occurrence <;> simp [Episode.start?, nowhere]
      · cases occurrence <;> simp [Episode.interrupt?, nowhere]
      · cases occurrence <;> simp [Episode.lifts, nowhere]
      · cases occurrence <;> simp [Episode.check?, absent]
      · rw [unmatched, prior]

section Tracking

variable {motive : List Episode → Session → SessionWait → Prop}
  {entry : SessionWait}

/-- What holds of a wait when it is subscribed and is kept by all its fates
holds of it in every run. -/
theorem Run.tracks (run : Run {} episodes session)
    (found : session.waits[task]? = some entry)
    (subscribed : ∀ (earlier : List Episode) (before : Session)
      (name own : String) (kind : EventKind) (predicate : Event → Bool),
      Run {} earlier before → before.waits[task]? = none →
        motive (earlier ++ [⟨before, .subscribe name kind predicate⟩])
          (before.happen (.subscribe name kind predicate))
          { name := own, subscription := task })
    (keeps : ∀ (earlier : List Episode) (episode : Episode)
      (entry next : SessionWait), Run {} earlier episode.before →
        episode.before.waits[task]? = some entry →
        episode.after.waits[task]? = some next →
        Fate task earlier episode entry next →
        motive earlier episode.before entry →
        motive (earlier ++ [episode]) episode.after next) :
    motive episodes session entry := by
  induction run generalizing entry with
  | start => cases found
  | @next earlier session occurrence run induction =>
      have kept : Kept earlier (Happening.mk session occurrence).before :=
        Run.kept run
      cases here : session.waits[task]? with
      | none =>
          obtain ⟨⟨name, kind, predicate, subscribes⟩, own, rfl⟩ :=
            kept.newcomer here found
          dsimp only at subscribes
          subst subscribes
          exact subscribed earlier session name own kind predicate run here
      | some former =>
          obtain ⟨next, there, fate⟩ := kept.fate here
          obtain rfl := Option.some.inj (there.symm.trans found)
          exact keeps earlier ⟨session, occurrence⟩ former next run here there
            fate (induction here)

/-- What is kept by all fates of a wait holds of it from some state on. -/
theorem Run.follows {past middle : List Episode} {start : Session}
    (prior : Run {} past start) (run : Run start middle session)
    (found : start.waits[task]? = some entry) (begins : motive [] start entry)
    (keeps : ∀ (middle : List Episode) (episode : Episode)
      (entry next : SessionWait), Run {} (past ++ middle) episode.before →
        episode.before.waits[task]? = some entry →
        episode.after.waits[task]? = some next →
        Fate task (past ++ middle) episode entry next →
        motive middle episode.before entry →
        motive (middle ++ [episode]) episode.after next) :
    ∃ current, session.waits[task]? = some current ∧
      motive middle session current := by
  induction run with
  | start => exact ⟨entry, found, begins⟩
  | @next middle session occurrence run induction =>
      obtain ⟨former, here, holds⟩ := induction
      have whole := prior.trans run
      have kept : Kept (past ++ middle)
          (Happening.mk session occurrence).before := Run.kept whole
      obtain ⟨next, there, fate⟩ := kept.fate here
      exact ⟨next, there, keeps middle ⟨session, occurrence⟩ former next whole
        here there fate holds⟩

end Tracking

/-- A wait that is finished has been dropped or has recorded its end. -/
theorem Run.finished_cases {entry : SessionWait}
    (run : Run {} episodes session)
    (found : session.waits[task]? = some entry)
    (finished : entry.Over) :
    Dropped task episodes ∨
      ∃ ending ∈ episodes, ∃ result, ending.Ends task result := by
  refine run.tracks (motive := fun episodes _ entry => entry.Over →
    Dropped task episodes ∨
      ∃ ending ∈ episodes, ∃ result, ending.Ends task result)
    found ?_ ?_ finished
  · intro _ _ _ _ _ _ _ _ finished
    simp [SessionWait.Over] at finished
  · intro earlier episode entry next _ here there fate holds finished
    rcases fate.finished_cases here there finished with before | drops | ends
    · rcases holds before with dropped | ⟨ending, member, ends⟩
      · exact .inl (dropped.later _)
      · exact .inr ⟨ending, List.mem_append_left _ member, ends⟩
    · exact .inl (drops.dropped earlier)
    · refine .inr ⟨_, ?_, ends⟩
      exact List.mem_concat_self

end Newcomers

end Session

end Switchboard
