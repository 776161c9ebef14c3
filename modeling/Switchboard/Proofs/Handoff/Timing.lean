import Switchboard.Proofs.Handoff.Delivery

/-!
# When receivers end

A receiver ends when something has been put in, at that moment or when it is
started, whichever is later.  It ends without anything at its deadline if it is
run for the deadline before anything has been put in and before the deadline has
been lifted.
-/

namespace Switchboard.Receivers

variable {α : Type}

namespace Episode

/-- Time passes only when everyone waits, and not beyond an alarm. -/
def Prompt (episode : Episode α) : Prop :=
  match episode.occurrence with
  | .pass span => episode.before.Settled ∧
      ∀ alarm ∈ Machine.alarms episode.before,
        alarm.1.due ≤ episode.moment ∨ episode.moment + span ≤ alarm.1.due
  | _ => True

instance : (episode : Episode α) → Decidable episode.Prompt
  | ⟨_, .pass _⟩ => inferInstanceAs (Decidable (_ ∧ _))
  | ⟨_, .work⟩ | ⟨_, .send _⟩ | ⟨_, .throw _⟩ | ⟨_, .lift⟩
  | ⟨_, .tryReceive⟩ | ⟨_, .start ..⟩ | ⟨_, .drop _⟩ => .isTrue trivial

/-- A receiver is run for its deadline. -/
def RunsFor (task : TaskId) (due : Nat) (episode : Episode α) : Prop :=
  episode.occurrence = .work ∧ episode.before.agenda.floor = some task ∧
    due ≤ episode.moment

end Episode

def isTimeout : Except HandoffError α → Bool
  | .error .timeout => true
  | _ => false

/-- The end of a receiver: when, and whether without anything. -/
def Episode.endOf? (task : TaskId) (episode : Episode α) :
    Option (Nat × Bool) :=
  if episode.before.agenda.floor = some task then
    episode.reception?.map fun reception =>
      (reception.moment, isTimeout reception.outcome)
  else none

def endsOf (task : TaskId) (history : List (Episode α)) : List (Nat × Bool) :=
  history.filterMap (Episode.endOf? task)

/-- The moment at which something is put in first. -/
def resolvedAt? (history : List (Episode α)) : Option Nat :=
  history.findSome? fun episode =>
    episode.occurrence.offer?.map fun _ => episode.moment

/-- A receiver is run for its deadline, and nothing has been put in before nor
has the deadline been lifted. -/
def TimesOut (task : TaskId) (due : Nat) (history : List (Episode α)) : Prop :=
  ∃ earlier turn later, history = earlier ++ turn :: later ∧
    turn.RunsFor task due ∧ ∀ episode ∈ earlier,
      ¬episode.RunsFor task due ∧ episode.occurrence.offer? = none ∧
        episode.occurrence ≠ .lift

/-- How a receiver has to end that was started at a given moment. -/
inductive Verdict (task : TaskId) (begun : Nat) (timeout : Option Nat)
    (history : List (Episode α)) : List (Nat × Bool) → Prop where
  | timesOut {due : Nat} : dueFrom begun timeout = some due →
      TimesOut task due history →
      Verdict task begun timeout history [(due, true)]
  | receives {moment : Nat} :
      (∀ due ∈ dueFrom begun timeout, ¬TimesOut task due history) →
      resolvedAt? history = some moment →
      Verdict task begun timeout history [(max begun moment, false)]
  | waits :
      (∀ due ∈ dueFrom begun timeout, ¬TimesOut task due history) →
      resolvedAt? history = none → Verdict task begun timeout history []

section Readings

variable {history : List (Episode α)} {episode : Episode α} {task : TaskId}
  {begun due : Nat} {timeout : Option Nat} {state : Receivers α}
  {occurrence : Occurrence α}

theorem endsOf_concat (task : TaskId) (history : List (Episode α))
    (episode : Episode α) :
    endsOf task (history ++ [episode]) =
      endsOf task history ++ (episode.endOf? task).toList := by
  simp [endsOf, List.filterMap_eq_flatMap_toList]

theorem resolvedAt?_concat (history : List (Episode α))
    (episode : Episode α) :
    resolvedAt? (history ++ [episode]) =
      (resolvedAt? history).or
        (episode.occurrence.offer?.map fun _ => episode.moment) := by
  rw [resolvedAt?, List.findSome?_append, List.findSome?_singleton]
  rfl

theorem resolvedAt?_eq_none_iff :
    resolvedAt? history = none ↔
      ∀ episode ∈ history, episode.occurrence.offer? = none := by
  simp [resolvedAt?]

theorem offered_eq_none_iff :
    offered history = none ↔ resolvedAt? history = none := by
  rw [resolvedAt?_eq_none_iff, offered, List.head?_eq_none_iff,
    List.filterMap_eq_nil_iff]

theorem timesOut_concat :
    TimesOut task due (history ++ [episode]) ↔ TimesOut task due history ∨
      (episode.RunsFor task due ∧ ∀ episode ∈ history,
        ¬episode.RunsFor task due ∧ episode.occurrence.offer? = none ∧
          episode.occurrence ≠ .lift) := by
  constructor
  · rintro ⟨earlier, turn, later, whole, runs, before⟩
    rcases List.eq_nil_or_concat later with rfl | ⟨init, final, rfl⟩
    · obtain ⟨rfl, same⟩ := List.append_inj' whole rfl
      cases same
      exact .inr ⟨runs, before⟩
    · have parts : history ++ [episode] =
          (earlier ++ turn :: init) ++ [final] := by
        rw [whole]
        simp
      obtain ⟨rfl, _⟩ := List.append_inj' parts rfl
      exact .inl ⟨earlier, turn, init, rfl, runs, before⟩
  · rintro (⟨earlier, turn, later, rfl, runs, before⟩ | ⟨runs, before⟩)
    · exact ⟨earlier, turn, later ++ [episode], by simp, runs, before⟩
    · exact ⟨history, episode, [], rfl, runs, before⟩

theorem TimesOut.of_resolved {moment : Nat}
    (resolved : resolvedAt? history = some moment)
    (passed : TimesOut task due (history ++ [episode])) :
    TimesOut task due history := by
  rcases timesOut_concat.mp passed with before | ⟨_, nothing⟩
  · exact before
  · have unresolved := resolvedAt?_eq_none_iff.mpr
      fun episode member => (nothing episode member).2.1
    rw [resolved] at unresolved
    cases unresolved

theorem Verdict.persists {ending : Nat × Bool}
    (verdict : Verdict task begun timeout history [ending])
    (episode : Episode α) :
    Verdict task begun timeout (history ++ [episode]) [ending] := by
  cases verdict with
  | timesOut deadline passed =>
      exact .timesOut deadline (timesOut_concat.mpr (.inl passed))
  | receives spared resolved =>
      refine .receives (fun due deadline passed => ?_) ?_
      · exact spared due deadline (passed.of_resolved resolved)
      · rw [resolvedAt?_concat, resolved, Option.some_or]

theorem Run.moment_le {last : Receivers α} (run : Run {} history last) :
    ∀ episode ∈ history, episode.moment ≤ last.agenda.now := by
  induction run with
  | start => simp
  | next occurrence _ induction =>
      rw [now_happen]
      intro episode member
      rcases List.mem_append.mp member with before | now
      · exact Nat.le_add_right_of_le (induction episode before)
      · cases List.mem_singleton.mp now
        exact Nat.le_add_right _ _

theorem Run.slot_eq_empty_iff {last : Receivers α}
    (run : Run {} history last) :
    last.handoff.slot = .empty ↔ resolvedAt? history = none :=
  run.delivered.slot_eq_empty_iff.trans offered_eq_none_iff

theorem Run.lifted_iff {last : Receivers α} (run : Run {} history last) :
    last.handoff.lifted = true ↔
      ∃ episode ∈ history, episode.occurrence = .lift := by
  induction run with
  | start => simp
  | next occurrence _ induction =>
      rw [lifted_happen, induction]
      simp [or_and_right, exists_or]

end Readings

/-- A deadline has not passed, or the receiver is about to be run for it, or it
was run for it and went on waiting. -/
inductive Punctual (task : TaskId) (due : Nat) (history : List (Episode α))
    (state : Receivers α) : Prop where
  | ahead : state.agenda.now < due → Punctual task due history state
  | ringing : state.agenda.now = due → state.Attends task →
      (∀ episode ∈ history, ¬episode.RunsFor task due) →
      Punctual task due history state
  | lifted : state.handoff.lifted = true →
      (∃ episode ∈ history, episode.RunsFor task due) →
      ¬TimesOut task due history → Punctual task due history state

/-- A receiver has been started and has not ended. -/
structure Underway (task : TaskId) (begun : Nat) (timeout : Option Nat)
    (history : List (Episode α)) (state : Receivers α) : Prop where
  open_ : endsOf task history = []
  begun_le : begun ≤ state.agenda.now
  resolved : ∀ moment ∈ resolvedAt? history,
    state.agenda.now = max begun moment
  punctual : ∀ due ∈ dueFrom begun timeout, Punctual task due history state

/-- Where a receiver stands that was started at a given moment. -/
inductive Course (task : TaskId) (begun : Nat) (timeout : Option Nat)
    (history : List (Episode α)) (state : Receivers α) (receiver : Receiver) :
    Prop where
  | fresh : receiver.stage = .fresh timeout → state.agenda.now = begun →
      Underway task begun timeout history state →
      Course task begun timeout history state receiver
  | waiting (deadline : Option Alarm) : receiver.stage = .waiting deadline →
      deadline.map Alarm.due = dueFrom begun timeout →
      Underway task begun timeout history state →
      Course task begun timeout history state receiver
  | ended (ending : Nat × Bool) : receiver.stage = .ended →
      endsOf task history = [ending] →
      Verdict task begun timeout history [ending] →
      Course task begun timeout history state receiver

section Course

variable {history : List (Episode α)} {task : TaskId} {begun due : Nat}
  {timeout : Option Nat} {state : Receivers α} {occurrence : Occurrence α}
  {receiver next : Receiver} {deadline : Option Alarm} {name : String}

theorem Punctual.spared (run : Run {} history state)
    (punctual : Punctual task due history state) :
    ¬TimesOut task due history := by
  rintro ⟨earlier, turn, later, rfl, runs, before⟩
  have member : turn ∈ earlier ++ turn :: later := by simp
  cases punctual with
  | ahead early =>
      have past := run.moment_le turn member
      have passed := runs.2.2
      omega
  | ringing _ _ none_ => exact none_ turn member runs
  | lifted _ _ spared =>
      exact spared ⟨earlier, turn, later, rfl, runs, before⟩

theorem Punctual.of_lifted (lifted : state.handoff.lifted = true)
    (runs : ∃ episode ∈ history, episode.RunsFor task due)
    (spared : ¬TimesOut task due history)
    (notRun : ¬Episode.RunsFor task due ⟨state, occurrence⟩) :
    Punctual task due (history ++ [⟨state, occurrence⟩])
      (state.happen occurrence) := by
  obtain ⟨episode, member, ran⟩ := runs
  refine .lifted ((lifted_happen _ state).mpr (.inl lifted))
    ⟨episode, List.mem_append_left _ member, ran⟩ ?_
  rw [timesOut_concat]
  rintro (before | ⟨now, _⟩)
  · exact spared before
  · exact notRun now

/-- When everyone waits, nothing has been put in for which somebody waits. -/
theorem Run.unresolved (run : Run {} history state)
    (found : state.receivers[task]? = some receiver)
    (stage : receiver.stage = .waiting deadline) (settled : state.Settled) :
    resolvedAt? history = none := by
  by_contra resolved
  have filled := mt run.slot_eq_empty_iff.mp resolved
  exact (run.attentive.waiting task receiver deadline found stage
    filled).not_settled settled

theorem mem_alarms {alarm : Alarm}
    (found : state.receivers[task]? = some receiver)
    (stage : receiver.stage = .waiting (some alarm)) :
    (alarm, task) ∈ Machine.alarms state := by
  apply List.mem_filterMap.mpr
  refine ⟨(receiver, task), List.mk_mem_zipIdx_iff_getElem?.mpr found, ?_⟩
  simp [Receiver.alarm?, stage]

/-- Nothing but time has passed. -/
theorem Underway.pass (run : Run {} history state)
    (underway : Underway task begun timeout history state)
    (found : state.receivers[task]? = some receiver)
    (stage : receiver.stage = .waiting deadline)
    (same : deadline.map Alarm.due = dueFrom begun timeout) {span : Nat}
    (prompt : Episode.Prompt ⟨state, .pass span⟩) :
    Underway task begun timeout (history ++ [⟨state, .pass span⟩])
      (state.happen (.pass span)) := by
  obtain ⟨settled, unrung⟩ := prompt
  have now := now_happen (.pass span) state
  have unresolved := run.unresolved found stage settled
  constructor
  · rw [endsOf_concat, underway.open_]
    simp [Episode.endOf?, Episode.reception?]
  · rw [now]
    exact Nat.le_add_right_of_le underway.begun_le
  · intro moment resolved
    rw [resolvedAt?_concat, unresolved] at resolved
    cases resolved
  · intro due waits
    have notRun : ¬Episode.RunsFor task due ⟨state, .pass span⟩ := by
      rintro ⟨works, _⟩
      cases works
    cases underway.punctual due waits with
    | ahead early =>
        obtain ⟨alarm, rfl, rings⟩ :=
          Option.map_eq_some_iff.mp (same.trans waits)
        have set := mem_alarms found stage
        rcases unrung (alarm, task) set with rung | bound
        · rw [rings] at rung
          exact absurd early (Nat.not_lt.mpr rung)
        · rw [rings] at bound
          rcases Nat.lt_or_eq_of_le bound with before | reached
          · exact .ahead (now.symm ▸ before)
          · refine .ringing (now.trans reached) (.inr ?_) ?_
            · apply Agenda.mem_ready_wakeAll
              apply Machine.mem_dueTasks.mpr
              exact ⟨alarm, set, rings.trans reached.symm⟩
            · intro episode member runs
              rcases List.mem_append.mp member with earlier | last
              · have past := run.moment_le episode earlier
                have passed := runs.2.2
                omega
              · cases List.mem_singleton.mp last
                exact notRun runs
    | ringing _ attends _ => exact absurd settled attends.not_settled
    | lifted lifted runs spared => exact .of_lifted lifted runs spared notRun

/-- Something else has happened than a turn of the receiver. -/
theorem Underway.beside
    (underway : Underway task begun timeout history state)
    (instant : occurrence.span = 0)
    (elsewhere : occurrence = .work → state.agenda.floor ≠ some task)
    (attends : state.Attends task → (state.happen occurrence).Attends task) :
    Underway task begun timeout (history ++ [⟨state, occurrence⟩])
      (state.happen occurrence) := by
  have now : (state.happen occurrence).agenda.now = state.agenda.now := by
    rw [now_happen, instant, Nat.add_zero]
  have notRun : ∀ due, ¬Episode.RunsFor task due ⟨state, occurrence⟩ := by
    rintro due ⟨works, floor, _⟩
    exact elsewhere works floor
  constructor
  · rw [endsOf_concat, underway.open_]
    cases occurrence with
    | work => simp [Episode.endOf?, elsewhere]
    | _ => simp [Episode.endOf?, Episode.reception?]
  · rw [now]
    exact underway.begun_le
  · intro moment resolved
    rw [now]
    rw [resolvedAt?_concat] at resolved
    cases before : resolvedAt? history with
    | some former =>
        rw [before] at resolved
        cases resolved
        exact underway.resolved moment before
    | none =>
        rw [before, Option.none_or] at resolved
        obtain ⟨_, _, rfl⟩ := Option.map_eq_some_iff.mp resolved
        exact (Nat.max_eq_right underway.begun_le).symm
  · intro due waits
    cases underway.punctual due waits with
    | ahead early => exact .ahead (now.symm ▸ early)
    | ringing reached waiting none_ =>
        refine .ringing (now.trans reached) (attends waiting) ?_
        intro episode member runs
        rcases List.mem_append.mp member with earlier | last
        · exact none_ episode earlier runs
        · cases List.mem_singleton.mp last
          exact notRun due runs
    | lifted lifted runs spared =>
        exact .of_lifted lifted runs spared (notRun due)

theorem endsOf_work_of_same (floor : state.agenda.floor = some task)
    (same : (state.happen .work).ended = state.ended) :
    endsOf task (history ++ [⟨state, .work⟩]) = endsOf task history := by
  simp [endsOf_concat, Episode.endOf?, floor, reception?_of_same same]

theorem endsOf_work_of_added {outcome : Except HandoffError α}
    (floor : state.agenda.floor = some task)
    (added : (state.happen .work).ended =
      state.ended ++ [⟨state.agenda.now, name, outcome⟩]) :
    endsOf task (history ++ [⟨state, .work⟩]) =
      endsOf task history ++ [(state.agenda.now, isTimeout outcome)] := by
  simp [endsOf_concat, Episode.endOf?, floor, reception?_of_added added]

theorem Underway.blocks (run : Run {} history state)
    (underway : Underway task begun timeout history state)
    (floor : state.agenda.floor = some task)
    (same : deadline.map Alarm.due = dueFrom begun timeout)
    (empty : state.handoff.slot = .empty)
    (open_ : ¬state.Expired deadline)
    (ended : (state.happen .work).ended = state.ended) :
    Underway task begun timeout (history ++ [⟨state, .work⟩])
      (state.happen .work) := by
  have now := now_happen .work state
  constructor
  · rw [endsOf_work_of_same floor ended, underway.open_]
  · rw [now]
    exact underway.begun_le
  · intro moment resolved
    rw [resolvedAt?_concat, run.slot_eq_empty_iff.mp empty] at resolved
    cases resolved
  · intro due waits
    by_cases passed : due ≤ state.agenda.now
    · have lifted : state.handoff.lifted = true := by
        by_contra held
        rw [Bool.not_eq_true] at held
        exact open_ ⟨⟨due, by rw [same]; exact waits, passed⟩, held⟩
      refine .lifted ((lifted_happen _ state).mpr (.inl lifted))
        ⟨_, List.mem_append_right _ List.mem_cons_self, rfl, floor, passed⟩ ?_
      rw [timesOut_concat]
      rintro (before | ⟨_, nothing⟩)
      · exact (underway.punctual due waits).spared run before
      · obtain ⟨episode, member, lifts⟩ := run.lifted_iff.mp lifted
        exact (nothing episode member).2.2 lifts
    · exact .ahead (now.symm ▸ Nat.lt_of_not_le passed)

theorem Underway.timesOut (run : Run {} history state)
    (underway : Underway task begun timeout history state)
    (floor : state.agenda.floor = some task)
    (same : deadline.map Alarm.due = dueFrom begun timeout)
    (empty : state.handoff.slot = .empty) (expired : state.Expired deadline) :
    Verdict task begun timeout (history ++ [⟨state, .work⟩])
      [(state.agenda.now, true)] := by
  obtain ⟨⟨due, waits, passed⟩, held⟩ := expired
  rw [same] at waits
  have unlifted : ∀ episode ∈ history, episode.occurrence ≠ .lift := by
    intro episode member lifts
    have lifted := run.lifted_iff.mpr ⟨episode, member, lifts⟩
    rw [held] at lifted
    cases lifted
  have unresolved := resolvedAt?_eq_none_iff.mp
    (run.slot_eq_empty_iff.mp empty)
  cases underway.punctual due waits with
  | ahead early => exact absurd early (Nat.not_lt.mpr passed)
  | ringing reached _ none_ =>
      rw [reached]
      refine .timesOut waits (timesOut_concat.mpr (.inr ?_))
      exact ⟨⟨rfl, floor, passed⟩, fun episode member =>
        ⟨none_ episode member, unresolved episode member,
          unlifted episode member⟩⟩
  | lifted lifted =>
      rw [held] at lifted
      cases lifted

theorem Underway.receives (run : Run {} history state)
    (underway : Underway task begun timeout history state)
    (filled : state.handoff.slot ≠ .empty) :
    Verdict task begun timeout (history ++ [⟨state, .work⟩])
      [(state.agenda.now, false)] := by
  obtain ⟨moment, resolved⟩ := Option.ne_none_iff_exists'.mp
    (mt run.slot_eq_empty_iff.mpr filled)
  rw [underway.resolved moment resolved]
  refine .receives (fun due waits passed => ?_) ?_
  · exact (underway.punctual due waits).spared run
      (passed.of_resolved resolved)
  · rw [resolvedAt?_concat, resolved, Option.some_or]

/-- The receiver has its turn. -/
theorem Course.turn (run : Run {} history state)
    (course : Course task begun timeout history state receiver)
    (floor : state.agenda.floor = some task)
    (found : state.receivers[task]? = some receiver)
    (there : (state.happen .work).receivers[task]? = some next)
    (kept : next.dropped = false) :
    Course task begun timeout (history ++ [⟨state, .work⟩])
      (state.happen .work) next := by
  have turn := turn_work task state
  rw [← happen_work_of_floor floor] at turn
  have staged : ∀ stage : ReceiverStage,
      (state.happen .work).receivers =
        state.receivers.modify task ({ · with stage }) →
          next = { receiver with stage } := by
    intro stage same
    rw [same, List.getElem?_modify_eq, found] at there
    exact (Option.some.inj there).symm
  cases turn with
  | idles idle receivers _ ended =>
      rw [receivers] at there
      cases found.symm.trans there
      have stage := (idle receiver found).2
      cases course with
      | fresh fresh => simp [stage] at fresh
      | waiting _ waiting => simp [stage] at waiting
      | ended ending _ once verdict =>
          refine .ended ending stage ?_ (verdict.persists _)
          rw [endsOf_work_of_same floor ended, once]
  | leaves other same dropped receivers =>
      cases found.symm.trans same
      rw [staged _ receivers, dropped] at kept
      cases kept
  | looks other deadline same _ minds looks =>
      cases found.symm.trans same
      obtain ⟨waits, underway⟩ :
          deadline.map Alarm.due = dueFrom begun timeout ∧
            Underway task begun timeout history state := by
        cases course with
        | fresh stage now underway =>
            refine ⟨?_, underway⟩
            cases minds with
            | fresh fresh waits =>
                cases stage.symm.trans fresh
                rw [← now]
                exact waits
            | waiting waiting => cases stage.symm.trans waiting
        | waiting _ stage waits underway =>
            refine ⟨?_, underway⟩
            cases minds with
            | fresh fresh => cases stage.symm.trans fresh
            | waiting waiting =>
                cases stage.symm.trans waiting
                exact waits
        | ended _ stage =>
            cases minds with
            | fresh fresh => cases stage.symm.trans fresh
            | waiting waiting => cases stage.symm.trans waiting
      cases looks with
      | blocks empty open_ receivers _ ended =>
          exact .waiting deadline (by rw [staged _ receivers]) waits
            (underway.blocks run floor waits empty open_ ended)
      | timesOut empty expired receivers _ added =>
          refine .ended _ (by rw [staged _ receivers]) ?_
            (underway.timesOut run floor waits empty expired)
          rw [endsOf_work_of_added floor added, underway.open_]
          rfl
      | receives outcome held receivers _ added =>
          have filled : state.handoff.slot ≠ .empty := by
            intro empty
            rw [empty] at held
            cases held
          have notTimeout : isTimeout outcome = false := by
            cases slot : state.handoff.slot <;> rw [slot] at held <;>
              cases held <;> rfl
          refine .ended _ (by rw [staged _ receivers]) ?_
            (underway.receives run filled)
          rw [endsOf_work_of_added floor added, underway.open_, notTimeout]
          rfl

theorem Course.beside (run : Run {} history state)
    (course : Course task begun timeout history state receiver)
    (prompt : Episode.Prompt ⟨state, occurrence⟩)
    (elsewhere : occurrence = .work → state.agenda.floor ≠ some task)
    (found : state.receivers[task]? = some receiver)
    (stage : next.stage = receiver.stage) :
    Course task begun timeout (history ++ [⟨state, occurrence⟩])
      (state.happen occurrence) next := by
  have attends : state.Attends task →
      (state.happen occurrence).Attends task := by
    intro attends
    by_cases works : occurrence = .work
    · subst works
      exact attends.work (elsewhere rfl)
    · exact attends.of_outside (outside_happen _ works)
  cases course with
  | fresh fresh now underway =>
      have busy :=
        (run.attentive.fresh task receiver timeout found fresh).not_settled
      have instant : occurrence.span = 0 := by
        cases occurrence with
        | pass => exact absurd prompt.1 busy
        | _ => rfl
      refine .fresh (stage.trans fresh) ?_
        (underway.beside instant elsewhere attends)
      rw [now_happen, instant, now, Nat.add_zero]
  | waiting deadline waiting waits underway =>
      refine .waiting deadline (stage.trans waiting) waits ?_
      cases occurrence with
      | pass span => exact underway.pass run found waiting waits prompt
      | _ => exact underway.beside rfl elsewhere attends
  | ended ending ended once verdict =>
      refine .ended ending (stage.trans ended) ?_ (verdict.persists _)
      rw [endsOf_concat, once]
      cases occurrence with
      | work => simp [Episode.endOf?, elsewhere]
      | _ => simp [Episode.endOf?, Episode.reception?]

end Course

section Ends

variable {history past later : List (Episode α)} {task : TaskId}
  {begun : Nat} {timeout : Option Nat} {state before last : Receivers α}
  {receiver : Receiver} {name : String}

/-- Nobody ends who has not been started. -/
theorem Run.endsOf_eq_nil (run : Run {} history last)
    (absent : last.receivers[task]? = none) : endsOf task history = [] := by
  induction run with
  | start => rfl
  | @next earlier state occurrence prior induction =>
      have unknown : state.receivers[task]? = none := by
        by_contra known
        obtain ⟨receiver, found⟩ := Option.ne_none_iff_exists'.mp known
        obtain ⟨next, there, _⟩ := receiver_happen occurrence found
        rw [absent] at there
        cases there
      rw [endsOf_concat, induction unknown]
      by_cases turns : occurrence = .work ∧ state.agenda.floor = some task
      · obtain ⟨rfl, floor⟩ := turns
        have turn := turn_work task state
        rw [← happen_work_of_floor floor] at turn
        cases turn with
        | idles _ _ _ ended =>
            simp [Episode.endOf?, reception?_of_same ended]
        | leaves _ found =>
            rw [unknown] at found
            cases found
        | looks _ _ found =>
            rw [unknown] at found
            cases found
      · cases occurrence with
        | work => simp [Episode.endOf?, show state.agenda.floor ≠ some task by
            simpa using turns]
        | _ => simp [Episode.endOf?, Episode.reception?]

theorem Course.start (run : Run {} past before) (name : String)
    (timeout : Option Nat) :
    Course before.receivers.length before.agenda.now timeout
      (past ++ [⟨before, .start name timeout⟩])
      (before.happen (.start name timeout))
      { name, stage := .fresh timeout } := by
  have now : (before.happen (.start name timeout)).agenda.now =
      before.agenda.now := now_happen _ _
  refine .fresh rfl now ⟨?_, Nat.le_of_eq now.symm, ?_, ?_⟩
  · rw [endsOf_concat, run.endsOf_eq_nil (by simp)]
    simp [Episode.endOf?, Episode.reception?]
  · intro moment resolved
    have before : resolvedAt? past = some moment := by
      simpa [resolvedAt?_concat, Occurrence.offer?] using resolved
    obtain ⟨episode, member, offers⟩ :=
      List.exists_of_findSome?_eq_some before
    obtain ⟨_, _, rfl⟩ := Option.map_eq_some_iff.mp offers
    rw [now]
    exact (Nat.max_eq_left (run.moment_le episode member)).symm
  · intro due waits
    obtain ⟨span, given, rfl⟩ := Option.map_eq_some_iff.mp waits
    have positive := (Option.filter_eq_some_iff.mp given).2
    refine .ahead ?_
    rw [now]
    simp only [decide_eq_true_eq] at positive
    omega

theorem Run.course (run : Run {} past before)
    (goesOn : Run (before.start name timeout) later last)
    (prompt : ∀ episode ∈ later, episode.Prompt) :
    ∃ receiver, last.receivers[before.receivers.length]? = some receiver ∧
      (receiver.dropped = false →
        Course before.receivers.length before.agenda.now timeout
          (past ++ ⟨before, .start name timeout⟩ :: later) last receiver) := by
  induction goesOn with
  | start =>
      refine ⟨{ name, stage := .fresh timeout }, ?_, fun _ =>
        .start run name timeout⟩
      exact List.getElem?_concat_length
  | @next episodes state occurrence prior induction =>
      obtain ⟨receiver, found, course⟩ := induction fun episode member =>
        prompt episode (List.mem_append_left _ member)
      obtain ⟨next, there, kept, stage⟩ := receiver_happen occurrence found
      refine ⟨next, there, fun notDropped => ?_⟩
      have course := course (kept notDropped)
      have whole : Run {} (past ++ ⟨before, .start name timeout⟩ :: episodes)
          state := by
        have started := Run.next (.start name timeout) run
        simpa using started.trans prior
      have same : past ++ ⟨before, .start name timeout⟩ ::
          (episodes ++ [⟨state, occurrence⟩]) =
            (past ++ ⟨before, .start name timeout⟩ :: episodes) ++
              [⟨state, occurrence⟩] := by simp
      rw [same]
      by_cases turns : occurrence = .work ∧
          state.agenda.floor = some before.receivers.length
      · obtain ⟨rfl, floor⟩ := turns
        exact course.turn whole floor found there notDropped
      · have elsewhere : occurrence = .work →
            state.agenda.floor ≠ some before.receivers.length :=
          fun works floor => turns ⟨works, floor⟩
        have now := prompt ⟨state, occurrence⟩
          (List.mem_append_right _ List.mem_cons_self)
        exact course.beside whole now elsewhere found (stage elsewhere)

theorem timeout_happen {reception : Reception α} {occurrence : Occurrence α}
    (ends : Episode.reception? ⟨state, occurrence⟩ = some reception)
    (outcome : reception.outcome = .error .timeout) :
    state.handoff.slot = .empty ∧ state.handoff.lifted = false := by
  cases occurrence with
  | work =>
      obtain ⟨task, _, worked⟩ | ⟨_, _, _, _, given⟩ | ⟨_, rests⟩ :=
        work_cases state
      · have turn := turn_work task state
        rw [← worked] at turn
        obtain ⟨same, _⟩ | ⟨name, received, added, told⟩ := turn.recorded
        · rw [reception?_of_same same] at ends
          cases ends
        · rw [reception?_of_added added] at ends
          cases ends
          obtain ⟨empty, held, _⟩ | ⟨held, _⟩ := told
          · exact ⟨empty, held⟩
          · subst outcome
            cases slot : state.handoff.slot <;> rw [slot] at held <;>
              cases held
      · rw [reception?_of_same (by rw [given]; rfl)] at ends
        cases ends
      · rw [reception?_of_same (by rw [rests])] at ends
        cases ends
  | _ => cases ends

end Ends

/-- When a receiver ends, and that it does. -/
structure Timely (task : TaskId) (begun : Nat) (timeout : Option Nat)
    (history : List (Episode α)) (last : Receivers α) : Prop where
  decided : endsOf task history = [] ∨
    Verdict task begun timeout history (endsOf task history)
  settled : last.Settled →
    Verdict task begun timeout history (endsOf task history)
  /-- Who has not ended at a deadline has been run for it. -/
  punctual : last.Settled → ∀ due ∈ dueFrom begun timeout,
    due ≤ last.agenda.now → endsOf task history = [] →
      ∃ episode ∈ history, episode.RunsFor task due

theorem Course.timely {history : List (Episode α)} {task : TaskId}
    {begun : Nat} {timeout : Option Nat} {last : Receivers α}
    {receiver : Receiver} (run : Run {} history last)
    (found : last.receivers[task]? = some receiver)
    (course : Course task begun timeout history last receiver) :
    Timely task begun timeout history last := by
  cases course with
  | fresh stage _ underway =>
      have busy :=
        (run.attentive.fresh task receiver timeout found stage).not_settled
      exact ⟨.inl underway.open_, fun settled => absurd settled busy,
        fun settled => absurd settled busy⟩
  | waiting deadline stage _ underway =>
      refine ⟨.inl underway.open_, fun settled => ?_, ?_⟩
      · rw [underway.open_]
        exact .waits (fun due waits =>
          (underway.punctual due waits).spared run)
          (run.unresolved found stage settled)
      · intro settled due waits passed _
        cases underway.punctual due waits with
        | ahead early => exact absurd early (Nat.not_lt.mpr passed)
        | ringing _ attends => exact absurd settled attends.not_settled
        | lifted _ runs => exact runs
  | ended ending _ once verdict =>
      rw [← once] at verdict
      refine ⟨.inr verdict, fun _ => verdict, fun _ _ _ _ nothing => ?_⟩
      rw [once] at nothing
      cases nothing

/-- The exact timing of receivers that are not dropped, where time passes
promptly.  A receiver ends when something has been put in or when it is started,
whichever is later, unless it is run for its deadline before something has been
put in and before the deadline has been lifted; then it ends at the deadline
with nothing.  When everyone waits it has ended if it has to, nobody waits for
what has been put in, and whoever is past a deadline has been run for it; and
everyone waits after finitely many small steps.  Nobody gives up when something
has been put in or the deadline has been lifted. -/
theorem receive_timing {past later : List (Episode α)}
    {before last : Receivers α} {name : String} {timeout : Option Nat}
    (run : Run {} past before)
    (goesOn : Run (before.start name timeout) later last)
    (prompt : ∀ episode ∈ later, episode.Prompt)
    (kept : ∀ receiver ∈ last.receivers[before.receivers.length]?,
      receiver.dropped = false) :
    Timely before.receivers.length before.agenda.now timeout
        (past ++ ⟨before, .start name timeout⟩ :: later) last ∧
      (last.Settled → last.handoff.isResolved = true →
        ∀ receiver ∈ last.receivers, receiver.stage = .ended) ∧
      (∃ steps, (last.happenAll (List.replicate steps .work)).Settled) ∧
      (∀ episode ∈ later, ∀ reception,
        episode.reception? = some reception →
          reception.outcome = .error .timeout →
            episode.before.handoff.isResolved = false ∧
              episode.before.handoff.lifted = false) := by
  have started := Run.next (.start name timeout) run
  have whole : Run {} (past ++ ⟨before, .start name timeout⟩ :: later)
      last := by
    simpa using started.trans goesOn
  obtain ⟨receiver, found, course⟩ := run.course goesOn prompt
  refine ⟨(course (kept receiver found)).timely whole found, ?_,
    exists_settled last, ?_⟩
  · intro settled resolved
    exact whole.attentive.ended (Handoff.isResolved_iff.mp resolved) settled
  · intro episode member reception ends outcome
    obtain ⟨empty, lifted⟩ := timeout_happen ends outcome
    refine ⟨?_, lifted⟩
    rw [← Bool.not_eq_true, Handoff.isResolved_iff, not_not]
    exact empty

/-- The deadline at 5 is lifted at 3, and the value arrives at 9. -/
def liftedOccurrences : List (Occurrence String) :=
  [.work, .work, .pass 3, .lift, .work, .work, .pass 2, .work, .work, .pass 4,
    .send "value", .work, .work]

/-- The receiver goes on waiting and ends when the value arrives. -/
theorem lifted_ends :
    let started : Receivers String := ({} : Receivers String).start "x" (some 5)
    let whole :=
      [⟨{}, .start "x" (some 5)⟩] ++ started.history liftedOccurrences
    endsOf 0 whole = [(9, false)] ∧
      Verdict 0 0 (some 5) whole (endsOf 0 whole) := by
  intro started whole
  have goesOn : Run started (started.history liftedOccurrences)
      (started.happenAll liftedOccurrences) := .of_occurrences _ _
  have prompt : ∀ episode ∈ started.history liftedOccurrences,
      episode.Prompt := by decide +kernel
  have kept : ∀ receiver ∈ (started.happenAll liftedOccurrences).receivers[0]?,
      receiver.dropped = false := by decide +kernel
  have settled : (started.happenAll liftedOccurrences).Settled := by
    decide +kernel
  exact ⟨by decide +kernel,
    (receive_timing .start goesOn prompt kept).1.settled settled⟩

end Switchboard.Receivers
