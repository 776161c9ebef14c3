import Switchboard.Proofs.Session.Run
import Switchboard.Proofs.Waiter.Dispatch
import Switchboard.Proofs.Waiter.Turn

/-!
# The turn of one wait

The small steps of a wait: it rests, is discarded, begins, ends, starts a
probe, goes on after a probe, or waits.  It ends for one of five causes, told
by its phase, its interrupt, its handoff, its deadline and what a probe finds.
-/

namespace Switchboard

namespace Session

/-- What the probe of a wait finds when it answers now. -/
def finds (entry : SessionWait) (session : Session) : Bool :=
  session.alive ((entry.watch.map Watch.flag).getD "")

/-- A wait starts a probe. -/
def startProbe (task : TaskId) (entry : SessionWait) (wait : Wait)
    (reason : ProbeReason) (session : Session) : Session :=
  let answer :=
    session.agenda.alarmIn ((entry.watch.map Watch.delay).getD 0)
  let agenda := session.agenda.countAlarm
  { session.setStage task (.active (wait.probing reason answer agenda)) with
    agenda := agenda.countAlarm }

def beginWait (task : TaskId) (entry : SessionWait) (timeout : Option Nat)
    (session : Session) : Session :=
  let (wait, agenda) :=
    Wait.start entry.subscription timeout entry.liveness session.agenda
  { session with agenda }.setStage task (.active wait)

/-- A small step of a wait. -/
inductive Turn (task : TaskId) (entry : SessionWait) (before : Session) :
    Session → Prop where
  | rests : entry.stage = .subscribed ∨ entry.stage = .ended →
      Turn task entry before before.yieldFloor
  | discards : entry.stage ≠ .subscribed → entry.stage ≠ .ended →
      entry.dropped = true →
      Turn task entry before (before.discard task entry)
  | begins (timeout : Option Nat) : entry.stage = .fresh timeout →
      entry.dropped = false →
      Turn task entry before (before.beginWait task entry timeout)
  | ends (wait : Wait) (result : Except WaitError Event)
      (handoff : Handoff Event) (probes : List ProbeAnswer) :
      entry.stage = .active wait → entry.dropped = false →
      wait.Concludes before.agenda entry.interrupted (before.finds entry)
        (before.waiter.handoff task) result →
      Turn task entry before
        ({ before.setHandoff task handoff with probes }.finish task entry
          result)
  | probes (wait : Wait) (reason : ProbeReason) :
      entry.stage = .active wait → entry.dropped = false →
      wait.phase = .listening → entry.interrupted = false →
      (before.waiter.handoff task).slot = .empty →
      wait.Probes before.agenda (before.waiter.handoff task) reason →
      Turn task entry before (before.startProbe task entry wait reason)
  | resumes (wait : Wait) (answer : Alarm) (probes : List ProbeAnswer) :
      entry.stage = .active wait → entry.dropped = false →
      wait.phase = .probing .tick answer →
      before.agenda.isDue answer = true → before.finds entry = true →
      Turn task entry before
        ({ before with probes }.setStage task
          (.active { wait with phase := .listening }))
  | waits (wait : Wait) : entry.stage = .active wait →
      entry.dropped = false →
      wait.Idles before.agenda entry.interrupted
        (before.waiter.handoff task) →
      Turn task entry before before.yieldFloor

section

variable {session : Session} {task : TaskId} {entry : SessionWait}
  {wait : Wait} {held : Option Event}

theorem setHandoff_handoff (id : SubscriptionId) (session : Session) :
    session.setHandoff id (session.waiter.handoff id) = session := by
  rw [setHandoff, Waiter.setHandoff_handoff]

/-- A wait that listens takes the first cause there is. -/
theorem turn_of_listening (stage : entry.stage = .active wait)
    (kept : entry.dropped = false) (own : wait.subscription = task)
    (phase : wait.phase = .listening)
    (holds : (session.waiter.handoff task).slot = .holding held) :
    Turn task entry session (session.advance task entry wait) := by
  subst own
  unfold advance
  simp only [phase]
  cases interrupted : entry.interrupted with
  | true =>
      rw [Wait.listen_of_interrupted]
      exact .ends wait _ _ session.probes stage kept
        (.interrupted phase interrupted)
  | false =>
      cases held with
      | some event =>
          rw [Wait.listen_of_value holds]
          exact .ends wait _ _ session.probes stage kept
            (.event event phase interrupted holds)
      | none =>
          cases expired : wait.expired session.agenda
              (session.waiter.handoff wait.subscription) with
          | true =>
              rw [Wait.listen_of_expired holds expired]
              cases watched : wait.liveness with
              | none =>
                  exact .ends wait _ _ session.probes stage kept
                    (.timeout phase interrupted holds expired watched)
              | some liveness =>
                  have probing : Turn wait.subscription entry session
                      (session.startProbe wait.subscription entry wait
                        .deadline) :=
                    .probes wait .deadline stage kept phase interrupted holds
                      (.deadline expired (by rw [watched]; rfl))
                  simp only [Option.isSome_some, if_true,
                    Wait.subscription_probing, setHandoff_handoff]
                  exact probing
          | false =>
              rw [Wait.listen_of_empty holds expired]
              cases due : wait.probes session.agenda with
              | true =>
                  have probing : Turn wait.subscription entry session
                      (session.startProbe wait.subscription entry wait
                        .tick) :=
                    .probes wait .tick stage kept phase interrupted holds
                      (.tick expired due)
                  simp only [if_true, Wait.subscription_probing,
                    setHandoff_handoff]
                  exact probing
              | false =>
                  have idle : Turn wait.subscription entry session
                      session.yieldFloor :=
                    .waits wait stage kept
                      (.listening phase interrupted holds expired due)
                  simpa [setHandoff_handoff] using idle

theorem turn_of_probing {reason : ProbeReason} {answer : Alarm}
    (stage : entry.stage = .active wait)
    (kept : entry.dropped = false) (own : wait.subscription = task)
    (phase : wait.phase = .probing reason answer)
    (holds : (session.waiter.handoff task).slot = .holding held) :
    Turn task entry session (session.advance task entry wait) := by
  subst own
  unfold advance
  simp only [phase]
  cases due : session.agenda.isDue answer with
  | false =>
      exact .waits wait stage kept (.probing reason answer phase due)
  | true =>
      simp only [if_true]
      by_cases decides : reason = .tick → session.finds entry = false
      · cases held with
        | some event =>
            have found := Wait.probed_of_value holds decides
            unfold finds at found
            rw [found]
            exact .ends wait _ _ _ stage kept
              (.lateEvent reason answer event phase due decides holds)
        | none =>
            have found := Wait.probed_of_empty holds decides
            unfold finds at found
            rw [found]
            exact .ends wait _ _ _ stage kept
              (.found reason answer phase due decides holds)
      · obtain ⟨rfl, alive⟩ : reason = .tick ∧ session.finds entry = true := by
          simpa using decides
        unfold finds at alive
        have same : ∀ probes, { session with probes }.setHandoff
            wait.subscription (session.waiter.handoff wait.subscription) =
              { session with probes } :=
          fun probes => setHandoff_handoff _ { session with probes }
        rw [alive, Wait.probed_of_alive]
        dsimp only
        rw [same]
        exact .resumes wait answer _ stage kept phase due alive

theorem turn (found : session.waits[task]? = some entry)
    (own : ∀ wait, entry.stage = .active wait → wait.subscription = task)
    (holds : entry.stage ≠ .ended →
      (session.waiter.handoff task).slot = .holding held) :
    Turn task entry session (session.work task) := by
  unfold work
  simp only [found]
  cases stage : entry.stage with
  | subscribed => exact .rests (.inl stage)
  | ended => exact .rests (.inr stage)
  | fresh timeout =>
      cases dropped : entry.dropped with
      | true => exact .discards (by simp [stage]) (by simp [stage]) dropped
      | false => exact .begins timeout stage dropped
  | active wait =>
      have slot := holds (by simp [stage])
      cases dropped : entry.dropped with
      | true => exact .discards (by simp [stage]) (by simp [stage]) dropped
      | false =>
          cases phase : wait.phase with
          | listening =>
              exact turn_of_listening stage dropped (own wait stage) phase slot
          | probing reason answer =>
              exact turn_of_probing stage dropped (own wait stage) phase slot

end

end Session

end Switchboard
