import Switchboard.Proofs.Bot.Activity
import Switchboard.Proofs.Waiter.Handoffs

/-!
# How a body tends its subscriptions

Only the body that holds a subscription receives from it, and when it has
received it lets go of the subscription.  So whatever a body holds still waits
for its event or has it.  `Tends` says of a piece of work that it keeps this
so, that it leaves the handoffs of others alone but for lifting deadlines, and
what becomes of the open wait.  There is one statement for every operation
that bodies are built from.
-/

namespace Switchboard

/-- The deadline of a wait has passed, and its probe is under way. -/
def Wait.AtDeadline (wait : Wait) : Prop :=
  ∃ answer, wait.phase = .probing .deadline answer

/-- A wait goes on as another one on the same subscription; once its deadline
has been lifted it does not come to it. -/
def Wait.Follows (lifted : Bool) (wait next : Wait) : Prop :=
  next.subscription = wait.subscription ∧
    (lifted = true → (next.AtDeadline ↔ wait.AtDeadline))

theorem Wait.Follows.refl (lifted : Bool) (wait : Wait) :
    wait.Follows lifted wait := ⟨rfl, fun _ => Iff.rfl⟩

theorem Wait.not_atDeadline_of_listening {wait : Wait}
    (phase : wait.phase = .listening) : ¬ wait.AtDeadline := by
  rintro ⟨answer, probing⟩
  rw [phase] at probing
  cases probing

theorem Wait.not_atDeadline_of_tick {wait : Wait} {answer : Alarm}
    (phase : wait.phase = .probing .tick answer) : ¬ wait.AtDeadline := by
  rintro ⟨other, probing⟩
  rw [phase] at probing
  cases probing

/-- What a body has to do with the waiter: the subscriptions that it holds,
and its open wait. -/
structure Vigil where
  held : List SubscriptionId := []
  wait? : Option Wait := none

/-- Nothing has been received yet from what is held. -/
structure Vigil.Clean (vigil : Vigil) (waiter : Waiter) : Prop where
  nodup : vigil.held.Nodup
  below : ∀ id ∈ vigil.held, id < waiter.handoffs.length
  slots : ∀ id ∈ vigil.held,
    ∃ content, (waiter.handoff id).slot = .holding content
  opened : ∀ wait, vigil.wait? = some wait → wait.subscription ∈ vigil.held

/-- What has become of a body's subscriptions, and of those of others. -/
structure Tended (one : Vigil) (before : Waiter) (two : Vigil)
    (after : Waiter) : Prop where
  clean : two.Clean after
  handoffs : before.handoffs.length ≤ after.handoffs.length
  lifted : ∀ id, (before.handoff id).lifted = true →
    (after.handoff id).lifted = true
  spared : ∀ id, id < before.handoffs.length → id ∉ one.held →
    (before.handoff id).Fills (after.handoff id)
  held : ∀ id ∈ two.held, id ∈ one.held ∨ before.handoffs.length ≤ id
  follows : ∀ wait, one.wait? = some wait →
    wait.subscription ∈ two.held → ∃ next, two.wait? = some next ∧
      wait.Follows (before.handoff wait.subscription).lifted next

/-- A piece of work of a body on its subscriptions. -/
def Tends (one : Vigil) (before : Waiter) (two : Vigil) (after : Waiter) :
    Prop :=
  one.Clean before → Tended one before two after

namespace Tends

variable {one two three : Vigil} {first second third waiter : Waiter}
  {held rest : List SubscriptionId} {id : SubscriptionId} {wait : Wait}
  {wait? : Option Wait}

theorem trans (begins : Tends one first two second)
    (goesOn : Tends two second three third) : Tends one first three third := by
  intro clean
  have early := begins clean
  have late := goesOn early.clean
  constructor
  · exact late.clean
  · exact Nat.le_trans early.handoffs late.handoffs
  · intro id lifted
    exact late.lifted id (early.lifted id lifted)
  · intro id known foreign
    have notHeld : id ∉ two.held := by
      intro member
      rcases early.held id member with own | fresh
      · exact foreign own
      · exact Nat.not_lt_of_le fresh known
    exact (early.spared id known foreign).trans
      (late.spared id (Nat.lt_of_lt_of_le known early.handoffs) notHeld)
  · intro id member
    rcases late.held id member with own | fresh
    · exact early.held id own
    · exact .inr (Nat.le_trans early.handoffs fresh)
  · intro wait opened member
    have below := clean.below _ (clean.opened wait opened)
    have stillHeld : wait.subscription ∈ two.held := by
      rcases late.held _ member with own | fresh
      · exact own
      · exact absurd (Nat.lt_of_lt_of_le below early.handoffs)
          (Nat.not_lt_of_le fresh)
    obtain ⟨middle, there, same, once⟩ :=
      early.follows wait opened stillHeld
    obtain ⟨next, found, sameThen, then_⟩ :=
      late.follows middle there (same ▸ member)
    refine ⟨next, found, sameThen.trans same, fun lifted => ?_⟩
    have stillLifted : (second.handoff middle.subscription).lifted = true := by
      rw [same]
      exact early.lifted _ lifted
    exact (then_ stillLifted).trans (once lifted)

theorem of_supplies (supplies : first.Supplies second) :
    Tends one first one second := by
  intro clean
  constructor
  · constructor
    · exact clean.nodup
    · exact fun id member =>
        Nat.lt_of_lt_of_le (clean.below id member) supplies.handoffs
    · intro id member
      obtain ⟨content, holds⟩ := clean.slots id member
      exact (supplies.fills id).holding holds
    · exact clean.opened
  · exact supplies.handoffs
  · exact supplies.lifted
  · exact fun id _ _ => supplies.fills id
  · exact fun id member => .inl member
  · exact fun wait opened _ => ⟨wait, opened, .refl _ wait⟩

theorem of_same (same : second.handoffs = first.handoffs) :
    Tends one first one second := of_supplies (.of_same same)

theorem refl (vigil : Vigil) (waiter : Waiter) :
    Tends vigil waiter vigil waiter := of_same rfl

theorem letsGo (own : ∀ wait, wait? = some wait → wait.subscription = id)
    (handoffs : second.handoffs.length = first.handoffs.length)
    (lifted : (first.handoff id).lifted = true →
      (second.handoff id).lifted = true)
    (others : ∀ other, other ≠ id →
      second.handoff other = first.handoff other) :
    Tends ⟨id :: held, wait?⟩ first ⟨held, none⟩ second := by
  intro clean
  obtain ⟨absent, nodup⟩ := List.nodup_cons.mp clean.nodup
  have different : ∀ other ∈ held, other ≠ id := by
    rintro other member rfl
    exact absent member
  constructor
  · constructor
    · exact nodup
    · intro other member
      rw [handoffs]
      exact clean.below other (List.mem_cons_of_mem id member)
    · intro other member
      rw [others other (different other member)]
      exact clean.slots other (List.mem_cons_of_mem id member)
    · intro wait opened
      cases opened
  · exact Nat.le_of_eq handoffs.symm
  · intro other before
    by_cases same : other = id
    · subst same
      exact lifted before
    · rw [others other same]
      exact before
  · intro other _ foreign
    have elsewhere : other ≠ id := by
      rintro rfl
      exact foreign List.mem_cons_self
    rw [others other elsewhere]
    exact .refl _
  · exact fun other member => .inl (List.mem_cons_of_mem id member)
  · intro wait opened member
    exact absurd (own wait opened) (different _ member)

theorem letsGoAll (handoffs : second.handoffs.length = first.handoffs.length)
    (lifted : ∀ id, (first.handoff id).lifted = true →
      (second.handoff id).lifted = true)
    (others : ∀ id, id ∉ one.held →
      second.handoff id = first.handoff id) :
    Tends one first {} second := by
  intro _
  constructor
  · constructor
    · exact List.nodup_nil
    · exact fun id member => by cases member
    · exact fun id member => by cases member
    · exact fun wait opened => by cases opened
  · exact Nat.le_of_eq handoffs.symm
  · exact lifted
  · intro id _ foreign
    rw [others id foreign]
    exact .refl _
  · exact fun id member => by cases member
  · exact fun wait _ member => by cases member

theorem drops (same : second.handoffs = first.handoffs) :
    Tends one first {} second := by
  have alike := Waiter.handoff_of_same same
  apply letsGoAll
  · rw [same]
  · intro id lifted
    rw [alike]
    exact lifted
  · exact fun id _ => alike id

theorem unsubscribe :
    Tends ⟨id :: held, none⟩ first ⟨held, none⟩ (first.unsubscribe id) := by
  apply letsGo
  · exact fun wait opened => by cases opened
  · rfl
  · exact fun lifted => lifted
  · exact fun _ _ => rfl

theorem subscribe (kind : EventKind) (predicate : Event → Bool) :
    Tends ⟨held, none⟩ first ⟨first.handoffs.length :: held, none⟩
      (first.subscribe kind predicate).2 := by
  intro clean
  have same := fun id => Waiter.handoff_subscribe kind predicate id first
  have grown := Waiter.length_subscribe kind predicate first
  constructor
  · constructor
    · apply List.nodup_cons.mpr
      refine ⟨fun member => ?_, clean.nodup⟩
      exact Nat.lt_irrefl _ (clean.below _ member)
    · intro id member
      rw [grown]
      rcases List.mem_cons.mp member with rfl | before
      · exact Nat.lt_succ_self _
      · exact Nat.lt_succ_of_lt (clean.below id before)
    · intro id member
      rw [same]
      rcases List.mem_cons.mp member with rfl | before
      · refine ⟨none, ?_⟩
        simp [Waiter.handoff]
      · exact clean.slots id before
    · exact fun wait opened => by cases opened
  · rw [grown]
    exact Nat.le_succ _
  · intro id lifted
    rw [same]
    exact lifted
  · intro id _ _
    rw [same]
    exact .refl _
  · intro id member
    rcases List.mem_cons.mp member with rfl | before
    · exact .inr (Nat.le_refl _)
    · exact .inl before
  · exact fun wait opened => by cases opened

theorem opens (own : wait.subscription = id) :
    Tends ⟨id :: held, none⟩ first ⟨id :: held, some wait⟩ first := by
  intro clean
  constructor
  · refine ⟨clean.nodup, clean.below, clean.slots, fun next opened => ?_⟩
    cases opened
    exact own ▸ List.mem_cons_self
  · exact Nat.le_refl _
  · exact fun _ lifted => lifted
  · exact fun id _ _ => .refl _
  · exact fun id member => .inl member
  · exact fun wait opened => by cases opened

theorem follows {next : Wait}
    (follows : wait.Follows (first.handoff wait.subscription).lifted next) :
    Tends ⟨wait.subscription :: rest, some wait⟩ first
      ⟨next.subscription :: rest, some next⟩ first := by
  intro clean
  have same := follows.1
  constructor
  · rw [same]
    refine ⟨clean.nodup, clean.below, clean.slots, fun other opened => ?_⟩
    cases opened
    exact same ▸ List.mem_cons_self
  · exact Nat.le_refl _
  · exact fun _ lifted => lifted
  · exact fun id _ _ => .refl _
  · rw [same]
    exact fun id member => .inl member
  · intro other opened _
    cases opened
    exact ⟨next, rfl, follows⟩

end Tends

/-- The open wait of a question. -/
def Asking.open? : Asking → Option Wait
  | .prompting .. => none
  | .waiting wait => some wait

/-- The open wait of a confirmation: that for its answer. -/
def Confirming.open? : Confirming → Option Wait
  | .racing _ reaction _ _ => some reaction
  | .asking _ question => question.open?
  | _ => none

/-- The open wait of a body. -/
def Activity.open? : Activity → Option Wait
  | .waiting wait _ => some wait
  | .asking question _ => question.open?
  | .confirming confirmation _ => confirmation.open?
  | _ => none

def Wait.vigil (rest : List SubscriptionId) (wait : Wait) : Vigil :=
  ⟨wait.subscription :: rest, some wait⟩

def Asking.vigil (asking : Asking) : Vigil :=
  ⟨asking.holdings.held, asking.open?⟩

def Confirming.vigil (confirming : Confirming) : Vigil :=
  ⟨confirming.holdings.held, confirming.open?⟩

def Activity.vigil (activity : Activity) : Vigil :=
  ⟨activity.holdings.held, activity.open?⟩

/-- What is left of a vigil after a step: that of the point that it leads to,
or what is left at the end. -/
def Progress.vigil {α β : Type} (here : α → Vigil) (ended : Vigil) :
    Progress α β → Vigil
  | .blocked point => here point
  | .go point => here point
  | .done _ => ended

theorem Activity.opened_eq (activity : Activity) :
    activity.holdings.opened =
      (activity.open?.map Wait.subscription).toList := by
  cases activity with
  | asking asking next => cases asking <;> rfl
  | confirming confirming next =>
      cases confirming with
      | asking terms asking => cases asking <;> rfl
      | _ => rfl
  | _ => rfl

/-- Where a step leads to that does not end an activity. -/
def Progress.next? {α β : Type} : Progress α β → Option α
  | .blocked next => some next
  | .go next => some next
  | .done _ => none

/-- What a wait does with its turn, and what its handoff is afterwards.
`alive` is what a probe that answers now finds. -/
inductive WaitTurn (agenda : Agenda) (killed alive : Bool) (wait : Wait)
    (handoff : Handoff Event) :
    Progress Wait (Except WaitError Event) → Handoff Event → Prop where
  | receives (event : Event) :
      wait.Concludes agenda killed alive handoff (.ok event) →
      handoff.slot = .value event →
      WaitTurn agenda killed alive wait handoff (.done (.ok event))
        { handoff with slot := .taken }
  | fails (error : WaitError) :
      wait.Concludes agenda killed alive handoff (.error error) →
      WaitTurn agenda killed alive wait handoff (.done (.error error)) handoff
  | probes (reason : ProbeReason) (answer : Alarm) (setting : Agenda) :
      wait.phase = .listening → wait.Probes agenda handoff reason →
      setting.now = agenda.now →
      WaitTurn agenda killed alive wait handoff
        (.go (wait.probing reason answer setting)) handoff
  | resumes (answer : Alarm) : wait.phase = .probing .tick answer →
      WaitTurn agenda killed alive wait handoff
        (.go { wait with phase := .listening }) handoff
  | idles : wait.Idles agenda killed handoff →
      WaitTurn agenda killed alive wait handoff (.blocked wait) handoff

/-- How a wait goes on with its turn, and what its handoff is afterwards.
`found` says whether the message that it probes is there. -/
inductive WaitStep (found : Bool) (wait : Wait) (handoff : Handoff Event) :
    Progress Wait (Except WaitError Event) → Handoff Event → Prop where
  | interrupted : wait.phase = .listening →
      WaitStep found wait handoff (.done (.error .interrupted)) handoff
  | received (event : Event) : handoff.slot = .value event →
      WaitStep found wait handoff (.done (.ok event))
        { handoff with slot := .taken }
  | expired : wait.phase = .listening → handoff.lifted = false →
      WaitStep found wait handoff (.done (.error .timeout)) handoff
  | decided (reason : ProbeReason) (answer : Alarm) :
      wait.phase = .probing reason answer → handoff.slot = .empty →
      (reason = .tick → found = false) →
      WaitStep found wait handoff
        (.done (.error (if found then .timeout else .resourceGone))) handoff
  | probes (reason : ProbeReason) (answer : Alarm) (agenda : Agenda) :
      wait.phase = .listening →
      (reason = .deadline → handoff.lifted = false) →
      WaitStep found wait handoff (.go (wait.probing reason answer agenda))
        handoff
  | resumes (answer : Alarm) : wait.phase = .probing .tick answer →
      WaitStep found wait handoff (.go { wait with phase := .listening })
        handoff
  | idles : WaitStep found wait handoff (.blocked wait) handoff

theorem WaitTurn.step {agenda : Agenda} {killed found : Bool} {wait : Wait}
    {handoff after : Handoff Event}
    {progress : Progress Wait (Except WaitError Event)}
    (turn : WaitTurn agenda killed found wait handoff progress after) :
    WaitStep found wait handoff progress after := by
  cases turn with
  | receives event _ value => exact .received event value
  | fails error concludes =>
      cases concludes with
      | interrupted phase => exact .interrupted phase
      | timeout phase _ _ expired =>
          exact .expired phase (Wait.lifted_of_expired expired)
      | found reason answer phase _ decides empty =>
          exact .decided reason answer phase empty decides
  | probes reason answer setting phase cause =>
      refine .probes reason answer setting phase fun deadline => ?_
      subst deadline
      cases cause with
      | deadline expired => exact Wait.lifted_of_expired expired
  | resumes answer phase => exact .resumes answer phase
  | idles => exact .idles

namespace WaitStep

variable {found : Bool} {wait : Wait} {handoff after : Handoff Event}
  {progress : Progress Wait (Except WaitError Event)}

theorem lifted (step : WaitStep found wait handoff progress after) :
    after.lifted = handoff.lifted := by
  cases step <;> rfl

theorem follows {next : Wait}
    (step : WaitStep found wait handoff progress after)
    (goesOn : progress.next? = some next) :
    after = handoff ∧ wait.Follows handoff.lifted next := by
  cases step with
  | probes reason answer agenda phase unlifted =>
      cases goesOn
      refine ⟨rfl, Wait.subscription_probing _ _ _ _, fun lifted => ?_⟩
      cases reason with
      | deadline =>
          rw [unlifted rfl] at lifted
          cases lifted
      | tick =>
          apply iff_of_false
          · exact Wait.not_atDeadline_of_tick rfl
          · exact Wait.not_atDeadline_of_listening phase
  | resumes answer phase =>
      cases goesOn
      refine ⟨rfl, rfl, fun _ => iff_of_false ?_ ?_⟩
      · exact Wait.not_atDeadline_of_listening rfl
      · exact Wait.not_atDeadline_of_tick phase
  | idles =>
      cases goesOn
      exact ⟨rfl, .refl _ wait⟩
  | _ => cases goesOn

end WaitStep

namespace World

variable {world : World}

theorem supplies_liftAll (ids : List SubscriptionId) (world : World) :
    world.waiter.Supplies (world.liftAll ids).waiter := by
  induction ids generalizing world with
  | nil => exact .refl world.waiter
  | cons id rest induction =>
      have first : world.waiter.Supplies (wakeWatchers id
          { world with waiter := world.waiter.lift id }).waiter :=
        .lift id world.waiter
      exact first.trans (induction _)

theorem supplies_liftHeld (pid : Pid) (world : World) :
    world.waiter.Supplies (world.liftHeld pid).2.waiter := by
  unfold liftHeld
  split
  · exact .refl world.waiter
  · exact supplies_liftAll _ world

theorem supplies_lift (pid : Pid) (world : World) :
    world.waiter.Supplies (world.lift pid).2.waiter := by
  unfold lift
  split
  · exact supplies_liftHeld pid world
  · exact .refl world.waiter

theorem supplies_liftEach (pids : List Pid) (world : World) :
    world.waiter.Supplies (world.liftEach pids).2.waiter := by
  induction pids generalizing world with
  | nil => exact .refl world.waiter
  | cons pid rest induction =>
      exact (supplies_lift pid world).trans (induction (world.lift pid).2)

/-- Every small step of a wait is one of these. -/
theorem stepWait_turn (actor : Actor) (watched : String) (wait : Wait)
    {content : Option Event}
    (holds : (world.waiter.handoff wait.subscription).slot =
      .holding content) :
    ∃ handoff,
      WaitTurn world.agenda (world.isKilled actor.pid)
        (world.lookFor actor.task actor.chat watched).1 wait
        (world.waiter.handoff wait.subscription)
        (world.stepWait actor watched wait).1 handoff ∧
      (world.stepWait actor watched wait).2.waiter =
        world.waiter.setHandoff wait.subscription handoff := by
  unfold stepWait
  dsimp only
  cases phase : wait.phase with
  | listening =>
      dsimp only
      cases killed : world.isKilled actor.pid with
      | true =>
          rw [Wait.listen_of_interrupted]
          exact ⟨_, .fails _ (.interrupted phase rfl), rfl⟩
      | false =>
          cases content with
          | some event =>
              rw [Wait.listen_of_value holds]
              exact ⟨_, .receives event (.event event phase rfl holds) holds,
                rfl⟩
          | none =>
              cases expired : wait.expired world.agenda
                  (world.waiter.handoff wait.subscription) with
              | true =>
                  rw [Wait.listen_of_expired holds expired]
                  cases watches : wait.liveness with
                  | none =>
                      exact ⟨_, .fails _
                        (.timeout phase rfl holds expired watches), rfl⟩
                  | some liveness =>
                      have watched : wait.liveness.isSome = true := by
                        rw [watches]
                        rfl
                      exact ⟨_, .probes .deadline _ _ phase
                        (.deadline expired watched) rfl, rfl⟩
              | false =>
                  rw [Wait.listen_of_empty holds expired]
                  cases due : wait.probes world.agenda with
                  | false =>
                      exact ⟨_, .idles (.listening phase rfl holds expired due),
                        rfl⟩
                  | true =>
                      exact ⟨_, .probes .tick _ _ phase (.tick expired due) rfl,
                        rfl⟩
  | probing reason answer =>
      dsimp only
      cases due : world.isDue answer with
      | false =>
          exact ⟨_, .idles (.probing reason answer phase due),
            (Waiter.setHandoff_handoff _ _).symm⟩
      | true =>
          simp only [if_true]
          generalize (world.lookFor actor.task actor.chat watched).1 = found
          by_cases decides : reason = .tick → found = false
          · cases content with
            | some event =>
                rw [Wait.probed_of_value holds decides]
                exact ⟨_, .receives event
                  (.lateEvent reason answer event phase due decides holds)
                  holds, rfl⟩
            | none =>
                rw [Wait.probed_of_empty holds decides]
                exact ⟨_, .fails _
                  (.found reason answer phase due decides holds), rfl⟩
          · obtain ⟨rfl, rfl⟩ : reason = .tick ∧ found = true := by
              simpa using decides
            rw [Wait.probed_of_alive]
            exact ⟨_, .resumes answer phase, rfl⟩

theorem stepWait_step (actor : Actor) (watched : String) (wait : Wait)
    {content : Option Event}
    (holds : (world.waiter.handoff wait.subscription).slot =
      .holding content) :
    ∃ handoff,
      WaitStep (world.lookFor actor.task actor.chat watched).1 wait
        (world.waiter.handoff wait.subscription)
        (world.stepWait actor watched wait).1 handoff ∧
      (world.stepWait actor watched wait).2.waiter =
        world.waiter.setHandoff wait.subscription handoff := by
  obtain ⟨handoff, turn, waiter⟩ := stepWait_turn actor watched wait holds
  exact ⟨handoff, turn.step, waiter⟩

end World

namespace Tends

variable {actor : Actor} {world : World} {one : Vigil}

theorem receives {id : SubscriptionId} {handoff : Handoff Event}
    {waiter : Waiter} {held : List SubscriptionId} {wait? : Option Wait}
    (lifted : handoff.lifted = (waiter.handoff id).lifted)
    (own : ∀ wait, wait? = some wait → wait.subscription = id) :
    Tends ⟨id :: held, wait?⟩ waiter ⟨held, none⟩
      (waiter.setHandoff id handoff) := by
  apply letsGo own
  · exact Waiter.length_setHandoff id handoff waiter
  · rw [Waiter.lifted_setHandoff lifted]
    exact fun before => before
  · intro other different
    exact Waiter.handoff_setHandoff_of_ne (Ne.symm different)

theorem stepOpenWait (actor : Actor) (watched : String) (wait : Wait)
    (rest : List SubscriptionId) :
    Tends (wait.vigil rest) world.waiter
      ((world.stepOpenWait actor watched wait).1.vigil (Wait.vigil rest)
        ⟨rest, none⟩)
      (world.stepOpenWait actor watched wait).2.waiter := by
  intro clean
  obtain ⟨content, holds⟩ := clean.slots wait.subscription List.mem_cons_self
  obtain ⟨handoff, step, waiter⟩ :=
    World.stepWait_step actor watched wait holds
  unfold World.stepOpenWait
  generalize world.stepWait actor watched wait = turn at step waiter
  obtain ⟨progress, after⟩ := turn
  cases progress with
  | done result =>
      have received : Tends (wait.vigil rest) world.waiter ⟨rest, none⟩
          (world.waiter.setHandoff wait.subscription handoff) :=
        receives step.lifted fun other opened => by
          cases opened
          rfl
      have same : (after.closeWait actor.pid
          wait.subscription).waiter.handoffs = _ :=
        (congrArg Waiter.handoffs waiter : after.waiter.handoffs = _)
      exact (received.trans (of_same same)) clean
  | go next | blocked next =>
      obtain ⟨rfl, follows⟩ := step.follows rfl
      have same : after.waiter = world.waiter :=
        waiter.trans (Waiter.setHandoff_handoff _ _)
      dsimp only
      rw [same]
      exact Tends.follows follows clean

theorem finishMessage (sending : Sending) :
    Tends one world.waiter one (world.finishMessage sending).2.waiter := by
  apply of_same
  unfold World.finishMessage
  split <;> rfl

theorem startWaiting (kind : EventKind) (predicate : Event → Bool)
    (timeout : Option Nat) :
    Tends {} world.waiter
      ((world.startWaiting actor kind predicate timeout).1.vigil [])
      (world.startWaiting actor kind predicate timeout).2.waiter :=
  (subscribe kind predicate).trans (opens rfl)

theorem startAsking (prompt : String) (timeout : Option Nat) :
    Tends {} world.waiter (world.startAsking actor prompt timeout).1.vigil
      (world.startAsking actor prompt timeout).2.waiter :=
  subscribe .message (World.isAnswer actor.invocation)

theorem stepAsking (actor : Actor) (asking : Asking) :
    Tends asking.vigil world.waiter
      ((world.stepAsking actor asking).1.vigil Asking.vigil {})
      (world.stepAsking actor asking).2.waiter := by
  unfold World.stepAsking
  cases asking with
  | prompting id timeout sending =>
      dsimp only
      split
      · have sent : Tends ⟨[id], none⟩ world.waiter ⟨[id], none⟩
            (world.finishMessage sending).2.waiter := finishMessage sending
        generalize world.finishMessage sending = result at sent
        obtain ⟨answer, after⟩ := result
        cases answer with
        | error error => exact sent.trans unsubscribe
        | ok name => exact sent.trans (opens rfl)
      · exact refl _ _
  | waiting wait =>
      have steps : Tends (wait.vigil []) world.waiter _ _ :=
        stepOpenWait actor "" wait []
      dsimp only
      generalize world.stepOpenWait actor "" wait = result at steps
      obtain ⟨progress, after⟩ := result
      cases progress <;> exact steps

theorem startFallback (terms : ConfirmTerms) :
    Tends {} world.waiter (world.startFallback actor terms).1.vigil
      (world.startFallback actor terms).2.waiter :=
  startAsking Notice.confirmTextFallback terms.timeout

theorem dropBoth {reaction deletion : SubscriptionId} :
    Tends ⟨[reaction, deletion], none⟩ world.waiter {}
      (world.dropBoth reaction deletion).waiter :=
  unsubscribe.trans unsubscribe

/-- The wait for the deletion of the prompt takes a step. -/
theorem stepDeletion (prompt : String) (reaction deletion : Wait) :
    Tends (reaction.vigil [deletion.subscription]) world.waiter
      ((world.stepConfirming actor
        (.racing prompt reaction deletion true)).1.vigil Confirming.vigil {})
      (world.stepConfirming actor
        (.racing prompt reaction deletion true)).2.waiter := by
  intro clean
  obtain ⟨content, holds⟩ := clean.slots deletion.subscription
    (List.mem_cons_of_mem _ List.mem_cons_self)
  obtain ⟨handoff, step, waiter⟩ :=
    World.stepWait_step actor prompt deletion holds
  unfold World.stepConfirming
  dsimp only
  generalize world.stepWait actor prompt deletion = turn at step waiter
  obtain ⟨progress, after⟩ := turn
  cases progress with
  | done result =>
      have received : Tends (reaction.vigil [deletion.subscription])
          world.waiter {}
          (world.waiter.setHandoff deletion.subscription handoff) := by
        apply letsGoAll
        · exact Waiter.length_setHandoff _ _ _
        · intro id before
          rw [Waiter.lifted_setHandoff step.lifted]
          exact before
        · intro id foreign
          apply Waiter.handoff_setHandoff_of_ne
          rintro rfl
          exact foreign (List.mem_cons_of_mem _ List.mem_cons_self)
      have handoffs : ((after.closeWait actor.pid
          reaction.subscription).unsubscribe
            deletion.subscription).waiter.handoffs = _ :=
        (congrArg Waiter.handoffs waiter : after.waiter.handoffs = _)
      exact (received.trans (of_same handoffs)) clean
  | go next | blocked next =>
      obtain ⟨rfl, same, _⟩ := step.follows rfl
      have unchanged : after.waiter = world.waiter :=
        waiter.trans (Waiter.setHandoff_handoff _ _)
      have stays : Tends (reaction.vigil [deletion.subscription])
          world.waiter (reaction.vigil [next.subscription])
            after.waiter := by
        rw [same, unchanged]
        exact refl _ _
      exact stays clean

theorem stepConfirming (actor : Actor) (confirming : Confirming) :
    Tends confirming.vigil world.waiter
      ((world.stepConfirming actor confirming).1.vigil Confirming.vigil {})
      (world.stepConfirming actor confirming).2.waiter := by
  cases confirming with
  | prompting terms sending =>
      unfold World.stepConfirming
      dsimp only
      split
      · have sent : Tends {} world.waiter {}
            (world.finishMessage sending).2.waiter := finishMessage sending
        generalize world.finishMessage sending = result at sent
        obtain ⟨answer, after⟩ := result
        cases answer with
        | error error => exact sent
        | ok prompt =>
            exact (sent.trans (subscribe .deletion _)).trans
              (subscribe .reaction _)
      · exact refl _ _
  | reacting terms prompt reaction deletion second failure answer =>
      unfold World.stepConfirming
      dsimp only
      split
      · split
        · exact dropBoth.trans (startFallback terms)
        · split
          · exact opens rfl
          · exact refl _ _
      · exact refl _ _
  | racing prompt reaction deletion deletionTurn =>
      cases deletionTurn with
      | false =>
          unfold World.stepConfirming
          have steps : Tends (reaction.vigil [deletion.subscription])
              world.waiter _ _ :=
            stepOpenWait actor prompt reaction
              [deletion.subscription]
          dsimp only
          generalize world.stepOpenWait actor prompt reaction = result
            at steps
          obtain ⟨progress, after⟩ := result
          cases progress with
          | blocked point => exact steps
          | go point => exact steps
          | done result => exact steps.trans unsubscribe
      | true => exact stepDeletion prompt reaction deletion
  | asking terms asking =>
      unfold World.stepConfirming
      have steps : Tends asking.vigil world.waiter _ _ :=
        stepAsking actor asking
      dsimp only
      generalize world.stepAsking actor asking = result at steps
      obtain ⟨progress, after⟩ := result
      cases progress with
      | blocked point => exact steps
      | go point => exact steps
      | done answer =>
          cases answer with
          | error error => exact steps
          | ok event =>
              dsimp only
              split
              · exact steps
              · exact steps.trans (startFallback terms)

theorem leaveGuard (pid : Pid) :
    Tends one world.waiter one (world.leaveGuard pid).waiter := by
  apply of_same
  unfold World.leaveGuard
  split <;> rfl

theorem leaveMark (pid : Pid) :
    Tends one world.waiter one (world.leaveMark pid).waiter := by
  apply of_same
  unfold World.leaveMark
  split <;> rfl

theorem perform (call : Call) (next : call.Reply → Program Unit) :
    Tends {} world.waiter (world.perform actor call next).1.vigil
      (world.perform actor call next).2.waiter := by
  cases call with
  | wait kind predicate timeout => exact startWaiting kind predicate timeout
  | ask prompt timeout => exact startAsking prompt timeout
  | enterGuard =>
      exact of_supplies (.subscribe .message (fun _ => false) world.waiter)
  | leaveGuard => exact leaveGuard actor.pid
  | leaveMark => exact leaveMark actor.pid
  | interruptSelf =>
      exact of_same (congrArg Waiter.handoffs
        (World.Works.waiter_interruptHeld actor.pid world))
  | interruptAll pids =>
      exact of_same (congrArg Waiter.handoffs
        (World.Works.waiter_interruptEach pids world))
  | liftAll pids => exact of_supplies (World.supplies_liftEach pids world)
  | _ => exact refl {} world.waiter

theorem stepResolving (actor : Actor) (resolving : Resolving) :
    Tends one world.waiter one
      (world.stepResolving actor resolving).2.waiter := by
  have same : (world.stepResolving actor resolving).2.waiter =
      world.waiter := by
    unfold World.stepResolving
    dsimp only
    split <;> exact (World.Works.note_all _ _ _).2
  exact of_same (congrArg Waiter.handoffs same)

/-- Every step of a body tends what the body holds. -/
theorem stepActivity (actor : Actor) (activity : Activity) (world : World) :
    Tends activity.vigil world.waiter
      ((world.stepActivity actor activity).1.vigil Activity.vigil {})
      (world.stepActivity actor activity).2.waiter := by
  unfold World.stepActivity
  cases activity with
  | running program =>
      cases program with
      | call call next => exact perform call next
      | _ => exact refl {} world.waiter
  | sleeping answer next =>
      dsimp only
      split <;> exact refl {} world.waiter
  | replying sending next =>
      dsimp only
      split
      · exact finishMessage sending
      · exact refl {} world.waiter
  | notifying sending next =>
      dsimp only
      split <;> exact refl {} world.waiter
  | waiting wait next =>
      have steps : Tends (wait.vigil []) world.waiter _ _ :=
        stepOpenWait actor "" wait []
      dsimp only
      generalize world.stepOpenWait actor "" wait = result at steps
      obtain ⟨progress, after⟩ := result
      cases progress <;> exact steps
  | asking asking next =>
      have steps : Tends asking.vigil world.waiter _ _ :=
        stepAsking actor asking
      dsimp only
      generalize world.stepAsking actor asking = result at steps
      obtain ⟨progress, after⟩ := result
      cases progress <;> exact steps
  | confirming confirming next =>
      have steps : Tends confirming.vigil world.waiter _ _ :=
        stepConfirming actor confirming
      dsimp only
      generalize world.stepConfirming actor confirming = result at steps
      obtain ⟨progress, after⟩ := result
      cases progress <;> exact steps
  | resolving resolving next =>
      have steps : Tends {} world.waiter {} _ :=
        stepResolving actor resolving
      dsimp only
      generalize world.stepResolving actor resolving = result at steps
      obtain ⟨progress, after⟩ := result
      cases progress <;> exact steps

theorem abandon (actor : Actor) (activity : Activity) (world : World) :
    Tends activity.vigil world.waiter {}
      (world.abandon actor activity).waiter := by
  apply drops
  cases activity with
  | asking asking next => cases asking <;> rfl
  | confirming confirming next =>
      cases confirming with
      | asking terms asking => cases asking <;> rfl
      | _ => rfl
  | _ => rfl

end Tends

end Switchboard
