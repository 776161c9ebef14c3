import Switchboard.Proofs.Bot.EnsembleBooks
import Switchboard.Proofs.Bot.ManualWaits

/-!
# Every open wait is accounted for

Whatever bodies await, one after the other or at a time, each process counts
exactly the waits that its body has open, and their deadlines are the ones that
can be lifted.  When a process is done nothing of what its body has subscribed
to is left.
-/

namespace Switchboard

/-- Something that happened to an ensemble, and the ensemble before it. -/
abbrev EnsembleEpisode := Happening EnsembleEvent Ensemble

namespace EnsembleEpisode

def after (episode : EnsembleEpisode) : Ensemble :=
  episode.before.happen episode.occurrence

/-- The body of a task opens a wait by hand. -/
def opensByHand (position : TaskId) (episode : EnsembleEpisode) : Bool :=
  match episode.occurrence with
  | .happens .work => episode.before.bot.opensByHand position
  | _ => false

end EnsembleEpisode

namespace Ensemble

/-- An ensemble after a sequence of events. -/
abbrev happenAll (events : List EnsembleEvent) (ensemble : Ensemble) :
    Ensemble :=
  Switchboard.happenAll happen events ensemble

/-- How an ensemble can go on, with all that happened on the way. -/
abbrev Run (start : Ensemble) : List EnsembleEpisode → Ensemble → Prop :=
  Switchboard.Run happen start

/-- A bot without any inquiries. -/
def ofBot (bot : World) : Ensemble := { bot }

/-- The subscriptions that the body of a task has made. -/
def MadeBy (position : TaskId) (episodes : List EnsembleEpisode)
    (id : SubscriptionId) : Prop :=
  ∃ episode ∈ episodes,
    episode.before.maker? episode.occurrence = some position ∧
      episode.before.bot.waiter.handoffs.length ≤ id ∧
        id < episode.after.bot.waiter.handoffs.length

/-- The open waits of a body: at the point at which it stands, and in its
inquiries. -/
def openWaits (position : TaskId) (ensemble : Ensemble) : List Wait :=
  ((ensemble.bot.activity? position).bind (·.2.open?)).toList ++
    (inquiriesOf position ensemble.inquiries).filterMap Inquiry.open?

section

variable {made : TaskId → SubscriptionId → Prop} {free : TaskId → Prop}
  {ensemble : Ensemble} {episodes : List EnsembleEpisode} {pid : Pid}
  {process : Process} {config : Config} {commands : Catalogue Handler}
  {horizon : Nat}

theorem madeIn_none (before after : World) :
    madeIn none before after made = made := by
  funext position id
  simp [madeIn]

theorem Balanced.happen_happens (balanced : Balanced made ensemble)
    (occurrence : Occurrence) :
    Balanced (madeIn (ensemble.maker? (.happens occurrence)) ensemble.bot
      (ensemble.happen (.happens occurrence)).bot made)
        (ensemble.happen (.happens occurrence)) := by
  have occurred := (balanced.clear occurrence).occurs occurrence
    fun position work ends => by
      subst work
      exact inquiriesOf_clear ends
  obtain ⟨_, _, rest⟩ := clear_rest occurrence ensemble
  have same : World.madeAfter made
      ⟨(ensemble.clear occurrence).bot, occurrence⟩ =
        madeIn (Episode.mover? ⟨ensemble.bot, occurrence⟩) ensemble.bot
          ((ensemble.clear occurrence).bot.happen occurrence) made := by
    have mover : Episode.mover? ⟨(ensemble.clear occurrence).bot,
        occurrence⟩ = Episode.mover? ⟨ensemble.bot, occurrence⟩ := by
      rw [rest]
      cases occurrence <;> rfl
    have handoffs : (ensemble.clear occurrence).bot.waiter.handoffs =
        ensemble.bot.waiter.handoffs := by
      rw [rest]
    funext position id
    simp only [World.madeAfter, madeIn, mover, handoffs, Episode.after]
  exact same ▸ occurred

theorem Balanced.happen_ends (balanced : Balanced made ensemble)
    (position : TaskId) (outcome : Outcome) :
    Balanced made (ensemble.happen (.ends position outcome)) := by
  unfold Ensemble.happen
  dsimp only
  split
  · rename_i floor
    obtain ⟨_, _, rest⟩ := letGo_rest position ensemble
    have tasks : (ensemble.letGo position).bot.activity? position =
        ensemble.bot.activity? position := by
      rw [rest]
      rfl
    have stillFloor : (ensemble.letGo position).bot.agenda.floor =
        some position := by
      rw [rest]
      exact floor
    refine (balanced.letGo position).close stillFloor ?_ outcome
    rw [tasks]
    rintro ⟨⟨task, activity⟩, stands⟩
    exact inquiriesOf_letGo stands
  · exact balanced

/-- Everything that happens keeps the books. -/
theorem Balanced.happen (balanced : Balanced made ensemble)
    (event : EnsembleEvent) :
    Balanced (madeIn (ensemble.maker? event) ensemble.bot
      (ensemble.happen event).bot made) (ensemble.happen event) := by
  have stays : ∀ maker, Balanced
      (madeIn maker ensemble.bot ensemble.bot made) ensemble :=
    fun _ => (madeIn_of_same rfl).symm ▸ balanced
  cases event with
  | happens occurrence => exact balanced.happen_happens occurrence
  | begins position request =>
      unfold Ensemble.happen maker?
      dsimp only
      cases stands : ensemble.bot.activity? position with
      | none => exact stays _
      | some here => exact balanced.begins stands request
  | steps index =>
      unfold Ensemble.happen maker?
      dsimp only
      cases listed : ensemble.inquiries[index]? with
      | none => exact stays _
      | some entry =>
          obtain ⟨position, inquiry⟩ := entry
          dsimp only
          cases stands : ensemble.bot.activity? position with
          | none => exact stays _
          | some here => exact balanced.steps listed stands
  | drops index =>
      unfold Ensemble.happen maker?
      dsimp only
      rw [madeIn_none]
      cases listed : ensemble.inquiries[index]? with
      | none => exact balanced
      | some entry =>
          obtain ⟨position, inquiry⟩ := entry
          dsimp only
          cases stands : ensemble.bot.activity? position with
          | none => exact balanced
          | some here => exact balanced.drops listed stands
  | ends position outcome =>
      exact (madeIn_none _ _).symm ▸ balanced.happen_ends position outcome

theorem madeIn_madeBy (episode : EnsembleEpisode) :
    madeIn (episode.before.maker? episode.occurrence) episode.before.bot
        episode.after.bot (fun position => MadeBy position episodes) =
      fun position => MadeBy position (episodes ++ [episode]) := by
  funext position id
  simp [madeIn, MadeBy, or_and_right, exists_or]

/-- The books are right in every reachable state. -/
theorem Run.balanced
    (run : Run (ofBot (World.start config commands horizon)) episodes
      ensemble) :
    Balanced (fun position => MadeBy position episodes) ensemble := by
  induction run with
  | start =>
      have nothing : (fun position => MadeBy position []) =
          fun _ _ => False := by
        funext position id
        simp [MadeBy]
      refine ⟨nothing ▸ ?_, fun entry member => by cases member⟩
      refine (World.Orderly.start config commands horizon).imp ?_
      intro position task process agrees
      exact (World.AgreesOver.of_nothing fun _ => rfl).mpr agrees
  | next event _ induction =>
      exact madeIn_madeBy _ ▸ induction.happen event

theorem handwork_letGo (before : World.Handwork free ensemble.bot)
    (position : TaskId) :
    World.Handwork free (ensemble.letGo position).bot := by
  unfold Ensemble.letGo
  split
  · exact before
  · exact (World.StaysBare.of_discreet
      (.abandonInquiries _ _)).handwork before

theorem Balanced.handwork_happens (balanced : Balanced made ensemble)
    (occurrence : Occurrence)
    (spares : ∀ position, free position →
      EnsembleEpisode.opensByHand position ⟨ensemble, .happens occurrence⟩ =
        false)
    (before : World.Handwork free ensemble.bot) :
    World.Handwork free (ensemble.happen (.happens occurrence)).bot := by
  have cleared : World.Handwork free (ensemble.clear occurrence).bot := by
    unfold Ensemble.clear
    split
    · exact handwork_letGo before _
    · exact before
  have books := balanced.clear occurrence
  refine cleared.happen books.inStep ?_ occurrence ?_
  · intro position task activity process stands here
    obtain ⟨found, stage⟩ := World.activity?_eq_some stands
    obtain ⟨_, same, _, agrees⟩ := books.inStep.tasks position task found
    cases here.symm.trans same
    exact ((World.AgreesOver.body stage).mp agrees).1.state
  · rintro position holds rfl
    obtain ⟨_, _, rest⟩ := clear_rest .work ensemble
    rw [rest]
    exact spares position holds

theorem Balanced.handwork_ends (balanced : Balanced made ensemble)
    (before : World.Handwork free ensemble.bot) (position : TaskId)
    (outcome : Outcome) :
    World.Handwork free (ensemble.happen (.ends position outcome)).bot := by
  have letGo := handwork_letGo before position
  have books := balanced.letGo position
  unfold Ensemble.happen
  dsimp only
  split
  · unfold Ensemble.close
    split
    · exact letGo
    · rename_i task activity stands
      obtain ⟨found, _⟩ := World.activity?_eq_some stands
      refine letGo.alone books.inStep found ?_ ?_
        fun process there _ => World.bare_conclude there
      · intro other fellow different known
        exact .giveUp different.symm task
          (books.inStep.apart found other fellow known different).symm
          activity outcome
      · intro pid absent
        have foreign : task.pid ≠ pid := by
          rintro rfl
          obtain ⟨_, here, _⟩ := books.inStep.tasks position task found
          cases here.symm.trans absent
        have beside : World.Beside (position + 1) pid
            (ensemble.letGo position).bot _ :=
          .giveUp (Nat.succ_ne_self position).symm task foreign activity
            outcome
        exact beside.absent absent
  · exact before

theorem Balanced.handwork (balanced : Balanced made ensemble)
    (event : EnsembleEvent)
    (spares : ∀ position, free position →
      EnsembleEpisode.opensByHand position ⟨ensemble, event⟩ = false)
    (before : World.Handwork free ensemble.bot) :
    World.Handwork free (ensemble.happen event).bot := by
  cases event with
  | happens occurrence =>
      exact balanced.handwork_happens occurrence spares before
  | begins position request =>
      unfold Ensemble.happen
      dsimp only
      split
      · exact before
      · exact (World.StaysBare.of_discreet (.startInquiry _)).handwork before
  | steps index =>
      unfold Ensemble.happen
      dsimp only
      split
      · exact before
      · split
        · exact before
        · exact (World.StaysBare.of_discreet (.stepInquiry _)).handwork before
  | drops index =>
      unfold Ensemble.happen
      dsimp only
      split
      · exact before
      · split
        · exact before
        · exact (World.StaysBare.of_discreet
            (.abandonInquiry _ _)).handwork before
  | ends position outcome =>
      exact balanced.handwork_ends before position outcome

theorem Run.handwork
    (run : Run (ofBot (World.start config commands horizon)) episodes
      ensemble) :
    World.Handwork (fun position =>
      ∀ episode ∈ episodes, episode.opensByHand position = false)
      ensemble.bot := by
  induction run with
  | start =>
      intro pid process here
      cases here
  | @next earlier ensemble event prior induction =>
      refine (Run.balanced prior).handwork event ?_ ?_
      · intro position holds
        exact holds _ (List.mem_append_right _ List.mem_cons_self)
      · intro pid process here either
        refine induction pid process here (either.imp_right fun holds => ?_)
        exact fun episode member =>
          holds episode (List.mem_append_left _ member)

theorem handoff_liftAll {world : World} (ids : List SubscriptionId)
    (below : ∀ id ∈ ids, id < world.waiter.handoffs.length)
    (id : SubscriptionId) :
    (world.liftAll ids).waiter.handoff id =
      if id ∈ ids then (world.waiter.handoff id).lift
      else world.waiter.handoff id := by
  induction ids generalizing world with
  | nil => rfl
  | cons first rest induction =>
      let lifted : World :=
        { world with waiter := world.waiter.lift first }.wakeWatchers first
      have one : lifted.waiter.handoff id =
          if first = id then (world.waiter.handoff id).lift
          else world.waiter.handoff id := by
        change ((world.waiter.lift first).handoff id) = _
        rw [Waiter.lift, Waiter.handoff_setHandoff]
        by_cases same : first = id
        · subst same
          simp [below first List.mem_cons_self]
        · simp [same]
      have others : (lifted.liftAll rest).waiter.handoff id =
          if id ∈ rest then (lifted.waiter.handoff id).lift
          else lifted.waiter.handoff id := by
        refine induction fun id member => ?_
        change id < (world.waiter.setHandoff first _).handoffs.length
        rw [Waiter.length_setHandoff]
        exact below id (List.mem_cons_of_mem _ member)
      refine Eq.trans others ?_
      rw [one]
      by_cases same : first = id
      · subst same
        simp [Handoff.lift]
      · simp [same, Ne.symm same]

/-- What a process has to say of its open waits, and what it comes to when
somebody lifts their deadlines. -/
structure Tallies (opened : List Wait) (pid : Pid) (process : Process)
    (bot : World) : Prop where
  waits : process.waits =
    opened.length + process.guards.length + process.marks
  deadlines :
    process.deadlines.Perm (opened.map Wait.subscription ++ process.guards)
  distinct : process.deadlines.Nodup
  phase : process.phase =
    if process.state = .done then .terminated
    else if 0 < opened.length + process.guards.length + process.marks then
      .waiting
    else .runnable
  count : (bot.liftHeld pid).1 = opened.length + process.guards.length
  lifted : ∀ id, (bot.liftHeld pid).2.waiter.handoff id =
    if id ∈ process.deadlines then (bot.waiter.handoff id).lift
    else bot.waiter.handoff id

theorem Tallies.of_books {opened : List Wait} {bot : World}
    {others : SubscriptionId → Prop} {holdings : Holdings}
    (here : bot.processes.all[pid]? = some process)
    (books : Books others holdings process bot.waiter)
    (same : holdings.opened = opened.map Wait.subscription) :
    Tallies opened pid process bot where
  waits := by rw [books.waits, same, List.length_map]
  deadlines := same ▸ books.deadlines
  distinct := by
    rw [books.deadlines.nodup_iff]
    exact (books.opened.append (List.Sublist.refl _)).nodup books.nodup
  phase := by
    rw [Process.phase, books.waits, same, List.length_map]
  count := by
    rw [World.liftHeld, here]
    dsimp only
    rw [books.deadlines.length_eq, same, List.length_append, List.length_map]
  lifted := by
    intro id
    rw [World.liftHeld, here]
    refine handoff_liftAll process.deadlines (fun id member => ?_) id
    apply books.below
    exact (books.opened.append (List.Sublist.refl _)).subset
      (books.deadlines.subset member)

theorem books_of_ended {own : SubscriptionId → Prop} {outcome : Outcome}
    {bot : World} (ended : World.Ended pid own outcome process bot)
    (bare : process.Bare) :
    Books (fun id => ¬own id) {} process bot.waiter where
  waits := by simp [ended.waits, bare.1, bare.2]
  deadlines := by simp [ended.deadlines, bare.1]
  opened := List.Sublist.refl _
  nodup := by simp [bare.1]
  below := by simp [bare.1]
  covers := fun id registered => .inr (ended.registers id registered)

theorem Balanced.openWaits_of_bodiless (balanced : Balanced made ensemble)
    {position : TaskId} {task : ProcessTask}
    (found : ensemble.bot.tasks[position]? = some (.process task))
    (bodiless : ∀ activity, task.stage ≠ .body activity) :
    ensemble.openWaits position = [] := by
  have nowhere : ensemble.bot.activity? position = none := by
    rw [Option.eq_none_iff_forall_not_mem]
    rintro ⟨fellow, activity⟩ stands
    obtain ⟨alike, stage⟩ := World.activity?_eq_some stands
    cases found.symm.trans alike
    exact bodiless activity stage
  have nothing : inquiriesOf position ensemble.inquiries = [] := by
    rw [List.eq_nil_iff_forall_not_mem]
    intro inquiry member
    obtain ⟨_, _, stands⟩ := balanced.bodies _ (mem_inquiriesOf.mp member)
    cases nowhere.symm.trans stands
  rw [openWaits, nowhere, nothing]
  rfl

/-- Either the body has not ended, and the books say what it holds; or it has,
and nothing is left. -/
theorem Balanced.books (balanced : Balanced made ensemble)
    (handwork : World.Handwork free ensemble.bot)
    (here : ensemble.bot.processes.all[pid]? = some process) :
    ∃ holdings : Holdings,
      holdings.opened =
          (ensemble.openWaits process.task).map Wait.subscription ∧
        Books (fun id => ¬made process.task id) holdings process
            ensemble.bot.waiter ∧
          (process.state = .done → holdings.held = [] ∧ process.Bare) := by
  obtain ⟨task, found, rfl⟩ := balanced.inStep.processes pid process here
  obtain ⟨_, same, _, agrees⟩ := balanced.inStep.tasks _ task found
  cases here.symm.trans same
  have ended : ∀ {outcome}, (∀ activity, task.stage ≠ .body activity) →
      World.Ended task.pid (made process.task) outcome process ensemble.bot →
      ∃ holdings : Holdings,
        holdings.opened =
            (ensemble.openWaits process.task).map Wait.subscription ∧
          Books (fun id => ¬made process.task id) holdings process
              ensemble.bot.waiter ∧
            (process.state = .done → holdings.held = [] ∧ process.Bare) := by
    intro outcome bodiless ended
    have bare := handwork _ process here (.inl ended.state)
    refine ⟨{}, ?_, books_of_ended ended bare, fun _ => ⟨rfl, bare⟩⟩
    rw [balanced.openWaits_of_bodiless found bodiless]
    rfl
  unfold World.AgreesOver World.Agrees at agrees
  cases stage : task.stage with
  | unbuilt body =>
      simp only [stage] at agrees
      refine ⟨{}, ?_, agrees.1.books, fun done => absurd done agrees.1.state⟩
      rw [balanced.openWaits_of_bodiless found (by simp [stage])]
      rfl
  | body activity =>
      simp only [stage] at agrees
      refine ⟨_, ?_, agrees.1.books, fun done => absurd done agrees.1.state⟩
      rw [openWaits, World.activity?_of_stage found stage]
      simp [Holdings.over, held, Activity.opened_eq, Inquiry.opened_all_eq,
        Option.toList_map]
  | closing outcome =>
      simp only [stage] at agrees
      exact ended (by simp [stage]) agrees.1
  | announcing outcome sending =>
      simp only [stage] at agrees
      exact ended (by simp [stage]) agrees
  | reporting sending =>
      simp only [stage] at agrees
      exact ended (by simp [stage]) agrees.choose_spec
  | _ =>
      simp only [stage] at agrees
      exact ended (by simp [stage]) agrees.choose_spec

/-- At every moment a process counts exactly the open waits of its body, on top
of those opened by hand, and has exactly their deadlines for lifting; it seems
to be waiting exactly while there are some.  A body that never opens a wait by
hand has none of these on top.  When a process is done there are none at all,
and nothing that its body has subscribed to is registered. -/
theorem waits_accounted
    (run : Run (ofBot (World.start config commands horizon)) episodes ensemble)
    (here : ensemble.bot.processes.all[pid]? = some process) :
    Tallies (ensemble.openWaits process.task) pid process ensemble.bot ∧
    ((∀ episode ∈ episodes, episode.opensByHand process.task = false) →
      process.guards = [] ∧ process.marks = 0) ∧
    (process.state = .done →
      ensemble.openWaits process.task = [] ∧
      process.waits = 0 ∧ process.deadlines = [] ∧
      ∀ id, MadeBy process.task episodes id →
        ¬ensemble.bot.waiter.Registers id) := by
  obtain ⟨holdings, opened, books, done⟩ :=
    run.balanced.books run.handwork here
  refine ⟨.of_books here books opened,
    fun never => run.handwork pid process here (.inr never), fun ended => ?_⟩
  obtain ⟨nothing, bare⟩ := done ended
  have closed : holdings.opened = [] :=
    List.sublist_nil.mp (nothing ▸ books.opened)
  refine ⟨List.map_eq_nil_iff.mp (opened.symm.trans closed), ?_, ?_, ?_⟩
  · simp [books.waits, closed, bare.1, bare.2]
  · simpa [closed, bare.1] using books.deadlines
  · intro id own registered
    rcases books.covers id registered with member | foreign
    · simp [nothing, bare.1] at member
    · exact foreign own

end

/-- A body that asks a question; while it waits for the answer it also waits
for a reaction and asks for confirmation. -/
def juggling : List EnsembleEvent :=
  let command : CommandDef := { name := "juggle", description := "Juggles." }
  let event : Event :=
    ⟨0, "user", "lobby", "lobby", .message "first" ".juggle"⟩
  [.happens (.launch command event ⟨0, "lobby"⟩
      (.ok (.call (.ask "who?" none) fun _ => .result ()))),
    .happens .work, .happens .work,
    .begins 0 (.wait .reaction (fun _ => true) (some 500) "" none),
    .begins 0 (.confirm "sure?" { timeout := some 1000, poll := none }),
    .happens .work, .steps 0, .steps 0, .steps 0]

/-- All three are waiting. -/
def juggler : Ensemble :=
  (ofBot (World.start { accounts := [] } {} hostHorizon)).happenAll juggling

/-- The body has been killed, and it has ended. -/
def jugglerDone : Ensemble :=
  juggler.happenAll
    [.happens (.interrupt 0), .happens .work, .happens .work]

/-- Three waits are open at the same time; when the body has ended nothing is
left of them. -/
theorem juggler_accounted :
    (∃ process, juggler.bot.processes.all[0]? = some process ∧
      process.waits = 3 ∧ process.phase = .waiting ∧
        (juggler.bot.liftHeld 0).1 = 3) ∧
    ∃ process, jugglerDone.bot.processes.all[0]? = some process ∧
      process.state = .done ∧ process.waits = 0 ∧ process.deadlines = [] := by
  have run : Run (ofBot (World.start { accounts := [] } {} hostHorizon)) _
      juggler :=
    .of_occurrences juggling _
  constructor
  · obtain ⟨process, here, task, state⟩ :
        ∃ process, juggler.bot.processes.all[0]? = some process ∧
          process.task = 0 ∧ process.state = .running :=
      ⟨_, rfl, by decide +kernel, by decide +kernel⟩
    have opened : (juggler.openWaits process.task).length = 3 := by
      rw [task]
      decide +kernel
    obtain ⟨tallies, byHand, _⟩ := waits_accounted run here
    obtain ⟨guards, marks⟩ := byHand (by
      rw [task]
      decide +kernel)
    refine ⟨process, here, ?_, ?_, ?_⟩
    · simp [tallies.waits, opened, guards, marks]
    · simp [tallies.phase, opened, state]
    · simp [tallies.count, opened, guards]
  · have goesOn : Run juggler _ jugglerDone :=
      .of_occurrences [EnsembleEvent.happens (.interrupt 0), .happens .work,
        .happens .work] juggler
    have done : Run _ _ jugglerDone := run.trans goesOn
    obtain ⟨process, here, state⟩ :
        ∃ process, jugglerDone.bot.processes.all[0]? = some process ∧
          process.state = .done := ⟨_, rfl, by decide +kernel⟩
    obtain ⟨_, waits, deadlines, _⟩ := (waits_accounted done here).2.2 state
    exact ⟨process, here, state, waits, deadlines⟩

end Ensemble

end Switchboard
