import Mathlib.Data.List.Perm.Basic
import Switchboard.Proofs.Bot.Ensemble

/-!
# The books of bodies that await several things at a time

At every moment a process shows as open exactly the waits that its body has
open, at the point at which it stands and in its inquiries, on top of those
that the body has opened by hand.  Everything that happens keeps this, whatever
is begun, stepped, dropped, killed or ended in whatever order.
-/

namespace Switchboard

namespace Ensemble

variable {position other : TaskId} {inquiry : Inquiry}
  {one two : List (TaskId × Inquiry)}

theorem inquiriesOf_append (position : TaskId)
    (one two : List (TaskId × Inquiry)) :
    inquiriesOf position (one ++ two) =
      inquiriesOf position one ++ inquiriesOf position two :=
  List.filterMap_append

theorem inquiriesOf_perm (same : one.Perm two) :
    (inquiriesOf position one).Perm (inquiriesOf position two) :=
  same.filterMap _

theorem inquiriesOf_own (position : TaskId) (own : List Inquiry) :
    inquiriesOf position (own.map (position, ·)) = own := by
  simp [inquiriesOf, List.filterMap_map]

theorem inquiriesOf_foreign (different : other ≠ position)
    (own : List Inquiry) :
    inquiriesOf other (own.map (position, ·)) = [] := by
  simp [inquiriesOf, List.filterMap_map, different.symm]

theorem inquiriesOf_rest (position : TaskId)
    (inquiries : List (TaskId × Inquiry)) :
    inquiriesOf position (inquiries.filter (·.1 ≠ position)) = [] := by
  rw [inquiriesOf, List.filterMap_eq_nil_iff]
  rintro ⟨other, inquiry⟩ member
  have different := (List.mem_filter.mp member).2
  simpa using different

theorem mem_inquiriesOf {inquiries : List (TaskId × Inquiry)} :
    inquiry ∈ inquiriesOf position inquiries ↔
      (position, inquiry) ∈ inquiries := by
  simp only [inquiriesOf, List.mem_filterMap, Prod.exists,
    Option.ite_none_right_eq_some, Option.some.injEq]
  constructor
  · rintro ⟨_, _, member, rfl, rfl⟩
    exact member
  · exact fun member => ⟨position, inquiry, member, rfl, rfl⟩

theorem regroup (position : TaskId) (inquiries : List (TaskId × Inquiry)) :
    inquiries.Perm ((inquiriesOf position inquiries).map (position, ·) ++
      inquiries.filter (·.1 ≠ position)) := by
  induction inquiries with
  | nil => exact .refl _
  | cons entry rest induction =>
      obtain ⟨other, inquiry⟩ := entry
      by_cases same : other = position
      · subst same
        simpa [inquiriesOf] using induction.cons (other, inquiry)
      · have kept : (other, inquiry) :: rest.filter (·.1 ≠ position) =
            ((other, inquiry) :: rest).filter (·.1 ≠ position) := by
          simp [same]
        have listed : inquiriesOf position ((other, inquiry) :: rest) =
            inquiriesOf position rest := by
          simp [inquiriesOf, same]
        rw [← kept, listed]
        exact (induction.cons _).trans List.perm_middle.symm

/-- What a body holds by its inquiries. -/
def held (inquiries : List (TaskId × Inquiry)) (position : TaskId) :
    Holdings :=
  Inquiry.holdingsAll (inquiriesOf position inquiries)

theorem held_append (one two : List (TaskId × Inquiry))
    (position : TaskId) :
    held (one ++ two) position = (held one position).over
      (held two position) := by
  rw [held, inquiriesOf_append, Inquiry.holdingsAll_append, held, held]

theorem held_own (position : TaskId) (own : List Inquiry) :
    held (own.map (position, ·)) position = Inquiry.holdingsAll own := by
  rw [held, inquiriesOf_own]

theorem held_foreign (different : other ≠ position) (own : List Inquiry)
    (rest : List (TaskId × Inquiry)) :
    held (own.map (position, ·) ++ rest) other = held rest other := by
  rw [held, inquiriesOf_append, inquiriesOf_foreign different,
    List.nil_append, held]

theorem held_of_none (none : inquiriesOf position one = []) :
    held one position = {} := by
  rw [held, none]
  rfl

/-- Tasks and processes agree on top of the inquiries, and only bodies that
have not ended have any. -/
structure Balanced (made : TaskId → SubscriptionId → Prop)
    (ensemble : Ensemble) : Prop where
  inStep :
    World.InStep (World.AgreesOver (held ensemble.inquiries)) made ensemble.bot
  bodies : ∀ entry ∈ ensemble.inquiries, ∃ task activity,
    ensemble.bot.activity? entry.1 = some (task, activity)

end Ensemble

/-- What was made once a task has made all subscriptions that are new. -/
def madeIn (maker : Option TaskId) (before after : World)
    (made : TaskId → SubscriptionId → Prop) : TaskId → SubscriptionId → Prop :=
  fun position id => made position id ∨ (maker = some position ∧
    before.waiter.handoffs.length ≤ id ∧ id < after.waiter.handoffs.length)

theorem madeIn_of_same {maker : Option TaskId} {before after : World}
    {made : TaskId → SubscriptionId → Prop}
    (same : after.waiter.handoffs = before.waiter.handoffs) :
    madeIn maker before after made = made := by
  funext position id
  rw [madeIn, same, eq_iff_iff, or_iff_left_iff_imp]
  rintro ⟨_, fresh, below⟩
  exact absurd below (Nat.not_lt_of_le fresh)

theorem madeIn_of_other {before after : World}
    {made : TaskId → SubscriptionId → Prop} {position other : TaskId}
    (different : other ≠ position) :
    madeIn (some position) before after made other = made other := by
  funext id
  simp [madeIn, different.symm]

namespace World

section

variable {one two : TaskId → Holdings} {position : TaskId}
  {task : ProcessTask} {activity : Activity}
  {own grown : SubscriptionId → Prop} {process : Process} {world : World}

theorem Alive.perm {pid : Pid} {one two : Holdings}
    (same : one.Perm two) (sound : two.opened.Sublist two.held)
    (alive : Alive pid own one process world) :
    Alive pid own two process world :=
  { alive with books := alive.books.perm same sound }

theorem AgreesOver.perm (same : (one position).Perm (two position))
    (sound : (two position).opened.Sublist (two position).held)
    (agrees : AgreesOver one position task own process world) :
    AgreesOver two position task own process world := by
  unfold AgreesOver at agrees ⊢
  split
  · rename_i activity stage
    rw [stage] at agrees
    obtain ⟨alive, waiting⟩ := agrees
    exact ⟨alive.perm (same.over_left _)
      (activity.opened_sublist.append sound), waiting⟩
  · rename_i notBody
    split at agrees
    · rename_i activity stage
      exact absurd stage (notBody activity)
    · exact agrees

theorem endingBody?_of_end {outcome : Outcome}
    (floor : world.agenda.floor = some position)
    (stands : world.activity? position = some (task, activity))
    (ends : activity.end? = some outcome) :
    world.endingBody? = some position := by
  simp [endingBody?, mover?, floor, stands, ends]

theorem endingBody?_of_killed (mover : world.mover? = some position)
    (floor : world.agenda.floor = none)
    (stands : world.activity? position = some (task, activity))
    (killed : world.isKilled task.pid = true) :
    world.endingBody? = some position := by
  simp [endingBody?, mover, floor, stands, killed]

theorem endingBody?_eq_some (ends : world.endingBody? = some position) :
    world.mover? = some position ∧
      ∃ task activity, world.activity? position = some (task, activity) := by
  obtain ⟨mover, moves, rest⟩ := Option.bind_eq_some_iff.mp ends
  obtain ⟨⟨task, activity⟩, stands, same⟩ := Option.bind_eq_some_iff.mp rest
  dsimp only at same
  split at same <;> split at same <;> cases same
  · exact ⟨moves, task, activity, stands⟩
  · exact ⟨moves, task, activity, stands⟩

/-- The turn of a body that does not end with it. -/
theorem AgreesOver.turn {held : TaskId → Holdings}
    (sound : (held position).opened.Sublist (held position).held)
    (stands : world.activity? position = some (task, activity))
    (mover : world.mover? = some position)
    (goesOn : world.endingBody? ≠ some position)
    (gains : Gains own grown world.waiter)
    (here : world.processes.all[task.pid]? = some process)
    (sameTask : process.task = position)
    (agrees : AgreesOver held position task own process world) :
    ∃ next found, (world.happen .work).tasks[position]? =
        some (.process { task with stage := .body next }) ∧
      (world.happen .work).processes.all[task.pid]? = some found ∧
        found.task = position ∧
          AgreesOver held position { task with stage := .body next } grown
            found (world.happen .work) := by
  obtain ⟨found, stage⟩ := activity?_eq_some stands
  obtain ⟨alive, waiting⟩ := (AgreesOver.body stage).mp agrees
  have works := Works.stepActivity (actorOf position task) activity world
  obtain ⟨last, there, lastTask, lastAlive, woken⟩ :=
    alive.works_over sound works gains here
  have wokenThen : last.killed = true → position ∈ (world.stepActivity
      (actorOf position task) activity).2.agenda.ready := by
    intro killed
    have stays := woken (fun before => sameTask.symm ▸ waiting before) killed
    rwa [sameTask] at stays
  have known : position < (world.stepActivity (actorOf position task)
      activity).2.tasks.length := by
    rw [works.frame.tasks]
    exact (List.getElem?_eq_some_iff.mp found).1
  have turned := stride stands mover
  generalize world.happen .work = after at turned ⊢
  cases turned with
  | @steps next middle floor stepped =>
      rw [stepped] at there lastAlive wokenThen known
      exact ⟨next, last, List.getElem?_set_self known, there,
        lastTask.trans sameTask, (AgreesOver.body rfl).mpr
          ⟨lastAlive.of_same rfl rfl rfl, wokenThen⟩⟩
  | @rests next middle floor stepped =>
      rw [stepped] at there lastAlive wokenThen known
      exact ⟨next, last, List.getElem?_set_self known, there,
        lastTask.trans sameTask, (AgreesOver.body rfl).mpr
          ⟨lastAlive.of_same rfl rfl rfl, wokenThen⟩⟩
  | ends floor ending =>
      exact absurd (endingBody?_of_end floor stands ending) goesOn
  | enters floor spared =>
      refine ⟨activity, process, ?_, here, sameTask, (AgreesOver.body rfl).mpr
        ⟨(alive.grow gains).of_same rfl rfl rfl, fun killed => ?_⟩⟩
      · rw [← stage]
        exact found
      · rw [isKilled, here, Option.map_some, Option.getD_some] at spared
        exact Bool.noConfusion (spared.symm.trans killed)
  | givenUp floor killed =>
      exact absurd (endingBody?_of_killed mover floor stands killed) goesOn

theorem InStep.imp {accord later : Accord}
    {made : TaskId → SubscriptionId → Prop} (orderly : InStep accord made world)
    (implies : ∀ (position : TaskId) (task : ProcessTask) (process : Process),
      accord position task (made position) process world →
        later position task (made position) process world) :
    InStep later made world :=
  { orderly with
    tasks := by
      intro position task found
      obtain ⟨process, here, sameTask, agrees⟩ :=
        orderly.tasks position task found
      exact ⟨process, here, sameTask, implies _ _ _ agrees⟩ }

end

end World

namespace Ensemble

section

variable {made : TaskId → SubscriptionId → Prop} {bot after : World}
  {position : TaskId} {task : ProcessTask} {activity : Activity}
  {inquiries others : List (TaskId × Inquiry)}
  {ensemble : Ensemble}

theorem held_sublist (inquiries : List (TaskId × Inquiry))
    (position : TaskId) :
    (held inquiries position).opened.Sublist (held inquiries position).held :=
  Inquiry.opened_sublist_all _

namespace Balanced

theorem perm (same : inquiries.Perm others)
    (balanced : Balanced made ⟨bot, inquiries⟩) :
    Balanced made ⟨bot, others⟩ where
  inStep := balanced.inStep.imp fun position _ _ agrees =>
    agrees.perm (Inquiry.holdingsAll_perm (inquiriesOf_perm same))
      (held_sublist others position)
  bodies := fun entry member =>
    balanced.bodies entry (same.mem_iff.mpr member)

/-- A body works at some of its inquiries: `removed` is what they were, and
`added` is what has become of them. -/
theorem work (removed added : List Inquiry)
    (balanced : Balanced made ⟨bot, removed.map (position, ·) ++ others⟩)
    (stands : bot.activity? position = some (task, activity))
    (works : World.Works (World.actorOf position task)
      (Inquiry.holdingsAll removed) bot (Inquiry.holdingsAll added) after) :
    Balanced (madeIn (some position) bot after made)
      ⟨after, added.map (position, ·) ++ others⟩ := by
  obtain ⟨inStep, bodies⟩ := balanced
  dsimp only at inStep bodies
  obtain ⟨found, stage⟩ := World.activity?_eq_some stands
  have sameTasks : ∀ other, after.activity? other = bot.activity? other := by
    intro other
    rw [World.activity?, works.frame.tasks, World.activity?]
  have beside : ∀ (other : TaskId) (pid : Pid), other ≠ position →
      pid ≠ task.pid → World.Beside other pid bot after :=
    fun other pid different foreign =>
      .of_frame works.frame different.symm foreign
  refine ⟨inStep.alone found ?_ beside ?_ ?_, ?_⟩
  · obtain ⟨process, here, sameTask, agrees⟩ :=
      inStep.tasks position task found
    obtain ⟨alive, waiting⟩ := (World.AgreesOver.body stage).mp agrees
    -- the inquiries that are worked at go before all else that is held
    let rest := activity.holdings.over (held others position)
    have sound : rest.opened.Sublist rest.held :=
      activity.opened_sublist.append (held_sublist others position)
    have begins : World.Alive task.pid (made position)
        ((Inquiry.holdingsAll removed).over rest) process bot := by
      refine alive.perm ?_ ((Inquiry.opened_sublist_all removed).append sound)
      rw [held_append, held_own]
      exact .swap _ _ _
    have gains : World.Gains (made position)
        (madeIn (some position) bot after made position) bot.waiter :=
      ⟨inStep.listed, fun id holds => holds.imp_right (·.2.1)⟩
    obtain ⟨next, there, nextTask, nextAlive, woken⟩ :=
      begins.works_over sound works gains here
    refine ⟨task.stage, next, works.frame.tasks ▸ found, there,
      nextTask.trans sameTask, (World.AgreesOver.body stage).mpr ⟨?_, ?_⟩⟩
    · refine nextAlive.perm ?_
        (activity.opened_sublist.append (held_sublist _ position))
      rw [held_append, held_own]
      exact .swap _ _ _
    · intro killed
      have stays := woken (fun before => sameTask.symm ▸ waiting before) killed
      rwa [sameTask] at stays
  · intro other fellow process different beside here sameTask agrees
    rw [madeIn_of_other different]
    refine agrees.beside ?_ beside (inStep.made_below other) here sameTask
    exact (held_foreign different added others).trans
      (held_foreign different removed others).symm
  · rintro other id (before | ⟨same, _, below⟩)
    · exact .inl before
    · exact .inr ⟨(Option.some.inj same).symm, below⟩
  · intro entry member
    dsimp only at member ⊢
    rw [sameTasks]
    rcases List.mem_append.mp member with own | foreign
    · obtain ⟨inquiry, _, rfl⟩ := List.mem_map.mp own
      exact ⟨task, activity, stands⟩
    · exact bodies entry (List.mem_append_right _ foreign)

theorem begins (balanced : Balanced made ⟨bot, inquiries⟩)
    (stands : bot.activity? position = some (task, activity))
    (request : Request) :
    Balanced (madeIn (some position) bot
        (bot.startInquiry (World.actorOf position task) request).2 made)
      ⟨(bot.startInquiry (World.actorOf position task) request).2,
        (position, (bot.startInquiry (World.actorOf position task)
          request).1) :: inquiries⟩ :=
  work [] [_] balanced stands (.startInquiry request)

theorem extract {index : Nat} {inquiry : Inquiry}
    (listed : inquiries[index]? = some (position, inquiry)) :
    inquiries.Perm
      ([inquiry].map (position, ·) ++ inquiries.eraseIdx index) := by
  obtain ⟨inside, same⟩ := List.getElem?_eq_some_iff.mp listed
  have taken := List.getElem_cons_eraseIdx_perm inside
  rw [same] at taken
  exact taken.symm

theorem steps (balanced : Balanced made ⟨bot, inquiries⟩) {index : Nat}
    {inquiry : Inquiry}
    (listed : inquiries[index]? = some (position, inquiry))
    (stands : bot.activity? position = some (task, activity)) :
    Balanced (madeIn (some position) bot
        (bot.stepInquiry (World.actorOf position task) inquiry).2 made)
      ⟨(bot.stepInquiry (World.actorOf position task) inquiry).2,
        (bot.stepInquiry (World.actorOf position task) inquiry).1.toList.map
          (position, ·) ++ inquiries.eraseIdx index⟩ :=
  work [inquiry] _ (balanced.perm (extract listed)) stands
    (.stepInquiry inquiry)

theorem drops (balanced : Balanced made ⟨bot, inquiries⟩) {index : Nat}
    {inquiry : Inquiry}
    (listed : inquiries[index]? = some (position, inquiry))
    (stands : bot.activity? position = some (task, activity)) :
    Balanced made ⟨bot.abandonInquiry task.pid inquiry,
      inquiries.eraseIdx index⟩ := by
  have dropped : World.Works (World.actorOf position task)
      (Inquiry.holdingsAll [inquiry]) bot (Inquiry.holdingsAll [])
      (bot.abandonInquiry task.pid inquiry) := by
    rw [Inquiry.holdingsAll_singleton]
    exact .abandonInquiry inquiry
  have after := work [inquiry] [] (balanced.perm (extract listed)) stands
    dropped
  have same : (bot.abandonInquiry task.pid inquiry).waiter.handoffs =
      bot.waiter.handoffs := by
    obtain ⟨_, _, rest⟩ := World.abandonInquiry_rest task.pid inquiry bot
    rw [rest]
  rwa [madeIn_of_same same] at after

end Balanced

theorem letGo_rest (position : TaskId) (ensemble : Ensemble) :
    ∃ processes register, (ensemble.letGo position).bot =
      { ensemble.bot with
        processes, waiter := { ensemble.bot.waiter with register } } := by
  unfold letGo
  split
  · exact ⟨_, _, rfl⟩
  · exact World.abandonInquiries_rest _ _ _

theorem clear_rest (occurrence : Occurrence) (ensemble : Ensemble) :
    ∃ processes register, (ensemble.clear occurrence).bot =
      { ensemble.bot with
        processes, waiter := { ensemble.bot.waiter with register } } := by
  unfold clear
  split
  · exact letGo_rest _ ensemble
  · exact ⟨_, _, rfl⟩

theorem inquiriesOf_letGo (stands : ensemble.bot.activity? position =
      some (task, activity)) :
    inquiriesOf position (ensemble.letGo position).inquiries = [] := by
  rw [letGo, stands]
  exact inquiriesOf_rest position ensemble.inquiries

theorem inquiriesOf_clear
    (ends : (ensemble.clear .work).bot.endingBody? = some position) :
    inquiriesOf position (ensemble.clear .work).inquiries = [] := by
  have mover := (World.endingBody?_eq_some ends).1
  obtain ⟨_, _, rest⟩ := clear_rest .work ensemble
  rw [rest] at mover
  have moves : ensemble.bot.mover? = some position := mover
  unfold clear at ends ⊢
  cases ending : ensemble.bot.endingBody? with
  | none =>
      rw [ending] at ends
      cases ending.symm.trans ends
  | some other =>
      obtain ⟨otherMoves, task, activity, stands⟩ :=
        World.endingBody?_eq_some ending
      cases moves.symm.trans otherMoves
      exact inquiriesOf_letGo stands

namespace Balanced

theorem letGo (balanced : Balanced made ensemble) (position : TaskId) :
    Balanced made (ensemble.letGo position) := by
  unfold Ensemble.letGo
  split
  · exact balanced
  · rename_i task activity stands
    let own := inquiriesOf position ensemble.inquiries
    have dropped : World.Works (World.actorOf position task)
        (Inquiry.holdingsAll own) ensemble.bot (Inquiry.holdingsAll [])
        (ensemble.bot.abandonInquiries task.pid own) := .abandonInquiries own
    have same : (ensemble.bot.abandonInquiries task.pid own).waiter.handoffs =
        ensemble.bot.waiter.handoffs := by
      obtain ⟨_, _, rest⟩ :=
        World.abandonInquiries_rest task.pid own ensemble.bot
      rw [rest]
    have after := work own []
      (balanced.perm (regroup position ensemble.inquiries)) stands dropped
    rwa [madeIn_of_same same] at after

theorem clear (balanced : Balanced made ensemble) (occurrence : Occurrence) :
    Balanced made (ensemble.clear occurrence) := by
  unfold Ensemble.clear
  split
  · exact balanced.letGo _
  · exact balanced

/-- A task of a process stays one when something happens, and a body with
inquiries stays one that has not ended. -/
theorem stands (balanced : Balanced made ⟨bot, inquiries⟩)
    (occurrence : Occurrence)
    (free : occurrence = .work → bot.endingBody? = some position →
      inquiriesOf position inquiries = [])
    (found : bot.tasks[position]? = some (.process task)) :
    ∃ stage process, (bot.happen occurrence).tasks[position]? =
        some (.process { task with stage }) ∧
      (bot.happen occurrence).processes.all[task.pid]? = some process ∧
        process.task = position ∧
          World.AgreesOver (held inquiries) position { task with stage }
              (World.madeAfter made ⟨bot, occurrence⟩ position) process
              (bot.happen occurrence) ∧
            (inquiriesOf position inquiries ≠ [] →
              ∃ activity, stage = .body activity) := by
  obtain ⟨inStep, bodies⟩ := balanced
  dsimp only at inStep bodies
  obtain ⟨process, here, sameTask, agrees⟩ := inStep.tasks position task found
  have body : inquiriesOf position inquiries ≠ [] →
      ∃ activity, task.stage = .body activity := by
    intro some
    obtain ⟨inquiry, member⟩ := List.exists_mem_of_ne_nil _ some
    obtain ⟨fellow, activity, stands⟩ :=
      bodies _ (mem_inquiriesOf.mp member)
    obtain ⟨found', stage⟩ := World.activity?_eq_some stands
    cases found.symm.trans found'
    exact ⟨activity, stage⟩
  by_cases mover : Episode.mover? ⟨bot, occurrence⟩ = some position
  · obtain ⟨rfl, moves⟩ := Episode.mover?_eq_some mover
    have gains : World.Gains (made position)
        (World.madeAfter made ⟨bot, .work⟩ position) bot.waiter :=
      ⟨inStep.listed, fun id holds => holds.imp_right (·.2.1)⟩
    by_cases none : inquiriesOf position inquiries = []
    · have plain : ∀ {task : ProcessTask} {own : SubscriptionId → Prop}
          {process : Process} {world : World},
          World.AgreesOver (held inquiries) position task own process world ↔
            World.Agrees position task own process world :=
        World.AgreesOver.of_nothing fun _ => held_of_none none
      obtain ⟨stage, next, there, now, nextTask, kept⟩ :=
        (plain.mp agrees).turn found moves gains here sameTask
      exact ⟨stage, next, there, now, nextTask, plain.mpr kept,
        absurd none⟩
    · obtain ⟨activity, stage⟩ := body none
      obtain ⟨next, found', there, now, nextTask, kept⟩ :=
        agrees.turn (held_sublist inquiries position)
          (World.activity?_of_stage found stage) moves
          (fun ends => none (free rfl ends)) gains here sameTask
      exact ⟨.body next, found', there, now, nextTask, kept,
        fun _ => ⟨next, rfl⟩⟩
  · have beside := inStep.beside found occurrence mover
    have same : World.madeAfter made ⟨bot, occurrence⟩ position =
        made position := by
      funext id
      simp [World.madeAfter, mover]
    obtain ⟨next, there, nextTask, kept⟩ :=
      agrees.beside rfl beside (inStep.made_below position) here sameTask
    exact ⟨task.stage, next, beside.task.trans found, there, nextTask,
      same ▸ kept, body⟩

theorem occurs (balanced : Balanced made ⟨bot, inquiries⟩)
    (occurrence : Occurrence)
    (free : ∀ position, occurrence = .work →
      bot.endingBody? = some position →
        inquiriesOf position inquiries = []) :
    Balanced (World.madeAfter made ⟨bot, occurrence⟩)
      ⟨bot.happen occurrence, inquiries⟩ := by
  refine ⟨balanced.inStep.happen occurrence (fun position task found => ?_)
    fun unbuilt agrees => ?_, fun entry member => ?_⟩
  · obtain ⟨stage, process, there, now, sameTask, kept, _⟩ :=
      balanced.stands occurrence (free position) found
    exact ⟨stage, process, there, now, sameTask, kept⟩
  · obtain ⟨program, stage⟩ := unbuilt
    refine (World.AgreesOver.of_nothing fun body => ?_).mpr agrees
    obtain ⟨activity, same⟩ := body
    cases stage.symm.trans same
  · obtain ⟨position, inquiry⟩ := entry
    obtain ⟨task, activity, stands⟩ := balanced.bodies _ member
    obtain ⟨found, _⟩ := World.activity?_eq_some stands
    obtain ⟨stage, process, there, _, _, _, body⟩ :=
      balanced.stands occurrence (free position) found
    obtain ⟨next, same⟩ :=
      body (List.ne_nil_of_mem (mem_inquiriesOf.mpr member))
    exact ⟨_, next, World.activity?_of_stage there same⟩

/-- A body without inquiries ends where it stands. -/
theorem close (balanced : Balanced made ensemble)
    (floor : ensemble.bot.agenda.floor = some position)
    (none : (∃ here, ensemble.bot.activity? position = some here) →
      inquiriesOf position ensemble.inquiries = [])
    (outcome : Outcome) : Balanced made (ensemble.close position outcome) := by
  unfold Ensemble.close
  split
  · exact balanced
  · rename_i task activity stands
    obtain ⟨found, stage⟩ := World.activity?_eq_some stands
    have abandoned := World.Works.abandon (World.actorOf position task)
      activity ensemble.bot
    have free := none ⟨_, stands⟩
    have beside : ∀ (other : TaskId) (pid : Pid), other ≠ position →
        pid ≠ task.pid → World.Beside other pid ensemble.bot
          ((ensemble.bot.abandon (World.actorOf position task)
            activity).conclude position task outcome) :=
      fun other pid different foreign =>
        .giveUp different.symm task foreign.symm activity outcome
    refine ⟨balanced.inStep.alone found ?_ beside ?_ fun _ _ => .inl,
      fun entry member => ?_⟩
    · obtain ⟨process, here, sameTask, agrees⟩ :=
        balanced.inStep.tasks position task found
      obtain ⟨alive, _⟩ := (World.AgreesOver.body stage).mp agrees
      rw [held_of_none free, Holdings.over_nothing] at alive
      obtain ⟨next, there, nextTask, nextAlive, _⟩ :=
        alive.works abandoned ⟨balanced.inStep.listed, fun _ => .inl⟩ here
      have known : position < (ensemble.bot.abandon
          (World.actorOf position task) activity).tasks.length := by
        rw [abandoned.frame.tasks]
        exact (List.getElem?_eq_some_iff.mp found).1
      have concluded : World.Stands position task (made position)
          ((ensemble.bot.abandon (World.actorOf position task)
            activity).conclude position task outcome) :=
        World.stands_conclude known
          (abandoned.frame.agenda.floor.trans floor) there
          (nextTask.trans sameTask) nextAlive
      obtain ⟨stage, last, set, now, lastTask, kept⟩ := concluded
      exact ⟨stage, last, set, now, lastTask,
        (World.AgreesOver.of_nothing fun _ => held_of_none free).mpr kept⟩
    · intro other fellow process _ beside here sameTask agrees
      exact agrees.beside rfl beside (balanced.inStep.made_below other) here
        sameTask
    · obtain ⟨other, inquiry⟩ := entry
      obtain ⟨fellow, activity, there⟩ := balanced.bodies _ member
      have different : other ≠ position := by
        rintro rfl
        exact absurd free (List.ne_nil_of_mem (mem_inquiriesOf.mpr member))
      refine ⟨fellow, activity, ?_⟩
      rw [World.activity?, (beside other (task.pid + 1) different
        (Nat.succ_ne_self _)).task]
      exact there

end Balanced

end

end Ensemble

end Switchboard
