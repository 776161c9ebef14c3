import Switchboard.Proofs.Bot.SubscriptionHandling

/-!
# What a body awaits beside other things

A body can begin a wait, a question or a confirmation and do something else
before it has ended: go on with its program, begin more of them, let each take
its steps when it likes, or drop one halfway.  Such an inquiry takes the steps
that a body takes which awaits nothing else, and lets go of the same things.
-/

namespace Switchboard

/-- What a body can begin to await. -/
inductive Request where
  | wait (kind : EventKind) (predicate : Event → Bool)
      (timeout : Option Nat) (watched : String) (liveness : Option Liveness)
  | ask (prompt : String) (timeout : Option Nat)
  | confirm (prompt : String) (terms : ConfirmTerms)

/-- Something that is being awaited, at the point at which it stands. -/
inductive Inquiry where
  | waiting (watched : String) (wait : Wait)
  | asking (asking : Asking)
  | confirming (confirming : Confirming)

namespace Inquiry

def open? : Inquiry → Option Wait
  | .waiting _ wait => some wait
  | .asking question => question.open?
  | .confirming confirmation => confirmation.open?

def holdings : Inquiry → Holdings
  | .waiting _ wait => wait.holdings {}
  | .asking question => question.holdings
  | .confirming confirmation => confirmation.holdings

/-- What several inquiries hold together. -/
def holdingsAll (inquiries : List Inquiry) : Holdings :=
  ⟨inquiries.flatMap (·.holdings.held), inquiries.flatMap (·.holdings.opened)⟩

end Inquiry

namespace World

def startInquiry (actor : Actor) (request : Request) (world : World) :
    Inquiry × World :=
  match request with
  | .wait kind predicate timeout watched liveness =>
    let (id, world) := world.subscribe kind predicate
    let (wait, world) :=
      (world.enterWait actor.pid (some id)).startWait id timeout liveness
    (.waiting watched wait, world)
  | .ask prompt timeout =>
    let (asking, world) := world.startAsking actor prompt timeout
    (.asking asking, world)
  | .confirm prompt terms =>
    let (sending, world) := world.startMessage actor.task actor.chat prompt
    (.confirming (.prompting terms sending), world)

/-- One small step of an inquiry; there is nothing left of it when it ends. -/
def stepInquiry (actor : Actor) (inquiry : Inquiry) (world : World) :
    Option Inquiry × World :=
  match inquiry with
  | .waiting watched wait =>
    let (progress, world) := world.stepOpenWait actor watched wait
    (progress.next?.map (.waiting watched), world)
  | .asking asking =>
    let (progress, world) := world.stepAsking actor asking
    (progress.next?.map .asking, world)
  | .confirming confirming =>
    let (progress, world) := world.stepConfirming actor confirming
    (progress.next?.map .confirming, world)

/-- An inquiry is dropped where it stands. -/
def abandonInquiry (pid : Pid) (inquiry : Inquiry) (world : World) : World :=
  match inquiry with
  | .waiting _ wait => world.closeWait pid wait.subscription
  | .asking asking => world.abandonAsking pid asking
  | .confirming confirming => world.abandonConfirming pid confirming

def abandonInquiries (pid : Pid) (inquiries : List Inquiry) (world : World) :
    World :=
  inquiries.foldl (fun world inquiry => world.abandonInquiry pid inquiry) world

end World

namespace Holdings

variable {one two three : Holdings}

/-- The same things are held in some other order. -/
structure Perm (one two : Holdings) : Prop where
  held : one.held.Perm two.held
  opened : one.opened.Perm two.opened

theorem over_assoc (one two three : Holdings) :
    (one.over two).over three = one.over (two.over three) := by
  simp [Holdings.over]

theorem Perm.over_left (same : one.Perm two) (holdings : Holdings) :
    (holdings.over one).Perm (holdings.over two) :=
  ⟨same.held.append_left _, same.opened.append_left _⟩

theorem Perm.swap (one two three : Holdings) :
    (one.over (two.over three)).Perm (two.over (one.over three)) := by
  refine ⟨?_, ?_⟩ <;> simp only [Holdings.over, ← List.append_assoc]
  · exact (List.perm_append_comm).append_right _
  · exact (List.perm_append_comm).append_right _

end Holdings

theorem Books.perm {others : SubscriptionId → Prop} {one two : Holdings}
    {process : Process} {waiter : Waiter}
    (books : Books others one process waiter) (same : one.Perm two)
    (sound : two.opened.Sublist two.held) :
    Books others two process waiter where
  waits := by rw [books.waits, same.opened.length_eq]
  deadlines := books.deadlines.trans (same.opened.append_right _)
  opened := sound
  nodup := (same.held.append_right _).nodup_iff.mp books.nodup
  below := fun id member =>
    books.below id ((same.held.append_right _).mem_iff.mpr member)
  covers := fun id registered =>
    (books.covers id registered).imp_left (same.held.append_right _).mem_iff.mp

theorem Asking.opened_sublist (asking : Asking) :
    asking.holdings.opened.Sublist asking.holdings.held := by
  cases asking with
  | prompting id timeout sending => exact List.nil_sublist _
  | waiting wait => exact List.Sublist.refl _

theorem Confirming.opened_sublist (confirming : Confirming) :
    confirming.holdings.opened.Sublist confirming.holdings.held := by
  cases confirming with
  | prompting | reacting => exact List.nil_sublist _
  | racing prompt reaction deletion deletionTurn =>
      exact (List.nil_sublist _).cons_cons _
  | asking terms asking => exact asking.opened_sublist

theorem Activity.opened_sublist (activity : Activity) :
    activity.holdings.opened.Sublist activity.holdings.held := by
  cases activity with
  | waiting => exact List.Sublist.refl _
  | asking asking next => exact asking.opened_sublist
  | confirming confirming next => exact confirming.opened_sublist
  | _ => exact List.nil_sublist _

namespace Inquiry

theorem opened_sublist (inquiry : Inquiry) :
    inquiry.holdings.opened.Sublist inquiry.holdings.held := by
  cases inquiry with
  | waiting => exact List.Sublist.refl _
  | asking asking => exact asking.opened_sublist
  | confirming confirming => exact confirming.opened_sublist

theorem opened_eq (inquiry : Inquiry) :
    inquiry.holdings.opened =
      (inquiry.open?.map Wait.subscription).toList := by
  cases inquiry with
  | waiting => rfl
  | asking asking =>
      exact (Activity.asking asking fun _ => .result ()).opened_eq
  | confirming confirming =>
      exact (Activity.confirming confirming fun _ => .result ()).opened_eq

theorem holdingsAll_append (one two : List Inquiry) :
    holdingsAll (one ++ two) = (holdingsAll one).over (holdingsAll two) := by
  simp [holdingsAll, Holdings.over]

theorem holdingsAll_singleton (inquiry : Inquiry) :
    holdingsAll [inquiry] = inquiry.holdings := by
  simp [holdingsAll]

theorem holdingsAll_perm {one two : List Inquiry} (same : one.Perm two) :
    (holdingsAll one).Perm (holdingsAll two) :=
  ⟨same.flatMap_right _, same.flatMap_right _⟩

theorem opened_sublist_all (inquiries : List Inquiry) :
    (holdingsAll inquiries).opened.Sublist (holdingsAll inquiries).held := by
  induction inquiries with
  | nil => exact List.Sublist.refl _
  | cons inquiry rest induction =>
      exact inquiry.opened_sublist.append induction

theorem opened_all_eq (inquiries : List Inquiry) :
    (holdingsAll inquiries).opened =
      (inquiries.filterMap open?).map Wait.subscription := by
  induction inquiries with
  | nil => rfl
  | cons inquiry rest induction =>
      have split : (holdingsAll (inquiry :: rest)).opened =
          inquiry.holdings.opened ++ (holdingsAll rest).opened := rfl
      rw [split, induction, opened_eq]
      cases opened : inquiry.open? <;> simp [opened]

end Inquiry

namespace World.Works

variable {actor : Actor} {holdings kept rest : Holdings}
  {world after : World}

theorem above (works : Works actor holdings world kept after)
    (sound : rest.opened.Sublist rest.held) :
    Works actor (holdings.over rest) world (kept.over rest) after where
  frame := works.frame
  books := by
    intro others more process closed here books
    rw [Holdings.over_assoc] at books ⊢
    exact works.books others (rest.over more) process (sound.append closed)
      here books

theorem startInquiry (request : Request) :
    Works actor {} world
      (Inquiry.holdingsAll [(world.startInquiry actor request).1])
      (world.startInquiry actor request).2 := by
  rw [Inquiry.holdingsAll_singleton]
  cases request with
  | wait kind predicate timeout watched liveness =>
      exact (subscribe kind predicate).trans
        (openWait (List.Sublist.refl _) timeout liveness)
  | ask prompt timeout => exact startAsking prompt timeout
  | confirm prompt terms => exact startMessage actor.chat prompt

theorem stepInquiry (inquiry : Inquiry) :
    Works actor (Inquiry.holdingsAll [inquiry]) world
      (Inquiry.holdingsAll (world.stepInquiry actor inquiry).1.toList)
      (world.stepInquiry actor inquiry).2 := by
  rw [Inquiry.holdingsAll_singleton]
  unfold World.stepInquiry
  cases inquiry with
  | waiting watched wait =>
      have works : Works actor (wait.holdings {}) world _ _ :=
        stepOpenWait watched wait {}
      dsimp only
      generalize world.stepOpenWait actor watched wait = result at works
      obtain ⟨progress, after⟩ := result
      cases progress with
      | done result => exact works
      | _ =>
          change Works actor _ world (Inquiry.holdingsAll [_]) after
          rw [Inquiry.holdingsAll_singleton]
          exact works
  | asking asking =>
      have works : Works actor asking.holdings world _ _ := stepAsking asking
      dsimp only
      generalize world.stepAsking actor asking = result at works
      obtain ⟨progress, after⟩ := result
      cases progress with
      | done result => exact works
      | _ =>
          change Works actor _ world (Inquiry.holdingsAll [_]) after
          rw [Inquiry.holdingsAll_singleton]
          exact works
  | confirming confirming =>
      have works : Works actor confirming.holdings world _ _ :=
        stepConfirming confirming
      dsimp only
      generalize world.stepConfirming actor confirming = result at works
      obtain ⟨progress, after⟩ := result
      cases progress with
      | done result => exact works
      | _ =>
          change Works actor _ world (Inquiry.holdingsAll [_]) after
          rw [Inquiry.holdingsAll_singleton]
          exact works

theorem abandonInquiry (inquiry : Inquiry) :
    Works actor inquiry.holdings world {}
      (world.abandonInquiry actor.pid inquiry) := by
  cases inquiry with
  | waiting watched wait => exact closeWait
  | asking asking => exact abandonAsking asking
  | confirming confirming => exact abandonConfirming confirming

theorem abandonInquiries (inquiries : List Inquiry) :
    Works actor (Inquiry.holdingsAll inquiries) world {}
      (world.abandonInquiries actor.pid inquiries) := by
  induction inquiries generalizing world with
  | nil => exact refl world
  | cons inquiry rest induction =>
      exact ((abandonInquiry inquiry).above
        (Inquiry.opened_sublist_all rest)).trans induction

end World.Works

namespace World

theorem abandonInquiry_rest (pid : Pid) (inquiry : Inquiry) (world : World) :
    ∃ processes register, world.abandonInquiry pid inquiry =
      { world with
        processes, waiter := { world.waiter with register } } := by
  have asks : ∀ asking : Asking, ∃ processes register,
      world.abandonAsking pid asking =
        { world with
          processes, waiter := { world.waiter with register } } := by
    intro asking
    cases asking <;> exact ⟨_, _, rfl⟩
  cases inquiry with
  | waiting watched wait => exact ⟨_, _, rfl⟩
  | asking asking => exact asks asking
  | confirming confirming =>
      cases confirming with
      | prompting | reacting | racing => exact ⟨_, _, rfl⟩
      | asking terms asking => exact asks asking

theorem abandonInquiries_rest (pid : Pid) (inquiries : List Inquiry)
    (world : World) :
    ∃ processes register, world.abandonInquiries pid inquiries =
      { world with
        processes, waiter := { world.waiter with register } } := by
  induction inquiries generalizing world with
  | nil => exact ⟨_, _, rfl⟩
  | cons inquiry rest induction =>
      obtain ⟨_, _, dropped⟩ := abandonInquiry_rest pid inquiry world
      obtain ⟨processes, register, others⟩ :=
        induction (world.abandonInquiry pid inquiry)
      refine ⟨processes, register, others.trans ?_⟩
      rw [dropped]

end World

end Switchboard
