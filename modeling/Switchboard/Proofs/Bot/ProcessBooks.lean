import Mathlib.Data.List.Nodup
import Switchboard.Proofs.Process
import Switchboard.Proofs.Waiter

/-!
# The books of a process

What the point at which a body stands implies about the subscriptions on the
register and about the waits that its process shows as open.  A body holds
some subscriptions, and some of these are open waits; the guards of the
process come on top of them.
-/

namespace Switchboard

/-- What a body holds at the point at which it stands, latest first: its
subscriptions, and those of them that are open waits. -/
structure Holdings where
  held : List SubscriptionId := []
  opened : List SubscriptionId := []

/-- What is held on top of other things. -/
def Holdings.over (holdings rest : Holdings) : Holdings :=
  ⟨holdings.held ++ rest.held, holdings.opened ++ rest.opened⟩

@[simp] theorem Holdings.over_nothing (holdings : Holdings) :
    holdings.over {} = holdings := by
  simp [Holdings.over]

/-- The books of a process: its count of open waits, its deadlines that can be
lifted, and the register.  Subscriptions on the register that are not its own
are `others`. -/
structure Books (others : SubscriptionId → Prop) (holdings : Holdings)
    (process : Process) (waiter : Waiter) : Prop where
  waits : process.waits =
    holdings.opened.length + process.guards.length + process.marks
  deadlines :
    process.deadlines.Perm (holdings.opened ++ process.guards)
  opened : holdings.opened.Sublist holdings.held
  nodup : (holdings.held ++ process.guards).Nodup
  below : ∀ id ∈ holdings.held ++ process.guards,
    id < waiter.handoffs.length
  covers : ∀ id, waiter.Registers id →
    id ∈ holdings.held ++ process.guards ∨ others id

namespace Books

variable {others : SubscriptionId → Prop} {holdings : Holdings}
  {held opened guards : List SubscriptionId} {id : SubscriptionId}
  {process next : Process} {waiter after : Waiter}

theorem of_same (books : Books others holdings process waiter)
    (waits : next.waits = process.waits)
    (deadlines : next.deadlines = process.deadlines)
    (guards : next.guards = process.guards)
    (marks : next.marks = process.marks)
    (handoffs : waiter.handoffs.length ≤ after.handoffs.length)
    (registers : ∀ id, after.Registers id →
      waiter.Registers id ∨ others id) :
    Books others holdings next after where
  waits := by rw [waits, guards, marks, books.waits]
  deadlines := by
    rw [deadlines, guards]
    exact books.deadlines
  opened := books.opened
  nodup := by
    rw [guards]
    exact books.nodup
  below := by
    rw [guards]
    exact fun id member =>
      Nat.lt_of_lt_of_le (books.below id member) handoffs
  covers := by
    rw [guards]
    intro id registered
    rcases registers id registered with before | foreign
    · exact books.covers id before
    · exact .inr foreign

theorem subscribe (books : Books others ⟨held, opened⟩ process waiter)
    (kind : EventKind) (predicate : Event → Bool) :
    Books others ⟨waiter.handoffs.length :: held, opened⟩ process
      (waiter.subscribe kind predicate).2 where
  waits := books.waits
  deadlines := books.deadlines
  opened := books.opened.cons _
  nodup := by
    refine List.nodup_cons.mpr ⟨fun member => ?_, books.nodup⟩
    exact Nat.lt_irrefl _ (books.below _ member)
  below := by
    intro id member
    rw [Waiter.length_subscribe]
    rcases List.mem_cons.mp member with here | later
    · exact here ▸ Nat.lt_succ_self _
    · exact Nat.lt_succ_of_lt (books.below id later)
  covers := by
    intro id registered
    rcases (Waiter.registers_subscribe kind predicate waiter id).mp
      registered with here | before
    · exact .inl (here ▸ List.mem_cons_self)
    · exact (books.covers id before).imp_left (List.mem_cons_of_mem _)

theorem unsubscribe
    (books : Books others ⟨id :: held, opened⟩ process waiter)
    (closed : opened.Sublist held) :
    Books others ⟨held, opened⟩ process (waiter.unsubscribe id) where
  waits := books.waits
  deadlines := books.deadlines
  opened := closed
  nodup := (List.nodup_cons.mp books.nodup).2
  below := fun other member =>
    books.below other (List.mem_cons_of_mem id member)
  covers := by
    intro other registered
    obtain ⟨before, different⟩ :=
      (Waiter.registers_unsubscribe id other waiter).mp registered
    refine (books.covers other before).imp_left fun member => ?_
    exact (List.mem_cons.mp member).resolve_left different

theorem enterWait
    (books : Books others ⟨id :: held, opened⟩ process waiter)
    (closed : opened.Sublist held) :
    Books others ⟨id :: held, id :: opened⟩ (process.enterWait (some id))
      waiter where
  waits := by
    have before := books.waits
    simp only [Process.enterWait, List.length_cons] at before ⊢
    omega
  deadlines := by
    have added : (process.deadlines ++ [id]).Perm
        (id :: (opened ++ process.guards)) :=
      (List.perm_append_singleton id _).trans (books.deadlines.cons id)
    exact added
  opened := closed.cons_cons id
  nodup := books.nodup
  below := books.below
  covers := books.covers

theorem perm_filter_deadlines {deadlines rest : List SubscriptionId}
    (perm : deadlines.Perm (id :: rest)) (absent : id ∉ rest) :
    (deadlines.filter fun other => some other ≠ some id).Perm rest := by
  apply (perm.filter _).trans
  have kept : (id :: rest).filter (fun other => some other ≠ some id) =
      rest := by
    rw [List.filter_cons_of_neg (by simp), List.filter_eq_self]
    intro other member
    have different : other ≠ id := fun same => absent (same ▸ member)
    simpa using different
  rw [kept]

theorem closeWait
    (books : Books others ⟨id :: held, id :: opened⟩ process waiter) :
    Books others ⟨held, opened⟩ (process.leaveWait (some id))
      (waiter.unsubscribe id) := by
  obtain ⟨absent, nodup⟩ := List.nodup_cons.mp books.nodup
  have closed : opened.Sublist held :=
    List.cons_sublist_cons.mp books.opened
  have notOpen : id ∉ opened ++ process.guards := fun member =>
    absent ((closed.append (List.Sublist.refl process.guards)).subset member)
  constructor
  · have before := books.waits
    simp only [Process.leaveWait, List.length_cons] at before ⊢
    omega
  · exact perm_filter_deadlines books.deadlines notOpen
  · exact closed
  · exact nodup
  · exact fun other member =>
      books.below other (List.mem_cons_of_mem id member)
  · intro other registered
    obtain ⟨before, different⟩ :=
      (Waiter.registers_unsubscribe id other waiter).mp registered
    refine (books.covers other before).imp_left fun member => ?_
    exact (List.mem_cons.mp member).resolve_left different

theorem enterGuard (books : Books others ⟨held, opened⟩ process waiter)
    (kind : EventKind) (predicate : Event → Bool) :
    Books others ⟨held, opened⟩
      { process.enterWait (some waiter.handoffs.length) with
        guards := waiter.handoffs.length :: process.guards }
      (waiter.subscribe kind predicate).2 := by
  have subscribed := books.subscribe kind predicate
  have moved : ∀ list : List SubscriptionId,
      (list ++ waiter.handoffs.length :: process.guards).Perm
        (waiter.handoffs.length :: (list ++ process.guards)) :=
    fun _ => List.perm_middle
  constructor
  · have before := books.waits
    simp only [Process.enterWait, List.length_cons] at before ⊢
    omega
  · have added := (List.perm_append_singleton waiter.handoffs.length
      process.deadlines).trans (books.deadlines.cons _)
    exact added.trans (moved opened).symm
  · exact books.opened
  · exact (moved held).nodup_iff.mpr subscribed.nodup
  · exact fun id member => subscribed.below id ((moved held).subset member)
  · intro id registered
    exact (subscribed.covers id registered).imp_left
      fun member => (moved held).symm.subset member

theorem leaveGuard (books : Books others ⟨held, opened⟩ process waiter)
    (newest : process.guards = id :: guards) :
    Books others ⟨held, opened⟩
      { process.leaveWait (some id) with guards := guards }
      (waiter.unsubscribe id) := by
  have moved : ∀ list : List SubscriptionId,
      (list ++ process.guards).Perm (id :: (list ++ guards)) := by
    intro list
    rw [newest]
    exact List.perm_middle
  have nodup := (moved held).nodup_iff.mp books.nodup
  obtain ⟨absent, restNodup⟩ := List.nodup_cons.mp nodup
  have notOpen : id ∉ opened ++ guards := fun member =>
    absent ((books.opened.append (List.Sublist.refl guards)).subset member)
  constructor
  · have before := books.waits
    rw [newest, List.length_cons] at before
    simp only [Process.leaveWait] at before ⊢
    omega
  · exact perm_filter_deadlines (books.deadlines.trans (moved opened))
      notOpen
  · exact books.opened
  · exact restNodup
  · exact fun other member => books.below other
      ((moved held).symm.subset (List.mem_cons_of_mem id member))
  · intro other registered
    obtain ⟨before, different⟩ :=
      (Waiter.registers_unsubscribe id other waiter).mp registered
    refine (books.covers other before).imp_left fun member => ?_
    exact (List.mem_cons.mp ((moved held).subset member)).resolve_left
      different

theorem enterMark (books : Books others holdings process waiter) :
    Books others holdings
      { process.enterWait none with marks := process.marks + 1 } waiter where
  waits := by
    have before := books.waits
    simp only [Process.enterWait] at before ⊢
    omega
  deadlines := by
    simpa [Process.enterWait] using books.deadlines
  opened := books.opened
  nodup := books.nodup
  below := books.below
  covers := books.covers

theorem leaveMark {marks : Nat}
    (books : Books others holdings process waiter)
    (some : process.marks = marks + 1) :
    Books others holdings { process.leaveWait none with marks } waiter where
  waits := by
    have before := books.waits
    simp only [Process.leaveWait] at before ⊢
    omega
  deadlines := by
    have kept : process.deadlines.filter
        (fun id => Option.some id ≠ none) = process.deadlines := by simp
    simp only [Process.leaveWait, kept]
    exact books.deadlines
  opened := books.opened
  nodup := books.nodup
  below := books.below
  covers := books.covers

end Books

end Switchboard
