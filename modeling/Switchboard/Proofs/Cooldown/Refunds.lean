import Mathlib.Data.List.Induction
import Switchboard.Proofs.Cooldown

/-!
# Which use a refund takes back

A reservation names its use by the bucket, the key and the moment at which the
cooldown ends.  A log keeps every recorded use apart by its number, so it can
be told which use a running cooldown belongs to: always to the newest one of
its key.  A refund therefore reaches the newest use of the key if that use
ends at the same moment as the one that is given back, and nothing else.
-/

namespace Switchboard

/-- A use that has been recorded, and the reservation that was handed out for
it, if it was asked for. -/
structure RecordedUse where
  bucket : String
  key : String
  moment : Nat
  /-- The window of the bucket at that moment. -/
  window : Nat
  reservation : Option Reservation
deriving DecidableEq, Repr

namespace RecordedUse

/-- When the cooldown of the use ends. -/
def ends (use : RecordedUse) : Nat := use.moment + use.window

/-- The use counts against this key. -/
def Of (bucket key : String) (use : RecordedUse) : Prop :=
  use.bucket = bucket ∧ use.key = key

instance (bucket key : String) (use : RecordedUse) :
    Decidable (use.Of bucket key) :=
  inferInstanceAs (Decidable (_ ∧ _))

/-- The newest of these uses of a key, with its number. -/
structure Newest (bucket key : String) (uses : List RecordedUse)
    (number : Nat) (use : RecordedUse) : Prop where
  recorded : uses[number]? = some use
  ofKey : use.Of bucket key
  last : ∀ (later : Nat) (other : RecordedUse), number < later →
    uses[later]? = some other → ¬other.Of bucket key

end RecordedUse

/-- Something that is done to cooldowns, or the passing of time. -/
inductive CooldownEvent where
  | configure (bucket : String) (window : Nat)
  | check (bucket key : String)
  | register (bucket key : String)
  | acquire (bucket key : String)
  /-- Gives back the use with this number, if a reservation was handed out
  for it. -/
  | release (number : Nat)
  | pass (span : Nat)
deriving DecidableEq, Repr

/-- Cooldowns, the clock, and all uses in the order in which they were
recorded. -/
structure CooldownLog where
  now : Nat := 0
  cooldowns : Cooldowns
  uses : List RecordedUse := []
deriving DecidableEq, Repr

namespace CooldownLog

def reservation? (number : Nat) (log : CooldownLog) : Option Reservation :=
  (log.uses[number]?).bind RecordedUse.reservation

/-- Notes a use of now, with the window that the bucket has. -/
def note (bucket key : String) (reservation : Option Reservation)
    (log : CooldownLog) : CooldownLog :=
  let window := (log.cooldowns.window? bucket).getD 0
  let use : RecordedUse :=
    { bucket, key, moment := log.now, window, reservation }
  { log with uses := log.uses ++ [use] }

def happen : CooldownEvent → CooldownLog → CooldownLog
  | .configure bucket window, log =>
    { log with cooldowns := log.cooldowns.configure bucket window }
  | .check bucket key, log =>
    { log with cooldowns := (log.cooldowns.check log.now bucket key).2 }
  | .register bucket key, log =>
    match log.cooldowns.register log.now bucket key with
    | (.recorded, cooldowns) =>
      { log.note bucket key none with cooldowns }
    | (_, cooldowns) => { log with cooldowns }
  | .acquire bucket key, log =>
    match log.cooldowns.acquire log.now bucket key with
    | (.reserved reservation, cooldowns) =>
      { log.note bucket key (some reservation) with cooldowns }
    | (_, cooldowns) => { log with cooldowns }
  | .release number, log =>
    match log.reservation? number with
    | none => log
    | some reservation =>
      { log with cooldowns := log.cooldowns.release reservation }
  | .pass span, log => { log with now := log.now + span }

/-- The log of everything that has been done, one after the other, on a host
whose clock has this horizon. -/
def after (horizon : Nat) (events : List CooldownEvent) : CooldownLog :=
  events.foldl (fun log event => log.happen event)
    { cooldowns := { horizon } }

/-- Every running cooldown is that of the newest use of its key, and every
reservation names its use by the moment at which its cooldown ends. -/
structure Booked (log : CooldownLog) : Prop where
  running : ∀ bucket key moment,
    log.cooldowns.ends? log.now bucket key = some moment →
      ∃ number use, RecordedUse.Newest bucket key log.uses number use ∧
        use.ends = moment
  issued : ∀ use ∈ log.uses, ∀ reservation,
    use.reservation = some reservation →
      reservation = ⟨use.bucket, use.key, use.ends⟩

end CooldownLog

namespace RecordedUse

variable {bucket key : String} {uses : List RecordedUse}
  {number : Nat} {use next : RecordedUse}

theorem recorded_concat : (uses ++ [next])[number]? = some use ↔
    uses[number]? = some use ∨ (number = uses.length ∧ use = next) := by
  by_cases old : number < uses.length
  · rw [List.getElem?_append_left old,
      or_iff_left fun new => Nat.ne_of_lt old new.1]
  · have absent : uses[number]? = none :=
      List.getElem?_eq_none (Nat.le_of_not_lt old)
    rw [List.getElem?_append_right (Nat.le_of_not_lt old),
      List.getElem?_singleton, absent]
    by_cases new : number = uses.length
    · simp [new, eq_comm]
    · have beyond : number - uses.length ≠ 0 := by omega
      simp [new, beyond]

theorem newest_concat (ofKey : use.Of bucket key) :
    Newest bucket key (uses ++ [use]) uses.length use where
  recorded := recorded_concat.mpr (.inr ⟨rfl, rfl⟩)
  ofKey := ofKey
  last := by
    intro later other above here
    rcases recorded_concat.mp here with old | new
    · have below := (List.getElem?_eq_some_iff.mp old).1
      omega
    · omega

theorem Newest.concat (newest : Newest bucket key uses number use)
    (other : ¬next.Of bucket key) :
    Newest bucket key (uses ++ [next]) number use where
  recorded := recorded_concat.mpr (.inl newest.recorded)
  ofKey := newest.ofKey
  last := by
    intro later found above here
    rcases recorded_concat.mp here with old | ⟨_, rfl⟩
    · exact newest.last later found above old
    · exact other

theorem exists_newest (recorded : uses[number]? = some use) :
    ∃ last newest, Newest use.bucket use.key uses last newest ∧
      number ≤ last := by
  induction uses using List.reverseRecOn with
  | nil => simp at recorded
  | append_singleton uses next induction =>
      rcases recorded_concat.mp recorded with old | ⟨same, rfl⟩
      · by_cases ofKey : next.Of use.bucket use.key
        · have below := (List.getElem?_eq_some_iff.mp old).1
          exact ⟨uses.length, next, newest_concat ofKey, Nat.le_of_lt below⟩
        · obtain ⟨last, newest, isNewest, later⟩ := induction old
          exact ⟨last, newest, isNewest.concat ofKey, later⟩
      · exact ⟨uses.length, use, newest_concat ⟨rfl, rfl⟩,
          Nat.le_of_eq same⟩

theorem Newest.unique {otherNumber : Nat} {other : RecordedUse}
    (one : Newest bucket key uses number use)
    (two : Newest bucket key uses otherNumber other) : use = other := by
  rcases Nat.lt_trichotomy number otherNumber with below | same | above
  · exact absurd two.ofKey (one.last _ _ below two.recorded)
  · exact Option.some.inj (one.recorded.symm.trans (same ▸ two.recorded))
  · exact absurd one.ofKey (two.last _ _ above one.recorded)

end RecordedUse

namespace CooldownLog

variable {log : CooldownLog} {now window horizon : Nat}
  {cooldowns : Cooldowns}
  {bucket key : String}

namespace Booked

theorem lessen (booked : log.Booked)
    (fewer : ∀ name word moment, cooldowns.ends? now name word = some moment →
      log.cooldowns.ends? log.now name word = some moment) :
    Booked { log with now, cooldowns } where
  running := fun name word moment ends =>
    booked.running name word moment (fewer name word moment ends)
  issued := booked.issued

theorem record {reservation : Option Reservation} (booked : log.Booked)
    (declared : log.cooldowns.window? bucket = some window)
    (starts : ∀ name word, cooldowns.ends? log.now name word =
      if name = bucket ∧ word = key
      then (some (log.now + window)).filter (log.now < ·)
      else log.cooldowns.ends? log.now name word)
    (named : ∀ handed, reservation = some handed →
      handed = ⟨bucket, key, log.now + window⟩) :
    Booked { log.note bucket key reservation with cooldowns } where
  running := by
    intro name word moment ends
    rw [note, starts] at ends
    split at ends
    · rename_i here
      obtain ⟨rfl, rfl⟩ := here
      refine ⟨_, _, RecordedUse.newest_concat ⟨rfl, rfl⟩, ?_⟩
      rw [RecordedUse.ends, declared]
      exact Option.some.inj (Option.filter_eq_some_iff.mp ends).1
    · rename_i elsewhere
      obtain ⟨number, use, newest, same⟩ :=
        booked.running name word moment ends
      refine ⟨number, use, newest.concat fun ofKey => elsewhere ?_, same⟩
      exact ⟨ofKey.1.symm, ofKey.2.symm⟩
  issued := by
    intro use member handed given
    rcases List.mem_append.mp member with old | new
    · exact booked.issued use old handed given
    · rw [List.mem_singleton.mp new] at given ⊢
      rw [named handed given, RecordedUse.ends, declared]
      rfl

theorem happen (booked : log.Booked) (event : CooldownEvent) :
    (log.happen event).Booked := by
  cases event with
  | configure bucket window =>
      exact booked.lessen fun name word moment ends =>
        Cooldowns.ends?_configure ▸ ends
  | check bucket key =>
      exact booked.lessen fun name word moment ends =>
        Cooldowns.ends?_check ▸ ends
  | register bucket key =>
      rw [CooldownLog.happen]
      have turn := log.cooldowns.register_registration log.now bucket key
      generalize log.cooldowns.register log.now bucket key = result at turn
      cases turn with
      | unknown => exact booked
      | beyond => exact booked
      | recorded declared _ _ ends =>
          exact booked.record declared ends fun _ handed => by cases handed
  | acquire bucket key =>
      rw [CooldownLog.happen]
      have turn := log.cooldowns.acquire_acquisition log.now bucket key
      generalize log.cooldowns.acquire log.now bucket key = result at turn
      cases turn with
      | uncounted => exact booked
      | limited _ _ ends =>
          exact booked.lessen fun name word moment later =>
            ends name word ▸ later
      | beyond _ _ _ _ ends =>
          exact booked.lessen fun name word moment later =>
            ends name word ▸ later
      | reserved declared _ _ _ ends =>
          exact booked.record declared ends fun handed given => by
            cases given
            rfl
  | release number =>
      rw [CooldownLog.happen]
      cases log.reservation? number with
      | none => exact booked
      | some reservation =>
          refine booked.lessen fun name word moment ends => ?_
          rw [Cooldowns.ends?_release] at ends
          split at ends
          · cases ends
          · exact ends
  | pass span =>
      refine booked.lessen fun name word moment ends => ?_
      rw [Cooldowns.ends?_later (Nat.le_add_right log.now span)] at ends
      exact (Option.filter_eq_some_iff.mp ends).1

theorem after (horizon : Nat) (events : List CooldownEvent) :
    (after horizon events).Booked := by
  induction events using List.reverseRecOn with
  | nil =>
      refine ⟨fun _ _ _ ends => ?_, fun _ member => ?_⟩
      · cases ends
      · cases member
  | append_singleton events event induction =>
      rw [CooldownLog.after, List.foldl_append]
      exact induction.happen event

end Booked

/-- Giving back a use takes the newest use of its key if the two end at the
same moment, and no other.  A newer use is spared in particular when the clock
has gone on and the window has not become shorter. -/
theorem refund_reaches_newest_of_same_end (horizon : Nat)
    (events : List CooldownEvent) {number : Nat} {use : RecordedUse}
    {reservation : Reservation}
    (recorded : (after horizon events).uses[number]? = some use)
    (issued : use.reservation = some reservation) :
    ∃ last newest, RecordedUse.Newest use.bucket use.key
        (after horizon events).uses last newest ∧ number ≤ last ∧
      (∀ moment, (after horizon events).now ≤ moment → ∀ bucket key,
        (((after horizon events).cooldowns.release reservation).check moment
            bucket key).1 =
          if use.Of bucket key ∧ newest.ends = use.ends then none
          else ((after horizon events).cooldowns.check moment bucket
            key).1) ∧
      (use.moment < newest.moment → use.window ≤ newest.window →
        newest.ends ≠ use.ends) := by
  have booked := Booked.after horizon events
  generalize after horizon events = log at recorded booked ⊢
  obtain ⟨last, newest, isNewest, later⟩ := RecordedUse.exists_newest recorded
  have named : reservation = ⟨use.bucket, use.key, use.ends⟩ :=
    booked.issued use (List.mem_of_getElem? recorded) reservation issued
  have ends_eq : ∀ moment, log.cooldowns.ends? log.now use.bucket use.key =
      some moment → moment = newest.ends := by
    intro moment running
    obtain ⟨_, other, otherNewest, same⟩ := booked.running _ _ _ running
    rw [← same, otherNewest.unique isNewest]
  refine ⟨last, newest, isNewest, later, fun moment passes bucket key => ?_,
    fun elapsed kept => ?_⟩
  · rw [Cooldowns.check_eq, Cooldowns.check_eq, Cooldowns.ends?_later passes,
      Cooldowns.ends?_release, Cooldowns.ends?_later passes, named]
    by_cases ofKey : use.Of bucket key
    · obtain ⟨rfl, rfl⟩ := ofKey
      cases running : log.cooldowns.ends? log.now use.bucket use.key with
      | none => simp
      | some ended =>
          rw [ends_eq ended running]
          by_cases same : newest.ends = use.ends <;>
            simp [RecordedUse.Of, same]
    · rw [if_neg (fun here => ofKey ⟨here.1.symm, here.2.1.symm⟩),
        if_neg (fun both => ofKey both.1)]
  · unfold RecordedUse.ends
    omega

/-- A use is asked for, and another one of its key is recorded at the same
moment. -/
def twiceAtOnce : List CooldownEvent :=
  [.configure "roll" 100, .acquire "roll" "@alice", .register "roll" "@alice"]

theorem twiceAtOnce_refund :
    (after 1000 twiceAtOnce).uses[0]? =
        some ⟨"roll", "@alice", 0, 100, some ⟨"roll", "@alice", 100⟩⟩ ∧
      ∃ last newest, RecordedUse.Newest "roll" "@alice"
          (after 1000 twiceAtOnce).uses last newest ∧
        ∀ moment bucket key,
          (((after 1000 twiceAtOnce).cooldowns.release
              ⟨"roll", "@alice", 100⟩).check moment bucket key).1 =
            if ("roll" = bucket ∧ "@alice" = key) ∧ newest.ends = 100 then none
            else ((after 1000 twiceAtOnce).cooldowns.check moment bucket
              key).1 := by
  have recorded : (after 1000 twiceAtOnce).uses[0]? =
      some ⟨"roll", "@alice", 0, 100, some ⟨"roll", "@alice", 100⟩⟩ := by
    decide +kernel
  obtain ⟨last, newest, isNewest, _, reaches, _⟩ :=
    refund_reaches_newest_of_same_end 1000 twiceAtOnce recorded rfl
  exact ⟨recorded, last, newest, isNewest, fun moment bucket key =>
    reaches moment (Nat.zero_le moment) bucket key⟩

/-- A refund can take a newer use than the one that is given back: the newest
use of the key is not the one with the reservation, and its cooldown is gone
with the refund. -/
theorem refund_takes_newer_use :
    (after 1000 twiceAtOnce).reservation? 0 = some ⟨"roll", "@alice", 100⟩ ∧
      (after 1000 twiceAtOnce).uses.length = 2 ∧
      RecordedUse.Newest "roll" "@alice" (after 1000 twiceAtOnce).uses 1
        ⟨"roll", "@alice", 0, 100, none⟩ ∧
      ((after 1000 twiceAtOnce).cooldowns.check 0 "roll" "@alice").1 =
        some 100 ∧
      (((after 1000 twiceAtOnce).happen (.release 0)).cooldowns.check 0 "roll"
        "@alice").1 = none := by
  refine ⟨by decide +kernel, by decide +kernel,
    ⟨by decide +kernel, ⟨rfl, rfl⟩, fun later other above here => ?_⟩,
    by decide +kernel, by decide +kernel⟩
  have two : (after 1000 twiceAtOnce).uses.length = 2 := by decide +kernel
  have below := (List.getElem?_eq_some_iff.mp here).1
  omega

end CooldownLog

end Switchboard
