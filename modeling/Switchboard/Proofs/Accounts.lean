import Switchboard.Process
import Switchboard.Proofs.Cooldown

/-!
# The accounts of a cooldown

Which cooldowns are running and which uses have been launched and not been
given back: the two sides agree, one running cooldown for one use.  They go on
agreeing while time passes, while uses are launched, and while uses are given
back, early or late.
-/

namespace Switchboard

/-- A use of a command with a cooldown that has been launched. -/
structure Use where
  bucket : String
  key : String
  moment : Nat
  pid : Pid
deriving DecidableEq, Repr

namespace Use

/-- When the cooldown of a use ends. -/
def expires (windows : String → Nat) (use : Use) : Nat :=
  use.moment + windows use.bucket

/-- What is needed to give the use back. -/
def reservation (windows : String → Nat) (use : Use) : Reservation where
  bucket := use.bucket
  key := use.key
  expires := use.expires windows

/-- The use has not been given back, and its cooldown is running. -/
def Blocks (windows : String → Nat) (refunded : Pid → Prop) (now : Nat)
    (use : Use) : Prop :=
  ¬refunded use.pid ∧ now < use.expires windows

end Use

/-- Uses and running cooldowns belong together one to one. -/
structure Accounts (windows : String → Nat) (uses : Use → Prop)
    (refunded : Pid → Prop) (now : Nat) (cooldowns : Cooldowns) : Prop where
  backed : ∀ name key moment, cooldowns.ends? now name key = some moment →
    ∃ use, uses use ∧ use.Blocks windows refunded now ∧
      use.bucket = name ∧ use.key = key ∧ use.expires windows = moment
  stored : ∀ use, uses use → use.Blocks windows refunded now →
    cooldowns.ends? now use.bucket use.key = some (use.expires windows)
  single : ∀ use other, uses use → uses other →
    use.Blocks windows refunded now → other.Blocks windows refunded now →
      use.bucket = other.bucket → use.key = other.key → use = other
  numbered : ∀ use other, uses use → uses other → use.pid = other.pid →
    use = other

namespace Accounts

variable {windows : String → Nat} {uses : Use → Prop}
  {refunded given : Pid → Prop} {now later : Nat}
  {cooldowns after : Cooldowns}

theorem start (idle : ∀ name key, cooldowns.ends? now name key = none) :
    Accounts windows (fun _ => False) refunded now cooldowns where
  backed := by
    intro name key moment running
    rw [idle name key] at running
    cases running
  stored := fun _ => False.elim
  single := fun _ _ => False.elim
  numbered := fun _ _ => False.elim

theorem of_same (accounts : Accounts windows uses refunded now cooldowns)
    (repaid : ∀ use, uses use → (given use.pid ↔ refunded use.pid))
    (same : ∀ name key,
      after.ends? now name key = cooldowns.ends? now name key) :
    Accounts windows uses given now after := by
  have before : ∀ use, uses use → (use.Blocks windows given now ↔
      use.Blocks windows refunded now) := fun use used =>
    and_congr_left fun _ => not_congr (repaid use used)
  refine ⟨?_, ?_, ?_, accounts.numbered⟩
  · intro name key moment running
    obtain ⟨use, used, blocks, rest⟩ :=
      accounts.backed name key moment ((same name key).symm.trans running)
    exact ⟨use, used, (before use used).mpr blocks, rest⟩
  · exact fun use used blocks => (same use.bucket use.key).trans
      (accounts.stored use used ((before use used).mp blocks))
  · exact fun one two oneUsed twoUsed oneBlocks twoBlocks =>
      accounts.single one two oneUsed twoUsed
        ((before one oneUsed).mp oneBlocks) ((before two twoUsed).mp twoBlocks)

theorem pass (accounts : Accounts windows uses refunded now cooldowns)
    (passes : now ≤ later) :
    Accounts windows uses refunded later cooldowns := by
  have earlier : ∀ use : Use, use.Blocks windows refunded later →
      use.Blocks windows refunded now := fun _ blocks =>
    ⟨blocks.1, Nat.lt_of_le_of_lt passes blocks.2⟩
  refine ⟨?_, ?_, ?_, accounts.numbered⟩
  · intro name key moment running
    rw [Cooldowns.ends?_later passes, Option.filter_eq_some_iff] at running
    obtain ⟨use, used, blocks, bucket, sameKey, expires⟩ :=
      accounts.backed name key moment running.1
    refine ⟨use, used, ⟨blocks.1, ?_⟩, bucket, sameKey, expires⟩
    rw [expires]
    simpa using running.2
  · intro use used blocks
    rw [Cooldowns.ends?_later passes,
      accounts.stored use used (earlier use blocks)]
    simpa [Option.filter_some] using blocks.2
  · exact fun use other used otherUsed blocks otherBlocks =>
      accounts.single use other used otherUsed (earlier use blocks)
        (earlier other otherBlocks)

/-- A use is launched under a number of its own while no cooldown of its key
is running. -/
theorem launch (accounts : Accounts windows uses refunded now cooldowns)
    (use : Use) (moment : use.moment = now)
    (fresh : ∀ other, uses other → other.pid ≠ use.pid)
    (kept : ¬refunded use.pid)
    (idle : cooldowns.ends? now use.bucket use.key = none)
    (recorded : ∀ name key, after.ends? now name key =
      if name = use.bucket ∧ key = use.key
        then (some (use.expires windows)).filter (now < ·)
        else cooldowns.ends? now name key) :
    Accounts windows (fun other => uses other ∨ other = use) refunded now
      after := by
  -- An older use of the same key would still be running.
  have alone : ∀ other, uses other → other.Blocks windows refunded now →
      ¬(other.bucket = use.bucket ∧ other.key = use.key) := by
    intro other used blocks holds
    obtain ⟨bucket, key⟩ := holds
    have running := accounts.stored other used blocks
    rw [bucket, key, idle] at running
    cases running
  refine ⟨?_, ?_, ?_, ?_⟩
  · intro name key ends running
    rw [recorded] at running
    split at running
    · rename_i here
      obtain ⟨same, ahead⟩ := Option.filter_eq_some_iff.mp running
      cases same
      exact ⟨use, .inr rfl, ⟨kept, by simpa using ahead⟩, here.1.symm,
        here.2.symm, rfl⟩
    · obtain ⟨other, used, rest⟩ := accounts.backed name key ends running
      exact ⟨other, .inl used, rest⟩
  · rintro other (used | rfl) blocks
    · rw [recorded, if_neg (alone other used blocks)]
      exact accounts.stored other used blocks
    · rw [recorded, if_pos ⟨rfl, rfl⟩]
      simpa [Option.filter_some] using blocks.2
  · rintro one two (oneUsed | rfl) (twoUsed | rfl) oneBlocks twoBlocks bucket
      key
    · exact accounts.single one two oneUsed twoUsed oneBlocks twoBlocks bucket
        key
    · exact absurd ⟨bucket, key⟩ (alone one oneUsed oneBlocks)
    · exact absurd ⟨bucket.symm, key.symm⟩ (alone two twoUsed twoBlocks)
    · rfl
  · rintro one two (oneUsed | rfl) (twoUsed | rfl) same
    · exact accounts.numbered one two oneUsed twoUsed same
    · exact absurd same (fresh one oneUsed)
    · exact absurd same.symm (fresh two twoUsed)
    · rfl

/-- A use is given back.  Where its cooldown has run out already there is
nothing to remove, and the cooldown of a newer use of the same key ends at
another moment. -/
theorem release (accounts : Accounts windows uses refunded now cooldowns)
    (use : Use) (used : uses use) (kept : ¬refunded use.pid)
    (repaid : ∀ other, uses other →
      (given other.pid ↔ refunded other.pid ∨ other.pid = use.pid)) :
    Accounts windows uses given now
      (cooldowns.release (use.reservation windows)) := by
  have before : ∀ other, uses other → other.Blocks windows given now →
      other.Blocks windows refunded now ∧ other.pid ≠ use.pid := by
    intro other otherUsed blocks
    obtain ⟨notRefunded, notSame⟩ :=
      not_or.mp ((not_congr (repaid other otherUsed)).mp blocks.1)
    exact ⟨⟨notRefunded, blocks.2⟩, notSame⟩
  refine ⟨?_, ?_, ?_, accounts.numbered⟩
  · intro name key moment running
    rw [Cooldowns.ends?_release] at running
    split at running
    · cases running
    · rename_i notRemoved
      obtain ⟨other, otherUsed, blocks, bucket, sameKey, expires⟩ :=
        accounts.backed name key moment running
      refine ⟨other, otherUsed, ⟨?_, blocks.2⟩, bucket, sameKey, expires⟩
      rw [repaid other otherUsed, not_or]
      refine ⟨blocks.1, fun same => notRemoved ?_⟩
      cases accounts.numbered other use otherUsed used same
      exact ⟨bucket.symm, sameKey.symm,
        running.trans (congrArg some expires.symm)⟩
  · intro other otherUsed blocks
    obtain ⟨stillBlocks, different⟩ := before other otherUsed blocks
    have running := accounts.stored other otherUsed stillBlocks
    rw [Cooldowns.ends?_release, if_neg, running]
    intro holds
    obtain ⟨bucket, key, same⟩ := holds
    have expires : other.expires windows = use.expires windows :=
      Option.some.inj (running.symm.trans same)
    have useBlocks : use.Blocks windows refunded now :=
      ⟨kept, expires ▸ blocks.2⟩
    exact different (congrArg Use.pid (accounts.single other use otherUsed
      used stillBlocks useBlocks bucket key))
  · exact fun one two oneUsed twoUsed oneBlocks twoBlocks =>
      accounts.single one two oneUsed twoUsed
        (before one oneUsed oneBlocks).1 (before two twoUsed twoBlocks).1

end Accounts

end Switchboard
