import Mathlib.Data.Option.Basic
import Switchboard.Command
import Switchboard.Proofs.Table

/-!
# What cooldowns are running

A bucket may still hold cooldowns that have run out.  What counts is the
moment at which a cooldown ends that is still running; the statements say how
the operations change it.  Nothing changes the windows but a declaration, and
nothing at all the horizon of the clock.
-/

namespace Switchboard

namespace Cooldowns

variable {now later window : Nat} {name other key word : String}
  {cooldowns : Cooldowns} {bucket : Bucket}

/-- The moment at which the cooldown of a key ends, if it is still running. -/
def ends? (now : Nat) (name key : String) (cooldowns : Cooldowns) :
    Option Nat :=
  ((cooldowns.buckets.find? name).bind (·.expiries.find? key)).filter
    (now < ·)

theorem ends?_eq (found : cooldowns.buckets.find? name = some bucket) :
    cooldowns.ends? now name key =
      (bucket.expiries.find? key).filter (now < ·) := by
  rw [ends?, found, Option.bind_some]

theorem ends?_later (passes : now ≤ later) :
    cooldowns.ends? later name key =
      (cooldowns.ends? now name key).filter (later < ·) := by
  rw [ends?, ends?, Option.filter_filter]
  congr 1
  funext moment
  by_cases running : later < moment
  · simp [running, Nat.lt_of_le_of_lt passes running]
  · simp [running]

theorem window?_put (next : Bucket) :
    (cooldowns.put name next).window? other =
      if other = name then some next.window else cooldowns.window? other := by
  rw [window?, put]
  split
  · rename_i same
    rw [same, Table.find?_write_self]
    rfl
  · rename_i different
    rw [Table.find?_write_of_ne different]
    rfl

theorem ends?_put (next : Bucket) :
    (cooldowns.put name next).ends? now other word =
      if other = name then (next.expiries.find? word).filter (now < ·)
      else cooldowns.ends? now other word := by
  rw [ends?, put]
  split
  · rename_i same
    rw [same, Table.find?_write_self, Option.bind_some]
  · rename_i different
    rw [Table.find?_write_of_ne different]
    rfl

theorem ends?_put_of_same
    (found : cooldowns.buckets.find? name = some bucket) (next : Bucket)
    (same : ∀ word, (next.expiries.find? word).filter (now < ·) =
      (bucket.expiries.find? word).filter (now < ·)) :
    (cooldowns.put name next).ends? now other word =
      cooldowns.ends? now other word := by
  rw [ends?_put]
  split
  · rename_i here
    rw [here, same word, ends?_eq found]
  · rfl

theorem window?_put_of_same
    (found : cooldowns.buckets.find? name = some bucket) (next : Bucket)
    (same : next.window = bucket.window) :
    (cooldowns.put name next).window? other = cooldowns.window? other := by
  rw [window?_put]
  split
  · rename_i here
    rw [here, same, window?, found]
    rfl
  · rfl

theorem remaining_eq (now : Nat) (key : String) (bucket : Bucket) :
    (bucket.remaining now key).1 =
      ((bucket.expiries.find? key).filter (now < ·)).map (· - now) := by
  unfold Bucket.remaining
  cases bucket.expiries.find? key with
  | none => rfl
  | some moment =>
      by_cases running : now < moment <;>
        simp [running, Option.filter_some]

theorem remaining_window (now : Nat) (key : String) (bucket : Bucket) :
    (bucket.remaining now key).2.window = bucket.window := by
  unfold Bucket.remaining
  split
  · rfl
  · split <;> rfl

theorem remaining_expiries (now : Nat) (key word : String)
    (bucket : Bucket) :
    ((bucket.remaining now key).2.expiries.find? word).filter (now < ·) =
      (bucket.expiries.find? word).filter (now < ·) := by
  unfold Bucket.remaining
  cases held : bucket.expiries.find? key with
  | none => rfl
  | some moment =>
      by_cases running : now < moment
      · simp [running]
      · simp only [running, if_false]
        by_cases same : word = key
        · rw [same, Table.find?_remove_self, held]
          simp [running, Option.filter_some]
        · rw [Table.find?_remove_of_ne same]

theorem check_eq (moment : Nat) (name key : String) (cooldowns : Cooldowns) :
    (cooldowns.check moment name key).1 =
      (cooldowns.ends? moment name key).map (· - moment) := by
  unfold check
  cases found : cooldowns.buckets.find? name with
  | none => rw [ends?, found]; rfl
  | some bucket =>
      rw [ends?_eq found]
      exact remaining_eq moment key bucket

theorem window?_check :
    (cooldowns.check now name key).2.window? other =
      cooldowns.window? other := by
  unfold check
  cases found : cooldowns.buckets.find? name with
  | none => rfl
  | some bucket =>
      exact window?_put_of_same found _ (remaining_window now key bucket)

theorem ends?_check :
    (cooldowns.check now name key).2.ends? now other word =
      cooldowns.ends? now other word := by
  unfold check
  cases found : cooldowns.buckets.find? name with
  | none => rfl
  | some bucket =>
      exact ends?_put_of_same found _
        fun word => remaining_expiries now key word bucket

theorem horizon_check (now : Nat) (name key : String)
    (cooldowns : Cooldowns) :
    (cooldowns.check now name key).2.horizon = cooldowns.horizon := by
  unfold check
  cases cooldowns.buckets.find? name <;> rfl

theorem record?_of_within {horizon : Nat} (key : String)
    (within : now + bucket.window ≤ horizon) :
    bucket.record? horizon now key =
      some { bucket with
        expiries := bucket.expiries.write key (now + bucket.window) } :=
  if_pos within

theorem record?_of_beyond {horizon : Nat} (key : String)
    (beyond : horizon < now + bucket.window) :
    bucket.record? horizon now key = none :=
  if_neg (Nat.not_le.mpr beyond)

theorem ends?_put_recorded
    (found : cooldowns.buckets.find? name = some bucket) (next : Bucket)
    (same : ∀ word, (next.expiries.find? word).filter (now < ·) =
      (bucket.expiries.find? word).filter (now < ·)) (moment : Nat) :
    (cooldowns.put name { next with
        expiries := next.expiries.write key moment }).ends? now other word =
      if other = name ∧ word = key then (some moment).filter (now < ·)
      else cooldowns.ends? now other word := by
  rw [ends?_put]
  by_cases here : other = name
  · subst here
    by_cases own : word = key
    · subst own
      simp [Table.find?_write_self]
    · simp [own, Table.find?_write_of_ne own, same word, ends?_eq found]
  · simp [here]

theorem register_of_declared (key : String)
    (declared : cooldowns.window? name = some window)
    (within : now + window ≤ cooldowns.horizon) :
    (cooldowns.register now name key).1 = .recorded ∧
      (∀ other, (cooldowns.register now name key).2.window? other =
        cooldowns.window? other) ∧
      ∀ other word,
        (cooldowns.register now name key).2.ends? now other word =
          if other = name ∧ word = key
          then (some (now + window)).filter (now < ·)
          else cooldowns.ends? now other word := by
  obtain ⟨bucket, found, same⟩ := Option.map_eq_some_iff.mp declared
  subst same
  rw [register, found]
  dsimp only
  rw [record?_of_within key within]
  exact ⟨rfl, fun _ => window?_put_of_same found _ rfl,
    fun _ _ => ends?_put_recorded found bucket (fun _ => rfl) _⟩

theorem register_of_beyond (key : String)
    (declared : cooldowns.window? name = some window)
    (beyond : cooldowns.horizon < now + window) :
    cooldowns.register now name key = (.beyond, cooldowns) := by
  obtain ⟨bucket, found, same⟩ := Option.map_eq_some_iff.mp declared
  subst same
  rw [register, found]
  dsimp only
  rw [record?_of_beyond key beyond]

theorem register_of_undeclared (undeclared : cooldowns.window? name = none) :
    cooldowns.register now name key = (.unknown, cooldowns) := by
  rw [register, Option.map_eq_none_iff.mp undeclared]

/-- What comes of recording a use: the answer, why it is given, and which
cooldowns are running afterwards. -/
inductive Registration (now : Nat) (name key : String)
    (cooldowns : Cooldowns) : Recording × Cooldowns → Prop where
  | unknown : cooldowns.window? name = none →
      Registration now name key cooldowns (.unknown, cooldowns)
  | beyond {window : Nat} :
      cooldowns.window? name = some window →
      cooldowns.horizon < now + window →
      Registration now name key cooldowns (.beyond, cooldowns)
  | recorded {window : Nat} {after : Cooldowns} :
      cooldowns.window? name = some window →
      now + window ≤ cooldowns.horizon →
      (∀ other, after.window? other = cooldowns.window? other) →
      (∀ other word, after.ends? now other word =
        if other = name ∧ word = key
        then (some (now + window)).filter (now < ·)
        else cooldowns.ends? now other word) →
      Registration now name key cooldowns (.recorded, after)

theorem register_registration (now : Nat) (name key : String)
    (cooldowns : Cooldowns) :
    Registration now name key cooldowns (cooldowns.register now name key) := by
  cases declared : cooldowns.window? name with
  | none => exact register_of_undeclared declared ▸ .unknown declared
  | some window =>
      rcases Nat.lt_or_ge cooldowns.horizon (now + window) with
        beyond | within
      · exact register_of_beyond key declared beyond ▸ .beyond declared beyond
      · have records := register_of_declared key declared within
        generalize cooldowns.register now name key = result at records ⊢
        obtain ⟨answer, after⟩ := result
        obtain ⟨rfl, windows, ends⟩ := records
        exact .recorded declared within windows ends

theorem horizon_register (now : Nat) (name key : String)
    (cooldowns : Cooldowns) :
    (cooldowns.register now name key).2.horizon = cooldowns.horizon := by
  unfold register
  split
  · rfl
  · split <;> rfl

theorem acquire_of_running {moment : Nat}
    (running : cooldowns.ends? now name key = some moment) :
    (cooldowns.acquire now name key).1 = .limited (moment - now) ∧
      (∀ other, (cooldowns.acquire now name key).2.window? other =
        cooldowns.window? other) ∧
      ∀ other word, (cooldowns.acquire now name key).2.ends? now other word =
        cooldowns.ends? now other word := by
  unfold acquire
  cases found : cooldowns.buckets.find? name with
  | none =>
      rw [ends?, found] at running
      cases running
  | some bucket =>
      rw [ends?_eq found] at running
      have answer := remaining_eq now key bucket
      have windows := remaining_window now key bucket
      have expiries := fun word => remaining_expiries now key word bucket
      rw [running] at answer
      dsimp only
      generalize bucket.remaining now key = result
        at answer windows expiries
      obtain ⟨left, looked⟩ := result
      cases answer
      exact ⟨rfl, fun _ => window?_put_of_same found looked windows,
        fun _ _ => ends?_put_of_same found looked expiries⟩

theorem acquire_of_looked (found : cooldowns.buckets.find? name = some bucket)
    (idle : cooldowns.ends? now name key = none) :
    ∃ looked : Bucket, looked.window = bucket.window ∧
      (∀ word, (looked.expiries.find? word).filter (now < ·) =
        (bucket.expiries.find? word).filter (now < ·)) ∧
      cooldowns.acquire now name key =
        match looked.record? cooldowns.horizon now key with
        | none => (.beyond, cooldowns.put name looked)
        | some recorded =>
          (.reserved
              { bucket := name, key, expires := now + bucket.window },
            cooldowns.put name recorded) := by
  rw [ends?_eq found] at idle
  have answer := remaining_eq now key bucket
  have windows := remaining_window now key bucket
  have expiries := fun word => remaining_expiries now key word bucket
  rw [idle] at answer
  unfold acquire
  rw [found]
  dsimp only
  generalize bucket.remaining now key = result at answer windows expiries
  obtain ⟨left, looked⟩ := result
  cases answer
  dsimp only at windows
  rw [← windows]
  exact ⟨looked, rfl, expiries, rfl⟩

theorem acquire_of_idle (declared : cooldowns.window? name = some window)
    (idle : cooldowns.ends? now name key = none)
    (within : now + window ≤ cooldowns.horizon) :
    (cooldowns.acquire now name key).1 =
        .reserved { bucket := name, key, expires := now + window } ∧
      (∀ other, (cooldowns.acquire now name key).2.window? other =
        cooldowns.window? other) ∧
      ∀ other word, (cooldowns.acquire now name key).2.ends? now other word =
        if other = name ∧ word = key then (some (now + window)).filter (now < ·)
        else cooldowns.ends? now other word := by
  obtain ⟨bucket, found, same⟩ := Option.map_eq_some_iff.mp declared
  subst same
  obtain ⟨looked, windows, expiries, acquired⟩ := acquire_of_looked found idle
  rw [← windows] at within ⊢
  rw [acquired, record?_of_within key within]
  exact ⟨by rw [windows], fun _ => window?_put_of_same found _ windows,
    fun _ _ => ends?_put_recorded found looked expiries _⟩

theorem acquire_of_beyond (declared : cooldowns.window? name = some window)
    (idle : cooldowns.ends? now name key = none)
    (beyond : cooldowns.horizon < now + window) :
    (cooldowns.acquire now name key).1 = .beyond ∧
      (∀ other, (cooldowns.acquire now name key).2.window? other =
        cooldowns.window? other) ∧
      ∀ other word, (cooldowns.acquire now name key).2.ends? now other word =
        cooldowns.ends? now other word := by
  obtain ⟨bucket, found, same⟩ := Option.map_eq_some_iff.mp declared
  subst same
  obtain ⟨looked, windows, expiries, acquired⟩ := acquire_of_looked found idle
  rw [← windows] at beyond
  rw [acquired, record?_of_beyond key beyond]
  exact ⟨rfl, fun _ => window?_put_of_same found _ windows,
    fun _ _ => ends?_put_of_same found looked expiries⟩

theorem horizon_acquire (now : Nat) (name key : String)
    (cooldowns : Cooldowns) :
    (cooldowns.acquire now name key).2.horizon = cooldowns.horizon := by
  unfold acquire
  split
  · rfl
  · split
    · rfl
    · split <;> rfl

theorem acquire_of_undeclared (undeclared : cooldowns.window? name = none) :
    cooldowns.acquire now name key = (.uncounted, cooldowns) := by
  rw [acquire, Option.map_eq_none_iff.mp undeclared]

/-- What comes of asking for a use: the answer, why it is given, and which
cooldowns are running afterwards. -/
inductive Acquisition (now : Nat) (name key : String) (cooldowns : Cooldowns) :
    Admission × Cooldowns → Prop where
  | uncounted : cooldowns.window? name = none →
      Acquisition now name key cooldowns (.uncounted, cooldowns)
  | limited {moment : Nat} {after : Cooldowns} :
      cooldowns.ends? now name key = some moment →
      (∀ other, after.window? other = cooldowns.window? other) →
      (∀ other word,
        after.ends? now other word = cooldowns.ends? now other word) →
      Acquisition now name key cooldowns (.limited (moment - now), after)
  | beyond {window : Nat} {after : Cooldowns} :
      cooldowns.window? name = some window →
      cooldowns.ends? now name key = none →
      cooldowns.horizon < now + window →
      (∀ other, after.window? other = cooldowns.window? other) →
      (∀ other word,
        after.ends? now other word = cooldowns.ends? now other word) →
      Acquisition now name key cooldowns (.beyond, after)
  | reserved {window : Nat} {after : Cooldowns} :
      cooldowns.window? name = some window →
      cooldowns.ends? now name key = none →
      now + window ≤ cooldowns.horizon →
      (∀ other, after.window? other = cooldowns.window? other) →
      (∀ other word, after.ends? now other word =
        if other = name ∧ word = key
        then (some (now + window)).filter (now < ·)
        else cooldowns.ends? now other word) →
      Acquisition now name key cooldowns
        (.reserved { bucket := name, key, expires := now + window }, after)

theorem acquire_acquisition (now : Nat) (name key : String)
    (cooldowns : Cooldowns) :
    Acquisition now name key cooldowns (cooldowns.acquire now name key) := by
  cases declared : cooldowns.window? name with
  | none => exact acquire_of_undeclared declared ▸ .uncounted declared
  | some window =>
      cases running : cooldowns.ends? now name key with
      | some moment =>
          have limits := acquire_of_running running
          generalize cooldowns.acquire now name key = result at limits ⊢
          obtain ⟨answer, after⟩ := result
          obtain ⟨rfl, windows, ends⟩ := limits
          exact .limited running windows ends
      | none =>
          rcases Nat.lt_or_ge cooldowns.horizon (now + window) with
            beyond | within
          · have breaks := acquire_of_beyond declared running beyond
            generalize cooldowns.acquire now name key = result at breaks ⊢
            obtain ⟨answer, after⟩ := result
            obtain ⟨rfl, windows, ends⟩ := breaks
            exact .beyond declared running beyond windows ends
          · have reserves := acquire_of_idle declared running within
            generalize cooldowns.acquire now name key = result at reserves ⊢
            obtain ⟨answer, after⟩ := result
            obtain ⟨rfl, windows, ends⟩ := reserves
            exact .reserved declared running within windows ends

theorem window?_release (reservation : Reservation) :
    (cooldowns.release reservation).window? other =
      cooldowns.window? other := by
  unfold release
  cases found : cooldowns.buckets.find? reservation.bucket with
  | none => rfl
  | some bucket =>
      dsimp only
      split
      · exact window?_put_of_same found _ rfl
      · rfl

theorem horizon_release (reservation : Reservation) :
    (cooldowns.release reservation).horizon = cooldowns.horizon := by
  unfold release
  split
  · rfl
  · dsimp only
    split <;> rfl

theorem ends?_release (reservation : Reservation) :
    (cooldowns.release reservation).ends? now other word =
      if other = reservation.bucket ∧ word = reservation.key ∧
        cooldowns.ends? now other word = some reservation.expires then none
      else cooldowns.ends? now other word := by
  unfold release
  cases found : cooldowns.buckets.find? reservation.bucket with
  | none =>
      dsimp only
      split
      · rename_i here
        rw [here.1, ends?, found] at here
        cases here.2.2
      · rfl
  | some bucket =>
      dsimp only
      by_cases held :
          bucket.expiries.find? reservation.key = some reservation.expires
      · rw [if_pos held, ends?_put]
        by_cases here : other = reservation.bucket
        · subst here
          by_cases same : word = reservation.key
          · subst same
            rw [if_pos rfl, Table.find?_remove_self, ends?_eq found, held]
            by_cases running : now < reservation.expires <;>
              simp [running, Option.filter_some]
          · simp [same, Table.find?_remove_of_ne same, ends?_eq found]
        · simp [here]
      · rw [if_neg held]
        split
        · rename_i here
          obtain ⟨rfl, rfl, ends⟩ := here
          rw [ends?_eq found] at ends
          exact absurd (Option.filter_eq_some_iff.mp ends).1 held
        · rfl

theorem window?_configure :
    (cooldowns.configure name window).window? other =
      if other = name then some window else cooldowns.window? other :=
  window?_put _

theorem horizon_configure :
    (cooldowns.configure name window).horizon = cooldowns.horizon := rfl

theorem ends?_configure :
    (cooldowns.configure name window).ends? now other word =
      cooldowns.ends? now other word := by
  unfold configure
  rw [ends?_put]
  split
  · rename_i here
    rw [here, ends?]
    cases cooldowns.buckets.find? name <;> rfl
  · rfl

theorem horizon_configureAll (buckets : List (String × Nat))
    (cooldowns : Cooldowns) :
    (buckets.foldl (fun cooldowns bucket =>
        cooldowns.configure bucket.1 bucket.2) cooldowns).horizon =
      cooldowns.horizon := by
  induction buckets generalizing cooldowns with
  | nil => rfl
  | cons bucket rest induction => exact induction _

theorem ends?_configureAll (buckets : List (String × Nat))
    (cooldowns : Cooldowns) :
    (buckets.foldl (fun cooldowns bucket =>
        cooldowns.configure bucket.1 bucket.2) cooldowns).ends? now other
      word = cooldowns.ends? now other word := by
  induction buckets generalizing cooldowns with
  | nil => rfl
  | cons bucket rest induction =>
      rw [List.foldl_cons, induction, ends?_configure]

theorem window?_configureAll {buckets : Table String Nat}
    (nodup : buckets.keys.Nodup) (cooldowns : Cooldowns) :
    (buckets.foldl (fun cooldowns bucket =>
        cooldowns.configure bucket.1 bucket.2) cooldowns).window? name =
      (buckets.find? name).or (cooldowns.window? name) := by
  induction buckets generalizing cooldowns with
  | nil => rfl
  | cons bucket rest induction =>
      obtain ⟨absent, restNodup⟩ := List.nodup_cons.mp nodup
      rw [List.foldl_cons, induction restNodup, window?_configure,
        Table.find?]
      by_cases same : bucket.1 = name
      · subst same
        have gone : Table.find? bucket.1 rest = none := by
          rw [Option.eq_none_iff_forall_ne_some]
          intro value found
          exact absent (Table.key_mem (Table.mem_of_find?_eq_some found))
        simp [gone]
      · simp [same, Ne.symm same]

end Cooldowns

namespace Catalogue

variable {η : Type} {catalogue : Catalogue η} {horizon : Nat}

theorem ends?_cooldowns (now : Nat) (name key : String) :
    (catalogue.cooldowns horizon).ends? now name key = none :=
  Cooldowns.ends?_configureAll _ _

theorem horizon_cooldowns :
    (catalogue.cooldowns horizon).horizon = horizon :=
  Cooldowns.horizon_configureAll _ _

theorem nodup_keys_writeAll (cooldowns : List Cooldown)
    {table : Table String Nat} (nodup : table.keys.Nodup) :
    (cooldowns.foldl (fun buckets cooldown =>
      Table.write cooldown.bucket cooldown.window buckets)
        table).keys.Nodup := by
  induction cooldowns generalizing table with
  | nil => exact nodup
  | cons cooldown rest induction =>
      exact induction (Table.nodup_keys_write nodup _ _)

theorem key_mem_writeAll {name : String} (cooldowns : List Cooldown)
    {table : Table String Nat}
    (known : name ∈ table.keys ∨
      ∃ cooldown ∈ cooldowns, cooldown.bucket = name) :
    name ∈ (cooldowns.foldl (fun buckets cooldown =>
      Table.write cooldown.bucket cooldown.window buckets) table).keys := by
  induction cooldowns generalizing table with
  | nil => simpa using known
  | cons cooldown rest induction =>
      apply induction
      rw [Table.keys_write]
      rcases known with before | ⟨other, member, same⟩
      · refine .inl ?_
        split
        · exact before
        · exact List.mem_append_left _ before
      · rcases List.mem_cons.mp member with rfl | later
        · refine .inl ?_
          split
          · rename_i there
            exact same ▸ there
          · exact same ▸ List.mem_append_right _ List.mem_cons_self
        · exact .inr ⟨other, later, same⟩

theorem window?_cooldowns {entry : CatalogueEntry η} {cooldown : Cooldown}
    (horizon : Nat)
    (member : entry ∈ catalogue.entries)
    (uses : entry.definition.cooldown = some cooldown) :
    ∃ window, catalogue.buckets.find? cooldown.bucket = some window ∧
      (catalogue.cooldowns horizon).window? cooldown.bucket =
        some window := by
  have nodup : catalogue.buckets.keys.Nodup :=
    nodup_keys_writeAll _ List.nodup_nil
  have listed : cooldown.bucket ∈ catalogue.buckets.keys :=
    key_mem_writeAll _ (.inr ⟨cooldown, List.mem_filterMap.mpr
      ⟨entry.definition, List.mem_map_of_mem member, uses⟩, rfl⟩)
  obtain ⟨⟨name, window⟩, held, same⟩ := List.mem_map.mp listed
  cases same
  have found := (Table.find?_eq_some_iff nodup).mpr held
  refine ⟨window, found, ?_⟩
  rw [cooldowns, Cooldowns.window?_configureAll nodup, found]
  rfl

end Catalogue

end Switchboard
