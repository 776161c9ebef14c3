import Switchboard.Proofs.Cooldown

/-!
# Cooldowns as a plain table

Buckets forget a cooldown that has run out as soon as somebody looks at it.
Nobody can tell: whatever is asked of them, they answer like a table that keeps
the last recorded end of every key until another end takes its place or the use
is given back.  Looking changes nothing in that table, and what concerns one key
of a bucket concerns no other.
-/

namespace Switchboard

/-- What can be asked of cooldowns, and the passing of time. -/
inductive CooldownRequest where
  | configure (bucket : String) (window : Nat)
  | window (bucket : String)
  | check (bucket key : String)
  | register (bucket key : String)
  | acquire (bucket key : String)
  | release (reservation : Reservation)
  | pass (span : Nat)
deriving DecidableEq, Repr

inductive CooldownAnswer where
  | done
  | window (window : Option Nat)
  | remaining (left : Option Nat)
  | recording (recording : Recording)
  | admission (admission : Admission)
deriving DecidableEq, Repr

/-- What remains of a cooldown, where an answer says so. -/
def CooldownAnswer.left? : CooldownAnswer → Option Nat
  | .remaining left => left
  | .admission (.limited left) => some left
  | _ => none

namespace CooldownRequest

/-- How much time passes with a request. -/
def span : CooldownRequest → Nat
  | .pass span => span
  | _ => 0

/-- The bucket and the key that a request is about, if it is about one key. -/
def place? : CooldownRequest → Option (String × String)
  | .check bucket key | .register bucket key | .acquire bucket key =>
    some (bucket, key)
  | .release reservation => some (reservation.bucket, reservation.key)
  | .configure .. | .window _ | .pass _ => none

theorem span_eq_zero_of_place? {request : CooldownRequest}
    {place : String × String} (about : request.place? = some place) :
    request.span = 0 := by
  cases request with
  | pass => cases about
  | _ => rfl

end CooldownRequest

/-- The answer to a request at some moment, and the cooldowns after it. -/
def Cooldowns.serve (now : Nat) (request : CooldownRequest)
    (cooldowns : Cooldowns) : CooldownAnswer × Cooldowns :=
  match request with
  | .configure bucket window => (.done, cooldowns.configure bucket window)
  | .window bucket => (.window (cooldowns.window? bucket), cooldowns)
  | .check bucket key =>
    let (left, cooldowns) := cooldowns.check now bucket key
    (.remaining left, cooldowns)
  | .register bucket key =>
    let (recording, cooldowns) := cooldowns.register now bucket key
    (.recording recording, cooldowns)
  | .acquire bucket key =>
    let (admission, cooldowns) := cooldowns.acquire now bucket key
    (.admission admission, cooldowns)
  | .release reservation => (.done, cooldowns.release reservation)
  | .pass _ => (.done, cooldowns)

/-- The windows of the declared buckets, and for every key the end that was
recorded last, also if it has passed; none is recorded past the horizon. -/
structure ExpiryTable where
  horizon : Nat
  windows : String → Option Nat := fun _ => none
  ends : String → String → Option Nat := fun _ _ => none

namespace ExpiryTable

/-- The table with another end for one key. -/
def put (bucket key : String) (moment : Option Nat) (table : ExpiryTable) :
    ExpiryTable :=
  { table with
    ends := fun other word =>
      if other = bucket ∧ word = key then moment else table.ends other word }

/-- A key is limited just if its end is still to come. -/
def remaining (now : Nat) (bucket key : String) (table : ExpiryTable) :
    Option Nat :=
  ((table.ends bucket key).filter (now < ·)).map (· - now)

/-- The answer to a request at some moment, and the table after it. -/
def serve (now : Nat) (request : CooldownRequest) (table : ExpiryTable) :
    CooldownAnswer × ExpiryTable :=
  match request with
  | .configure bucket window =>
    (.done, { table with
      windows := fun other =>
        if other = bucket then some window else table.windows other })
  | .window bucket => (.window (table.windows bucket), table)
  | .check bucket key => (.remaining (table.remaining now bucket key), table)
  | .register bucket key =>
    match table.windows bucket with
    | none => (.recording .unknown, table)
    | some window =>
      if now + window ≤ table.horizon then
        (.recording .recorded, table.put bucket key (some (now + window)))
      else (.recording .beyond, table)
  | .acquire bucket key =>
    match table.remaining now bucket key with
    | some left => (.admission (.limited left), table)
    | none =>
      match table.windows bucket with
      | none => (.admission .uncounted, table)
      | some window =>
        if now + window ≤ table.horizon then
          (.admission (.reserved { bucket, key, expires := now + window }),
            table.put bucket key (some (now + window)))
        else (.admission .beyond, table)
  | .release reservation =>
    (.done,
      if table.ends reservation.bucket reservation.key =
          some reservation.expires then
        table.put reservation.bucket reservation.key none
      else table)
  | .pass _ => (.done, table)

end ExpiryTable

/-- The table of what is stored in buckets at the moment. -/
def Cooldowns.plain (cooldowns : Cooldowns) : ExpiryTable where
  horizon := cooldowns.horizon
  windows := cooldowns.window?
  ends := fun bucket key =>
    (cooldowns.buckets.find? bucket).bind (·.expiries.find? key)

/-- Requests with their answers, made one after the other from some moment
on. -/
def CooldownRequest.transcript {σ : Type}
    (serve : Nat → CooldownRequest → σ → CooldownAnswer × σ) (now : Nat) :
    List CooldownRequest → σ → List (CooldownRequest × CooldownAnswer)
  | [], _ => []
  | request :: rest, state =>
    let (answer, after) := serve now request state
    (request, answer) :: transcript serve (now + request.span) rest after

namespace CooldownRequest

section Transcripts

variable {σ τ : Type} {now : Nat} {state : σ} {other : τ}
  {serve : Nat → CooldownRequest → σ → CooldownAnswer × σ}
  {attend : Nat → CooldownRequest → τ → CooldownAnswer × τ}
  {request : CooldownRequest}

theorem transcript_filter (keep : CooldownRequest → Bool)
    (Tied : Nat → σ → τ → Prop)
    (alike : ∀ now request state other, keep request = true →
      Tied now state other →
        (serve now request state).1 = (attend now request other).1 ∧
          Tied (now + request.span) (serve now request state).2
            (attend now request other).2)
    (calm : ∀ now request state other, keep request = false →
      Tied now state other → request.span = 0 ∧
        Tied now (serve now request state).2 other)
    (tied : Tied now state other) (requests : List CooldownRequest) :
    (transcript serve now requests state).filter (keep ·.1) =
      transcript attend now (requests.filter keep) other := by
  induction requests generalizing now state other with
  | nil => rfl
  | cons request rest induction =>
      cases kept : keep request with
      | true =>
          obtain ⟨same, still⟩ := alike now request state other kept tied
          simp only [transcript, kept, List.filter_cons_of_pos, same]
          rw [induction still]
      | false =>
          obtain ⟨brief, still⟩ := calm now request state other kept tied
          simp only [transcript, kept, Bool.false_eq_true,
            not_false_eq_true, List.filter_cons_of_neg, brief, Nat.add_zero]
          exact induction still

theorem transcript_eq (Tied : Nat → σ → τ → Prop)
    (alike : ∀ now request state other, Tied now state other →
      (serve now request state).1 = (attend now request other).1 ∧
        Tied (now + request.span) (serve now request state).2
          (attend now request other).2)
    (tied : Tied now state other) (requests : List CooldownRequest) :
    transcript serve now requests state =
      transcript attend now requests other := by
  have all := transcript_filter (fun _ => true) Tied
    (fun now request state other _ => alike now request state other)
    (fun _ _ _ _ never => by cases never) tied requests
  simpa using all

theorem transcript_erase (brief : request.span = 0)
    (idle : ∀ now state, (serve now request state).2 = state) (now : Nat)
    (state : σ) (before after : List CooldownRequest) :
    ∃ answer later,
      transcript serve now (before ++ request :: after) state =
        transcript serve now before state ++ (request, answer) :: later ∧
      transcript serve now (before ++ after) state =
        transcript serve now before state ++ later := by
  induction before generalizing now state with
  | nil =>
      refine ⟨(serve now request state).1, transcript serve now after state,
        ?_, rfl⟩
      simp only [List.nil_append, transcript, brief, idle, Nat.add_zero]
  | cons first rest induction =>
      obtain ⟨answer, later, whole, without⟩ :=
        induction (now + first.span) (serve now first state).2
      refine ⟨answer, later, ?_, ?_⟩
      · simp only [List.cons_append, transcript, whole]
      · simp only [List.cons_append, transcript, without]

theorem forall_transcript (Holds : CooldownAnswer → Prop)
    (holds : ∀ now request state, Holds (serve now request state).1)
    (now : Nat) (requests : List CooldownRequest) (state : σ) :
    ∀ entry ∈ transcript serve now requests state, Holds entry.2 := by
  induction requests generalizing now state with
  | nil => simp [transcript]
  | cons request rest induction =>
      intro entry member
      rcases List.mem_cons.mp member with rfl | later
      · exact holds now request state
      · exact induction _ _ entry later

end Transcripts

end CooldownRequest

section Reflection

variable {now later moment window : Nat} {bucket key other word : String}
  {table twin : ExpiryTable} {cooldowns after : Cooldowns}

theorem ExpiryTable.ends_put (moment : Option Nat) :
    (table.put bucket key moment).ends other word =
      if other = bucket ∧ word = key then moment
      else table.ends other word := rfl

theorem ExpiryTable.remaining_pos {left : Nat}
    (limited : table.remaining now bucket key = some left) : 0 < left := by
  obtain ⟨moment, running, rfl⟩ := Option.map_eq_some_iff.mp limited
  have ahead := (Option.filter_eq_some_iff.mp running).2
  rw [decide_eq_true_eq] at ahead
  omega

theorem ExpiryTable.left?_pos (now : Nat) (request : CooldownRequest)
    (table : ExpiryTable) :
    ∀ left, (table.serve now request).1.left? = some left → 0 < left := by
  intro left said
  cases request with
  | check bucket key => exact remaining_pos said
  | register bucket key =>
      dsimp only [serve] at said
      split at said
      · cases said
      · split at said <;> cases said
  | acquire bucket key =>
      dsimp only [serve] at said
      split at said
      · rename_i span limited
        cases said
        exact remaining_pos limited
      · split at said
        · cases said
        · split at said <;> cases said
  | _ => cases said

/-- The buckets are those of the table, and the cooldowns that are running are
those that the table has to come. -/
structure Cooldowns.Reflects (now : Nat) (cooldowns : Cooldowns)
    (table : ExpiryTable) : Prop where
  horizon : cooldowns.horizon = table.horizon
  windows : ∀ bucket, cooldowns.window? bucket = table.windows bucket
  ends : ∀ bucket key, cooldowns.ends? now bucket key =
    (table.ends bucket key).filter (now < ·)

namespace Cooldowns.Reflects

theorem plain (now : Nat) (cooldowns : Cooldowns) :
    cooldowns.Reflects now cooldowns.plain :=
  ⟨rfl, fun _ => rfl, fun _ _ => rfl⟩

theorem remaining (reflects : cooldowns.Reflects now table)
    (bucket key : String) :
    (cooldowns.ends? now bucket key).map (· - now) =
      table.remaining now bucket key := by
  rw [reflects.ends, ExpiryTable.remaining]

theorem pass (reflects : cooldowns.Reflects now table)
    (passes : now ≤ later) : cooldowns.Reflects later table where
  horizon := reflects.horizon
  windows := reflects.windows
  ends := by
    intro bucket key
    rw [ends?_later passes, reflects.ends, Option.filter_filter]
    congr 1
    funext moment
    by_cases ahead : later < moment
    · simp [ahead, Nat.lt_of_le_of_lt passes ahead]
    · simp [ahead]

theorem of_same (reflects : cooldowns.Reflects now table)
    (horizon : after.horizon = cooldowns.horizon)
    (windows : ∀ bucket, after.window? bucket = cooldowns.window? bucket)
    (ends : ∀ bucket key,
      after.ends? now bucket key = cooldowns.ends? now bucket key) :
    after.Reflects now table where
  horizon := horizon.trans reflects.horizon
  windows bucket := (windows bucket).trans (reflects.windows bucket)
  ends bucket key := (ends bucket key).trans (reflects.ends bucket key)

theorem put (reflects : cooldowns.Reflects now table)
    (horizon : after.horizon = cooldowns.horizon)
    (windows : ∀ bucket, after.window? bucket = cooldowns.window? bucket)
    (ends : ∀ other word, after.ends? now other word =
      if other = bucket ∧ word = key then (some moment).filter (now < ·)
      else cooldowns.ends? now other word) :
    after.Reflects now (table.put bucket key (some moment)) where
  horizon := horizon.trans reflects.horizon
  windows bucket := (windows bucket).trans (reflects.windows bucket)
  ends other word := by
    rw [ends, ExpiryTable.ends_put]
    split
    · rfl
    · exact reflects.ends other word

theorem configure (reflects : cooldowns.Reflects now table)
    (bucket : String) (window : Nat) :
    (cooldowns.configure bucket window).Reflects now
      (table.serve now (.configure bucket window)).2 where
  horizon := horizon_configure.trans reflects.horizon
  windows other := by
    rw [window?_configure, reflects.windows]
    rfl
  ends other word := ends?_configure.trans (reflects.ends other word)

theorem register (reflects : cooldowns.Reflects now table)
    (bucket key : String) :
    (cooldowns.serve now (.register bucket key)).1 =
        (table.serve now (.register bucket key)).1 ∧
      (cooldowns.serve now (.register bucket key)).2.Reflects now
        (table.serve now (.register bucket key)).2 := by
  simp only [serve, ExpiryTable.serve, ← reflects.windows,
    ← reflects.horizon]
  have clock := horizon_register now bucket key cooldowns
  have turn := register_registration now bucket key cooldowns
  generalize cooldowns.register now bucket key = result at clock turn ⊢
  cases turn with
  | unknown undeclared =>
      rw [undeclared]
      exact ⟨rfl, reflects⟩
  | beyond declared beyond =>
      simp only [declared, Nat.not_le.mpr beyond, if_false]
      exact ⟨trivial, reflects⟩
  | recorded declared within windows ends =>
      simp only [declared, within, if_true]
      exact ⟨trivial, reflects.put clock windows ends⟩

theorem acquire (reflects : cooldowns.Reflects now table)
    (bucket key : String) :
    (cooldowns.serve now (.acquire bucket key)).1 =
        (table.serve now (.acquire bucket key)).1 ∧
      (cooldowns.serve now (.acquire bucket key)).2.Reflects now
        (table.serve now (.acquire bucket key)).2 := by
  simp only [serve, ExpiryTable.serve, ← reflects.windows,
    ← reflects.remaining, ← reflects.horizon]
  have clock := horizon_acquire now bucket key cooldowns
  have turn := acquire_acquisition now bucket key cooldowns
  generalize cooldowns.acquire now bucket key = result at clock turn ⊢
  cases turn with
  | uncounted undeclared =>
      have idle : cooldowns.ends? now bucket key = none := by
        rw [ends?, Option.map_eq_none_iff.mp undeclared]
        rfl
      rw [idle, undeclared]
      exact ⟨rfl, reflects⟩
  | limited running windows ends =>
      rw [running]
      exact ⟨rfl, reflects.of_same clock windows ends⟩
  | beyond declared idle beyond windows ends =>
      simp only [idle, declared, Option.map_none, Nat.not_le.mpr beyond,
        if_false]
      exact ⟨trivial, reflects.of_same clock windows ends⟩
  | reserved declared idle within windows ends =>
      simp only [idle, declared, Option.map_none, within, if_true]
      exact ⟨trivial, reflects.put clock windows ends⟩

theorem release (reflects : cooldowns.Reflects now table)
    (reservation : Reservation) :
    (cooldowns.release reservation).Reflects now
      (table.serve now (.release reservation)).2 where
  horizon := by
    rw [horizon_release, reflects.horizon, ExpiryTable.serve]
    dsimp only
    split <;> rfl
  windows bucket := by
    rw [window?_release, reflects.windows, ExpiryTable.serve]
    dsimp only
    split <;> rfl
  ends other word := by
    rw [ends?_release, reflects.ends, ExpiryTable.serve]
    dsimp only
    by_cases here : other = reservation.bucket ∧ word = reservation.key
    · obtain ⟨rfl, rfl⟩ := here
      -- A stored end that has passed is gone from the bucket: neither side has
      -- it any more, whether or not it is the one that is given back.
      by_cases same : table.ends reservation.bucket reservation.key =
          some reservation.expires
      · by_cases ahead : now < reservation.expires <;>
          simp [ExpiryTable.ends_put, same, ahead, Option.filter_some]
      · have other : (table.ends reservation.bucket
            reservation.key).filter (now < ·) ≠ some reservation.expires :=
          fun held => same (Option.filter_eq_some_iff.mp held).1
        simp [same, other]
    · rw [if_neg fun all => here ⟨all.1, all.2.1⟩]
      split
      · rw [ExpiryTable.ends_put, if_neg here]
      · rfl

theorem serve (reflects : cooldowns.Reflects now table)
    (request : CooldownRequest) :
    (cooldowns.serve now request).1 = (table.serve now request).1 ∧
      (cooldowns.serve now request).2.Reflects (now + request.span)
        (table.serve now request).2 := by
  cases request with
  | configure bucket window => exact ⟨rfl, reflects.configure bucket window⟩
  | window bucket =>
      exact ⟨congrArg CooldownAnswer.window (reflects.windows bucket),
        reflects⟩
  | check bucket key =>
      constructor
      · apply congrArg CooldownAnswer.remaining
        exact (check_eq now bucket key cooldowns).trans
          (reflects.remaining bucket key)
      · exact reflects.of_same (horizon_check _ _ _ _)
          (fun _ => window?_check) fun _ _ => ends?_check
  | register bucket key => exact reflects.register bucket key
  | acquire bucket key => exact reflects.acquire bucket key
  | release reservation => exact ⟨rfl, reflects.release reservation⟩
  | pass span => exact ⟨rfl, reflects.pass (Nat.le_add_right now span)⟩

end Cooldowns.Reflects

end Reflection

namespace ExpiryTable

variable {now : Nat} {bucket key : String} {table twin : ExpiryTable}

/-- Two tables differ in nothing but the end of one key. -/
structure SameBut (bucket key : String) (table twin : ExpiryTable) : Prop where
  horizon : table.horizon = twin.horizon
  windows : table.windows = twin.windows
  ends : ∀ other word, ¬(other = bucket ∧ word = key) →
    table.ends other word = twin.ends other word

namespace SameBut

theorem refl (bucket key : String) (table : ExpiryTable) :
    SameBut bucket key table table := ⟨rfl, rfl, fun _ _ _ => rfl⟩

theorem put (same : SameBut bucket key table twin) (name word : String)
    (moment : Option Nat) :
    SameBut bucket key (table.put name word moment)
      (twin.put name word moment) where
  horizon := same.horizon
  windows := same.windows
  ends other letter elsewhere := by
    simp only [ends_put, same.ends other letter elsewhere]

theorem put_own (same : SameBut bucket key table twin)
    (moment : Option Nat) :
    SameBut bucket key (table.put bucket key moment) twin where
  horizon := same.horizon
  windows := same.windows
  ends other word elsewhere := by
    rw [ends_put, if_neg elsewhere]
    exact same.ends other word elsewhere

theorem own (same : SameBut bucket key table twin)
    {request : CooldownRequest} (about : request.place? = some (bucket, key)) :
    SameBut bucket key (table.serve now request).2 twin := by
  cases request with
  | configure | window | pass => cases about
  | check => exact same
  | register =>
      cases about
      rw [serve]
      cases table.windows bucket with
      | none => exact same
      | some window =>
          dsimp only
          split
          · exact same.put_own _
          · exact same
  | acquire =>
      cases about
      rw [serve]
      cases table.remaining now bucket key with
      | some left => exact same
      | none =>
          cases table.windows bucket with
          | none => exact same
          | some window =>
              dsimp only
              split
              · exact same.put_own _
              · exact same
  | release reservation =>
      cases about
      rw [serve]
      dsimp only
      split
      · exact same.put_own _
      · exact same

/-- A request about anything else is answered alike. -/
theorem foreign (same : SameBut bucket key table twin)
    {request : CooldownRequest} (about : request.place? ≠ some (bucket, key)) :
    (table.serve now request).1 = (twin.serve now request).1 ∧
      SameBut bucket key (table.serve now request).2
        (twin.serve now request).2 := by
  have apart : ∀ name word, request.place? = some (name, word) →
      table.ends name word = twin.ends name word := by
    intro name word place
    apply same.ends
    rintro ⟨rfl, rfl⟩
    exact about place
  cases request with
  | configure name window =>
      refine ⟨rfl, same.horizon, ?_, same.ends⟩
      simp only [serve, same.windows]
  | window name => exact ⟨by simp only [serve, same.windows], same⟩
  | check name word =>
      refine ⟨?_, same⟩
      simp only [serve, remaining, apart name word rfl]
  | register name word =>
      simp only [serve, same.windows, same.horizon]
      cases twin.windows name with
      | none => exact ⟨rfl, same⟩
      | some window =>
          dsimp only
          split
          · exact ⟨rfl, same.put name word _⟩
          · exact ⟨rfl, same⟩
  | acquire name word =>
      simp only [serve, remaining, same.windows, same.horizon,
        apart name word rfl]
      cases ((twin.ends name word).filter (now < ·)).map (· - now) with
      | some left => exact ⟨rfl, same⟩
      | none =>
          cases twin.windows name with
          | none => exact ⟨rfl, same⟩
          | some window =>
              dsimp only
              split
              · exact ⟨rfl, same.put name word _⟩
              · exact ⟨rfl, same⟩
  | release reservation =>
      refine ⟨rfl, ?_⟩
      simp only [serve, apart reservation.bucket reservation.key rfl]
      split
      · exact same.put _ _ _
      · exact same
  | pass => exact ⟨rfl, same⟩

end SameBut

end ExpiryTable

namespace Cooldowns

open CooldownRequest

variable (now horizon : Nat) (requests : List CooldownRequest)
  (cooldowns : Cooldowns)

theorem transcript_plain :
    transcript Cooldowns.serve now requests cooldowns =
      transcript ExpiryTable.serve now requests cooldowns.plain :=
  transcript_eq Reflects (fun _ request _ _ reflects => reflects.serve request)
    (.plain now cooldowns) requests

/-- Whatever is asked of cooldowns, at whatever times, they answer like a plain
table of expiries with the same horizon: what they forget cannot be noticed.  So
a look at a cooldown can be left out without a change of any other answer; what
is said to remain is never zero; and all that is asked about one key of a bucket
can be left out without a change of the answers about anything else. -/
theorem answer_as_plain_table :
    ({ horizon } : Cooldowns).plain = { horizon } ∧
    transcript Cooldowns.serve now requests cooldowns =
      transcript ExpiryTable.serve now requests cooldowns.plain ∧
    (∀ before after bucket key,
      requests = before ++ .check bucket key :: after → ∃ answer later,
        transcript Cooldowns.serve now requests cooldowns =
          transcript Cooldowns.serve now before cooldowns ++
            (.check bucket key, answer) :: later ∧
        transcript Cooldowns.serve now (before ++ after) cooldowns =
          transcript Cooldowns.serve now before cooldowns ++ later) ∧
    (∀ entry ∈ transcript Cooldowns.serve now requests cooldowns,
      ∀ left, entry.2.left? = some left → 0 < left) ∧
    ∀ bucket key,
      (transcript Cooldowns.serve now requests cooldowns).filter
          (fun entry => entry.1.place? ≠ some (bucket, key)) =
        transcript Cooldowns.serve now
          (requests.filter fun request =>
            request.place? ≠ some (bucket, key)) cooldowns := by
  refine ⟨rfl, transcript_plain now requests cooldowns, ?_, ?_, ?_⟩
  · rintro before after bucket key rfl
    simp only [transcript_plain]
    exact transcript_erase rfl (fun _ _ => rfl) now cooldowns.plain before
      after
  · rw [transcript_plain]
    exact forall_transcript
      (fun answer => ∀ left, answer.left? = some left → 0 < left)
      ExpiryTable.left?_pos now requests cooldowns.plain
  · intro bucket key
    simp only [transcript_plain]
    apply transcript_filter (fun request : CooldownRequest =>
      decide (request.place? ≠ some (bucket, key)))
      (fun _ => ExpiryTable.SameBut bucket key)
    · intro now request table twin kept same
      exact same.foreign (of_decide_eq_true kept)
    · intro now request table twin left same
      have about : request.place? = some (bucket, key) := by
        simpa using left
      exact ⟨span_eq_zero_of_place? about, same.own about⟩
    · exact .refl bucket key cooldowns.plain

/-- A use is asked for, and what remains of its cooldown is asked for twice:
while it is running, and at its end.  Then it is given back late. -/
def rollRequests : List CooldownRequest :=
  [.configure "roll" 10, .acquire "roll" "@alice", .pass 4,
    .check "roll" "@alice", .pass 6, .check "roll" "@alice",
    .release ⟨"roll", "@alice", 10⟩, .acquire "roll" "@alice"]

/-- The first look could be left out, and it tells that there is something to
wait for. -/
theorem rollRequests_answered :
    (∃ answer later,
      transcript Cooldowns.serve 0 rollRequests { horizon := 100 } =
        transcript Cooldowns.serve 0 (rollRequests.take 3)
            { horizon := 100 } ++
          (.check "roll" "@alice", answer) :: later ∧
      transcript Cooldowns.serve 0 (rollRequests.eraseIdx 3)
          { horizon := 100 } =
        transcript Cooldowns.serve 0 (rollRequests.take 3)
          { horizon := 100 } ++ later) ∧
    (.check "roll" "@alice", .remaining (some 6)) ∈
      transcript Cooldowns.serve 0 rollRequests { horizon := 100 } ∧
    0 < 6 := by
  obtain ⟨_, _, erases, positive, _⟩ :=
    answer_as_plain_table 0 100 rollRequests { horizon := 100 }
  have member : (.check "roll" "@alice", .remaining (some 6)) ∈
      transcript Cooldowns.serve 0 rollRequests { horizon := 100 } := by
    decide +kernel
  exact ⟨erases (rollRequests.take 3) (rollRequests.drop 4) "roll" "@alice"
    rfl, member, positive _ member 6 rfl⟩

end Cooldowns

end Switchboard
