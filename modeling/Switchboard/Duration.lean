/-!
# Spans of time

A span is a whole number of nanoseconds. Users see it in hours, minutes and
seconds, where a started second counts as a whole one, so an announced span is
never too short.
-/

namespace Switchboard

/-- A span of time in whole nanoseconds. -/
structure Duration where
  nanos : Nat
deriving DecidableEq, Repr

namespace Duration

/-- A span given as whole seconds and further nanoseconds. -/
def ofParts (seconds nanos : Nat) : Duration := ⟨seconds * 1000000000 + nanos⟩

def ofSeconds (seconds : Nat) : Duration := ofParts seconds 0

def ofMillis (millis : Nat) : Duration := ⟨millis * 1000000⟩

/-- The number of seconds, a started one counted as whole. -/
def ceilSeconds (span : Duration) : Nat := (span.nanos + 999999999) / 1000000000

/-- Hours, minutes and seconds of a span, with fewer than sixty minutes and
sixty seconds. -/
structure Split where
  hours : Nat
  minutes : Nat
  seconds : Nat
deriving DecidableEq, Repr

/-- The one split with that total of seconds. -/
def Split.ofSeconds (total : Nat) : Split where
  hours := total / 3600
  minutes := total % 3600 / 60
  seconds := total % 60

def Split.total (split : Split) : Nat :=
  split.hours * 3600 + split.minutes * 60 + split.seconds

/-- Leading units that are zero are left out; the seconds always stand. -/
def Split.render (split : Split) : String :=
  if split.hours = 0 then
    if split.minutes = 0 then s!"{split.seconds}s"
    else s!"{split.minutes}m {split.seconds}s"
  else s!"{split.hours}h {split.minutes}m {split.seconds}s"

/-- The text shown to users, such as `1h 2m 3s`. -/
def render (span : Duration) : String :=
  (Split.ofSeconds span.ceilSeconds).render

end Duration

end Switchboard
