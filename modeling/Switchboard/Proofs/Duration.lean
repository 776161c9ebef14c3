import Mathlib.Data.List.TakeWhile
import Switchboard.Notice

/-!
# How spans are announced

A span is announced as hours, minutes and seconds that make up the number of
its seconds, a started one counted as whole.  The text says which number that
is: each of its numbers ends where its unit stands.
-/

namespace Switchboard

namespace Duration

/-- A text that tells hours, minutes and seconds, each in decimal digits with
its unit behind it.  Leading units that are zero are left out. -/
inductive Tells : String → Nat → Nat → Nat → Prop where
  | seconds (seconds : Nat) : Tells (seconds.repr ++ "s") 0 0 seconds
  | minutes (minutes seconds : Nat) : 0 < minutes →
      Tells (minutes.repr ++ "m " ++ seconds.repr ++ "s") 0 minutes seconds
  | hours (hours minutes seconds : Nat) : 0 < hours →
      Tells (hours.repr ++ "h " ++ minutes.repr ++ "m " ++ seconds.repr ++ "s")
        hours minutes seconds

section

variable {span other : Duration} {seconds : Nat}

theorem digits_unique {digits word rest tail : List Char} {unit mark : Char}
    (numeric : ∀ c ∈ digits, c.isDigit = true)
    (alike : ∀ c ∈ word, c.isDigit = true)
    (unitStops : unit.isDigit = false) (markStops : mark.isDigit = false)
    (same : digits ++ unit :: rest = word ++ mark :: tail) :
    digits = word ∧ unit = mark ∧ rest = tail := by
  have read : ∀ {digits rest : List Char} {unit : Char},
      (∀ c ∈ digits, c.isDigit = true) → unit.isDigit = false →
        (digits ++ unit :: rest).takeWhile Char.isDigit = digits := by
    intro digits rest unit numeric stops
    rw [List.takeWhile_append_of_pos numeric,
      List.takeWhile_cons_of_neg (by simp [stops]), List.append_nil]
  have words : digits = word := by
    have read' := @read word tail mark alike markStops
    rw [← same, read numeric unitStops] at read'
    exact read'
  subst words
  obtain ⟨units, rests⟩ := List.cons.inj (List.append_cancel_left same)
  exact ⟨rfl, units, rests⟩

theorem repr_unique {one two : Nat} {unit mark : Char} {rest tail : List Char}
    (unitStops : unit.isDigit = false) (markStops : mark.isDigit = false)
    (same : one.repr.toList ++ unit :: rest =
      two.repr.toList ++ mark :: tail) :
    one = two ∧ unit = mark ∧ rest = tail := by
  have numeric : ∀ number : Nat, ∀ c ∈ number.repr.toList,
      c.isDigit = true := by
    intro number c member
    rw [Nat.toList_repr] at member
    exact Nat.isDigit_of_mem_toDigits (by decide) (by decide) member
  obtain ⟨digits, units, rests⟩ := digits_unique (numeric one) (numeric two)
    unitStops markStops same
  rw [Nat.toList_repr, Nat.toList_repr] at digits
  have numbers := congrArg (Nat.ofDigitChars 10 · 0) digits
  simp only [Nat.ofDigitChars_ten_toDigits] at numbers
  exact ⟨numbers, units, rests⟩

theorem Split.tells (split : Split) :
    Tells split.render split.hours split.minutes split.seconds := by
  have whole : split.render =
      if split.hours = 0 then
        if split.minutes = 0 then split.seconds.repr ++ "s"
        else split.minutes.repr ++ "m " ++ split.seconds.repr ++ "s"
      else split.hours.repr ++ "h " ++ split.minutes.repr ++ "m " ++
        split.seconds.repr ++ "s" := rfl
  rw [whole]
  obtain ⟨hours, minutes, seconds⟩ := split
  rcases Nat.eq_zero_or_pos hours with rfl | someHours
  · rcases Nat.eq_zero_or_pos minutes with rfl | someMinutes
    · exact .seconds seconds
    · simpa [Nat.ne_of_gt someMinutes] using
        Tells.minutes minutes seconds someMinutes
  · simpa [Nat.ne_of_gt someHours] using
      Tells.hours hours minutes seconds someHours

theorem Tells.shape {text : String} {hours minutes seconds : Nat}
    (tells : Tells text hours minutes seconds) :
    (hours = 0 ∧ minutes = 0 ∧
      text.toList = seconds.repr.toList ++ ['s']) ∨
    (hours = 0 ∧ text.toList = minutes.repr.toList ++
      'm' :: ' ' :: (seconds.repr.toList ++ ['s'])) ∨
    text.toList = hours.repr.toList ++ 'h' :: ' ' :: (minutes.repr.toList ++
      'm' :: ' ' :: (seconds.repr.toList ++ ['s'])) := by
  cases tells with
  | seconds => exact .inl ⟨rfl, rfl, by simp⟩
  | minutes => exact .inr (.inl ⟨rfl, by simp⟩)
  | hours => exact .inr (.inr (by simp))

theorem Tells.unique {text : String} {hours minutes seconds : Nat}
    {hours' minutes' seconds' : Nat}
    (tells : Tells text hours minutes seconds)
    (alike : Tells text hours' minutes' seconds') :
    hours = hours' ∧ minutes = minutes' ∧ seconds = seconds' := by
  have hour : Char.isDigit 'h' = false := by decide
  have minute : Char.isDigit 'm' = false := by decide
  have second : Char.isDigit 's' = false := by decide
  -- The first unit says which units are left out.
  rcases tells.shape with ⟨rfl, rfl, reads⟩ | ⟨rfl, reads⟩ | reads
  · rcases alike.shape with ⟨rfl, rfl, reads'⟩ | ⟨rfl, reads'⟩ | reads'
    · obtain ⟨rfl, _⟩ := repr_unique second second (reads.symm.trans reads')
      exact ⟨rfl, rfl, rfl⟩
    · exact absurd (repr_unique second minute (reads.symm.trans reads')).2.1
        (by decide)
    · exact absurd (repr_unique second hour (reads.symm.trans reads')).2.1
        (by decide)
  · rcases alike.shape with ⟨rfl, rfl, reads'⟩ | ⟨rfl, reads'⟩ | reads'
    · exact absurd (repr_unique minute second (reads.symm.trans reads')).2.1
        (by decide)
    · obtain ⟨rfl, _, rest⟩ :=
        repr_unique minute minute (reads.symm.trans reads')
      obtain ⟨rfl, _⟩ := repr_unique second second (List.cons.inj rest).2
      exact ⟨rfl, rfl, rfl⟩
    · exact absurd (repr_unique minute hour (reads.symm.trans reads')).2.1
        (by decide)
  · rcases alike.shape with ⟨rfl, rfl, reads'⟩ | ⟨rfl, reads'⟩ | reads'
    · exact absurd (repr_unique hour second (reads.symm.trans reads')).2.1
        (by decide)
    · exact absurd (repr_unique hour minute (reads.symm.trans reads')).2.1
        (by decide)
    · obtain ⟨rfl, _, rest⟩ := repr_unique hour hour (reads.symm.trans reads')
      obtain ⟨rfl, _, rest⟩ :=
        repr_unique minute minute (List.cons.inj rest).2
      obtain ⟨rfl, _⟩ := repr_unique second second (List.cons.inj rest).2
      exact ⟨rfl, rfl, rfl⟩

end

end Duration

namespace Notice

end Notice

end Switchboard
