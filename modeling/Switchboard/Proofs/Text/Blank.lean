import Mathlib.Data.List.DropRight
import Switchboard.Text.Blank

/-!
# Blanks at the ends of a text

A text that is bare has no blank at either end.  Every text is a bare one
between blanks, and in one way only: trimming finds the bare one, whatever
blanks stand around it.  The split at the first blank is the only split into a
word and a rest that is empty or goes on with a blank.
-/

namespace Switchboard.Text

/-- Neither the first nor the last letter is a blank. -/
structure Bare (text : List Char) : Prop where
  first : ∀ c ∈ text.head?, isBlank c = false
  last : ∀ c ∈ text.getLast?, isBlank c = false

/-- A text that could be the word of a command. -/
structure IsWord (word : List Char) : Prop where
  nonempty : word ≠ []
  solid : ∀ c ∈ word, isBlank c = false

/-- There is nothing but blanks. -/
def Blanks (text : List Char) : Prop := ∀ c ∈ text, isBlank c = true

/-- A text is another one between blanks, and that one is bare. -/
structure Trims (text core : List Char) : Prop where
  bare : Bare core
  split : ∃ front back, text = front ++ core ++ back ∧ Blanks front ∧
    Blanks back

instance (text : List Char) : Decidable (Blanks text) :=
  inferInstanceAs (Decidable (∀ c ∈ text, isBlank c = true))

instance (text : List Char) : Decidable (Bare text) :=
  decidable_of_iff (text.head?.all (!isBlank ·) = true ∧
      text.getLast?.all (!isBlank ·) = true) <| by
    simp only [Option.all_eq_true, Bool.not_eq_true']
    exact ⟨fun ⟨first, last⟩ => ⟨first, last⟩,
      fun bare => ⟨bare.first, bare.last⟩⟩

instance (word : List Char) : Decidable (IsWord word) :=
  decidable_of_iff (word ≠ [] ∧ word.all (!isBlank ·) = true) <| by
    simp only [List.all_eq_true, Bool.not_eq_true']
    exact ⟨fun ⟨nonempty, solid⟩ => ⟨nonempty, solid⟩,
      fun isWord => ⟨isWord.nonempty, isWord.solid⟩⟩

section

variable {text word tail front back core other : List Char}

theorem trimStart_of_first (first : ∀ c ∈ text.head?, isBlank c = false) :
    trimStart text = text := by
  cases text with
  | nil => rfl
  | cons c rest => exact List.dropWhile_cons_of_neg (by simp [first c rfl])

theorem trimEnd_of_last (last : ∀ c ∈ text.getLast?, isBlank c = false) :
    trimEnd text = text := by
  have reversed : trimStart text.reverse = text.reverse := by
    refine trimStart_of_first ?_
    rwa [List.head?_reverse]
  rw [trimEnd, ← trimStart, reversed, List.reverse_reverse]

theorem trimChars_of_bare (bare : Bare text) : trimChars text = text := by
  rw [trimChars, trimStart_of_first bare.first, trimEnd_of_last bare.last]

theorem not_isBlank_of_mem_head?_trimStart {c : Char}
    (first : c ∈ (trimStart text).head?) : isBlank c = false := by
  have kept := List.head?_dropWhile_not isBlank text
  rw [← trimStart, first] at kept
  exact kept

theorem bare_trimChars (text : List Char) : Bare (trimChars text) where
  first := by
    intro c first
    obtain ⟨cut, whole⟩ : trimChars text <+: trimStart text :=
      List.rdropWhile_prefix isBlank _
    have kept : c ∈ (trimStart text).head? := by
      rw [← whole, List.head?_append, first]
      rfl
    exact not_isBlank_of_mem_head?_trimStart kept
  last := by
    intro c last
    rw [trimChars, trimEnd, List.getLast?_reverse] at last
    exact not_isBlank_of_mem_head?_trimStart last

theorem IsWord.bare (isWord : IsWord word) : Bare word where
  first _ first := isWord.solid _ (List.mem_of_mem_head? first)
  last _ last := isWord.solid _ (List.mem_of_mem_getLast? last)

theorem Bare.append {left right : List Char} (nonempty : left ≠ [])
    (outer : Bare left) (last : ∀ c ∈ right.getLast?, isBlank c = false) :
    Bare (left ++ right) where
  first := by
    rw [List.head?_append_of_ne_nil _ nonempty]
    exact outer.first
  last := by
    rw [List.getLast?_append]
    intro c ends
    rcases Option.or_eq_some_iff.mp ends with inner | ⟨_, before⟩
    · exact last c inner
    · exact outer.last c before

theorem trimChars_cons_of_isBlank {c : Char} (blank : isBlank c = true)
    (text : List Char) : trimChars (c :: text) = trimChars text := by
  rw [trimChars, trimStart, List.dropWhile_cons_of_pos blank, trimChars,
    trimStart]

theorem trimStart_append (blanks : Blanks front) (text : List Char) :
    trimStart (front ++ text) = trimStart text :=
  List.dropWhile_append_of_pos blanks

theorem trimEnd_append (blanks : Blanks back) (text : List Char) :
    trimEnd (text ++ back) = trimEnd text := by
  have reversed : Blanks back.reverse := by
    intro c member
    exact blanks c (List.mem_reverse.mp member)
  rw [trimEnd, List.reverse_append, List.dropWhile_append_of_pos reversed,
    ← trimEnd]

theorem exists_trimEnd (text : List Char) :
    ∃ back, text = trimEnd text ++ back ∧ Blanks back := by
  refine ⟨(text.reverse.takeWhile isBlank).reverse, ?_, ?_⟩
  · rw [trimEnd, ← List.reverse_append, List.takeWhile_append_dropWhile,
      List.reverse_reverse]
  · intro c member
    exact List.mem_takeWhile_imp (List.mem_reverse.mp member)

theorem trimChars_surround (text : List Char) (before : Blanks front)
    (behind : Blanks back) :
    trimChars (front ++ text ++ back) = trimChars text := by
  rw [trimChars, List.append_assoc, trimStart_append before, trimStart,
    List.dropWhile_append]
  split
  · rename_i nothing
    have blank : Blanks text := by
      simpa [Blanks] using nothing
    rw [List.dropWhile_eq_nil_iff.mpr behind, trimChars, trimStart,
      List.dropWhile_eq_nil_iff.mpr blank]
  · exact trimEnd_append behind _

theorem trims_iff : Trims text core ↔ trimChars text = core := by
  constructor
  · rintro ⟨bare, front, back, rfl, before, behind⟩
    rw [trimChars_surround core before behind, trimChars_of_bare bare]
  · rintro rfl
    obtain ⟨back, split, behind⟩ := exists_trimEnd (trimStart text)
    refine ⟨bare_trimChars text, text.takeWhile isBlank, back, ?_, ?_,
      behind⟩
    · rw [trimChars, List.append_assoc, ← split, trimStart,
        List.takeWhile_append_dropWhile]
    · exact fun c member => List.mem_takeWhile_imp member

theorem trims_trimChars (text : List Char) : Trims text (trimChars text) :=
  trims_iff.mpr rfl

theorem Trims.unique (one : Trims text core) (two : Trims text other) :
    core = other :=
  (trims_iff.mp one).symm.trans (trims_iff.mp two)

theorem splitAtBlank_eq_iff :
    splitAtBlank text = (word, tail) ↔
      text = word ++ tail ∧ (∀ c ∈ word, isBlank c = false) ∧
        ∀ c ∈ tail.head?, isBlank c = true := by
  constructor
  · intro split
    obtain ⟨rfl, rfl⟩ := Prod.mk.inj split
    refine ⟨List.takeWhile_append_dropWhile.symm, ?_, ?_⟩
    · intro c member
      simpa using List.mem_takeWhile_imp member
    · intro c first
      have kept := List.head?_dropWhile_not (!isBlank ·) text
      rw [first] at kept
      simpa using kept
  · rintro ⟨rfl, solid, blank⟩
    have open_ : ∀ c ∈ word, (!isBlank c) = true := by simpa using solid
    rw [splitAtBlank, List.takeWhile_append_of_pos open_,
      List.dropWhile_append_of_pos open_]
    cases tail with
    | nil => simp
    | cons c rest => simp [blank c rfl]

end

end Switchboard.Text
