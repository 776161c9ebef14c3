import Switchboard.Message
import Switchboard.Proofs.Text.Blank

/-!
# Which messages invoke commands

A message is read as a word with arguments just if it is written so, and it is
written so in one way only, however many blanks stand around it and between the
two.  A word and its arguments, written after the prefix in the plainest way,
are read back unless the prefix starts with a blank: then no message invokes
anything, since the blanks in front of a message are cut off before the prefix
is looked for.
-/

namespace Switchboard.Message

open Text

/-- A text without blanks at its ends is the prefix, a word, and what follows
the word: nothing, or a blank and the arguments between any blanks. -/
structure Spells (commandPrefix text word arguments : List Char) : Prop where
  isWord : IsWord word
  split : ∃ tail, text = commandPrefix ++ word ++ tail ∧
    (∀ c ∈ tail.head?, isBlank c = true) ∧ trimChars tail = arguments

/-- The text is the prefix, a word, and a tail: nothing, or something that
starts with a blank. -/
structure Parts (commandPrefix text word tail : List Char) : Prop where
  whole : text = commandPrefix ++ word ++ tail
  isWord : IsWord word
  apart : ∀ c ∈ tail.head?, isBlank c = true

/-- The grammar of messages: between blanks stand the prefix, a word and a
tail, and between the blanks of the tail stand the arguments. -/
structure Reading (commandPrefix body text word tail arguments : List Char) :
    Prop where
  outer : Trims body text
  parts : Parts commandPrefix text word tail
  inner : Trims tail arguments

/-- A message consists of a word and its arguments. -/
def Written (commandPrefix body word arguments : String) : Prop :=
  ∃ text tail, Reading commandPrefix.toList body.toList text word.toList tail
    arguments.toList

/-- The plainest message that invokes a word with arguments. -/
def write (commandPrefix word arguments : String) : String :=
  commandPrefix ++ word ++ if arguments = "" then "" else " " ++ arguments

/-- Every word is read from the message that is written for it, with its
arguments. -/
def Usable (commandPrefix : String) : Prop :=
  ∀ word arguments, IsWord word.toList → Bare arguments.toList →
    parse? commandPrefix (write commandPrefix word arguments) =
      some (word, arguments)

section

variable {commandPrefix body word arguments : String}

theorem dropPrefix?_eq_some_iff {start text rest : List Char} :
    dropPrefix? start text = some rest ↔ text = start ++ rest := by
  rw [dropPrefix?, Option.ite_none_right_eq_some, List.isPrefixOf_iff_prefix]
  constructor
  · rintro ⟨⟨after, rfl⟩, same⟩
    cases same
    rw [List.drop_left]
  · rintro rfl
    exact ⟨List.prefix_append start rest, by rw [List.drop_left]⟩

theorem parse?_eq_some_iff_spells :
    parse? commandPrefix body = some (word, arguments) ↔
      Spells commandPrefix.toList (trimChars body.toList) word.toList
        arguments.toList := by
  unfold parse?
  constructor
  · intro parsed
    split at parsed
    · cases parsed
    · rename_i rest dropped
      generalize halves : splitAtBlank rest = pair at parsed
      obtain ⟨letters, tail⟩ := pair
      dsimp only at parsed
      rw [Option.ite_none_left_eq_some] at parsed
      obtain ⟨nonempty, same⟩ := parsed
      cases same
      obtain ⟨rfl, solid, blank⟩ := splitAtBlank_eq_iff.mp halves
      have whole := dropPrefix?_eq_some_iff.mp dropped
      rw [← List.append_assoc] at whole
      simp only [String.toList_ofList]
      exact ⟨⟨by simpa using nonempty, solid⟩, tail, whole, blank, rfl⟩
  · rintro ⟨⟨nonempty, solid⟩, tail, whole, blank, trimmed⟩
    rw [List.append_assoc] at whole
    rw [dropPrefix?_eq_some_iff.mpr whole]
    dsimp only
    rw [splitAtBlank_eq_iff.mpr ⟨rfl, solid, blank⟩]
    simp [nonempty, trimmed]

theorem Parts.unique {start text letters tail other rest : List Char}
    (one : Parts start text letters tail)
    (two : Parts start text other rest) : letters = other ∧ tail = rest := by
  have same : letters ++ tail = other ++ rest := by
    have whole := one.whole.symm.trans two.whole
    rw [List.append_assoc, List.append_assoc] at whole
    exact List.append_cancel_left whole
  have first : splitAtBlank (letters ++ tail) = (letters, tail) :=
    splitAtBlank_eq_iff.mpr ⟨rfl, one.isWord.solid, one.apart⟩
  have second : splitAtBlank (letters ++ tail) = (other, rest) :=
    splitAtBlank_eq_iff.mpr ⟨same, two.isWord.solid, two.apart⟩
  exact Prod.mk.inj (first.symm.trans second)

theorem Reading.unique
    {start whole text letters tail given text' other rest given' : List Char}
    (one : Reading start whole text letters tail given)
    (two : Reading start whole text' other rest given') :
    text = text' ∧ letters = other ∧ tail = rest ∧ given = given' := by
  obtain rfl := one.outer.unique two.outer
  obtain ⟨rfl, rfl⟩ := one.parts.unique two.parts
  exact ⟨rfl, rfl, rfl, one.inner.unique two.inner⟩

theorem parse?_eq_some_iff_written :
    parse? commandPrefix body = some (word, arguments) ↔
      Written commandPrefix body word arguments := by
  rw [parse?_eq_some_iff_spells]
  constructor
  · rintro ⟨isWord, tail, whole, apart, trimmed⟩
    exact ⟨_, tail, trims_trimChars _, ⟨whole, isWord, apart⟩,
      trims_iff.mpr trimmed⟩
  · rintro ⟨text, tail, outer, parts, inner⟩
    refine ⟨parts.isWord, tail, ?_, parts.apart, trims_iff.mp inner⟩
    rw [trims_iff.mp outer]
    exact parts.whole

theorem parse?_eq_none_of_unwritten
    (unwritten : ∀ word arguments,
      ¬Written commandPrefix body word arguments) :
    parse? commandPrefix body = none := by
  cases parsed : parse? commandPrefix body with
  | none => rfl
  | some pair =>
      exact absurd (parse?_eq_some_iff_written.mp parsed) (unwritten _ _)

theorem parse?_surround (body : String) {front back : String}
    (before : Blanks front.toList) (behind : Blanks back.toList) :
    parse? commandPrefix (front ++ body ++ back) =
      parse? commandPrefix body := by
  unfold parse?
  rw [String.toList_append, String.toList_append,
    trimChars_surround body.toList before behind]

/-- What stands behind a word is cut off at its blanks. -/
theorem parse?_of_apart
    (first : ∀ c ∈ commandPrefix.toList.head?, isBlank c = false)
    (isWord : IsWord word.toList) {tail : String}
    (apart : ∀ c ∈ tail.toList.head?, isBlank c = true) :
    parse? commandPrefix (commandPrefix ++ word ++ tail) =
      some (word, trim tail) := by
  have nonempty : commandPrefix.toList ++ word.toList ≠ [] := by
    simp [isWord.nonempty]
  have outer : Bare (commandPrefix.toList ++ word.toList) := by
    constructor
    · rw [List.head?_append]
      intro c starts
      rcases Option.or_eq_some_iff.mp starts with before | ⟨_, inner⟩
      · exact first c before
      · exact isWord.bare.first c inner
    · rw [List.getLast?_append_of_ne_nil _ isWord.nonempty]
      exact isWord.bare.last
  obtain ⟨back, cut, behind⟩ := exists_trimEnd tail.toList
  have last : ∀ c ∈ (trimEnd tail.toList).getLast?, isBlank c = false := by
    intro c ends
    rw [trimEnd, List.getLast?_reverse] at ends
    exact not_isBlank_of_mem_head?_trimStart ends
  -- The blanks at the end of the message are those at the end of the tail.
  have body : (commandPrefix ++ word ++ tail).toList =
      [] ++ (commandPrefix.toList ++ word.toList ++ trimEnd tail.toList) ++
        back := by
    simp only [String.toList_append, List.nil_append, List.append_assoc]
    rw [← cut]
  rw [parse?_eq_some_iff_written]
  refine ⟨_, trimEnd tail.toList, ⟨outer.append nonempty last, [], back, body,
    by simp [Blanks], behind⟩, ⟨rfl, isWord, ?_⟩, ?_⟩
  · intro c starts
    apply apart
    rw [cut, List.head?_append, starts]
    rfl
  · rw [trim, String.toList_ofList, trims_iff]
    have same := trimChars_surround (trimEnd tail.toList)
      (by simp [Blanks] : Blanks []) behind
    rw [List.nil_append, ← cut] at same
    exact same.symm

theorem writeTail_spec (bare : Bare arguments.toList) :
    (∀ c ∈ (if arguments = "" then "" else " " ++ arguments).toList.head?,
      isBlank c = true) ∧
      trim (if arguments = "" then "" else " " ++ arguments) = arguments := by
  have blank : isBlank ' ' = true := by decide
  split
  · rename_i none
    subst none
    exact ⟨by simp, by decide⟩
  · refine ⟨by simp [blank], ?_⟩
    rw [trim, String.toList_append]
    change String.ofList (trimChars (' ' :: arguments.toList)) = arguments
    rw [trimChars_cons_of_isBlank blank, trimChars_of_bare bare,
      String.ofList_toList]

theorem usable_of_first
    (first : ∀ c ∈ commandPrefix.toList.head?, isBlank c = false) :
    Usable commandPrefix := by
  intro word arguments isWord bare
  obtain ⟨apart, trimmed⟩ := writeTail_spec bare
  rw [write, parse?_of_apart first isWord apart, trimmed]

theorem parse?_eq_none_of_first {c : Char}
    (first : c ∈ commandPrefix.toList.head?) (blank : isBlank c = true)
    (body : String) : parse? commandPrefix body = none := by
  cases parsed : parse? commandPrefix body with
  | none => rfl
  | some pair =>
      obtain ⟨_, tail, whole, _⟩ := parse?_eq_some_iff_spells.mp parsed
      have starts : c ∈ (trimChars body.toList).head? := by
        rw [whole, List.append_assoc, List.head?_append, first]
        rfl
      cases blank.symm.trans ((bare_trimChars _).first c starts)

theorem parse?_gap (isWord : IsWord word.toList) (arguments : String)
    {gap other : String} (blanks : Blanks gap.toList) (nonempty : gap ≠ "")
    (otherBlanks : Blanks other.toList) (otherNonempty : other ≠ "") :
    parse? commandPrefix (commandPrefix ++ word ++ (gap ++ arguments)) =
      parse? commandPrefix
        (commandPrefix ++ word ++ (other ++ arguments)) := by
  by_cases first : ∀ c ∈ commandPrefix.toList.head?, isBlank c = false
  · have reads : ∀ space : String, Blanks space.toList → space ≠ "" →
        parse? commandPrefix (commandPrefix ++ word ++ (space ++ arguments)) =
          some (word, trim arguments) := by
      intro space blanks nonempty
      have apart : ∀ c ∈ (space ++ arguments).toList.head?,
          isBlank c = true := by
        intro c starts
        rw [String.toList_append, List.head?_append_of_ne_nil _
          (mt String.toList_eq_nil_iff.mp nonempty)] at starts
        exact blanks c (List.mem_of_mem_head? starts)
      have same := trimChars_surround arguments.toList blanks
        (by simp [Blanks] : Blanks [])
      rw [List.append_nil] at same
      rw [parse?_of_apart first isWord apart, trim, String.toList_append,
        same, trim]
    rw [reads gap blanks nonempty,
      reads other otherBlanks otherNonempty]
  · obtain ⟨c, starts, blank⟩ : ∃ c ∈ commandPrefix.toList.head?,
        isBlank c = true := by simpa using first
    rw [parse?_eq_none_of_first starts blank,
      parse?_eq_none_of_first starts blank]

theorem usable_iff :
    Usable commandPrefix ↔
      ∀ c ∈ commandPrefix.toList.head?, isBlank c = false := by
  refine ⟨fun usable c first => ?_, usable_of_first⟩
  by_contra blank
  have read := usable "a" "" (by decide) (by decide)
  rw [parse?_eq_none_of_first first (by simpa using blank)] at read
  cases read

end

end Switchboard.Message
