import Switchboard.Proofs.Catalogue.Overrides

/-!
# Which command a word leads to

In a catalogue that is built by registrations a word leads to the last command
that answers to it, by its name or an alias, in whatever letter case.  A
command that no later one shadows is found under its name.
-/

namespace Switchboard

/-- A command is called by a word, in whatever letter case. -/
def CommandDef.AnswersTo (word : String) (command : CommandDef) : Prop :=
  ∃ own ∈ command.words, Text.lowercase own = Text.lowercase word

theorem CommandDef.answersTo_name (command : CommandDef) :
    command.AnswersTo command.name :=
  ⟨command.name, List.mem_cons_self, rfl⟩

namespace Catalogue

variable {η : Type}

/-- The catalogue of some commands, registered in their order. -/
def ofCommands (commands : List (CommandDef × η)) : Catalogue η :=
  commands.foldl (fun catalogue command =>
    catalogue.register command.1 command.2) {}

/-- No command after a position answers to a word. -/
def Unshadowed (word : String) (position : Nat) (catalogue : Catalogue η) :
    Prop :=
  ∀ later entry, position < later → catalogue.entries[later]? = some entry →
    ¬entry.definition.AnswersTo word

/-- Every word leads to the last command that answers to it. -/
def Indexed (catalogue : Catalogue η) : Prop :=
  ∀ word position, catalogue.position? word = some position ↔
    (∃ entry, catalogue.entries[position]? = some entry ∧
      entry.definition.AnswersTo word) ∧
    catalogue.Unshadowed word position

section

variable {catalogue : Catalogue η} {word : String} {position : Nat}
  {entry : CatalogueEntry η}

theorem find?_indexWords (key : String) (words : List String)
    (index : Table String Nat) :
    (indexWords position words index).find? key =
      if key ∈ words.map Text.lowercase then some position
      else index.find? key := by
  induction words generalizing index with
  | nil => rfl
  | cons word rest induction =>
      rw [indexWords, List.foldl_cons, ← indexWords, induction]
      by_cases later : key ∈ rest.map Text.lowercase
      · simp [later]
      · by_cases same : key = Text.lowercase word
        · subst same
          simp [later, Table.find?_write_self]
        · simp [later, same, Table.find?_write_of_ne same]

theorem position?_register (definition : CommandDef) (handler : η) :
    (catalogue.register definition handler).position? word = some position ↔
      (definition.AnswersTo word ∧ position = catalogue.entries.length) ∨
      (¬definition.AnswersTo word ∧
        catalogue.position? word = some position) := by
  have claims : Text.lowercase word ∈ definition.words.map Text.lowercase ↔
      definition.AnswersTo word := List.mem_map
  rw [position?, register, find?_indexWords]
  by_cases answers : definition.AnswersTo word
  · rw [if_pos (claims.mpr answers)]
    simp [answers, eq_comm]
  · rw [if_neg (mt claims.mp answers)]
    simp [answers, position?]

theorem indexed_empty : ({} : Catalogue η).Indexed := by
  intro word position
  constructor
  · intro leads
    cases leads
  · rintro ⟨⟨entry, here, _⟩, _⟩
    cases here

theorem getElem?_register (definition : CommandDef) (handler : η) :
    (catalogue.register definition handler).entries[position]? =
      some entry ↔
      catalogue.entries[position]? = some entry ∨
        (position = catalogue.entries.length ∧
          entry = ⟨definition, handler⟩) := by
  rw [register]
  rcases Nat.lt_trichotomy position catalogue.entries.length with
    before | rfl | beyond
  · rw [List.getElem?_append_left before]
    simp [Nat.ne_of_lt before]
  · simp [eq_comm]
  · rw [List.getElem?_append_right (Nat.le_of_lt beyond),
      List.getElem?_eq_none (Nat.le_sub_of_add_le' beyond),
      List.getElem?_eq_none (Nat.le_of_lt beyond)]
    simp [Nat.ne_of_gt beyond]

theorem unshadowed_register (definition : CommandDef) (handler : η) :
    (catalogue.register definition handler).Unshadowed word position ↔
      catalogue.Unshadowed word position ∧
        (position < catalogue.entries.length →
          ¬definition.AnswersTo word) := by
  constructor
  · intro free
    refine ⟨fun later entry after here => ?_, fun before => ?_⟩
    · exact free later entry after
        ((getElem?_register definition handler).mpr (.inl here))
    · exact free _ ⟨definition, handler⟩ before
        ((getElem?_register definition handler).mpr (.inr ⟨rfl, rfl⟩))
  · rintro ⟨free, last⟩ later entry after here
    rcases (getElem?_register definition handler).mp here with
      known | ⟨rfl, rfl⟩
    · exact free later entry after known
    · exact last after

theorem Indexed.register (indexed : catalogue.Indexed)
    (definition : CommandDef) (handler : η) :
    (catalogue.register definition handler).Indexed := by
  intro word position
  rw [position?_register, indexed word position, unshadowed_register]
  constructor
  · rintro (⟨answers, rfl⟩ | ⟨silent, ⟨entry, here, answers⟩, free⟩)
    · refine ⟨⟨⟨definition, handler⟩,
        (getElem?_register definition handler).mpr (.inr ⟨rfl, rfl⟩),
        answers⟩, fun later entry after here => ?_, by simp⟩
      rw [List.getElem?_eq_none (Nat.le_of_lt after)] at here
      cases here
    · exact ⟨⟨entry, (getElem?_register definition handler).mpr (.inl here),
        answers⟩, free, fun _ => silent⟩
  · rintro ⟨⟨entry, here, answers⟩, free, last⟩
    rcases (getElem?_register definition handler).mp here with
      known | ⟨rfl, rfl⟩
    · have before : position < catalogue.entries.length :=
        (List.getElem?_eq_some_iff.mp known).1
      exact .inr ⟨last before, ⟨entry, known, answers⟩, free⟩
    · exact .inl ⟨answers, rfl⟩

theorem indexed_ofCommands (commands : List (CommandDef × η)) :
    (ofCommands commands).Indexed := by
  induction commands using List.reverseRecOn with
  | nil => exact indexed_empty
  | append_singleton commands command induction =>
      rw [ofCommands, List.foldl_concat, ← ofCommands]
      exact induction.register command.1 command.2

theorem Indexed.find?_eq_some_iff (indexed : catalogue.Indexed) :
    catalogue.find? word = some entry ↔
      ∃ position, catalogue.entries[position]? = some entry ∧
        entry.definition.AnswersTo word ∧
        catalogue.Unshadowed word position := by
  rw [find?, Option.bind_eq_some_iff]
  constructor
  · rintro ⟨position, leads, here⟩
    obtain ⟨⟨holder, there, answers⟩, free⟩ := (indexed word position).mp leads
    cases here.symm.trans there
    exact ⟨position, here, answers, free⟩
  · rintro ⟨position, here, answers, free⟩
    exact ⟨position, (indexed word position).mpr ⟨⟨entry, here, answers⟩,
      free⟩, here⟩

theorem answersTo_governed (setting : Option (String × CooldownOverride)) :
    (entry.governed setting).definition.AnswersTo word ↔
      entry.definition.AnswersTo word := by
  cases setting <;> rfl

theorem Indexed.overrideAll (indexed : catalogue.Indexed)
    (settings : List (String × CooldownOverride)) :
    (catalogue.overrideAll settings).Indexed := by
  intro word position
  rw [position?_overrideAll, indexed word position]
  apply and_congr
  · rw [getElem?_overrideAll]
    constructor
    · rintro ⟨entry, here, answers⟩
      exact ⟨_, by rw [here]; rfl, (answersTo_governed _).mpr answers⟩
    · rintro ⟨changed, here, answers⟩
      obtain ⟨entry, known, rfl⟩ := Option.map_eq_some_iff.mp here
      exact ⟨entry, known, (answersTo_governed _).mp answers⟩
  · constructor
    · intro free later changed after here
      rw [getElem?_overrideAll] at here
      obtain ⟨entry, known, rfl⟩ := Option.map_eq_some_iff.mp here
      rw [answersTo_governed]
      exact free later entry after known
    · intro free later entry after here
      rw [← answersTo_governed (catalogue.governing? later settings)]
      exact free later _ after (by rw [getElem?_overrideAll, here]; rfl)

end

end Catalogue

end Switchboard
