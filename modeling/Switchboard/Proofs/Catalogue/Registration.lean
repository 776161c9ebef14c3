import Mathlib.Data.List.Forall2
import Mathlib.Data.Nat.Find
import Switchboard.Proofs.Catalogue.Lookup

/-!
# Catalogues that are built step by step

A catalogue is built by registrations and overrides in any order.  The
overrides could as well be left out as far as lookups go: the same registrations
alone make the same index, and the same commands but for their cooldowns.  So a
word leads to the last registered command that answers to it.
-/

namespace Switchboard.Catalogue

/-- One step of building a catalogue. -/
inductive Change (η : Type) where
  | register (definition : CommandDef) (handler : η)
  | override (name : String) (setting : CooldownOverride)

variable {η : Type}

def Change.apply : Change η → Catalogue η → Catalogue η
  | .register definition handler, catalogue =>
    catalogue.register definition handler
  | .override name setting, catalogue => catalogue.override name setting

/-- The command that a step registers, if it does. -/
def Change.registered? : Change η → Option (CommandDef × η)
  | .register definition handler => some (definition, handler)
  | .override _ _ => none

/-- The catalogue after some steps. -/
def built (changes : List (Change η)) : Catalogue η :=
  changes.foldl (fun catalogue change => change.apply catalogue) {}

/-- The commands that some steps register, in their order. -/
def registered (changes : List (Change η)) : List (CommandDef × η) :=
  changes.filterMap Change.registered?

section

variable {catalogue plain : Catalogue η} {word name : String}
  {position : Nat} {entry : CatalogueEntry η} {changes : List (Change η)}
  {setting : CooldownOverride}

theorem built_concat (changes : List (Change η)) (change : Change η) :
    built (changes ++ [change]) = change.apply (built changes) := by
  rw [built, List.foldl_concat, ← built]

theorem Indexed.change (indexed : catalogue.Indexed) (change : Change η) :
    (change.apply catalogue).Indexed := by
  cases change with
  | register definition handler => exact indexed.register definition handler
  | override name setting => exact indexed.overrideAll [(name, setting)]

/-- Every key of the index is a word of the command that it leads to. -/
def Sourced (catalogue : Catalogue η) : Prop :=
  ∀ key position, catalogue.index.find? key = some position →
    ∃ entry, catalogue.entries[position]? = some entry ∧
      key ∈ entry.definition.words.map Text.lowercase

theorem Sourced.register (sourced : catalogue.Sourced)
    (definition : CommandDef) (handler : η) :
    (catalogue.register definition handler).Sourced := by
  intro key position leads
  rw [Catalogue.register, find?_indexWords] at leads
  split at leads
  · rename_i own
    cases leads
    exact ⟨⟨definition, handler⟩,
      (getElem?_register definition handler).mpr (.inr ⟨rfl, rfl⟩), own⟩
  · obtain ⟨entry, here, own⟩ := sourced key position leads
    exact ⟨entry, (getElem?_register definition handler).mpr (.inl here), own⟩

theorem Sourced.override (sourced : catalogue.Sourced) (name : String)
    (setting : CooldownOverride) :
    (catalogue.override name setting).Sourced := by
  intro key position leads
  rw [index_override] at leads
  obtain ⟨entry, here, own⟩ := sourced key position leads
  rw [getElem?_override, here]
  split
  · exact ⟨_, rfl, own⟩
  · exact ⟨entry, rfl, own⟩

/-- The same lookups, and the same commands but for their cooldowns. -/
structure Recasts (plain catalogue : Catalogue η) : Prop where
  index : catalogue.index = plain.index
  entries : List.Forall₂ CatalogueEntry.Recast plain.entries catalogue.entries

theorem Recasts.register (recasts : Recasts plain catalogue)
    (definition : CommandDef) (handler : η) :
    Recasts (plain.register definition handler)
      (catalogue.register definition handler) where
  index := by
    rw [Catalogue.register, Catalogue.register, recasts.index,
      recasts.entries.length_eq]
  entries :=
    List.rel_append recasts.entries
      (.cons (.refl ⟨definition, handler⟩) .nil)

theorem length_override (name : String) (setting : CooldownOverride)
    (catalogue : Catalogue η) :
    (catalogue.override name setting).entries.length =
      catalogue.entries.length := by
  unfold Catalogue.override
  split
  · rfl
  · exact List.length_modify _ _ _

theorem Recasts.override (recasts : Recasts plain catalogue) (name : String)
    (setting : CooldownOverride) :
    Recasts plain (catalogue.override name setting) where
  index := (index_override name setting).trans recasts.index
  entries := by
    obtain ⟨length, alike⟩ := List.forall₂_iff_get.mp recasts.entries
    refine List.forall₂_iff_get.mpr
      ⟨length.trans (length_override name setting catalogue).symm, ?_⟩
    intro position before after
    obtain ⟨entry, here, recast⟩ :=
      override_recasts (List.getElem?_eq_getElem after)
    obtain ⟨inside, rfl⟩ := List.getElem?_eq_some_iff.mp here
    exact (alike position before inside).trans recast

theorem indexed_built (changes : List (Change η)) :
    (built changes).Indexed := by
  induction changes using List.reverseRecOn with
  | nil => exact indexed_empty
  | append_singleton changes change induction =>
      rw [built_concat]
      exact induction.change change

theorem sourced_built (changes : List (Change η)) :
    (built changes).Sourced := by
  induction changes using List.reverseRecOn with
  | nil => exact nofun
  | append_singleton changes change induction =>
      rw [built_concat]
      cases change with
      | register definition handler =>
          exact induction.register definition handler
      | override name setting => exact induction.override name setting

theorem recasts_built (changes : List (Change η)) :
    Recasts (ofCommands (registered changes)) (built changes) := by
  induction changes using List.reverseRecOn with
  | nil => exact ⟨rfl, .nil⟩
  | append_singleton changes change induction =>
      rw [built_concat, registered, List.filterMap_append, ← registered]
      cases change with
      | register definition handler =>
          have whole : ofCommands
              (registered changes ++ [(definition, handler)]) =
                (ofCommands (registered changes)).register definition
                  handler := by
            rw [ofCommands, List.foldl_concat, ← ofCommands]
          exact whole ▸ induction.register definition handler
      | override name setting =>
          rw [show [Change.override name setting].filterMap
            (Change.registered? (η := η)) = [] from rfl, List.append_nil]
          exact induction.override name setting

theorem exists_unshadowed (known : entry ∈ catalogue.entries)
    (answers : entry.definition.AnswersTo word) :
    ∃ position last, catalogue.entries[position]? = some last ∧
      last.definition.AnswersTo word ∧
      catalogue.Unshadowed word position := by
  classical
  let holds (position : Nat) : Prop :=
    ∃ entry, catalogue.entries[position]? = some entry ∧
      entry.definition.AnswersTo word
  have bounded : ∀ {position : Nat} {entry : CatalogueEntry η},
      catalogue.entries[position]? = some entry →
        position ≤ catalogue.entries.length := by
    intro position entry here
    exact Nat.le_of_lt (List.getElem?_eq_some_iff.mp here).1
  obtain ⟨position, here⟩ := List.getElem?_of_mem known
  obtain ⟨last, there, claims⟩ : holds (Nat.findGreatest holds _) :=
    Nat.findGreatest_spec (bounded here) ⟨entry, here, answers⟩
  refine ⟨_, last, there, claims, ?_⟩
  intro later other after standing otherAnswers
  exact Nat.findGreatest_is_greatest after (bounded standing)
    ⟨other, standing, otherAnswers⟩

theorem Indexed.find?_eq_none_iff (indexed : catalogue.Indexed) :
    catalogue.find? word = none ↔
      ∀ entry ∈ catalogue.entries, ¬entry.definition.AnswersTo word := by
  constructor
  · intro missing entry known answers
    obtain ⟨position, last, here, claims, free⟩ :=
      exists_unshadowed known answers
    have found := indexed.find?_eq_some_iff.mpr ⟨position, here, claims, free⟩
    cases missing.symm.trans found
  · intro silent
    rw [Option.eq_none_iff_forall_ne_some]
    intro entry found
    obtain ⟨position, here, answers, _⟩ := indexed.find?_eq_some_iff.mp found
    exact silent entry (List.mem_of_getElem? here) answers

theorem entries_override (leads : catalogue.position? name = some position)
    (here : catalogue.entries[position]? = some entry) :
    (catalogue.override name setting).entries =
      catalogue.entries.set position
        { entry with definition := { entry.definition with
            cooldown := setting.cooldownFor entry.definition.name } } := by
  obtain ⟨inside, same⟩ := List.getElem?_eq_some_iff.mp here
  apply List.ext_getElem?
  intro other
  rw [getElem?_override, leads, List.getElem?_set]
  by_cases alike : position = other
  · subst alike
    simp only [if_pos, if_pos inside, here, Option.map_some]
    rfl
  · rw [if_neg (by simpa using alike), if_neg alike]

theorem override_of_missing (sourced : catalogue.Sourced)
    (missing : catalogue.find? name = none) :
    catalogue.override name setting = catalogue := by
  have leads : catalogue.position? name = none := by
    cases leads : catalogue.position? name with
    | none => rfl
    | some position =>
        obtain ⟨entry, here, _⟩ := sourced _ position leads
        rw [find?, leads, Option.bind_some, here] at missing
        cases missing
  rw [Catalogue.override, leads]

/-- However a catalogue is built, it lists the commands in the order in which
they were registered, and they are as they were registered but for their
cooldowns; the overrides make no difference to the index.  A word leads to the
last command that answers to it, and nowhere only if there is none.  The index
never leads outside the list, and a word of a command leads to that command
just if no later one answers to it.  A further override changes the cooldown of
the command that its name leads to, if it leads anywhere, and nothing else. -/
theorem lookup_finds_latest (changes : List (Change η)) :
    List.Forall₂ CatalogueEntry.Recast
      ((registered changes).map fun command => ⟨command.1, command.2⟩)
      (built changes).entries ∧
    (built changes).index = (ofCommands (registered changes)).index ∧
    (∀ word entry, (built changes).find? word = some entry ↔
      ∃ position, (built changes).entries[position]? = some entry ∧
        entry.definition.AnswersTo word ∧
        (built changes).Unshadowed word position) ∧
    (∀ word, (built changes).find? word = none ↔
      ∀ entry ∈ (built changes).entries, ¬entry.definition.AnswersTo word) ∧
    (∀ key position, (built changes).index.find? key = some position →
      ∃ entry, (built changes).entries[position]? = some entry ∧
        key ∈ entry.definition.words.map Text.lowercase) ∧
    (∀ position entry, (built changes).entries[position]? = some entry →
      ∀ own ∈ entry.definition.words,
        ((built changes).position? own = some position ↔
          (built changes).Unshadowed own position)) ∧
    ∀ name setting,
      ((built changes).override name setting).index = (built changes).index ∧
      ((built changes).find? name = none →
        (built changes).override name setting = built changes) ∧
      ∀ found, (built changes).find? name = some found →
        ∃ position, (built changes).position? name = some position ∧
          (built changes).entries[position]? = some found ∧
          ((built changes).override name setting).entries =
            (built changes).entries.set position
              { found with definition := { found.definition with
                cooldown := setting.cooldownFor found.definition.name } } := by
  have indexed := indexed_built changes
  have sourced := sourced_built changes
  have recasts := recasts_built changes
  refine ⟨?_, recasts.index, fun word entry => indexed.find?_eq_some_iff,
    fun word => indexed.find?_eq_none_iff, sourced, ?_, ?_⟩
  · have entries := recasts.entries
    rwa [ofCommands, entries_registerAll, List.nil_append] at entries
  · intro position entry here own member
    rw [indexed own position, and_iff_right]
    exact ⟨entry, here, own, member, rfl⟩
  · intro name setting
    refine ⟨index_override name setting, override_of_missing sourced, ?_⟩
    intro found leads
    obtain ⟨position, indexes, here⟩ := Option.bind_eq_some_iff.mp leads
    exact ⟨position, indexes, here, entries_override indexes here⟩

end

/-- The second command takes an alias of the first one, which has got another
cooldown by that alias before. -/
def contested : List (Change Unit) :=
  [.register { name := "Roll", description := "dice", aliases := ["r"] } (),
    .override "R" { windowSeconds := 5 },
    .register { name := "rest", description := "rest", aliases := ["R"] }
      ()]

/-- The first command keeps its name and its new cooldown and loses the
alias. -/
theorem contested_lookup :
    (built contested).Unshadowed "Roll" 0 ∧
      ¬(built contested).Unshadowed "r" 0 ∧
      ((built contested).find? "ROLL").map (·.definition.cooldown) =
        some (some { bucket := "Roll", window := 5000, scope := .actor }) ∧
      ((built contested).find? "r").map (·.definition.name) = some "rest" := by
  obtain ⟨_, _, _, _, _, reaches, _⟩ := lookup_finds_latest contested
  have roll := reaches 0 _ rfl
  refine ⟨(roll "Roll" List.mem_cons_self).mp (by decide +kernel), ?_,
    by decide +kernel, by decide +kernel⟩
  rw [← roll "r" (List.mem_cons_of_mem _ List.mem_cons_self)]
  decide +kernel

end Switchboard.Catalogue
