import Mathlib.Data.List.Basic
import Switchboard.Builtin
import Switchboard.Proofs.Program

/-!
# What a word leads to

Configured cooldowns take the place of the commands' own and change nothing
else: every word leads to the command that it led to, with the same handler
and the same privilege.  Of the built-in commands only those for
administrators can do more than answer.
-/

namespace Switchboard

/-- The same command, but perhaps with another cooldown. -/
structure CatalogueEntry.Recast {η : Type} (entry found : CatalogueEntry η) :
    Prop where
  handler : found.handler = entry.handler
  definition : found.definition =
    { entry.definition with cooldown := found.definition.cooldown }

namespace CatalogueEntry.Recast

variable {η : Type} {first second third : CatalogueEntry η}

theorem refl (entry : CatalogueEntry η) : Recast entry entry := ⟨rfl, rfl⟩

theorem trans (one : Recast first second) (two : Recast second third) :
    Recast first third where
  handler := two.handler.trans one.handler
  definition := by
    rw [two.definition, one.definition]

theorem adminOnly (recast : Recast first second) :
    second.definition.adminOnly = first.definition.adminOnly := by
  rw [recast.definition]

end CatalogueEntry.Recast

namespace Catalogue

variable {η : Type} {catalogue : Catalogue η} {found : CatalogueEntry η}
  {position : Nat} {word : String}

theorem override_recasts {name : String} {setting : CooldownOverride}
    (here : (catalogue.override name setting).entries[position]? =
      some found) :
    ∃ entry, catalogue.entries[position]? = some entry ∧
      entry.Recast found := by
  unfold override at here
  split at here
  · exact ⟨found, here, .refl found⟩
  · rw [List.getElem?_modify] at here
    obtain ⟨entry, known, same⟩ := Option.map_eq_some_iff.mp here
    refine ⟨entry, known, ?_⟩
    split at same
    · exact same ▸ ⟨rfl, rfl⟩
    · exact same ▸ .refl entry

theorem index_override (name : String) (setting : CooldownOverride) :
    (catalogue.override name setting).index = catalogue.index := by
  unfold override
  split <;> rfl

theorem overrideAll_recasts (settings : List (String × CooldownOverride)) :
    (catalogue.overrideAll settings).index = catalogue.index ∧
      ∀ (position : Nat) (found : CatalogueEntry η),
        (catalogue.overrideAll settings).entries[position]? = some found →
          ∃ entry : CatalogueEntry η,
            catalogue.entries[position]? = some entry ∧
              entry.Recast found := by
  induction settings generalizing catalogue with
  | nil => exact ⟨rfl, fun _ found here => ⟨found, here, .refl found⟩⟩
  | cons setting rest induction =>
      obtain ⟨index, entries⟩ :=
        @induction (catalogue.override setting.1 setting.2)
      refine ⟨index.trans (index_override _ _), fun position found here => ?_⟩
      obtain ⟨middle, there, late⟩ := entries position found here
      obtain ⟨entry, known, early⟩ := override_recasts there
      exact ⟨entry, known, early.trans late⟩

theorem find?_overrideAll {settings : List (String × CooldownOverride)}
    (leads : (catalogue.overrideAll settings).find? word = some found) :
    ∃ entry, catalogue.find? word = some entry ∧ entry.Recast found := by
  obtain ⟨index, entries⟩ := @overrideAll_recasts η catalogue settings
  unfold find? position? at leads ⊢
  rw [index] at leads
  obtain ⟨position, indexed, here⟩ := Option.bind_eq_some_iff.mp leads
  obtain ⟨entry, known, recast⟩ := entries position found here
  exact ⟨entry, Option.bind_eq_some_iff.mpr ⟨position, indexed, known⟩, recast⟩

theorem mem_of_find? (leads : catalogue.find? word = some found) :
    found ∈ catalogue.entries := by
  obtain ⟨position, _, here⟩ := Option.bind_eq_some_iff.mp leads
  exact List.mem_of_getElem? here

theorem entries_registerAll (commands : List (CommandDef × η)) :
    (commands.foldl (fun catalogue command =>
      catalogue.register command.1 command.2) catalogue).entries =
      catalogue.entries ++
        commands.map fun command => ⟨command.1, command.2⟩ := by
  induction commands generalizing catalogue with
  | nil => exact (List.append_nil _).symm
  | cons command rest induction =>
      rw [List.foldl_cons, induction, List.map_cons, register,
        List.append_assoc, List.singleton_append]

end Catalogue

namespace Builtin

variable {reader : OptionReader} {selected : List String}
  {entry : CatalogueEntry Handler}

theorem mem_commands (member : entry ∈ (catalogue reader selected).entries) :
    (entry.definition, entry.handler) ∈ commands reader := by
  rw [catalogue, Catalogue.entries_registerAll, List.nil_append] at member
  obtain ⟨command, chosen, rfl⟩ := List.mem_map.mp member
  obtain ⟨name, _, found⟩ := List.mem_filterMap.mp chosen
  exact List.mem_of_find?_eq_some found

theorem uses_of_not_adminOnly
    (builtin : (entry.definition, entry.handler) ∈ commands reader)
    (everybody : entry.definition.adminOnly = false) (invocation : Invocation) :
    (entry.handler invocation).Uses fun call => ∃ text, call = .reply text := by
  have helps : entry.handler = help := by
    obtain ⟨definition, handler⟩ := entry
    simp only [commands, List.mem_cons, Prod.mk.injEq, List.not_mem_nil,
      or_false] at builtin
    rcases builtin with ⟨rfl, rfl⟩ | ⟨rfl, _⟩ | ⟨rfl, _⟩ | ⟨rfl, _⟩ | ⟨rfl, _⟩
    · rfl
    all_goals cases everybody
  rw [helps]
  refine ⟨⟨_, rfl⟩, fun reply => ?_⟩
  cases reply <;> trivial

end Builtin

end Switchboard
