import Mathlib.Data.List.Induction
import Switchboard.Proofs.Catalogue
import Switchboard.Proofs.Cooldown

/-!
# The order of overrides

Configured cooldowns are put in one after the other, and the last one that
leads to a command wins.  So the order matters exactly where two of them lead
to one command and want different cooldowns for it; the words of a command are
compared without letter case, and it has several of them.
-/

namespace Switchboard

/-- An entry with the cooldown that an override gives it, if any does. -/
def CatalogueEntry.governed {η : Type}
    (setting : Option (String × CooldownOverride))
    (entry : CatalogueEntry η) : CatalogueEntry η :=
  match setting with
  | none => entry
  | some setting =>
    { entry with definition := setting.2.apply entry.definition }

namespace Catalogue

variable {η : Type} {catalogue : Catalogue η} {position : Nat}
  {settings order : List (String × CooldownOverride)}

/-- The override that a command ends up with: the last one that leads to
it. -/
def governing? (catalogue : Catalogue η) (position : Nat)
    (settings : List (String × CooldownOverride)) :
    Option (String × CooldownOverride) :=
  (settings.filter fun setting =>
    catalogue.position? setting.1 = some position).getLast?

/-- Two overrides lead to one command and want different cooldowns for it. -/
def Conflict (catalogue : Catalogue η)
    (one other : String × CooldownOverride) : Prop :=
  ∃ position entry, catalogue.position? one.1 = some position ∧
    catalogue.position? other.1 = some position ∧
    catalogue.entries[position]? = some entry ∧
    one.2.cooldownFor entry.definition.name ≠
      other.2.cooldownFor entry.definition.name

/-- Declares buckets in the order of a list. -/
def declare (horizon : Nat) (buckets : List (String × Nat)) : Cooldowns :=
  buckets.foldl (fun cooldowns bucket =>
    cooldowns.configure bucket.1 bucket.2) { horizon }

theorem overrideAll_concat (setting : String × CooldownOverride) :
    catalogue.overrideAll (settings ++ [setting]) =
      (catalogue.overrideAll settings).override setting.1 setting.2 := by
  simp [overrideAll]

theorem position?_overrideAll (word : String) :
    (catalogue.overrideAll settings).position? word =
      catalogue.position? word := by
  rw [position?, (overrideAll_recasts settings).1, position?]

theorem getElem?_override (name : String) (setting : CooldownOverride) :
    (catalogue.override name setting).entries[position]? =
      if catalogue.position? name = some position then
        (catalogue.entries[position]?).map fun entry =>
          { entry with definition := setting.apply entry.definition }
      else catalogue.entries[position]? := by
  unfold override
  cases leads : catalogue.position? name with
  | none => simp
  | some other =>
      rw [List.getElem?_modify]
      by_cases same : other = position <;> simp [same]

theorem governing?_concat_of_leads {setting : String × CooldownOverride}
    (leads : catalogue.position? setting.1 = some position) :
    catalogue.governing? position (settings ++ [setting]) = some setting := by
  simp [governing?, leads]

theorem governing?_concat_of_not_leads {setting : String × CooldownOverride}
    (elsewhere : catalogue.position? setting.1 ≠ some position) :
    catalogue.governing? position (settings ++ [setting]) =
      catalogue.governing? position settings := by
  simp [governing?, elsewhere]

theorem leads_of_governing? {setting : String × CooldownOverride}
    (governs : catalogue.governing? position settings = some setting) :
    setting ∈ settings ∧ catalogue.position? setting.1 = some position := by
  have member := List.mem_of_getLast? governs
  exact ⟨List.mem_of_mem_filter member,
    of_decide_eq_true (List.mem_filter.mp member).2⟩

theorem governing?_eq_none_of_perm (perm : order.Perm settings)
    (free : catalogue.governing? position order = none) :
    catalogue.governing? position settings = none := by
  unfold governing? at free ⊢
  rw [List.getLast?_eq_none_iff] at free ⊢
  have filtered := perm.filter fun setting =>
    decide (catalogue.position? setting.1 = some position)
  rw [free] at filtered
  exact filtered.nil_eq.symm

theorem getElem?_overrideAll :
    (catalogue.overrideAll settings).entries[position]? =
      (catalogue.entries[position]?).map
        (CatalogueEntry.governed
          (catalogue.governing? position settings)) := by
  induction settings using List.reverseRecOn with
  | nil =>
      have untouched : CatalogueEntry.governed (η := η) none = id := rfl
      simp [overrideAll, governing?, untouched]
  | append_singleton settings setting induction =>
      rw [overrideAll_concat, getElem?_override, position?_overrideAll,
        induction]
      by_cases leads : catalogue.position? setting.1 = some position
      · rw [if_pos leads, governing?_concat_of_leads leads, Option.map_map]
        congr 1
        funext entry
        -- The override reads only the name of the command.
        cases catalogue.governing? position settings <;> rfl
      · rw [if_neg leads, governing?_concat_of_not_leads leads]

theorem getElem?_definitions_overrideAll {entry : CatalogueEntry η}
    (here : catalogue.entries[position]? = some entry) :
    (catalogue.overrideAll settings).definitions[position]? =
      some (entry.governed
        (catalogue.governing? position settings)).definition := by
  rw [definitions, List.getElem?_map, getElem?_overrideAll, here]
  rfl

theorem definitions_overrideAll_of_perm (perm : order.Perm settings)
    (agreed : ∀ one ∈ settings, ∀ other ∈ settings,
      ¬catalogue.Conflict one other) :
    (catalogue.overrideAll order).definitions =
      (catalogue.overrideAll settings).definitions := by
  apply List.ext_getElem?
  intro position
  rw [definitions, definitions, List.getElem?_map, List.getElem?_map,
    getElem?_overrideAll, getElem?_overrideAll, Option.map_map,
    Option.map_map]
  cases here : catalogue.entries[position]? with
  | none => rfl
  | some entry =>
      rw [Option.map_some, Option.map_some, Function.comp_apply,
        Function.comp_apply]
      cases first : catalogue.governing? position order with
      | none => rw [governing?_eq_none_of_perm perm first]
      | some one =>
          cases second : catalogue.governing? position settings with
          | none =>
              rw [governing?_eq_none_of_perm perm.symm second] at first
              cases first
          | some other =>
              obtain ⟨oneListed, oneLeads⟩ := leads_of_governing? first
              obtain ⟨otherListed, otherLeads⟩ := leads_of_governing? second
              have same : one.2.cooldownFor entry.definition.name =
                  other.2.cooldownFor entry.definition.name := by
                by_contra different
                exact agreed one (perm.mem_iff.mp oneListed) other otherListed
                  ⟨position, entry, oneLeads, otherLeads, here, different⟩
              simp only [CatalogueEntry.governed, CooldownOverride.apply, same]

theorem exists_perm_concat {setting : String × CooldownOverride}
    (listed : setting ∈ settings) :
    ∃ others, (others ++ [setting]).Perm settings := by
  obtain ⟨before, after, rfl⟩ := List.append_of_mem listed
  refine ⟨before ++ after, ?_⟩
  rw [List.append_assoc]
  exact (List.perm_append_singleton setting after).append_left before

theorem cooldown_of_last {entry : CatalogueEntry η}
    {setting : String × CooldownOverride}
    (settings : List (String × CooldownOverride))
    (leads : catalogue.position? setting.1 = some position)
    (here : catalogue.entries[position]? = some entry) :
    ((catalogue.overrideAll (settings ++ [setting])).definitions[position]?).map
        CommandDef.cooldown =
      some (some (setting.2.cooldownFor entry.definition.name)) := by
  rw [getElem?_definitions_overrideAll here, governing?_concat_of_leads leads]
  rfl

theorem window?_declare_of_perm {declared : Table String Nat}
    (perm : declared.Perm catalogue.buckets) (horizon : Nat)
    (name : String) :
    (declare horizon declared).window? name =
      catalogue.buckets.find? name := by
  have nodup : catalogue.buckets.keys.Nodup :=
    nodup_keys_writeAll _ List.nodup_nil
  have declaredNodup : declared.keys.Nodup :=
    (perm.map Prod.fst).nodup_iff.mpr nodup
  have none : ({ horizon } : Cooldowns).window? name = none := rfl
  rw [declare, Cooldowns.window?_configureAll declaredNodup, none,
    Option.or_none, Table.find?_eq_of_perm perm nodup]

/-- The order of overrides is immaterial to the commands exactly where no two
of them conflict, and then it is immaterial to the declared buckets as well.
Each command has the cooldown of the last override that leads to it. -/
theorem override_order_immaterial_iff (catalogue : Catalogue η)
    (settings : List (String × CooldownOverride)) :
    ((∀ order, order.Perm settings →
        (catalogue.overrideAll order).definitions =
          (catalogue.overrideAll settings).definitions) ↔
      ∀ one ∈ settings, ∀ other ∈ settings,
        ¬catalogue.Conflict one other) ∧
    ((∀ one ∈ settings, ∀ other ∈ settings, ¬catalogue.Conflict one other) →
      ∀ order, order.Perm settings →
        ∀ declared : Table String Nat,
          declared.Perm (catalogue.overrideAll order).buckets →
        ∀ horizon name, (declare horizon declared).window? name =
          ((catalogue.overrideAll settings).cooldowns horizon).window?
            name) ∧
    ∀ position (entry : CatalogueEntry η),
      catalogue.entries[position]? = some entry →
      (catalogue.overrideAll settings).definitions[position]? =
        some (entry.governed
          (catalogue.governing? position settings)).definition := by
  refine ⟨⟨fun immaterial one oneListed other otherListed conflict => ?_,
    fun agreed order perm => definitions_overrideAll_of_perm perm agreed⟩,
    fun agreed order perm declared declaredPerm horizon name => ?_,
    fun position entry here => getElem?_definitions_overrideAll here⟩
  · obtain ⟨position, entry, oneLeads, otherLeads, here, different⟩ := conflict
    obtain ⟨oneFirst, onePerm⟩ := exists_perm_concat oneListed
    obtain ⟨otherFirst, otherPerm⟩ := exists_perm_concat otherListed
    have oneLast := cooldown_of_last oneFirst oneLeads here
    have otherLast := cooldown_of_last otherFirst otherLeads here
    rw [immaterial _ onePerm] at oneLast
    rw [immaterial _ otherPerm] at otherLast
    exact different (by simpa using oneLast.symm.trans otherLast)
  · have sameBuckets : (catalogue.overrideAll order).buckets =
        (catalogue.overrideAll settings).buckets := by
      rw [buckets, definitions_overrideAll_of_perm perm agreed, buckets]
    rw [sameBuckets] at declaredPerm
    rw [window?_declare_of_perm declaredPerm,
      ← window?_declare_of_perm (List.Perm.refl _)]
    rfl

/-- One command, which answers to two words. -/
def rollCatalogue : Catalogue Unit :=
  ({} : Catalogue Unit).register
    { name := "roll", description := "roll dice", aliases := ["r"] } ()

/-- Two overrides for the one command, under different names. -/
def rollOverrides : Table String CooldownOverride :=
  [("ROLL", { windowSeconds := 10 }), ("r", { windowSeconds := 5 })]

theorem rollOverrides_conflict :
    rollCatalogue.Conflict ("ROLL", { windowSeconds := 10 })
      ("r", { windowSeconds := 5 }) :=
  ⟨0, ⟨{ name := "roll", description := "roll dice", aliases := ["r"] }, ()⟩,
    by decide +kernel, by decide +kernel, rfl, by decide +kernel⟩

theorem rollOverrides_order_matters :
    ¬∀ order, order.Perm rollOverrides →
      (rollCatalogue.overrideAll order).definitions =
        (rollCatalogue.overrideAll rollOverrides).definitions := by
  rw [(override_order_immaterial_iff rollCatalogue rollOverrides).1]
  intro agreed
  exact agreed _ List.mem_cons_self _
    (List.mem_cons_of_mem _ List.mem_cons_self) rollOverrides_conflict

/-- The same overrides give a command one cooldown or the other. -/
theorem rollOverrides_depend_on_order :
    rollOverrides.keys.Nodup ∧
      rollOverrides.reverse.Perm rollOverrides ∧
      (rollCatalogue.overrideAll rollOverrides).definitions ≠
        (rollCatalogue.overrideAll rollOverrides.reverse).definitions ∧
      ((rollCatalogue.overrideAll rollOverrides).cooldowns
        hostHorizon).window? "roll" = some 5000 ∧
      ((rollCatalogue.overrideAll rollOverrides.reverse).cooldowns
        hostHorizon).window? "roll" = some 10000 := by
  refine ⟨by decide, List.reverse_perm _, ?_, ?_, ?_⟩ <;> decide +kernel

end Catalogue

end Switchboard
