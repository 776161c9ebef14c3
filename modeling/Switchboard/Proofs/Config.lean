import Mathlib.Data.List.Permutation
import Mathlib.Data.List.Sort
import Mathlib.Order.Bounds.Basic
import Switchboard.Config.File
import Switchboard.Proofs.Text.ByteOrder

/-!
# Which configurations are sound

A configuration is accepted just if it meets all that is asked of one, and a
refusal blames the first demand that is not met.  Names that occur twice stand
side by side once the names are sorted, so the first name that equals the next
one is the least of them; texts are in the order of their bytes.
-/

namespace Switchboard

/-- What is asked of a configuration. -/
inductive Demand where
  | someAccount
  | distinctNames
  | writtenPrefix
  | nonzeroWindows
deriving DecidableEq, Repr

/-- The demands in the order in which they are looked at. -/
def Demand.inOrder : List Demand :=
  [.someAccount, .distinctNames, .writtenPrefix, .nonzeroWindows]

theorem Demand.mem_inOrder (demand : Demand) : demand ∈ inOrder := by
  cases demand <;> decide

/-- The demand that an error blames. -/
def ConfigError.demand : ConfigError → Demand
  | .noAccounts => .someAccount
  | .duplicateName _ => .distinctNames
  | .emptyPrefix => .writtenPrefix
  | .zeroWindow _ => .nonzeroWindows

theorem CommandSettings.firstZeroWindow?_eq_none_iff
    {settings : CommandSettings} :
    settings.firstZeroWindow? = none ↔
      ∀ entry ∈ settings.overrides, entry.2.windowSeconds ≠ 0 := by
  simp [firstZeroWindow?]

theorem CommandSettings.exists_of_firstZeroWindow?
    {settings : CommandSettings} {command : String}
    (found : settings.firstZeroWindow? = some command) :
    ∃ override, (command, override) ∈ settings.overrides ∧
      override.windowSeconds = 0 := by
  obtain ⟨⟨_, override⟩, first, rfl⟩ := Option.map_eq_some_iff.mp found
  exact ⟨override, List.mem_of_find?_eq_some first,
    by simpa using List.find?_some first⟩

namespace Config

/-- A name occurs more than once, and of all such names it has the least
bytes. -/
structure LeastRepeated (names : List String) (name : String) : Prop where
  repeated : 2 ≤ names.count name
  least : ∀ other, 2 ≤ names.count other →
    Text.utf8Bytes name ≤ Text.utf8Bytes other

section

variable {names : List String} {name : String}

theorem not_mem_of_ne_next {first second : String} {rest : List String}
    (ascending : (first :: second :: rest).Pairwise (· ≤ ·))
    (different : first ≠ second) : first ∉ second :: rest := by
  obtain ⟨lowest, ascending⟩ := List.pairwise_cons.mp ascending
  intro again
  have above : second ≤ first := by
    rcases List.mem_cons.mp again with same | later
    · exact same.ge
    · exact List.rel_of_pairwise_cons ascending later
  exact different (le_antisymm (lowest second List.mem_cons_self) above)

theorem firstRepeat_eq_none_iff (ascending : names.Pairwise (· ≤ ·)) :
    firstRepeat names = none ↔ names.Nodup := by
  fun_induction firstRepeat names with
  | case1 second rest => simp
  | case2 first second rest different induction =>
      have once := not_mem_of_ne_next ascending different
      rw [induction ascending.of_cons, List.nodup_cons (a := first)]
      exact (and_iff_right once).symm
  | case3 names short =>
      rcases names with _ | ⟨only, _ | ⟨second, rest⟩⟩
      · simp
      · simp
      · exact absurd rfl (short only second rest)

theorem firstRepeat_eq_some_iff (ascending : names.Pairwise (· ≤ ·)) :
    firstRepeat names = some name ↔
      IsLeast {other | List.Duplicate other names} name := by
  fun_induction firstRepeat names with
  | case1 second rest =>
      have least :
          IsLeast {other | List.Duplicate other (second :: second :: rest)}
            second := by
        refine ⟨List.Mem.duplicate_cons_self List.mem_cons_self, ?_⟩
        intro other twice
        rcases List.mem_cons.mp twice.mem with rfl | later
        · exact le_rfl
        · exact List.rel_of_pairwise_cons ascending later
      rw [Option.some_inj]
      exact ⟨fun same => same ▸ least, least.unique⟩
  | case2 first second rest different induction =>
      have others : ∀ other, List.Duplicate other (first :: second :: rest) ↔
          List.Duplicate other (second :: rest) := by
        intro other
        rw [List.duplicate_cons_iff, or_iff_right]
        rintro ⟨rfl, again⟩
        exact not_mem_of_ne_next ascending different again
      simp only [others]
      exact induction ascending.of_cons
  | case3 names short =>
      rcases names with _ | ⟨only, _ | ⟨second, rest⟩⟩
      · simp [IsLeast]
      · simp [IsLeast]
      · exact absurd rfl (short only second rest)

theorem duplicateName?_eq_none_iff :
    duplicateName? names = none ↔ names.Nodup := by
  rw [duplicateName?,
    firstRepeat_eq_none_iff List.sortedLE_mergeSort.pairwise]
  exact (List.mergeSort_perm names _).nodup_iff

theorem duplicateName?_eq_some_iff :
    duplicateName? names = some name ↔ LeastRepeated names name := by
  have twice : ∀ other,
      List.Duplicate other (names.mergeSort fun a b => decide (a ≤ b)) ↔
        2 ≤ names.count other := by
    intro other
    rw [List.duplicate_iff_two_le_count,
      (List.mergeSort_perm names _).count_eq]
  rw [duplicateName?,
    firstRepeat_eq_some_iff List.sortedLE_mergeSort.pairwise]
  simp only [twice]
  constructor
  · rintro ⟨repeated, least⟩
    exact ⟨repeated, fun other again =>
      Text.utf8Bytes_le_iff.mpr (least again)⟩
  · rintro ⟨repeated, least⟩
    exact ⟨repeated, fun other again =>
      Text.utf8Bytes_le_iff.mp (least other again)⟩

end

/-- A configuration meets a demand. -/
def Meets (config : Config) : Demand → Prop
  | .someAccount => config.accounts ≠ []
  | .distinctNames => (config.accounts.map Account.name).Nodup
  | .writtenPrefix => config.commands.commandPrefix ≠ ""
  | .nonzeroWindows =>
      ∀ entry ∈ config.commands.overrides, entry.2.windowSeconds ≠ 0

instance (config : Config) : DecidablePred config.Meets
  | .someAccount => inferInstanceAs (Decidable (config.accounts ≠ []))
  | .distinctNames =>
      inferInstanceAs (Decidable (config.accounts.map Account.name).Nodup)
  | .writtenPrefix =>
      inferInstanceAs (Decidable (config.commands.commandPrefix ≠ ""))
  | .nonzeroWindows =>
      inferInstanceAs (Decidable (∀ entry ∈ config.commands.overrides,
        entry.2.windowSeconds ≠ 0))

/-- A configuration meets every demand. -/
def Sound (config : Config) : Prop := ∀ demand, config.Meets demand

/-- The first demand, in their order, that a configuration does not meet. -/
def firstUnmet? (config : Config) : Option Demand :=
  Demand.inOrder.find? (¬config.Meets ·)

/-- The name that an error gives is the right one: the least name that accounts
share, or a command whose window is zero. -/
def NamesCulprit (config : Config) : ConfigError → Prop
  | .duplicateName name =>
      LeastRepeated (config.accounts.map Account.name) name
  | .zeroWindow command =>
      ∃ override, (command, override) ∈ config.commands.overrides ∧
        override.windowSeconds = 0
  | .noAccounts | .emptyPrefix => True

section

variable {config : Config} {error : ConfigError}

theorem firstUnmet?_eq_some {demand : Demand} (before : List Demand)
    {after : List Demand} (order : Demand.inOrder = before ++ demand :: after)
    (met : ∀ earlier ∈ before, config.Meets earlier)
    (unmet : ¬config.Meets demand) : config.firstUnmet? = some demand :=
  List.find?_eq_some_iff_append.mpr
    ⟨by simpa using unmet, before, after, order, by simpa using met⟩

theorem sound_defaults_iff {accounts : List Account} :
    ({ accounts } : Config).Sound ↔
      accounts ≠ [] ∧ (accounts.map Account.name).Nodup := by
  constructor
  · intro sound
    exact ⟨sound .someAccount, sound .distinctNames⟩
  · rintro ⟨present, distinct⟩ demand
    cases demand with
    | someAccount => exact present
    | distinctNames => exact distinct
    | writtenPrefix => exact (by decide : "." ≠ "")
    | nonzeroWindows => exact List.forall_mem_nil _

/-- All that the check of a configuration can say. -/
theorem validate_cases (config : Config) :
    (config.validate = .ok () ∧ config.Sound) ∨
      ∃ error, config.validate = .error error ∧
        config.firstUnmet? = some error.demand ∧
          config.NamesCulprit error := by
  have accounts : config.Meets .someAccount ↔ ¬config.accounts.isEmpty := by
    simp [Meets]
  have distinct : config.Meets .distinctNames ↔
      duplicateName? (config.accounts.map Account.name) = none :=
    duplicateName?_eq_none_iff.symm
  have nonempty : config.Meets .writtenPrefix ↔
      ¬config.commands.commandPrefix.isEmpty := by
    simp [Meets]
  have windows : config.Meets .nonzeroWindows ↔
      config.commands.firstZeroWindow? = none :=
    CommandSettings.firstZeroWindow?_eq_none_iff.symm
  -- One branch for each demand, with what the branches before it have met.
  unfold validate
  split
  next absent =>
    have unmet : ¬config.Meets .someAccount :=
      fun met => accounts.mp met absent
    exact .inr ⟨_, rfl, firstUnmet?_eq_some [] rfl (by simp) unmet, trivial⟩
  next present =>
  replace accounts := accounts.mpr present
  split
  next name found =>
    have unmet : ¬config.Meets .distinctNames := by simp [distinct, found]
    exact .inr ⟨_, rfl,
      firstUnmet?_eq_some [.someAccount] rfl (by simp [accounts]) unmet,
      duplicateName?_eq_some_iff.mp found⟩
  next unique =>
  replace distinct := distinct.mpr unique
  split
  next empty =>
    have unmet : ¬config.Meets .writtenPrefix :=
      fun met => nonempty.mp met empty
    exact .inr ⟨_, rfl,
      firstUnmet?_eq_some [.someAccount, .distinctNames] rfl
        (by simp [accounts, distinct]) unmet, trivial⟩
  next written =>
  replace nonempty := nonempty.mpr written
  split
  next command found =>
    have unmet : ¬config.Meets .nonzeroWindows := by simp [windows, found]
    exact .inr ⟨_, rfl,
      firstUnmet?_eq_some [.someAccount, .distinctNames, .writtenPrefix] rfl
        (by simp [accounts, distinct, nonempty]) unmet,
      CommandSettings.exists_of_firstZeroWindow? found⟩
  next nowhere =>
    replace windows := windows.mpr nowhere
    exact .inl ⟨rfl, fun demand => by cases demand <;> assumption⟩

theorem firstUnmet?_eq_none_iff :
    config.firstUnmet? = none ↔ config.Sound := by
  rw [firstUnmet?, List.find?_eq_none]
  constructor
  · intro met demand
    simpa using met demand demand.mem_inOrder
  · intro sound demand _
    simpa using sound demand

theorem validate_eq_ok_iff : config.validate = .ok () ↔ config.Sound := by
  rcases config.validate_cases with
    ⟨accepted, sound⟩ | ⟨error, refused, first, _⟩
  · exact iff_of_true accepted sound
  · rw [← firstUnmet?_eq_none_iff, first, refused]
    exact iff_of_false nofun nofun

/-- A configuration is accepted just if it meets all demands.  An error blames
the first demand that is not met, and a name that it gives is at fault. -/
theorem validation_exact (config : Config) :
    (config.validate = .ok () ↔ config.Sound) ∧
      ∀ error, config.validate = .error error →
        config.firstUnmet? = some error.demand ∧
          config.NamesCulprit error := by
  refine ⟨validate_eq_ok_iff, fun error refused => ?_⟩
  rcases config.validate_cases with
    ⟨accepted, _⟩ | ⟨reported, refusal, first, culprit⟩
  · cases accepted.symm.trans refused
  · cases refusal.symm.trans refused
    exact ⟨first, culprit⟩

/-- Five accounts share two names, the prefix is empty, and a cooldown has no
window. -/
def sharedNames : Config where
  accounts := ["😀", "\uffff", "z", "😀", "\uffff"].map fun name =>
    { name, homeserver := "h", username := "u", password := "p" }
  commands :=
    { commandPrefix := "", overrides := [("kill", { windowSeconds := 0 })] }

/-- Of three faults the first is blamed, and of two shared names the one with
the lesser bytes is given. -/
theorem sharedNames_refused :
    sharedNames.validate = .error (.duplicateName "\uffff") ∧
      sharedNames.firstUnmet? = some .distinctNames ∧
        LeastRepeated ["😀", "\uffff", "z", "😀", "\uffff"] "\uffff" := by
  have refused : sharedNames.validate = .error (.duplicateName "\uffff") := by
    cbv
  exact ⟨refused, (validation_exact sharedNames).2 _ refused⟩

theorem parse_eq_ok_iff {text : String} :
    parse text = .ok config ↔
      (Yaml.Document.parse? text).bind ofDocument? = some config ∧
        config.Sound := by
  rw [parse, ← validate_eq_ok_iff]
  split
  next unread => simp [unread]
  next written read =>
    rw [read, Option.some_inj]
    split
    next accepted =>
      rw [Except.ok.injEq]
      exact ⟨fun same => ⟨same, same ▸ accepted⟩, And.left⟩
    next error refused =>
      refine iff_of_false nofun ?_
      rintro ⟨rfl, accepted⟩
      cases accepted.symm.trans refused

theorem sound_of_load {path : String} {content : Option String}
    (loaded : load path content = .ok config) : config.Sound := by
  cases content with
  | none => cases loaded
  | some text =>
      rw [load] at loaded
      cases parsed : parse text with
      | error _ => rw [parsed] at loaded; cases loaded
      | ok written =>
          rw [parsed] at loaded
          cases loaded
          exact (parse_eq_ok_iff.mp parsed).2

end

end Config

end Switchboard
