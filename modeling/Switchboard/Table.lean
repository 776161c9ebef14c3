/-!
# Tables

A table is a list of keyed entries in which writing replaces the entry of its
key, so a table built by writing holds one entry per key. The main statements
say what a lookup answers after a write and after a removal.
-/

namespace Switchboard

/-- Keyed entries in the order in which their keys were first written. -/
abbrev Table (κ α : Type) := List (κ × α)

namespace Table

variable {κ α : Type} [DecidableEq κ]

def find? (key : κ) : Table κ α → Option α
  | [] => none
  | entry :: rest => if entry.1 = key then some entry.2 else find? key rest

/-- Writes the entry of a key, in place where the key has one already. -/
def write (key : κ) (value : α) : Table κ α → Table κ α
  | [] => [(key, value)]
  | entry :: rest =>
    if entry.1 = key then (key, value) :: rest
      else entry :: write key value rest

def remove (key : κ) (table : Table κ α) : Table κ α := table.filter (·.1 ≠ key)

@[simp] theorem find?_nil (key : κ) : find? key ([] : Table κ α) = none := rfl

theorem find?_write_self (key : κ) (value : α) (table : Table κ α) :
    (table.write key value).find? key = some value := by
  induction table with
  | nil => simp [write, find?]
  | cons entry rest ih =>
    by_cases same : entry.1 = key
    · simp [write, find?, same]
    · simp [write, find?, same, ih]

theorem find?_write_of_ne {key other : κ} (different : other ≠ key) (value : α)
    (table : Table κ α) :
    (table.write key value).find? other = table.find? other := by
  induction table with
  | nil => simp [write, find?, Ne.symm different]
  | cons entry rest ih =>
    by_cases same : entry.1 = key
    · simp [write, find?, same, Ne.symm different]
    · by_cases here : entry.1 = other
      · simp [write, find?, here, different]
      · simp [write, find?, same, here, ih]

theorem find?_remove_self (key : κ) (table : Table κ α) :
    (table.remove key).find? key = none := by
  induction table with
  | nil => rfl
  | cons entry rest ih =>
    by_cases same : entry.1 = key
    · simpa [remove, same] using ih
    · simpa [remove, same, find?] using ih

theorem find?_remove_of_ne {key other : κ} (different : other ≠ key)
    (table : Table κ α) :
    (table.remove key).find? other = table.find? other := by
  induction table with
  | nil => rfl
  | cons entry rest ih =>
    by_cases same : entry.1 = key
    · simpa [remove, same, find?, Ne.symm different] using ih
    · by_cases here : entry.1 = other
      · simp [remove, find?, here, different]
      · simpa [remove, same, find?, here] using ih

end Table

end Switchboard
