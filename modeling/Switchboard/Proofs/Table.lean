import Mathlib.Data.List.Nodup
import Switchboard.Table

/-!
# Keys of tables

A table that is only changed by writing and removing holds at most one entry
per key.  In such a table the lookup of a key and the membership of its entry
say the same.
-/

namespace Switchboard.Table

variable {κ α β : Type}

/-- The keys of a table, in the order of its entries. -/
def keys (table : Table κ α) : List κ := table.map Prod.fst

theorem key_mem {table : Table κ α} {key : κ} {value : α}
    (member : (key, value) ∈ table) : key ∈ table.keys :=
  List.mem_map.mpr ⟨(key, value), member, rfl⟩

theorem nodup_keys_filter_map {table : Table κ α}
    (nodup : table.keys.Nodup) (change : α → β) (kept : κ × β → Bool) :
    (keys ((table.map fun entry =>
      (entry.1, change entry.2)).filter kept)).Nodup := by
  have sameKeys :
      keys (table.map fun entry => (entry.1, change entry.2)) = table.keys := by
    simp [keys, Function.comp_def]
  exact (sameKeys ▸ nodup).sublist (List.filter_sublist.map Prod.fst)

variable [DecidableEq κ]

theorem keys_write (key : κ) (value : α) (table : Table κ α) :
    (table.write key value).keys =
      if key ∈ table.keys then table.keys else table.keys ++ [key] := by
  induction table with
  | nil => simp [write, keys]
  | cons entry rest induction =>
      by_cases same : entry.1 = key
      · simp [write, keys, same]
      · have different : key ≠ entry.1 := Ne.symm same
        simp only [keys] at induction
        by_cases member : key ∈ rest.map Prod.fst
        · simp [write, keys, same, induction, member]
        · simp [write, keys, same, different, induction, member]

theorem nodup_keys_write {table : Table κ α} (nodup : table.keys.Nodup)
    (key : κ) (value : α) : (table.write key value).keys.Nodup := by
  rw [keys_write]
  split
  · exact nodup
  · rename_i absent
    exact nodup.append (List.nodup_singleton key) (by simpa using absent)

theorem nodup_keys_remove {table : Table κ α} (nodup : table.keys.Nodup)
    (key : κ) : (table.remove key).keys.Nodup :=
  nodup.sublist (List.filter_sublist.map Prod.fst)

theorem mem_of_find?_eq_some {table : Table κ α} {key : κ} {value : α}
    (found : table.find? key = some value) : (key, value) ∈ table := by
  induction table with
  | nil => simp at found
  | cons entry rest induction =>
      rw [find?] at found
      split at found
      · rename_i same
        cases found
        subst key
        exact List.mem_cons_self
      · exact List.mem_cons_of_mem entry (induction found)

theorem find?_eq_some_iff {table : Table κ α} (nodup : table.keys.Nodup)
    {key : κ} {value : α} :
    table.find? key = some value ↔ (key, value) ∈ table := by
  refine ⟨mem_of_find?_eq_some, fun member => ?_⟩
  induction table with
  | nil => simp at member
  | cons entry rest induction =>
      obtain ⟨absent, restNodup⟩ := List.nodup_cons.mp nodup
      rcases List.mem_cons.mp member with first | later
      · subst entry
        simp [find?]
      · have different : entry.1 ≠ key := by
          intro same
          exact absent (same ▸ key_mem later)
        rw [find?, if_neg different]
        exact induction restNodup later

theorem find?_eq_of_perm {one other : Table κ α} (perm : one.Perm other)
    (nodup : other.keys.Nodup) (key : κ) :
    one.find? key = other.find? key := by
  have oneNodup : one.keys.Nodup := (perm.map Prod.fst).nodup_iff.mpr nodup
  apply Option.ext
  intro value
  rw [find?_eq_some_iff oneNodup, find?_eq_some_iff nodup, perm.mem_iff]

theorem mem_write {table : Table κ α} {key : κ} {value : α} {entry : κ × α}
    (member : entry ∈ table.write key value) :
    entry = (key, value) ∨ entry ∈ table := by
  induction table with
  | nil => simpa [write] using member
  | cons first rest induction =>
      rw [write] at member
      split at member
      · rcases List.mem_cons.mp member with here | later
        · exact .inl here
        · exact .inr (List.mem_cons_of_mem first later)
      · rcases List.mem_cons.mp member with here | later
        · exact .inr (here ▸ List.mem_cons_self)
        · exact (induction later).imp id (List.mem_cons_of_mem first)

end Switchboard.Table
