import Mathlib.Data.List.AList

/-!
# Finite maps with `retain`

Keyed tables are Mathlib's association lists with unique keys (`AList`).
-/

namespace MarlinspikeDpi

/-- A finite map from `κ` to `ν`: no key occurs twice. -/
abbrev Table (κ ν : Type) : Type := AList (fun _ : κ => ν)

namespace Table

open AList Option

variable {κ ν : Type} [DecidableEq κ]

def retain (t : Table κ ν) (keep : κ → ν → Bool) : Table κ ν :=
  ⟨t.entries.filter fun e => keep e.1 e.2, t.nodupKeys.sublist List.filter_sublist⟩

lemma mem_entries_iff {t : Table κ ν} {k : κ} {v : ν} : ⟨k, v⟩ ∈ t.entries ↔
    t.lookup k = some v := by
  rw [← mem_def, mem_lookup_iff]

lemma lookup_retain (t : Table κ ν) (keep : κ → ν → Bool)
    (k : κ) : (t.retain keep).lookup k = (t.lookup k).filter (keep k) := by
  ext v
  rw [← mem_def, mem_lookup_iff, filter_eq_some_iff, ← mem_entries_iff]
  simp [retain]

lemma lookup_retain_eq_some {t : Table κ ν} {keep : κ → ν → Bool} {k : κ} {v : ν} :
    (t.retain keep).lookup k = some v ↔ t.lookup k = some v ∧ keep k v = true := by
  rw [lookup_retain, filter_eq_some_iff]

lemma lookup_insert_eq_ite (t : Table κ ν) (k k' : κ)
    (v : ν) : (t.insert k v).lookup k' = if k' = k then some v else t.lookup k' := by
  by_cases hkey : k' = k
  · rw [if_pos hkey, hkey, lookup_insert]
  · rw [if_neg hkey, lookup_insert_ne hkey]

lemma lookup_insert_eq_some {t : Table κ ν} {k k' : κ} {v u : ν} :
    (t.insert k v).lookup k' = some u ↔ k' = k ∧ v = u ∨ k' ≠ k ∧ t.lookup k' = some u := by
  rw [lookup_insert_eq_ite]
  by_cases hkey : k' = k <;> simp [hkey]

lemma lookup_erase_eq_some {t : Table κ ν} {k k' : κ} {u : ν} :
    (t.erase k).lookup k' = some u ↔ k' ≠ k ∧ t.lookup k' = some u := by
  by_cases hkey : k' = k
  · rw [hkey, lookup_erase]
    simp
  · rw [lookup_erase_ne hkey, and_iff_right hkey]

lemma erase_of_lookup_eq_none {t : Table κ ν} {k : κ} (h : t.lookup k = none) : t.erase k = t :=
  AList.ext (List.kerase_of_notMem_keys (lookup_eq_none.1 h))

end Table
end MarlinspikeDpi
