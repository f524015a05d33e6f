import MarlinspikeDpi.Foundation.Table

/-!
# The same values under other keys

A table files values under one kind of key, and a second one files the same values under keys that
are computed from the first key and the value.
-/

namespace MarlinspikeDpi

open AList Table

variable {κ ι ν : Type} [DecidableEq κ] [DecidableEq ι]

/-- The first table has exactly the values of the second, each under its computed key. -/
structure Reindexes (coarse : ι → ν → κ) (t : Table κ ν) (fine : Table ι ν) : Prop where
  lookup_iff : ∀ k v, t.lookup k = some v ↔ ∃ i, fine.lookup i = some v ∧ coarse i v = k
  distinct : ∀ i j v w, fine.lookup i = some v → fine.lookup j = some w → coarse i v = coarse j w →
    i = j

namespace Reindexes

lemma empty (coarse : ι → ν → κ) : Reindexes coarse ∅ ∅ where
  lookup_iff k v := by simp
  distinct i j v w h := by cases h

lemma lookup_eq_none_iff {coarse : ι → ν → κ} {t : Table κ ν} {fine : Table ι ν}
    (h : Reindexes coarse t fine) (k : κ) :
    t.lookup k = none ↔ ∀ i v, fine.lookup i = some v → coarse i v ≠ k := by
  rw [Option.eq_none_iff_forall_ne_some]
  constructor
  · intro hnone i v hv hk
    exact hnone v ((h.lookup_iff k v).2 ⟨i, hv, hk⟩)
  · intro hfree v hv
    obtain ⟨i, hi, hk⟩ := (h.lookup_iff k v).1 hv
    exact hfree i v hi hk

lemma insert {coarse : ι → ν → κ} {t : Table κ ν} {fine : Table ι ν} (h : Reindexes coarse t fine)
    {i : ι} {v : ν} (hfine : fine.lookup i = none)
    (hfree : t.lookup (coarse i v) = none) : Reindexes coarse (t.insert (coarse i v) v)
    (fine.insert i v) := by
  have hother := (h.lookup_eq_none_iff _).1 hfree
  constructor
  · intro k u
    rw [lookup_insert_eq_some]
    constructor
    · rintro (⟨rfl, rfl⟩ | ⟨-, hu⟩)
      · exact ⟨i, lookup_insert _, rfl⟩
      · obtain ⟨j, hj, hcoarse⟩ := (h.lookup_iff k u).1 hu
        refine ⟨j, lookup_insert_eq_some.2 (.inr ⟨?_, hj⟩), hcoarse⟩
        rintro rfl
        rw [hfine] at hj
        cases hj
    · rintro ⟨j, hj, rfl⟩
      rcases lookup_insert_eq_some.1 hj with ⟨rfl, rfl⟩ | ⟨-, hj⟩
      · exact .inl ⟨rfl, rfl⟩
      · exact .inr ⟨hother j u hj, (h.lookup_iff _ u).2 ⟨j, hj, rfl⟩⟩
  · intro j l u w hj hl hcoarse
    rcases lookup_insert_eq_some.1 hj with ⟨rfl, rfl⟩ | ⟨-, hj'⟩ <;>
      rcases lookup_insert_eq_some.1 hl with ⟨rfl, rfl⟩ | ⟨-, hl'⟩
    · rfl
    · exact absurd hcoarse.symm (hother l w hl')
    · exact absurd hcoarse (hother j u hj')
    · exact h.distinct j l u w hj' hl' hcoarse

lemma erase {coarse : ι → ν → κ} {t : Table κ ν} {fine : Table ι ν} (h : Reindexes coarse t fine)
    {i : ι} {v : ν} (hv : fine.lookup i = some v) :
    Reindexes coarse (t.erase (coarse i v)) (fine.erase i) := by
  constructor
  · intro k u
    rw [lookup_erase_eq_some, h.lookup_iff]
    constructor
    · rintro ⟨hk, j, hj, rfl⟩
      refine ⟨j, lookup_erase_eq_some.2 ⟨?_, hj⟩, rfl⟩
      rintro rfl
      rw [hv] at hj
      cases hj
      exact hk rfl
    · rintro ⟨j, hj, rfl⟩
      obtain ⟨hji, hj⟩ := lookup_erase_eq_some.1 hj
      exact ⟨fun hcoarse => hji (h.distinct j i u v hj hv hcoarse), j, hj, rfl⟩
  · intro j l u w hj hl hcoarse
    exact h.distinct j l u w (lookup_erase_eq_some.1 hj).2 (lookup_erase_eq_some.1 hl).2 hcoarse

end Reindexes
end MarlinspikeDpi
