import Mathlib.Data.List.Find
import Mathlib.Data.List.Induction
import MarlinspikeDpi.Foundation.Table

/-!
# Items found by one of their keys

Items are numbered in the order in which they are added, and every key of an item gets the item's
number appended to its bucket.

* `find?_under_append`: an indexed search is a search of all items.
-/

namespace MarlinspikeDpi

/-- Numbered items, and for each key the numbers of its items. -/
structure KeyIndex (κ α : Type) [DecidableEq κ] where
  items : List α
  buckets : Table κ (List Nat)

namespace KeyIndex

open List

variable {κ α : Type} [DecidableEq κ]

def empty : KeyIndex κ α := ⟨[], ∅⟩

def bucket (ix : KeyIndex κ α) (key : κ) : List Nat := (ix.buckets.lookup key).getD []

def file (buckets : Table κ (List Nat)) (number : Nat) (key : κ) : Table κ (List Nat) :=
  buckets.insert key ((buckets.lookup key).getD [] ++ [number])

def add (ix : KeyIndex κ α) (item : α) (keys : List κ) : KeyIndex κ α :=
  { items := ix.items ++ [item]
    buckets := keys.foldl (fun buckets key => file buckets ix.items.length key) ix.buckets }

def candidates (ix : KeyIndex κ α) (key : κ) : List α :=
  (ix.bucket key).filterMap fun i => ix.items[i]?

def build (entries : List (α × List κ)) : KeyIndex κ α :=
  entries.foldl (fun ix e => ix.add e.1 e.2) empty

lemma build_concat (entries : List (α × List κ)) (e : α × List κ) :
    build (entries ++ [e]) = (build entries).add e.1 e.2 := by
  simp [build]

lemma lookup_file (buckets : Table κ (List Nat)) (number : Nat) (key key' : κ) :
    ((file buckets number key).lookup key').getD [] =
      (buckets.lookup key').getD [] ++ if key' = key then [number] else [] := by
  by_cases h : key' = key
  · subst h
    simp [file]
  · simp [file, h, AList.lookup_insert_ne h]

lemma bucket_add (ix : KeyIndex κ α) (item : α) (keys : List κ)
    (key : κ) : (ix.add item keys).bucket key =
      ix.bucket key ++ replicate (keys.count key) ix.items.length := by
  simp only [bucket, add]
  generalize ix.buckets = buckets
  induction keys generalizing buckets with
  | nil => simp
  | cons k keys ih =>
    rw [foldl_cons, ih, lookup_file]
    by_cases h : key = k
    · subst h
      simp [replicate_succ]
    · simp [h, count_cons_of_ne (fun hk => h hk.symm)]

lemma lt_of_mem_bucket_build {entries : List (α × List κ)} {key : κ} {i : Nat}
    (h : i ∈ (build entries).bucket key) : i < (build entries).items.length := by
  induction entries using reverseRecOn with
  | nil => simp [build, empty, bucket] at h
  | append_singleton entries e ih =>
    rw [build_concat, bucket_add] at h
    rw [build_concat]
    simp only [add, length_append, length_singleton]
    rcases mem_append.1 h with hold | hnew
    · have hlt := ih hold
      omega
    · have hi := (mem_replicate.1 hnew).2
      omega

lemma candidates_build (entries : List (α × List κ)) (key : κ) : (build entries).candidates key =
      entries.flatMap fun e => replicate (e.2.count key) e.1 := by
  induction entries using reverseRecOn with
  | nil => rfl
  | append_singleton entries e ih =>
    have hold : ((build entries).bucket key).filterMap
        (fun i => ((build entries).items ++ [e.1])[i]?) = (build entries).candidates key := by
      refine filterMap_congr ?_
      intro i hi
      exact getElem?_append_left (lt_of_mem_bucket_build hi)
    have hnew : (replicate (e.2.count key) (build entries).items.length).filterMap
        (fun i => ((build entries).items ++ [e.1])[i]?) = replicate (e.2.count key) e.1 := by
      rw [filterMap_replicate]
      simp
    calc
      (build (entries ++ [e])).candidates key
          = (build entries).candidates key ++ replicate (e.2.count key) e.1 := by
            rw [build_concat, candidates, bucket_add, filterMap_append]
            simp only [add]
            rw [hold, hnew]
      _ = _ := by rw [ih, flatMap_append, flatMap_singleton]

def under (key : κ) (entries : List (α × List κ)) : List α :=
  (entries.filter fun e => decide (key ∈ e.2)).map Prod.fst

lemma find?_candidates_build (p : α → Bool) (entries : List (α × List κ)) (key : κ) :
    ((build entries).candidates key).find? p = (under key entries).find? p := by
  rw [candidates_build]
  induction entries with
  | nil => rfl
  | cons e entries ih =>
    rw [flatMap_cons, find?_append, ih]
    by_cases hkey : key ∈ e.2
    · cases hp : p e.1 with
      | true => simp [under, hkey, hp]
      | false => simp [under, hkey, hp]
    · simp [under, hkey, count_eq_zero_of_not_mem hkey]

/-! ## What an index may skip -/

lemma find?_filter_of_find?_eq_some {p q : α → Bool} {l : List α} {x : α}
    (hfound : l.find? p = some x) (hq : q x = true) : (l.filter q).find? p = some x := by
  obtain ⟨hp, before, after, rfl, hbefore⟩ := find?_eq_some_iff_append.1 hfound
  refine find?_eq_some_iff_append.2 ⟨hp, before.filter q, after.filter q, by simp [hq], ?_⟩
  intro y hy
  exact hbefore y (mem_of_mem_filter hy)

/-- If the first item that the walk over the items of `key` and then over all items accepts is under
`key` or under `key'`, searching the items of `key` and then those of `key'` finds it too. -/
theorem find?_under_append {p : α → Bool} {entries : List (α × List κ)} {key key' : κ}
    (h : ∀ e ∈ entries, (under key entries ++ entries.map Prod.fst).find? p = some e.1 →
      key ∈ e.2 ∨ key' ∈ e.2) :
    (under key entries ++ under key' entries).find? p =
      (under key entries ++ entries.map Prod.fst).find? p := by
  rw [find?_append] at h ⊢
  rw [find?_append]
  cases hfirst : (under key entries).find? p with
  | some x => rfl
  | none =>
    rw [hfirst] at h
    simp only [Option.none_or, under, find?_map] at h ⊢
    cases hfound : entries.find? (p ∘ Prod.fst) with
    | none =>
      have hnone : ∀ e ∈ entries.filter fun e => decide (key' ∈ e.2), ¬(p ∘ Prod.fst) e = true :=
        fun e he => find?_eq_none.1 hfound e (mem_of_mem_filter he)
      rw [find?_eq_none.2 hnone]
    | some e =>
      -- nothing of `key` is accepted, so the first that is accepted is under `key'`
      have hmem := mem_of_find?_eq_some hfound
      have haccepted : p e.1 = true := find?_some (p := p ∘ Prod.fst) hfound
      have hkey : key ∉ e.2 := by
        intro hk
        refine find?_eq_none.1 hfirst e.1 ?_ haccepted
        exact mem_map.2 ⟨e, mem_filter.2 ⟨hmem, by simpa using hk⟩, rfl⟩
      have hkey' : key' ∈ e.2 := (h e hmem (by rw [hfound]; rfl)).resolve_left hkey
      rw [find?_filter_of_find?_eq_some hfound (by simpa using hkey')]

end KeyIndex
end MarlinspikeDpi
