import Mathlib.Data.String.Basic
import Mathlib.Order.Defs.LinearOrder

/-!
# Maps that iterate in key order

A map whose iteration order is part of the output (attribute tables, identifier tables) is a list of
entries with strictly increasing keys.
-/

namespace MarlinspikeDpi

open List

/-- A finite map, listed in strictly increasing key order. -/
structure OrderedMap (κ ν : Type) [LinearOrder κ] where
  entries : List (κ × ν)
  sorted : entries.Pairwise fun a b => a.1 < b.1
deriving DecidableEq

namespace OrderedMap

variable {κ ν : Type} [LinearOrder κ]

/-- Insert into a sorted list of entries; an existing entry of the key is replaced. -/
def insertEntry (k : κ) (v : ν) : List (κ × ν) → List (κ × ν)
  | [] => [(k, v)]
  | (k', v') :: es =>
    if k < k' then (k, v) :: (k', v') :: es
    else if k = k' then (k, v) :: es
    else (k', v') :: insertEntry k v es

lemma key_of_mem_insertEntry {es : List (κ × ν)} {k : κ} {v : ν} {e : κ × ν}
    (h : e ∈ insertEntry k v es) : e.1 = k ∨ e ∈ es := by
  induction es with
  | nil =>
    rw [insertEntry, mem_singleton] at h
    exact Or.inl (by rw [h])
  | cons e' es ih =>
    rw [insertEntry] at h
    split at h
    · rcases mem_cons.1 h with rfl | hmem
      · exact Or.inl rfl
      · exact Or.inr hmem
    · split at h
      · rcases mem_cons.1 h with rfl | hmem
        · exact Or.inl rfl
        · exact Or.inr (mem_cons_of_mem _ hmem)
      · rcases mem_cons.1 h with rfl | hmem
        · exact Or.inr mem_cons_self
        · exact (ih hmem).imp_right (mem_cons_of_mem _)

lemma sorted_insertEntry {es : List (κ × ν)} (k : κ) (v : ν)
    (h : es.Pairwise fun a b => a.1 < b.1) :
    (insertEntry k v es).Pairwise fun a b => a.1 < b.1 := by
  induction es with
  | nil => simp [insertEntry]
  | cons e es ih =>
    rcases pairwise_cons.1 h with ⟨hhead, htail⟩
    rw [insertEntry]
    split
    · rename_i hlt
      refine pairwise_cons.2 ⟨?_, h⟩
      intro b hb
      rcases mem_cons.1 hb with rfl | hmem
      · exact hlt
      · exact lt_trans hlt (hhead b hmem)
    · split
      · rename_i heq
        subst heq
        exact pairwise_cons.2 ⟨hhead, htail⟩
      · rename_i hlt hne
        refine pairwise_cons.2 ⟨?_, ih htail⟩
        intro b hb
        rcases key_of_mem_insertEntry hb with hkey | hmem
        · rw [hkey]
          exact lt_of_le_of_ne (not_lt.1 hlt) (Ne.symm hne)
        · exact hhead b hmem

def empty : OrderedMap κ ν := ⟨[], List.Pairwise.nil⟩

variable (m : OrderedMap κ ν)

def insert (k : κ) (v : ν) : OrderedMap κ ν :=
  ⟨insertEntry k v m.entries, sorted_insertEntry k v m.sorted⟩

def extend (es : List (κ × ν)) : OrderedMap κ ν := es.foldl (fun m e => m.insert e.1 e.2) m

def get (k : κ) : Option ν := (m.entries.find? fun e => e.1 == k).map Prod.snd

lemma get_insert_self (k : κ) (v : ν) : (m.insert k v).get k = some v := by
  have hfound : ∀ es : List (κ × ν), (insertEntry k v es).find? (fun e => e.1 == k) =
      some (k, v) := by
    intro es
    induction es with
    | nil => simp [insertEntry]
    | cons e es ih =>
      rw [insertEntry]
      split
      · simp
      · split
        · simp
        · rename_i hne
          rw [find?_cons_of_neg (by simpa using Ne.symm hne), ih]
  rw [get, insert, hfound, Option.map_some]

lemma get_insert_of_ne {k k' : κ} (h : k' ≠ k) (v : ν) : (m.insert k v).get k' = m.get k' := by
  have hfound : ∀ es : List (κ × ν), (insertEntry k v es).find? (fun e => e.1 == k') =
      es.find? fun e => e.1 == k' := by
    intro es
    induction es with
    | nil => simp [insertEntry, h.symm]
    | cons e es ih =>
      rw [insertEntry]
      split
      · rw [find?_cons_of_neg (by simp [h.symm])]
      · split
        · rename_i heq
          subst heq
          rw [find?_cons_of_neg (by simp [h.symm]), find?_cons_of_neg (by simp [h.symm])]
        · simp only [find?_cons, ih]
  rw [get, insert, hfound]
  rfl

lemma get_extend_of_not_mem {es : List (κ × ν)} {m : OrderedMap κ ν} {k : κ}
    (h : k ∉ es.map Prod.fst) : (m.extend es).get k = m.get k := by
  induction es generalizing m with
  | nil => rfl
  | cons e es ih =>
    rw [map_cons, mem_cons, not_or] at h
    exact (ih h.2).trans (get_insert_of_ne m h.1 e.2)

lemma get_extend_concat (es : List (κ × ν)) (k : κ)
    (v : ν) : (m.extend (es ++ [(k, v)])).get k = some v := by
  rw [extend, foldl_concat, get_insert_self]

def isEmpty (m : OrderedMap κ ν) : Bool := m.entries.isEmpty

lemma isEmpty_insert (k : κ) (v : ν) : (m.insert k v).isEmpty = false := by
  change (insertEntry k v m.entries).isEmpty = false
  cases m.entries with
  | nil => rfl
  | cons e es =>
    rw [insertEntry]
    split
    · rfl
    · split <;> rfl

lemma isEmpty_extend {es : List (κ × ν)} {m : OrderedMap κ ν} (h : m.isEmpty = false ∨ es ≠ []) :
    (m.extend es).isEmpty = false := by
  induction es generalizing m with
  | nil => exact h.resolve_right (fun hne => hne rfl)
  | cons e es ih => exact ih (.inl (isEmpty_insert m e.1 e.2))

end OrderedMap
end MarlinspikeDpi
