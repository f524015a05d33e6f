import MarlinspikeDpi.Foundation.LastWrite
import MarlinspikeDpi.Foundation.Table

/-!
# A bounded table that displaces the key that came in first

The table is kept together with the queue of its keys in the order in which they came in.
-/

namespace MarlinspikeDpi

structure Fifo (κ ν : Type) [DecidableEq κ] where
  entries : Table κ ν
  order : List κ

namespace Fifo

open AList List

variable {κ ν : Type} [DecidableEq κ]

def empty : Fifo κ ν := ⟨∅, []⟩

def makeRoom (cap : Nat) (f : Fifo κ ν) : Fifo κ ν :=
  if cap ≤ f.entries.entries.length then
    match f.order with
    | oldest :: order => ⟨f.entries.erase oldest, order⟩
    | [] => f
  else f

def store (cap : Nat) (f : Fifo κ ν) (k : κ) (v : ν) : Fifo κ ν :=
  if (f.entries.lookup k).isSome then { f with entries := f.entries.insert k v }
  else
    let f := f.makeRoom cap
    ⟨f.entries.insert k v, f.order ++ [k]⟩

/-! ## The invariant -/

/-- The queue lists the keys of the table, each once, and there are at most `cap` of them. -/
structure Ok (cap : Nat) (f : Fifo κ ν) : Prop where
  perm : f.order.Perm f.entries.keys
  bounded : f.order.length ≤ cap

namespace Ok

lemma empty (cap : Nat) : Ok cap (Fifo.empty : Fifo κ ν) where
  perm := List.Perm.refl _
  bounded := Nat.zero_le _

lemma nodup {cap : Nat} {f : Fifo κ ν} (h : Ok cap f) : f.order.Nodup :=
  h.perm.nodup_iff.2 f.entries.keys_nodup

lemma mem_order_iff {cap : Nat} {f : Fifo κ ν} (h : Ok cap f) (k : κ) : k ∈ f.order ↔
    (f.entries.lookup k).isSome = true := by
  rw [h.perm.mem_iff, lookup_isSome]
  rfl

lemma lookup_eq_none_iff {cap : Nat} {f : Fifo κ ν} (h : Ok cap f)
    (k : κ) : f.entries.lookup k = none ↔ k ∉ f.order := by
  rw [h.mem_order_iff, Option.not_isSome_iff_eq_none]

lemma length_entries {cap : Nat} {f : Fifo κ ν} (h : Ok cap f) :
    f.entries.entries.length = f.order.length := by
  rw [h.perm.length_eq, AList.keys, List.keys, length_map]

end Ok

def enqueue (cap : Nat) (keys : List κ) (k : κ) : List κ :=
  if k ∈ keys then keys else (if cap ≤ keys.length then keys.tail else keys) ++ [k]

section

lemma order_makeRoom {cap : Nat} {f : Fifo κ ν} (h : Ok cap f) :
    (f.makeRoom cap).order = if cap ≤ f.order.length then f.order.tail else f.order := by
  rw [makeRoom, h.length_entries]
  split
  · cases horder : f.order with
    | nil => exact horder
    | cons oldest order => rfl
  · rfl

lemma perm_makeRoom {cap : Nat} {f : Fifo κ ν} (h : Ok cap f) :
    (f.makeRoom cap).order.Perm (f.makeRoom cap).entries.keys := by
  rw [makeRoom]
  split
  · cases horder : f.order with
    | nil => exact h.perm
    | cons oldest order =>
      have hperm := h.perm.erase oldest
      rw [horder, erase_cons_head] at hperm
      rwa [keys_erase]
  · exact h.perm

lemma lookup_makeRoom {cap : Nat} {f : Fifo κ ν} (h : Ok cap f)
    (k : κ) : (f.makeRoom cap).entries.lookup k =
      if k ∈ (f.makeRoom cap).order then f.entries.lookup k else none := by
  have hperm := perm_makeRoom h
  by_cases hk : k ∈ (f.makeRoom cap).order
  · rw [if_pos hk]
    rw [makeRoom] at hk ⊢
    split
    · rename_i hfull
      rw [if_pos hfull] at hk
      cases horder : f.order with
      | nil => rfl
      | cons oldest order =>
        rw [horder] at hk
        have hne : k ≠ oldest := by
          rintro rfl
          have hnodup := h.nodup
          rw [horder] at hnodup
          exact (nodup_cons.1 hnodup).1 hk
        exact lookup_erase_ne hne
    · rfl
  · rw [if_neg hk, lookup_eq_none]
    exact fun hmem => hk (hperm.mem_iff.2 hmem)

lemma order_store {cap : Nat} {f : Fifo κ ν} (h : Ok cap f) (k : κ)
    (v : ν) : (f.store cap k v).order = enqueue cap f.order k := by
  rw [store, enqueue]
  by_cases hknown : k ∈ f.order
  · rw [if_pos ((h.mem_order_iff k).1 hknown), if_pos hknown]
  · rw [if_neg (fun hsome => hknown ((h.mem_order_iff k).2 hsome)), if_neg hknown]
    exact congrArg (· ++ [k]) (order_makeRoom h)

lemma mem_enqueue_self (cap : Nat) (keys : List κ) (k : κ) : k ∈ enqueue cap keys k := by
  rw [enqueue]
  split
  · assumption
  · simp

lemma mem_enqueue_of_ne {cap : Nat} {keys : List κ} {k k' : κ} (hne : k' ≠ k) (hnew : k ∉ keys) :
    k' ∈ enqueue cap keys k ↔ k' ∈ if cap ≤ keys.length then keys.tail else keys := by
  rw [enqueue, if_neg hnew, mem_append, mem_singleton, or_iff_left hne]

lemma lookup_store {cap : Nat} {f : Fifo κ ν} (h : Ok cap f) (k k' : κ)
    (v : ν) : (f.store cap k v).entries.lookup k' =
      if k' = k then some v else if k' ∈ enqueue cap f.order k then f.entries.lookup k'
        else none := by
  rw [store]
  by_cases hknown : k ∈ f.order
  · rw [if_pos ((h.mem_order_iff k).1 hknown), Table.lookup_insert_eq_ite, enqueue, if_pos hknown]
    by_cases hlive : k' ∈ f.order
    · rw [if_pos hlive]
    · rw [if_neg hlive, (h.lookup_eq_none_iff k').2 hlive]
  · rw [if_neg (fun hsome => hknown ((h.mem_order_iff k).2 hsome)), Table.lookup_insert_eq_ite,
      lookup_makeRoom h, order_makeRoom h]
    by_cases hself : k' = k
    · rw [if_pos hself, if_pos hself]
    · simp only [mem_enqueue_of_ne hself hknown]

lemma Ok.store {cap : Nat} {f : Fifo κ ν} (h : Ok cap f) (hcap : 0 < cap) (k : κ)
    (v : ν) : Ok cap (f.store cap k v) := by
  by_cases hknown : k ∈ f.order
  · have hmem : k ∈ f.entries.keys := h.perm.mem_iff.1 hknown
    have hsome := (h.mem_order_iff k).1 hknown
    constructor
    · rw [Fifo.store, if_pos hsome]
      refine h.perm.trans ?_
      rw [keys_insert]
      exact perm_cons_erase hmem
    · rw [order_store h, enqueue, if_pos hknown]
      exact h.bounded
  · have hnone : ¬ (f.entries.lookup k).isSome = true :=
      fun hsome => hknown ((h.mem_order_iff k).2 hsome)
    have hnew : k ∉ (f.makeRoom cap).order := by
      rw [order_makeRoom h]
      split
      · exact fun hmem => hknown (mem_of_mem_tail hmem)
      · exact hknown
    have hperm := perm_makeRoom h
    constructor
    · rw [Fifo.store, if_neg hnone]
      rw [keys_insert, erase_of_not_mem (fun hmem => hnew (hperm.mem_iff.2 hmem))]
      exact (perm_append_singleton _ _).trans (hperm.cons k)
    · rw [order_store h, enqueue, if_neg hknown, length_append, length_singleton]
      have hbound := h.bounded
      split
      · rw [length_tail]
        omega
      · omega

end

/-! ## Sequences of definitions -/

def storeAll (cap : Nat) (definitions : List (κ × ν)) : Fifo κ ν :=
  definitions.foldl (fun f definition => f.store cap definition.1 definition.2) empty

/-- The keys that are there after the definitions: each new one beyond the bound has displaced the
one that had come in first. -/
def live (cap : Nat) (definitions : List (κ × ν)) : List κ :=
  definitions.foldl (fun keys definition => enqueue cap keys definition.1) []

def lastDefinition (k : κ) (definitions : List (κ × ν)) : Option ν :=
  lastWrite (fun definition => if definition.1 = k then some definition.2 else none) definitions

def current (cap : Nat) (k : κ) (definitions : List (κ × ν)) : Option ν :=
  if k ∈ live cap definitions then lastDefinition k definitions else none

lemma lastDefinition_concat (k : κ) (definitions : List (κ × ν)) (definition : κ × ν) :
    lastDefinition k (definitions ++ [definition]) =
      if definition.1 = k then some definition.2 else lastDefinition k definitions := by
  rw [lastDefinition, lastWrite_concat]
  split <;> rfl

lemma storeAll_append (cap : Nat) (definitions later : List (κ × ν)) :
    storeAll cap (definitions ++ later) =
      later.foldl (fun f definition => f.store cap definition.1 definition.2)
        (storeAll cap definitions) :=
  foldl_append

lemma storeAll_concat (cap : Nat) (definitions : List (κ × ν)) (definition : κ × ν) :
    storeAll cap (definitions ++ [definition]) =
      (storeAll cap definitions).store cap definition.1 definition.2 := by
  simp [storeAll]

lemma live_concat (cap : Nat) (definitions : List (κ × ν)) (definition : κ × ν) :
    live cap (definitions ++ [definition]) = enqueue cap (live cap definitions) definition.1 := by
  simp [live]

lemma Ok.storeAll {cap : Nat} (hcap : 0 < cap) (definitions : List (κ × ν)) :
    Ok cap (storeAll cap definitions) := by
  induction definitions using reverseRecOn with
  | nil => exact Ok.empty cap
  | append_singleton definitions definition ih =>
    rw [storeAll_concat]
    exact ih.store hcap _ _

lemma order_storeAll {cap : Nat} (hcap : 0 < cap) (definitions : List (κ × ν)) :
    (storeAll cap definitions).order = live cap definitions := by
  induction definitions using reverseRecOn with
  | nil => rfl
  | append_singleton definitions definition ih =>
    rw [storeAll_concat, order_store (Ok.storeAll hcap definitions), ih, live_concat]

lemma lookup_storeAll {cap : Nat} (hcap : 0 < cap) (definitions : List (κ × ν)) (k : κ) :
    (storeAll cap definitions).entries.lookup k = current cap k definitions := by
  induction definitions using reverseRecOn with
  | nil => rfl
  | append_singleton definitions definition ih =>
    have hok := Ok.storeAll hcap definitions
    rw [storeAll_concat, lookup_store hok, order_storeAll hcap, ih, current, current,
      live_concat, lastDefinition_concat]
    by_cases hself : k = definition.1
    · subst hself
      rw [if_pos rfl, if_pos (mem_enqueue_self _ _ _), if_pos rfl]
    · rw [if_neg hself, if_neg (Ne.symm hself)]
      by_cases hlive : k ∈ enqueue cap (live cap definitions) definition.1
      · have hbefore : k ∈ live cap definitions := by
          by_cases hknown : definition.1 ∈ live cap definitions
          · rwa [enqueue, if_pos hknown] at hlive
          · rw [mem_enqueue_of_ne hself hknown] at hlive
            split at hlive
            · exact mem_of_mem_tail hlive
            · exact hlive
        rw [if_pos hbefore]
      · rw [if_neg hlive, if_neg hlive]

end Fifo
end MarlinspikeDpi
