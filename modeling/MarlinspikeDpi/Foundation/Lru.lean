import Mathlib.Data.List.Dedup
import Mathlib.Data.List.MinMax
import Mathlib.Tactic.Common
import MarlinspikeDpi.Foundation.Table

/-!
# Bounded tables that forget the least recently used key

The abstract view is a list of keys, the most recently used one first: using a key moves it to the
front and cuts the list to the capacity (`touch`).
-/

namespace MarlinspikeDpi.Lru

open List AList Table

/-! ## The abstract list -/

section

variable {κ : Type} [DecidableEq κ]

def touch (capacity : Nat) (key : κ) (order : List κ) : List κ :=
  (key :: order.erase key).take capacity

/-- The `capacity` most recently used distinct keys of a history, the most recent one first. -/
def mostRecent (capacity : Nat) (history : List κ) : List κ := history.dedup.reverse.take capacity

lemma dedup_concat (history : List κ) (key : κ) :
    (history ++ [key]).dedup = history.dedup.erase key ++ [key] := by
  induction history with
  | nil => simp
  | cons k history ih =>
    rw [cons_append]
    by_cases hk : k ∈ history
    · rw [dedup_cons_of_mem (mem_append_left _ hk), dedup_cons_of_mem hk, ih]
    · by_cases hkey : k = key
      · subst hkey
        have hnot : k ∉ history.dedup := by simpa using hk
        rw [dedup_cons_of_mem (by simp), ih, dedup_cons_of_notMem hk, erase_cons_head,
          erase_of_not_mem hnot]
      · have hnot : k ∉ history ++ [key] := by simp [hk, hkey]
        rw [dedup_cons_of_notMem hnot, ih, dedup_cons_of_notMem hk,
          erase_cons_tail (by simpa using hkey), cons_append]

lemma reverse_dedup_concat (history : List κ)
    (key : κ) : (history ++ [key]).dedup.reverse = key :: history.dedup.reverse.erase key := by
  have hnodup : history.dedup.reverse.Nodup := nodup_reverse.2 history.nodup_dedup
  rw [dedup_concat, reverse_append, history.nodup_dedup.erase_eq_filter, hnodup.erase_eq_filter,
    filter_reverse]
  rfl

lemma take_erase {order : List κ} (h : order.Nodup) (key : κ) (n : Nat) :
    (order.erase key).take n = ((order.take (n + 1)).erase key).take n := by
  induction order generalizing n with
  | nil => simp
  | cons k order ih =>
    rcases nodup_cons.1 h with ⟨hk, horder⟩
    by_cases hkey : k = key
    · subst hkey
      simp [take_take]
    · cases n with
      | zero => simp
      | succ n =>
        rw [take_succ_cons, erase_cons_tail (by simpa using hkey),
          erase_cons_tail (by simpa using hkey), take_succ_cons, take_succ_cons,
          ih horder]

lemma mostRecent_concat (capacity : Nat) (history : List κ) (key : κ) :
    mostRecent capacity (history ++ [key]) = touch capacity key (mostRecent capacity history) := by
  have hnodup : history.dedup.reverse.Nodup := nodup_reverse.2 history.nodup_dedup
  rw [mostRecent, reverse_dedup_concat, touch, mostRecent]
  cases capacity with
  | zero => simp
  | succ n => rw [take_succ_cons, take_succ_cons, take_erase hnodup key n]

end

/-! ## The table with stamps -/

section

variable {κ ν : Type} [DecidableEq κ] (stamp : ν → Nat) (t : Table κ ν)

def oldest : Option κ := (t.entries.argmin fun e => stamp e.2).map Sigma.fst

def evict : Table κ ν :=
  match oldest stamp t with
  | some key => t.erase key
  | none => t

def makeRoom (capacity : Nat) (t : Table κ ν) (key : κ) : Table κ ν :=
  if (t.lookup key).isNone ∧ capacity ≤ t.entries.length then evict stamp t else t

/-- The keys of the table in the order of their stamps, the latest one first. -/
structure Ordered (t : Table κ ν) (order : List κ) : Prop where
  mem_iff : ∀ key, key ∈ order ↔ key ∈ t
  latest_first : order.Pairwise fun key key' => ∀ value value',
    t.lookup key = some value → t.lookup key' = some value' → stamp value' < stamp value

variable {stamp} {t} {order : List κ}

lemma Ordered.empty : Ordered stamp (∅ : Table κ ν) [] where
  mem_iff := by simp
  latest_first := List.Pairwise.nil

lemma Ordered.exists_value (h : Ordered stamp t order) {key : κ} (hkey : key ∈ order) :
    ∃ value, t.lookup key = some value :=
  Option.isSome_iff_exists.1 (lookup_isSome.2 ((h.mem_iff key).1 hkey))

lemma Ordered.nodup (h : Ordered stamp t order) : order.Nodup := by
  refine h.latest_first.imp_of_mem ?_
  intro key key' hkey _ hlater heq
  subst heq
  rcases h.exists_value hkey with ⟨value, hvalue⟩
  exact Nat.lt_irrefl _ (hlater value value hvalue hvalue)

lemma Ordered.length_eq (h : Ordered stamp t order) : t.entries.length = order.length := by
  have hperm : t.keys.Perm order := by
    refine (perm_ext_iff_of_nodup t.keys_nodup h.nodup).2 ?_
    intro key
    rw [h.mem_iff, AList.mem_keys]
  rw [← hperm.length_eq]
  simp [AList.keys, List.keys]

variable {key' : κ}

lemma Ordered.oldest_eq {last : κ} (h : Ordered stamp t (order ++ [last])) :
    oldest stamp t = some last := by
  have hmember : last ∈ order ++ [last] := by simp
  rcases h.exists_value hmember with ⟨lastValue, hlast⟩
  have hlastEntry : ⟨last, lastValue⟩ ∈ t.entries := mem_entries_iff.2 hlast
  cases hmin : t.entries.argmin fun e => stamp e.2 with
  | none =>
    rw [argmin_eq_none] at hmin
    rw [hmin] at hlastEntry
    cases hlastEntry
  | some e =>
    have he : e ∈ t.entries := argmin_mem hmin
    have hvalue : t.lookup e.1 = some e.2 := mem_entries_iff.1 he
    have hle : stamp e.2 ≤ stamp lastValue :=
      le_of_mem_argmin (f := fun e : (_ : κ) × ν => stamp e.2) hlastEntry hmin
    have hmem : e.1 ∈ order ++ [last] := (h.mem_iff e.1).2 (lookup_isSome.1 (by simp [hvalue]))
    rcases mem_append.1 hmem with hbefore | hself
    · -- a key before the last one has a larger stamp
      have hlt := (pairwise_append.1 h.latest_first).2.2 e.1 hbefore last (by simp)
        e.2 lastValue hvalue hlast
      exact absurd hle (Nat.not_le.2 hlt)
    · rw [oldest, hmin]
      simpa using hself

lemma Ordered.evict {last : κ} (h : Ordered stamp t (order ++ [last])) :
    Ordered stamp (evict stamp t) order := by
  have hnodup := h.nodup
  have hlast : last ∉ order := by
    intro hmem
    exact (nodup_append.1 hnodup).2.2 last hmem last (by simp) rfl
  have hne : ∀ key ∈ order, key ≠ last := by
    intro key hkey heq
    exact hlast (heq ▸ hkey)
  rw [Lru.evict, h.oldest_eq]
  refine ⟨?_, ?_⟩
  · intro key
    rw [mem_erase, ← h.mem_iff]
    constructor
    · intro hkey
      exact ⟨hne key hkey, mem_append_left _ hkey⟩
    · rintro ⟨hkey, hmem⟩
      rcases mem_append.1 hmem with hbefore | hself
      · exact hbefore
      · exact absurd (mem_singleton.1 hself) hkey
  · refine (pairwise_append.1 h.latest_first).1.imp ?_
    intro key key' hlater value value' hvalue hvalue'
    exact hlater value value' (lookup_erase_eq_some.1 hvalue).2 (lookup_erase_eq_some.1 hvalue').2

variable {value : ν}

lemma Ordered.insert (h : Ordered stamp t order) {key : κ}
    (hnewest : ∀ key' value', t.lookup key' = some value' → stamp value' < stamp value) :
    Ordered stamp (t.insert key value) (key :: order.erase key) where
  mem_iff := by
    intro key'
    rw [mem_cons, h.nodup.mem_erase_iff, h.mem_iff]
    by_cases heq : key' = key <;> simp [heq]
  latest_first := by
    have hne : ∀ key' ∈ order.erase key, key' ≠ key := by
      intro key' hkey'
      exact (h.nodup.mem_erase_iff.1 hkey').1
    refine pairwise_cons.2 ⟨?_, ?_⟩
    · intro key' hkey' v v' hv hv'
      rw [lookup_insert, Option.some.injEq] at hv
      rw [lookup_insert_ne (hne key' hkey')] at hv'
      exact hv ▸ hnewest key' v' hv'
    · refine (h.latest_first.sublist erase_sublist).imp_of_mem ?_
      intro a b ha hb hlater v v' hv hv'
      rw [lookup_insert_ne (hne a ha)] at hv
      rw [lookup_insert_ne (hne b hb)] at hv'
      exact hlater v v' hv hv'

variable {key : κ}

lemma lookup_evict_of_some (h : (Lru.evict stamp t).lookup key = some value) :
    t.lookup key = some value := by
  unfold Lru.evict at h
  split at h
  · exact (lookup_erase_eq_some.1 h).2
  · exact h

variable {capacity : Nat}

lemma lookup_makeRoom_of_some
    (h : (makeRoom stamp capacity t key).lookup key' = some value) :
      t.lookup key' = some value := by
  unfold makeRoom at h
  split at h
  · exact lookup_evict_of_some h
  · exact h

lemma makeRoom_of_lookup_eq_some (h : t.lookup key = some value) :
    makeRoom stamp capacity t key = t := by
  simp [makeRoom, h]

lemma makeRoom_of_length_lt (h : t.entries.length < capacity) : makeRoom stamp capacity t key = t :=
  if_neg fun hfull => absurd hfull.2 (Nat.not_le.2 h)

lemma lookup_makeRoom_eq_none (h : t.lookup key = none) :
    (makeRoom stamp capacity t key).lookup key = none := by
  cases hmade : (makeRoom stamp capacity t key).lookup key with
  | none => rfl
  | some value =>
    rw [lookup_makeRoom_of_some hmade] at h
    cases h

lemma Ordered.insert_makeRoom (h : Ordered stamp t order) {capacity : Nat} (hpos : 0 < capacity)
    (hfits : order.length ≤ capacity) {key : κ}
    (hnewest : ∀ key' value', t.lookup key' = some value' → stamp value' < stamp value) :
    Ordered stamp ((makeRoom stamp capacity t key).insert key value)
      (touch capacity key order) := by
  by_cases hkey : key ∈ order
  · -- the key is there: nothing is evicted
    have hsome : (t.lookup key).isNone = false := by
      rcases h.exists_value hkey with ⟨value', hvalue'⟩
      simp [hvalue']
    have htouch : touch capacity key order = key :: order.erase key := by
      refine take_of_length_le ?_
      rw [length_cons, length_erase_of_mem hkey]
      omega
    rw [makeRoom, if_neg (by simp [hsome]), htouch]
    exact h.insert hnewest
  · have hnone : t.lookup key = none := by
      rw [lookup_eq_none, ← h.mem_iff]
      exact hkey
    have herase : order.erase key = order := erase_of_not_mem hkey
    by_cases hroom : order.length < capacity
    · have htouch : touch capacity key order = key :: order.erase key := by
        refine take_of_length_le ?_
        rw [length_cons, herase]
        omega
      rw [makeRoom, if_neg (by rw [h.length_eq]; omega), htouch]
      exact h.insert hnewest
    · -- the table is full, and its last key makes room
      have hfull : order.length = capacity := by omega
      rcases eq_nil_or_concat' order with rfl | ⟨front, last, rfl⟩
      · simp only [length_nil] at hfull
        omega
      · have hfront : front.erase key = front :=
          erase_of_not_mem fun hmem => hkey (mem_append_left _ hmem)
        have htouch : touch capacity key (front ++ [last]) = key :: front.erase key := by
          rw [touch, herase, hfront, ← hfull, length_append, length_singleton, take_succ_cons,
            take_left']
          rfl
        rw [makeRoom, if_pos ⟨by simp [hnone], by rw [h.length_eq, hfull]⟩, htouch]
        refine h.evict.insert ?_
        intro key' value' hvalue'
        exact hnewest key' value' (lookup_evict_of_some hvalue')

lemma lookup_makeRoom_of_mem (h : key' ∈ makeRoom stamp capacity t key) :
    (makeRoom stamp capacity t key).lookup key' = t.lookup key' := by
  rcases Option.isSome_iff_exists.1 (lookup_isSome.2 h) with ⟨value, hvalue⟩
  rw [hvalue, lookup_makeRoom_of_some hvalue]

end

end MarlinspikeDpi.Lru
