import Mathlib.Data.Finset.Card
import Mathlib.Data.List.Induction
import MarlinspikeDpi.Foundation.Table

/-!
# A duplicate filter with a sliding time window

The filter remembers for each key the time at which the key was first seen.

* `run_observe_duplicate_iff`: which keys are reported as seen.
-/

namespace MarlinspikeDpi

open List

/-- The filter: first-seen times by key, and the length of the window. -/
structure SlidingWindow (κ : Type) [DecidableEq κ] where
  seen : Table κ Nat
  window : Nat

/-- One logged observation: when, which key, and whether it was answered as a duplicate. -/
structure Observation (κ : Type) where
  time : Nat
  key : κ
  duplicate : Bool

lemma card_keys_eq {α κ κ' : Type} [DecidableEq κ] [DecidableEq κ'] {key : α → κ} {key' : α → κ'}
    {as : List α} (h : ∀ a ∈ as, ∀ b ∈ as, key a = key b ↔ key' a = key' b) :
    (as.map key).toFinset.card = (as.map key').toFinset.card := by
  induction as with
  | nil => rfl
  | cons a as ih =>
    have hrest := ih fun b hb c hc => h b (mem_cons_of_mem a hb) c (mem_cons_of_mem a hc)
    have hmem : key a ∈ (as.map key).toFinset ↔ key' a ∈ (as.map key').toFinset := by
      simp only [mem_toFinset, mem_map]
      refine exists_congr fun b => and_congr_right fun hb => ?_
      exact h b (mem_cons_of_mem a hb) a mem_cons_self
    simp only [map_cons, toFinset_cons]
    by_cases hknown : key a ∈ (as.map key).toFinset
    · rw [Finset.insert_eq_of_mem hknown, Finset.insert_eq_of_mem (hmem.1 hknown), hrest]
    · rw [Finset.card_insert_of_notMem hknown, Finset.card_insert_of_notMem (mt hmem.2 hknown),
        hrest]

namespace SlidingWindow

variable {κ : Type} [DecidableEq κ]

/-- Drop the entries older than `now - window`. -/
def evict (w : SlidingWindow κ) (now : Nat) : SlidingWindow κ :=
  { w with seen := w.seen.retain fun _ t => decide (now - w.window ≤ t) }

/-- Observe key `k` at time `now`; the answer is `true` for a duplicate. -/
def observe (w : SlidingWindow κ) (now : Nat) (k : κ) : Bool × SlidingWindow κ :=
  match ((w.evict now).seen).lookup k with
  | some _ => (true, w.evict now)
  | none => (false, { w.evict now with seen := (w.evict now).seen.insert k now })

variable {now t : Nat} {k : κ}

lemma lookup_evict_eq_some {w : SlidingWindow κ} : (w.evict now).seen.lookup k = some t ↔
    w.seen.lookup k = some t ∧ now - w.window ≤ t := by
  simp [evict, Table.lookup_retain_eq_some]

@[simp] lemma observe_window (w : SlidingWindow κ) (now : Nat)
    (k : κ) : (w.observe now k).2.window = w.window := by
  unfold observe
  split <;> rfl

lemma observe_duplicate_iff {w : SlidingWindow κ} : (w.observe now k).1 = true ↔
    ∃ t, w.seen.lookup k = some t ∧ now - w.window ≤ t := by
  unfold observe
  cases h : (w.evict now).seen.lookup k with
  | none =>
    simp only [Bool.false_eq_true, false_iff, not_exists]
    intro t ht
    have : (w.evict now).seen.lookup k = some t := lookup_evict_eq_some.2 ht
    simp [h] at this
  | some t =>
    simp only [true_iff]
    exact ⟨t, lookup_evict_eq_some.1 h⟩

lemma lookup_observe_eq_some {w : SlidingWindow κ}
    {k' : κ} : (w.observe now k).2.seen.lookup k' = some t ↔
      (w.seen.lookup k' = some t ∧ now - w.window ≤ t) ∨
        (k' = k ∧ t = now ∧ (w.observe now k).1 = false) := by
  unfold observe
  cases h : (w.evict now).seen.lookup k with
  | some t' => simp [lookup_evict_eq_some]
  | none =>
    by_cases hk : k' = k
    · subst hk
      have hnone : ¬ (w.seen.lookup k' = some t ∧ now - w.window ≤ t) := by
        intro ht
        have : (w.evict now).seen.lookup k' = some t := lookup_evict_eq_some.2 ht
        simp [h] at this
      simp only [AList.lookup_insert, Option.some.injEq, hnone, false_or, true_and, and_true]
      exact eq_comm
    · simp [AList.lookup_insert_ne hk, lookup_evict_eq_some, hk]

/-! ## Entries come from logged fresh observations -/

/-- Every entry of the filter was stored by a fresh observation of the log. -/
def Justified (w : SlidingWindow κ) (log : List (Observation κ)) : Prop :=
  ∀ k t, w.seen.lookup k = some t → ⟨t, k, false⟩ ∈ log

lemma Justified.empty (window : Nat) : Justified (⟨∅, window⟩ : SlidingWindow κ) [] := by
  intro k t h
  simp at h

lemma Justified.observe {w : SlidingWindow κ} {log : List (Observation κ)} (h : w.Justified log)
    (now : Nat) (k : κ) :
    (w.observe now k).2.Justified (log ++ [⟨now, k, (w.observe now k).1⟩]) := by
  intro k' t ht
  rcases lookup_observe_eq_some.1 ht with ⟨hold, _⟩ | ⟨rfl, rfl, hfresh⟩
  · exact mem_append_left _ (h k' t hold)
  · simp [hfresh]

lemma Justified.of_duplicate {w : SlidingWindow κ} {log : List (Observation κ)}
    (h : w.Justified log) (hdup : (w.observe now k).1 = true) :
    ∃ t, ⟨t, k, false⟩ ∈ log ∧ now - w.window ≤ t := by
  rcases observe_duplicate_iff.1 hdup with ⟨t, ht, hwin⟩
  exact ⟨t, h k t ht, hwin⟩

/-! ## Filters that agree on a set of keys -/

/-- Two filters with the same window hold the same entries for all keys in `K`. -/
structure AgreeOn (K : Set κ) (w w' : SlidingWindow κ) : Prop where
  window_eq : w.window = w'.window
  lookup_eq : ∀ k ∈ K, w.seen.lookup k = w'.seen.lookup k

lemma AgreeOn.answer_eq {K : Set κ} {w w' : SlidingWindow κ} (h : AgreeOn K w w') (hk : k ∈ K)
    (now : Nat) : (w.observe now k).1 = (w'.observe now k).1 := by
  rw [Bool.eq_iff_iff, observe_duplicate_iff, observe_duplicate_iff, h.lookup_eq k hk, h.window_eq]

lemma AgreeOn.observe {K : Set κ} {w w' : SlidingWindow κ} (h : AgreeOn K w w') (hk : k ∈ K)
    (now : Nat) : AgreeOn K (w.observe now k).2 (w'.observe now k).2 where
  window_eq := by simp [h.window_eq]
  lookup_eq := by
    intro k' hk'
    ext t
    rw [lookup_observe_eq_some, lookup_observe_eq_some, h.lookup_eq k' hk', h.window_eq,
      h.answer_eq hk now]

/-! ## Runs with increasing times -/

/-- The filter after a sequence of observations, each a time and a key. -/
def run (w : SlidingWindow κ) (observed : List (Nat × κ)) : SlidingWindow κ :=
  observed.foldl (fun w o => (w.observe o.1 o.2).2) w

lemma run_concat (w : SlidingWindow κ) (observed : List (Nat × κ)) (o : Nat × κ) :
    w.run (observed ++ [o]) = ((w.run observed).observe o.1 o.2).2 := by
  simp [run]

@[simp] lemma run_window (w : SlidingWindow κ) (observed : List (Nat × κ)) :
    (w.run observed).window = w.window := by
  induction observed using List.reverseRecOn with
  | nil => rfl
  | append_singleton observed o ih => simp [run_concat, ih]

/-- How the entries relate to the observations made so far. -/
structure Follows (w : SlidingWindow κ) (observed : List (Nat × κ)) : Prop where
  /-- An entry has the time of an observation of its key. -/
  stored : ∀ k t, w.seen.lookup k = some t → (t, k) ∈ observed
  /-- A key that was observed has such an entry, unless an observation has dropped it. -/
  kept : ∀ o ∈ observed, ∃ t, (t, o.2) ∈ observed ∧
    (w.seen.lookup o.2 = some t ∨ ∃ later ∈ observed, t < later.1 - w.window)

lemma Follows.empty (window : Nat) : Follows (⟨∅, window⟩ : SlidingWindow κ) [] where
  stored := by simp
  kept := by simp

lemma Follows.observe {observed : List (Nat × κ)} {w : SlidingWindow κ} (h : w.Follows observed)
    (now : Nat) (k : κ) : (w.observe now k).2.Follows (observed ++ [(now, k)]) where
  stored := by
    intro k' t hentry
    rcases lookup_observe_eq_some.1 hentry with ⟨hold, _⟩ | ⟨rfl, rfl, _⟩
    · exact mem_append_left _ (h.stored k' t hold)
    · simp
  kept := by
    intro o ho
    rw [observe_window]
    rcases mem_append.1 ho with hold | hnew
    · rcases h.kept o hold with ⟨t, ht, hentry | ⟨later, hlater, hlt⟩⟩
      · refine ⟨t, mem_append_left _ ht, ?_⟩
        by_cases hwin : now - w.window ≤ t
        · exact Or.inl (lookup_observe_eq_some.2 (Or.inl ⟨hentry, hwin⟩))
        · exact Or.inr ⟨(now, k), by simp, Nat.lt_of_not_le hwin⟩
      · exact ⟨t, mem_append_left _ ht, Or.inr ⟨later, mem_append_left _ hlater, hlt⟩⟩
    · obtain rfl : o = (now, k) := by simpa using hnew
      cases hanswer : (w.observe now k).1 with
      | false => exact ⟨now, by simp,
        Or.inl (lookup_observe_eq_some.2 (Or.inr ⟨rfl, rfl, hanswer⟩))⟩
      | true =>
        rcases observe_duplicate_iff.1 hanswer with ⟨t, hentry, hwin⟩
        refine ⟨t, mem_append_left _ (h.stored k t hentry), ?_⟩
        exact Or.inl (lookup_observe_eq_some.2 (Or.inl ⟨hentry, hwin⟩))

lemma follows_run (window : Nat) (observed : List (Nat × κ)) :
    ((⟨∅, window⟩ : SlidingWindow κ).run observed).Follows observed := by
  induction observed using List.reverseRecOn with
  | nil => exact Follows.empty window
  | append_singleton observed o ih =>
    rw [run_concat]
    exact ih.observe o.1 o.2

/-- The filter is exact on a run in which no observation is later than `now` and the key `k` was not
observed before the window of `now`. -/
theorem run_observe_duplicate_iff {observed : List (Nat × κ)} {window : Nat}
    (htime : ∀ o ∈ observed, o.1 ≤ now) (hclose : ∀ t, (t, k) ∈ observed → now - window ≤ t) :
    (((⟨∅, window⟩ : SlidingWindow κ).run observed).observe now k).1 = true ↔
      ∃ o ∈ observed, o.2 = k := by
  have hfollows := follows_run window observed
  rw [observe_duplicate_iff, run_window]
  constructor
  · rintro ⟨t, hentry, -⟩
    exact ⟨(t, k), hfollows.stored k t hentry, rfl⟩
  · rintro ⟨o, ho, rfl⟩
    rcases hfollows.kept o ho with ⟨t, ht, hentry | ⟨later, hlater, hlt⟩⟩
    · exact ⟨t, hentry, hclose t ht⟩
    · -- whatever dropped the entry came no later than `now`, whose window still holds it
      have hle := htime later hlater
      have hwin := hclose t ht
      simp only [run_window] at hlt
      omega

lemma observe_entries {w : SlidingWindow κ} {k' : κ}
    (h : (w.observe now k).2.seen.lookup k' = some t) : now - w.window ≤ t := by
  rcases lookup_observe_eq_some.1 h with ⟨_, hwin⟩ | ⟨_, rfl, _⟩
  · exact hwin
  · exact Nat.sub_le t _

/-! ## What a run admits -/

section

variable {α : Type} (time : α → Nat) (key : α → κ)

def admitted : SlidingWindow κ → List α → List α
  | _, [] => []
  | w, a :: as =>
    if (w.observe (time a) (key a)).1 then admitted (w.observe (time a) (key a)).2 as
    else a :: admitted (w.observe (time a) (key a)).2 as

lemma admitted_append (w : SlidingWindow κ) (as bs : List α) : admitted time key w (as ++ bs) =
      admitted time key w as ++ admitted time key (w.run (as.map fun a => (time a, key a))) bs := by
  induction as generalizing w with
  | nil => rfl
  | cons a as ih =>
    have hrest := ih (w.observe (time a) (key a)).2
    simp only [cons_append, admitted, hrest]
    split <;> rfl

variable {time key}

/-- An item whose key is that of items with property `p` only, all of them inside its window, is a
duplicate exactly if one of them has its key. -/
theorem observe_run_iff_mem_filter {as : List α} {window : Nat} {p : α → Bool} {a : α}
    (htime : ∀ b ∈ as, time b ≤ time a)
    (hown : ∀ b ∈ as, key b = key a → p b = true ∧ time a - window ≤ time b) :
    (((⟨∅, window⟩ : SlidingWindow κ).run (as.map fun a => (time a, key a))).observe (time a)
      (key a)).1 = true ↔ key a ∈ ((as.filter p).map key).toFinset := by
  rw [run_observe_duplicate_iff]
  · simp only [mem_map, exists_exists_and_eq_and, mem_toFinset, mem_filter]
    constructor
    · rintro ⟨b, hb, hkey⟩
      exact ⟨b, ⟨hb, (hown b hb hkey).1⟩, hkey⟩
    · rintro ⟨b, ⟨hb, -⟩, hkey⟩
      exact ⟨b, hb, hkey⟩
  · intro o ho
    rcases mem_map.1 ho with ⟨b, hb, rfl⟩
    exact htime b hb
  · intro t ht
    rcases mem_map.1 ht with ⟨b, hb, heq⟩
    obtain ⟨rfl, hkey⟩ : time b = t ∧ key b = key a := by simpa using heq
    exact (hown b hb hkey).2

/-- When time does not run backwards, and the items with property `p` share their keys among
themselves only and inside the window, one of them is admitted for each of their keys. -/
theorem length_filter_admitted {as : List α} {window : Nat} (p : α → Bool)
    (htime : as.Pairwise fun a b => time a ≤ time b)
    (hown : ∀ a ∈ as, ∀ b ∈ as, p b = true → key a = key b →
      p a = true ∧ time b - window ≤ time a) :
    ((admitted time key ⟨∅, window⟩ as).filter p).length =
      ((as.filter p).map key).toFinset.card := by
  induction as using List.reverseRecOn with
  | nil => rfl
  | append_singleton as a ih =>
    rcases pairwise_append.1 htime with ⟨hbefore, _, hlast⟩
    have hrest := ih hbefore fun b hb c hc =>
      hown b (mem_append_left _ hb) c (mem_append_left _ hc)
    rw [admitted_append, filter_append, length_append, hrest]
    by_cases hp : p a = true
    · -- an item with the property is a duplicate exactly if its key is there already
      have hdup := observe_run_iff_mem_filter (fun b hb => hlast b hb a (by simp))
          fun b hb => hown b (mem_append_left _ hb) a (by simp) hp
      have hkeys : (((as ++ [a]).filter p).map key).toFinset =
          insert (key a) ((as.filter p).map key).toFinset := by
        rw [filter_append, filter_cons_of_pos hp, map_append, toFinset_append, Finset.union_comm]
        rfl
      rw [hkeys]
      by_cases hmem : key a ∈ ((as.filter p).map key).toFinset
      · rw [Finset.insert_eq_of_mem hmem]
        simp only [admitted, if_pos (hdup.2 hmem), filter_nil, length_nil, Nat.add_zero]
      · rw [Finset.card_insert_of_notMem hmem]
        have hfresh := mt hdup.1 hmem
        simp only [admitted, if_neg hfresh, filter_cons_of_pos hp, filter_nil, length_singleton]
    · have hnone : ∀ w : SlidingWindow κ, (admitted time key w [a]).filter p = [] := by
        intro w
        simp only [admitted]
        split <;> simp [hp]
      rw [hnone, filter_append, filter_cons_of_neg hp, filter_nil, append_nil, length_nil,
        Nat.add_zero]

end

end SlidingWindow
end MarlinspikeDpi
