import Mathlib.Algebra.Order.Group.Multiset
import Mathlib.Data.Multiset.Filter
import Mathlib.Tactic.Abel
import MarlinspikeDpi.Foundation.Table

/-!
# Keeping account of parked values

Values are parked in a table under keys.

* `account_iff`: when every parked value is accounted for.
-/

namespace MarlinspikeDpi

open List

inductive Movement (κ ρ : Type) where
  | park (key : κ) (value : ρ)
  | take (key : κ)
  | drop (key : κ)
  | drain (due : κ → ρ → Bool)

namespace Ledger

variable {κ ρ : Type} [DecidableEq κ] (t : Table κ ρ)

def values : Multiset ρ := ↑(t.entries.map Sigma.snd)

def valueAt (key : κ) : Multiset ρ := ↑(t.lookup key).toList

def step : Movement κ ρ → Table κ ρ
  | .park key value => t.insert key value
  | .take key => t.erase key
  | .drop key => t.erase key
  | .drain due => t.retain fun key value => !due key value

def arrived : Movement κ ρ → Multiset ρ
  | .park _ value => {value}
  | _ => 0

def settled : Movement κ ρ → Multiset ρ
  | .take key => valueAt t key
  | .drain due => ↑((t.entries.filter fun e => due e.1 e.2).map Sigma.snd)
  | _ => 0

def lost : Movement κ ρ → Multiset ρ
  | .park key _ => valueAt t key
  | .drop key => valueAt t key
  | _ => 0

lemma values_erase (key : κ) : values t = valueAt t key + values (t.erase key) := by
  cases hlookup : t.lookup key with
  | none => simp [valueAt, hlookup, Table.erase_of_lookup_eq_none hlookup]
  | some value =>
    have hperm : t.entries.Perm (⟨key, value⟩ :: (t.erase key).entries) := by
      have hnotin : (⟨key, value⟩ : (_ : κ) × ρ) ∉ (t.erase key).entries := by
        rw [Table.mem_entries_iff]
        simp
      refine (perm_ext_iff_of_nodup t.nodupKeys.nodup
        (nodup_cons.2 ⟨hnotin, (t.erase key).nodupKeys.nodup⟩)).2 ?_
      rintro ⟨key', value'⟩
      rw [mem_cons, Table.mem_entries_iff, Table.mem_entries_iff]
      by_cases hkey : key' = key
      · subst hkey
        simp [hlookup, eq_comm]
      · simp [hkey, AList.lookup_erase_ne hkey]
    simp only [values, valueAt, hlookup, Option.toList_some, Multiset.coe_add]
    exact Multiset.coe_eq_coe.2 (hperm.map _)

lemma balance (m : Movement κ ρ) : values t + arrived m = settled t m + lost t m + values
    (step t m) := by
  cases m with
  | park key value =>
    have hinsert : values (t.insert key value) = {value} + values (t.erase key) := rfl
    simp only [arrived, settled, lost, step, hinsert]
    rw [values_erase]
    abel
  | take key =>
    simp only [arrived, settled, lost, step]
    rw [values_erase]
    abel
  | drop key =>
    simp only [arrived, settled, lost, step]
    rw [values_erase]
    abel
  | drain due =>
    have hsplit := filter_append_perm (fun e : (_ : κ) × ρ => due e.1 e.2) t.entries
    simp only [arrived, settled, lost, step, values, Table.retain, add_zero, Multiset.coe_add,
      ← map_append]
    exact (Multiset.coe_eq_coe.2 (hsplit.map Sigma.snd)).symm

/-! ## Sequences of movements -/

def run (t : Table κ ρ) (ms : List (Movement κ ρ)) : Table κ ρ := ms.foldl step t

def arrivedAll (ms : List (Movement κ ρ)) : Multiset ρ := (ms.map arrived).sum

def settledAll : Table κ ρ → List (Movement κ ρ) → Multiset ρ
  | _, [] => 0
  | t, m :: ms => settled t m + settledAll (step t m) ms

def lostAll : Table κ ρ → List (Movement κ ρ) → Multiset ρ
  | _, [] => 0
  | t, m :: ms => lost t m + lostAll (step t m) ms

variable (ms : List (Movement κ ρ))

lemma run_append (ms' : List (Movement κ ρ)) : run t (ms ++ ms') = run (run t ms) ms' :=
  foldl_append

omit [DecidableEq κ] in
lemma arrivedAll_append (ms ms' : List (Movement κ ρ)) :
    arrivedAll (ms ++ ms') = arrivedAll ms + arrivedAll ms' := by
  simp [arrivedAll]

lemma settledAll_append (ms' : List (Movement κ ρ)) :
    settledAll t (ms ++ ms') = settledAll t ms + settledAll (run t ms) ms' := by
  induction ms generalizing t with
  | nil => simp [settledAll, run]
  | cons m ms ih => simp [settledAll, run, ih, add_assoc]

lemma settledAll_take (key : κ) : settledAll t [.take key] = ↑(t.lookup key).toList := add_zero _

lemma lostAll_append (ms' : List (Movement κ ρ)) :
    lostAll t (ms ++ ms') = lostAll t ms + lostAll (run t ms) ms' := by
  induction ms generalizing t with
  | nil => simp [lostAll, run]
  | cons m ms ih => simp [lostAll, run, ih, add_assoc]

lemma lostAll_append_eq_zero {t : Table κ ρ} {ms ms' : List (Movement κ ρ)} :
    lostAll t (ms ++ ms') = 0 ↔ lostAll t ms = 0 ∧ lostAll (run t ms) ms' = 0 := by
  rw [lostAll_append, ← Multiset.card_eq_zero, Multiset.card_add, Nat.add_eq_zero_iff,
    Multiset.card_eq_zero, Multiset.card_eq_zero]

lemma balance_run : values t + arrivedAll ms = settledAll t ms + lostAll t ms + values
    (run t ms) := by
  induction ms generalizing t with
  | nil => simp [arrivedAll, settledAll, lostAll, run]
  | cons m ms ih =>
    calc
      values t + arrivedAll (m :: ms)
          = (values t + arrived m) + arrivedAll ms := by
            simp only [arrivedAll, map_cons, sum_cons]
            abel
      _ = settled t m + lost t m + (values (step t m) + arrivedAll ms) := by
            rw [balance]
            abel
      _ = settled t m + lost t m + (settledAll (step t m) ms + lostAll (step t m) ms + values
        (run (step t m) ms)) := by
            rw [ih]
      _ = settledAll t (m :: ms) + lostAll t (m :: ms) + values (run t (m :: ms)) := by
            simp only [settledAll, lostAll, run, foldl_cons]
            abel

lemma settled_iff : values t + arrivedAll ms = settledAll t ms + values (run t ms) ↔
    lostAll t ms = 0 := by
  rw [balance_run, add_right_comm, add_eq_left]

/-! ## Components that keep a table -/

/-- A state machine with states `σ` and inputs `α` that parks values of type `ρ`. -/
structure Keeper (σ α κ ρ : Type) [DecidableEq κ] where
  step : σ → α → σ
  table : σ → Table κ ρ
  movements : σ → α → List (Movement κ ρ)
  table_step : ∀ s a, table (step s a) = run (table s) (movements s a)

namespace Keeper

variable {σ α β γ : Type} (K : Keeper σ α κ ρ)

def stepAll (s : σ) (inputs : List α) : σ := inputs.foldl K.step s

def collect (yield : σ → α → List β) : σ → List α → List β
  | _, [] => []
  | s, a :: inputs => yield s a ++ collect yield (K.step s a) inputs

/-- `P` holds of every input and the state that it meets. -/
def Along (P : σ → α → Prop) : σ → List α → Prop
  | _, [] => True
  | s, a :: inputs => P s a ∧ Along P (K.step s a) inputs

variable {s : σ}

lemma along_append {P : σ → α → Prop} {before after : List α} :
    K.Along P s (before ++ after) ↔ K.Along P s before ∧ K.Along P (K.stepAll s before) after := by
  induction before generalizing s with
  | nil => simp [Along, stepAll]
  | cons a before ih =>
    simp only [cons_append, Along, ih, and_assoc]
    rfl

lemma along_and {P Q : σ → α → Prop} {inputs : List α} :
    K.Along (fun s a => P s a ∧ Q s a) s inputs ↔ K.Along P s inputs ∧ K.Along Q s inputs := by
  induction inputs generalizing s with
  | nil => simp [Along]
  | cons a inputs ih => simp only [Along, ih, and_and_and_comm]

lemma along_of {P Q R : σ → α → Prop} {inputs : List α} (Inv : σ → Prop)
    (hstep : ∀ s a, Inv s → P s a → Q s a → Inv (K.step s a) ∧ R s a) (hs : Inv s)
    (hP : K.Along P s inputs) (hQ : K.Along Q s inputs) : K.Along R s inputs := by
  induction inputs generalizing s with
  | nil => trivial
  | cons a inputs ih =>
    obtain ⟨hinv, hR⟩ := hstep s a hs hP.1 hQ.1
    exact ⟨hR, ih hinv hP.2 hQ.2⟩

lemma along_congr {P Q R : σ → α → Prop} {inputs : List α} (Inv : σ → Prop)
    (hstep : ∀ s a, Inv s → P s a → Q s a → Inv (K.step s a))
    (hiff : ∀ s a, Inv s → P s a → (Q s a ↔ R s a)) (hs : Inv s)
    (hP : K.Along P s inputs) : K.Along Q s inputs ↔ K.Along R s inputs := by
  constructor
  · exact fun hQ => K.along_of Inv (fun s a hs hP hQ => ⟨hstep s a hs hP hQ, (hiff s a hs hP).1 hQ⟩)
      hs hP hQ
  · refine fun hR => K.along_of Inv (fun s a hs hP hR => ?_) hs hP hR
    have hQ := (hiff s a hs hP).2 hR
    exact ⟨hstep s a hs hP hQ, hQ⟩

lemma flatMap_collect (yield : σ → α → List β) (f : β → List γ) (s : σ) (inputs : List α) :
    (K.collect yield s inputs).flatMap f = K.collect
      (fun s a => (yield s a).flatMap f) s inputs := by
  induction inputs generalizing s with
  | nil => rfl
  | cons a inputs ih => simp only [collect, flatMap_append, ih]

lemma filterMap_collect (yield : σ → α → List β) (f : β → Option γ) (s : σ) (inputs : List α) :
    (K.collect yield s inputs).filterMap f =
      K.collect (fun s a => (yield s a).filterMap f) s inputs := by
  induction inputs generalizing s with
  | nil => rfl
  | cons a inputs ih => simp only [collect, filterMap_append, ih]

lemma table_stepAll (s : σ) (inputs : List α) :
    K.table (K.stepAll s inputs) = run (K.table s) (K.collect K.movements s inputs) := by
  induction inputs generalizing s with
  | nil => rfl
  | cons a inputs ih =>
    rw [collect, run_append, ← K.table_step, ← ih]
    rfl

lemma arrivedAll_collect {given : σ → α → List ρ}
    (h : ∀ s a, arrivedAll (K.movements s a) = ↑(given s a)) (s : σ) (inputs : List α) :
    arrivedAll (K.collect K.movements s inputs) = ↑(K.collect given s inputs) := by
  induction inputs generalizing s with
  | nil => rfl
  | cons a inputs ih => rw [collect, arrivedAll_append, h, ih, collect, Multiset.coe_add]

lemma settledAll_collect {reported : σ → α → List ρ}
    (h : ∀ s a, settledAll (K.table s) (K.movements s a) = ↑(reported s a)) (s : σ)
    (inputs : List α) :
    settledAll (K.table s) (K.collect K.movements s inputs) = ↑(K.collect reported s inputs) := by
  induction inputs generalizing s with
  | nil => rfl
  | cons a inputs ih => rw [collect, settledAll_append, h, ← K.table_step, ih, collect,
    Multiset.coe_add]

lemma account_le {given reported : σ → α → List ρ}
    (hgiven : ∀ s a, arrivedAll (K.movements s a) = ↑(given s a))
    (hreported : ∀ s a, settledAll (K.table s) (K.movements s a) = ↑(reported s a)) (s : σ)
    (inputs : List α) :
    ↑(K.collect reported s inputs) + values (K.table (K.stepAll s inputs)) ≤
      values (K.table s) + ↑(K.collect given s inputs) := by
  rw [← K.arrivedAll_collect hgiven, ← K.settledAll_collect hreported, K.table_stepAll, balance_run,
    add_right_comm]
  exact Multiset.le_add_right _ _

/-- Given what each step is handed and what it reports, and when a step loses nothing (under an
invariant of the states): the values handed over in a run are those reported and those still held,
exactly if no step loses one. -/
theorem account_iff (Inv : σ → Prop) {given reported : σ → α → List ρ} {Keeps : σ → α → Prop}
    (hgiven : ∀ s a, arrivedAll (K.movements s a) = ↑(given s a))
    (hreported : ∀ s a, settledAll (K.table s) (K.movements s a) = ↑(reported s a))
    (hinv : ∀ s a, Inv s → Inv (K.step s a))
    (hkeeps : ∀ s a, Inv s → (lostAll (K.table s) (K.movements s a) = 0 ↔ Keeps s a)) (hs : Inv s)
    (inputs : List α) :
    values (K.table s) + ↑(K.collect given s inputs) =
        ↑(K.collect reported s inputs) + values (K.table (K.stepAll s inputs)) ↔
      K.Along Keeps s inputs := by
  have hlost : lostAll (K.table s) (K.collect K.movements s inputs) = 0 ↔
      K.Along Keeps s inputs := by
    induction inputs generalizing s with
    | nil => simp [collect, lostAll, Along]
    | cons a inputs ih =>
      rw [collect, lostAll_append_eq_zero, hkeeps s a hs, ← K.table_step, ih (hinv s a hs), Along]
  rw [← hlost, ← settled_iff, K.arrivedAll_collect hgiven, K.settledAll_collect hreported,
    K.table_stepAll]

end Keeper

end Ledger
end MarlinspikeDpi
