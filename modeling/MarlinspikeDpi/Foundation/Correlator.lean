import Mathlib.Data.Set.Card
import MarlinspikeDpi.Foundation.Table

/-!
# Matching responses to requests

A correlator parks every request under a key until a response with the same key takes it out.  Its
state is a table; a run is a sequence of messages.
-/

namespace MarlinspikeDpi

inductive Message (κ ρ : Type) where
  | request (key : κ) (r : ρ)
  | response (key : κ)

namespace Correlator

open AList Message

open List

variable {κ ρ : Type} [DecidableEq κ] (parked : Table κ ρ)

/-- A request is parked, replacing what was parked under its key; a response takes out its
request. -/
def step : Message κ ρ → Table κ ρ
  | .request key r => parked.insert key r
  | .response key => parked.erase key

def run (messages : List (Message κ ρ)) : Table κ ρ := messages.foldl step parked

@[simp] lemma run_cons (m : Message κ ρ) (messages : List (Message κ ρ)) :
    run parked (m :: messages) = run (step parked m) messages := rfl

lemma run_append (before after : List (Message κ ρ)) :
  run parked (before ++ after) = run (run parked before) after := foldl_append

variable (messages : List (Message κ ρ))

/-- The request is among the messages, and no response with its key after it. -/
def Unanswered (key : κ) (r : ρ) : Prop :=
  ∃ before after, messages = before ++ .request key r :: after ∧ Message.response key ∉ after

def Fresh (parked : Table κ ρ) : Message κ ρ → Prop
  | .request key _ => parked.lookup key = none
  | .response _ => True

instance (parked : Table κ ρ) (m : Message κ ρ) : Decidable (Fresh parked m) :=
  match m with
  | .request key _ => decidable_of_iff ((parked.lookup key).isNone = true) Option.isNone_iff_eq_none
  | .response _ => .isTrue trivial

/-- No request comes under a key that is parked. -/
def FreshKeys : Table κ ρ → List (Message κ ρ) → Prop
  | _, [] => True
  | parked, m :: messages => Fresh parked m ∧ FreshKeys (step parked m) messages

instance decidableFreshKeys : (parked : Table κ ρ) → (messages : List (Message κ ρ)) →
    Decidable (FreshKeys parked messages)
  | _, [] => .isTrue trivial
  | parked, m :: messages => @instDecidableAnd _ _ inferInstance
    (decidableFreshKeys (step parked m) messages)

variable {parked}

lemma FreshKeys.append {before after : List (Message κ ρ)}
    (h : FreshKeys parked (before ++ after)) : FreshKeys (run parked before) after := by
  induction before generalizing parked with
  | nil => exact h
  | cons m before ih => exact ih h.2

variable {key : κ}

lemma lookup_step {m : Message κ ρ} {r : ρ} (hparked : parked.lookup key = some r)
    (hresponse : m ≠ .response key)
    (hrequest : ∀ r', m ≠ .request key r') : (step parked m).lookup key = some r := by
  cases m with
  | request key' r' =>
    have hne : key ≠ key' := by
      rintro rfl
      exact hrequest r' rfl
    calc
      (parked.insert key' r').lookup key = parked.lookup key := lookup_insert_ne hne
      _ = some r := hparked
  | response key' =>
    have hne : key ≠ key' := by
      rintro rfl
      exact hresponse rfl
    calc
      (parked.erase key').lookup key = parked.lookup key := lookup_erase_ne hne
      _ = some r := hparked

lemma lookup_run {r : ρ} {messages : List (Message κ ρ)}
    (hparked : parked.lookup key = some r) (hfresh : FreshKeys parked messages)
    (hunanswered : response key ∉ messages) :
    (run parked messages).lookup key = some r := by
  induction messages generalizing parked with
  | nil => exact hparked
  | cons m messages ih =>
    have hresponse : m ≠ .response key := by
      rintro rfl
      exact hunanswered mem_cons_self
    have hrequest : ∀ r', m ≠ .request key r' := by
      rintro r' rfl
      -- a request under this key would not be fresh
      have hnone : parked.lookup key = none := hfresh.1
      rw [hnone] at hparked
      cases hparked
    refine ih (lookup_step hparked hresponse hrequest) hfresh.2 ?_
    intro hmem
    exact hunanswered (mem_cons_of_mem _ hmem)

lemma lookup_of_unanswered {r : ρ} {messages : List (Message κ ρ)}
    (hfresh : FreshKeys parked messages)
    (h : Unanswered messages key r) : (run parked messages).lookup key = some r := by
  rcases h with ⟨before, after, rfl, hanswer⟩
  rw [run_append, run_cons]
  refine lookup_run ?_ hfresh.append.2 hanswer
  exact lookup_insert _

/-! ## The keys of the table -/

omit [DecidableEq κ] in
lemma unanswered_concat {m : Message κ ρ} {r : ρ} {messages : List (Message κ ρ)} :
    Unanswered (messages ++ [m]) key r ↔ m = .request key r ∨ Unanswered messages key r ∧
      m ≠ .response key := by
  constructor
  · rintro ⟨before, after, hsplit, hanswer⟩
    rcases eq_nil_or_concat' after with rfl | ⟨after, last, rfl⟩
    · -- the request is the last message
      have hlast : messages ++ [m] = before ++ [.request key r] := hsplit
      exact .inl (append_inj_right' hlast rfl |> singleton_inj.1)
    · have hconcat : messages ++ [m] = (before ++ .request key r :: after) ++ [last] := by
        rw [hsplit, append_assoc, cons_append]
      obtain ⟨rfl, hm⟩ := append_inj' hconcat rfl
      obtain rfl := singleton_inj.1 hm
      have hlater : response key ∉ after := fun h => hanswer (mem_append_left _ h)
      have hlast : m ≠ .response key := by
        rintro rfl
        exact hanswer (mem_append_right _ (mem_singleton_self _))
      exact .inr ⟨⟨before, after, rfl, hlater⟩, hlast⟩
  · rintro (rfl | ⟨⟨before, after, rfl, hanswer⟩, hlast⟩)
    · exact ⟨messages, [], rfl, not_mem_nil⟩
    · refine ⟨before, after ++ [m], ?_, ?_⟩
      · rw [append_assoc, cons_append]
      · intro hmem
        rcases mem_append.1 hmem with hlater | hm
        · exact hanswer hlater
        · exact hlast (mem_singleton.1 hm).symm

def outstanding : Set κ := {key | ∃ r, Unanswered messages key r}

lemma mem_run_iff {messages : List (Message κ ρ)} : key ∈ run ∅ messages ↔
    key ∈ outstanding messages := by
  induction messages using List.reverseRecOn with
  | nil =>
    refine iff_of_false (notMem_empty key) ?_
    rintro ⟨r, before, after, hsplit, -⟩
    simp at hsplit
  | append_singleton messages m ih =>
    rw [run_append]
    simp only [outstanding, Set.mem_ofPred_eq, unanswered_concat] at ih ⊢
    cases m with
    | request key' r' =>
      have hinsert : key ∈ (run ∅ messages).insert key' r' ↔ key = key' ∨ key ∈ run ∅ messages :=
        mem_insert _
      refine hinsert.trans ?_
      rw [ih]
      constructor
      · rintro (rfl | ⟨r, hr⟩)
        · exact ⟨r', .inl rfl⟩
        · exact ⟨r, .inr ⟨hr, nofun⟩⟩
      · rintro ⟨r, hnew | ⟨hr, -⟩⟩
        · cases hnew
          exact .inl rfl
        · exact .inr ⟨r, hr⟩
    | response key' =>
      have herase : key ∈ (run ∅ messages).erase key' ↔ key ≠ key' ∧ key ∈ run ∅ messages :=
        mem_erase
      refine herase.trans ?_
      rw [ih]
      constructor
      · rintro ⟨hne, r, hr⟩
        refine ⟨r, .inr ⟨hr, ?_⟩⟩
        rintro ⟨⟩
        exact hne rfl
      · rintro ⟨r, hnew | ⟨hr, hne⟩⟩
        · cases hnew
        · refine ⟨?_, r, hr⟩
          rintro rfl
          exact hne rfl

omit [DecidableEq κ] in
lemma outstanding_requests (asked : List (κ × ρ)) :
    outstanding (asked.map fun x => request x.1 x.2) = {key | key ∈ asked.map Prod.fst} := by
  ext key
  constructor
  · rintro ⟨r, before, after, hsplit, -⟩
    have hmem : request key r ∈ asked.map fun x => request x.1 x.2 := by
      rw [hsplit]
      exact mem_append_right _ mem_cons_self
    obtain ⟨x, hx, hrequest⟩ := mem_map.1 hmem
    cases hrequest
    exact mem_map_of_mem hx
  · intro hmem
    obtain ⟨x, hx, rfl⟩ := mem_map.1 hmem
    obtain ⟨before, after, rfl⟩ := append_of_mem hx
    refine ⟨x.2, before.map fun x => .request x.1 x.2, after.map fun x => .request x.1 x.2, ?_, ?_⟩
    · rw [map_append, map_cons]
    · intro hanswer
      obtain ⟨y, -, hy⟩ := mem_map.1 hanswer
      cases hy

lemma length_run : (run ∅ messages).entries.length = (outstanding messages).ncard := by
  have hkeys : outstanding messages = ((run ∅ messages).keys.toFinset : Set κ) := by
    ext key
    rw [Finset.mem_coe, mem_toFinset]
    exact mem_run_iff.symm
  rw [hkeys, Set.ncard_coe_finset, toFinset_card_of_nodup (run ∅ messages).keys_nodup]
  exact (length_map _).symm

end Correlator
end MarlinspikeDpi
