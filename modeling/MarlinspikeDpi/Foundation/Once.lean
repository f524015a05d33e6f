import MarlinspikeDpi.Foundation.Mealy

/-!
# A flag that lets one output through

Inputs of a machine owe some outputs. The machine has one flag, and lets an output through only
while the flag is not set; the output sets it.

* `served_take_one_iff`: when one flag is enough.
-/

namespace MarlinspikeDpi.Once

open List Mealy

variable {σ α ε ω : Type}

/-- The outputs that a token stands for are guarded by the flag. -/
structure Guarded (step : σ → α → List ε × σ) (flag : σ → Bool) (token : ε → Option ω)
    (owed : α → List ω) : Prop where
  emits : ∀ s a, (step s a).1.filterMap token = if flag s then [] else (owed a).take 1
  sets : ∀ s a, flag (step s a).2 = (flag s || !(owed a).isEmpty)

namespace Guarded

lemma tokens_run {step : σ → α → List ε × σ} {flag : σ → Bool} {token : ε → Option ω}
    {owed : α → List ω} (h : Guarded step flag token owed) (s : σ) (inputs : List α) :
      (run step s inputs).1.filterMap token =
      if flag s then [] else (inputs.flatMap owed).take 1 := by
  induction inputs generalizing s with
  | nil => simp [run]
  | cons a inputs ih =>
    rw [run_cons, filterMap_append, h.emits, ih, h.sets, flatMap_cons]
    by_cases hflag : flag s = true
    · simp [hflag]
    · cases hout : owed a with
      | nil => simp [hflag]
      | cons w later => simp [hflag]

lemma flag_run {step : σ → α → List ε × σ} {flag : σ → Bool} {token : ε → Option ω}
    {owed : α → List ω} (h : Guarded step flag token owed) (s : σ) (inputs : List α) :
    flag (run step s inputs).2 = (flag s || !(inputs.flatMap owed).isEmpty) := by
  induction inputs generalizing s with
  | nil => simp [run]
  | cons a inputs ih =>
    rw [run_cons, ih, h.sets, flatMap_cons]
    cases owed a with
    | nil => simp
    | cons w later => simp

end Guarded

lemma mem_take_one_iff {ws : List ω} : (∀ w ∈ ws, w ∈ ws.take 1) ↔ ∀ w ∈ ws, ∀ w' ∈ ws, w = w' := by
  cases ws with
  | nil => exact iff_of_true nofun nofun
  | cons first later =>
    rw [take_succ_cons, take_zero]
    constructor
    · intro hall w hw w' hw'
      exact (mem_singleton.mp (hall w hw)).trans (mem_singleton.mp (hall w' hw')).symm
    · intro hsame w hw
      exact mem_singleton.mpr (hsame w hw first mem_cons_self)

/-- Every due output is there exactly once. -/
def Served [BEq ω] (due tokens : List ω) : Prop := ∀ w ∈ due, tokens.count w = 1

/-- If only the first owed output is there, every due output is there exactly once if and only if
all of them are owed and they are all the same. -/
theorem served_take_one_iff [BEq ω] [LawfulBEq ω] {due owed : List ω} (hdue : ∀ w ∈ owed, w ∈ due) :
    Served due (owed.take 1) ↔ (∀ w ∈ due, w ∈ owed) ∧ ∀ w ∈ owed, ∀ w' ∈ owed, w = w' := by
  cases owed with
  | nil =>
    constructor
    · intro hserved
      refine ⟨fun w hw => ?_, nofun⟩
      have hnone := hserved w hw
      rw [take_nil, count_nil] at hnone
      cases hnone
    · intro hall w hw
      exact absurd (hall.1 w hw) not_mem_nil
  | cons first later =>
    have hcount : ∀ w, ((first :: later).take 1).count w = if first == w then 1 else 0 := by
      intro w
      rw [take_succ_cons, take_zero, count_singleton]
    constructor
    · intro hserved
      -- the one that is let through is the first, so every other is equal to it
      have hfirst : ∀ w ∈ due, first = w := by
        intro w hw
        have hone := hserved w hw
        rw [hcount] at hone
        by_contra hne
        rw [if_neg (fun h => hne (eq_of_beq h))] at hone
        cases hone
      refine ⟨fun w hw => ?_, fun w hw w' hw' => ?_⟩
      · rw [← hfirst w hw]
        exact mem_cons_self
      · exact (hfirst w (hdue w hw)).symm.trans (hfirst w' (hdue w' hw'))
    · rintro ⟨howed, hsame⟩ w hw
      rw [hcount, if_pos (beq_iff_eq.2 (hsame first mem_cons_self w (howed w hw)))]

end MarlinspikeDpi.Once
