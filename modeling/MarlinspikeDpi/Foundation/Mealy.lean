import Mathlib.Data.List.Basic

/-!
# Machines that emit while they step

A machine takes its inputs one by one and emits some outputs for each.

* `filter_run_map`: the selected outputs of a run, input by input.
-/

namespace MarlinspikeDpi.Mealy

open List

variable {σ α ε : Type} (step : σ → α → List ε × σ)

def run : σ → List α → List ε × σ
  | s, [] => ([], s)
  | s, a :: inputs => ((step s a).1 ++ (run (step s a).2 inputs).1, (run (step s a).2 inputs).2)

lemma run_cons (s : σ) (a : α) (inputs : List α) : run step s (a :: inputs) =
      ((step s a).1 ++ (run step (step s a).2 inputs).1, (run step (step s a).2 inputs).2) := rfl

lemma run_append (s : σ) (inputs later : List α) : run step s (inputs ++ later) =
      ((run step s inputs).1 ++ (run step (run step s inputs).2 later).1,
        (run step (run step s inputs).2 later).2) := by
  induction inputs generalizing s with
  | nil => rfl
  | cons a inputs ih => simp [run_cons, ih]

lemma run_split (s : σ) (before : List α) (a : α) (after : List α) :
    ∃ later, (run step s (before ++ a :: after)).1 =
      (run step s before).1 ++ (step (run step s before).2 a).1 ++ later := by
  refine ⟨(run step (step (run step s before).2 a).2 after).1, ?_⟩
  rw [run_append, run_cons, append_assoc]

variable {β : Type} {ν : Type}

lemma run_map (encode : β → α) (s : σ) (inputs : List β) :
    run step s (inputs.map encode) = run (fun s b => step s (encode b)) s inputs := by
  induction inputs generalizing s with
  | nil => rfl
  | cons b inputs ih => rw [map_cons, run_cons, run_cons, ih]

lemma run_flatMap (expand : β → List α) (s : σ) (inputs : List β) :
    run step s (inputs.flatMap expand) = run (fun s b => run step s (expand b)) s inputs := by
  induction inputs generalizing s with
  | nil => rfl
  | cons b inputs ih => rw [flatMap_cons, run_append, run_cons, ih]

lemma view_run_eq_foldl (view : σ → ν) (update : ν → α → ν)
    (hstep : ∀ s a, view (step s a).2 = update (view s) a) (s : σ) (inputs : List α) :
    view (run step s inputs).2 = inputs.foldl update (view s) := by
  induction inputs generalizing s with
  | nil => rfl
  | cons a inputs ih => rw [run_cons, ih, hstep, foldl_cons]

lemma view_run_eq_foldl_filterMap {ν β : Type} (view : σ → ν) (select : α → Option β)
    (update : ν → β → ν)
    (hstep : ∀ s a, view (step s a).2 = (select a).elim (view s) (update (view s))) (s : σ)
    (inputs : List α) :
    view (run step s inputs).2 = (inputs.filterMap select).foldl update (view s) := by
  induction inputs generalizing s with
  | nil => rfl
  | cons a inputs ih =>
    rw [run_cons, ih, hstep]
    cases hselect : select a with
    | none => rw [filterMap_cons_none hselect, Option.elim_none]
    | some b => rw [filterMap_cons_some hselect, Option.elim_some, foldl_cons]

lemma view_run_eq (view : σ → ν) (hstep : ∀ s a, view (step s a).2 = view s) (s : σ)
    (inputs : List α) : view (run step s inputs).2 = view s := by
  induction inputs generalizing s with
  | nil => rfl
  | cons a inputs ih => rw [run_cons, ih, hstep]

/-- If the selected outputs for each encoded input are a function of what was encoded, those of a
run are as well. -/
theorem filter_run_map (select : ε → Bool) (encode : β → α) (outputs : β → List ε) (s : σ)
    (inputs : List β) (hstep : ∀ s, ∀ b ∈ inputs, (step s (encode b)).1.filter select = outputs b) :
    (run step s (inputs.map encode)).1.filter select = inputs.flatMap outputs := by
  induction inputs generalizing s with
  | nil => rfl
  | cons b inputs ih =>
    rw [map_cons, run_cons, filter_append, flatMap_cons, hstep s b mem_cons_self,
      ih _ fun s c hc => hstep s c (mem_cons_of_mem b hc)]

end MarlinspikeDpi.Mealy
