import Mathlib.Data.List.Induction

/-!
# Slots that remember the last input that wrote them

A component has a slot that can be looked at (`view`). An input either writes the slot or leaves it
as it is.
-/

namespace MarlinspikeDpi

open List

section

variable {α ν : Type}

def lastWrite (write : α → Option ν) (history : List α) : Option ν :=
  history.reverse.findSome? write

@[simp] lemma lastWrite_concat (write : α → Option ν) (history : List α) (input : α) :
    lastWrite write (history ++ [input]) = (write input).or (lastWrite write history) := by
  rw [lastWrite, reverse_concat, findSome?_cons]
  cases write input <;> rfl

lemma lastWrite_append (write : α → Option ν) (history later : List α) :
    lastWrite write (history ++ later) = (lastWrite write later).or (lastWrite write history) := by
  simp [lastWrite, findSome?_append]

lemma lastWrite_cons (write : α → Option ν) (input : α) (history : List α) :
    lastWrite write (input :: history) = (lastWrite write history).or (write input) := by
  simp [lastWrite, findSome?_append]

lemma lastWrite_eq_none_iff {write : α → Option ν} {history : List α} :
    lastWrite write history = none ↔ ∀ input ∈ history, write input = none := by
  simp [lastWrite, findSome?_eq_none_iff]

lemma lastWrite_map {μ : Type} (f : ν → μ) (write : α → Option ν) (history : List α) :
    lastWrite (fun input => (write input).map f) history = (lastWrite write history).map f := by
  induction history with
  | nil => rfl
  | cons input history ih => rw [lastWrite_cons, lastWrite_cons, ih, Option.map_or]

variable {σ : Type}

lemma view_run {step : σ → α → σ} {write : α → Option ν} (view : σ → Option ν)
    (hstep : ∀ s input, view (step s input) = (write input).or (view s)) (s : σ)
    (history : List α) :
    view (history.foldl step s) = (lastWrite write history).or (view s) := by
  induction history using List.reverseRecOn with
  | nil => rfl
  | append_singleton history input ih =>
    rw [foldl_append, foldl_cons, foldl_nil, hstep, ih, lastWrite_concat, Option.or_assoc]

end

end MarlinspikeDpi
