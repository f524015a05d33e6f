import MarlinspikeDpi.Foundation.Mealy

/-!
# Computations that may panic

A slice expression with bounds that do not fit, or that cut a character in two, or a sum that
overflows its type, aborts the program.
-/

namespace MarlinspikeDpi

open List

inductive Panic where
  | sliceOrder (start stop : Nat)
  | sliceEnd (stop len : Nat)
  | addOverflow
  | charBoundary (offset : Nat)
deriving DecidableEq

abbrev Checked (α : Type) : Type := Except Panic α

namespace Checked

/-- The elements from `start` up to `stop`. -/
def subslice {α : Type} (xs : List α) (start stop : Nat) : Checked (List α) :=
  if stop < start then .error (.sliceOrder start stop)
  else if xs.length < stop then .error (.sliceEnd stop xs.length)
  else .ok ((xs.take stop).drop start)

lemma subslice_eq_ok {α : Type} {xs : List α} {start stop : Nat} (horder : start ≤ stop)
    (hend : stop ≤ xs.length) : subslice xs start stop = .ok ((xs.take stop).drop start) := by
  rw [subslice, if_neg (Nat.not_lt.2 horder), if_neg (Nat.not_lt.2 hend)]

lemma subslice_of_lt {α : Type} {xs : List α} {start stop : Nat} (horder : stop < start) :
    subslice xs start stop = .error (.sliceOrder start stop) := if_pos horder

def addU16 (a b : Nat) : Checked Nat := if 65535 < a + b then .error .addOverflow else .ok (a + b)

/-! ## Runs -/

variable {σ α ε : Type} (step : σ → α → Checked (List ε × σ))

/-- The outputs of a run and the state after it, unless a step panics. -/
def run : σ → List α → Checked (List ε × σ)
  | s, [] => .ok ([], s)
  | s, a :: inputs => do
      let (out, s) ← step s a
      let (outs, s) ← run s inputs
      return (out ++ outs, s)

variable {inputs : List α}

lemma run_cons_eq_ok {result : List ε × σ} {s : σ} {a : α} : run step s (a :: inputs) = .ok result ↔
      ∃ out mid outs s', step s a = .ok (out, mid) ∧ run step mid inputs = .ok (outs, s') ∧
        result = (out ++ outs, s') := by
  rw [run]
  constructor
  · intro h
    cases hstep : step s a with
    | error panic =>
      rw [hstep] at h
      cases h
    | ok first =>
      obtain ⟨out, mid⟩ := first
      rw [hstep] at h
      change (do let (outs, s) ← run step mid inputs; return (out ++ outs, s)) = _ at h
      cases hrest : run step mid inputs with
      | error panic =>
        rw [hrest] at h
        cases h
      | ok rest =>
        rw [hrest] at h
        cases h
        exact ⟨out, mid, rest.1, rest.2, rfl, hrest, rfl⟩
  · rintro ⟨out, mid, outs, s', hstep, hrest, rfl⟩
    rw [hstep]
    change (do let (outs, s) ← run step mid inputs; return (out ++ outs, s)) = _
    rw [hrest]
    rfl

lemma run_append_eq_ok {result : List ε × σ} {s : σ} {later : List α} :
    run step s (inputs ++ later) = .ok result ↔
      ∃ outs mid outs' s', run step s inputs = .ok (outs, mid) ∧
        run step mid later = .ok (outs', s') ∧ result = (outs ++ outs', s') := by
  induction inputs generalizing s result with
  | nil =>
    constructor
    · exact fun h => ⟨[], s, result.1, result.2, rfl, h, rfl⟩
    · rintro ⟨outs, mid, outs', s', hfirst, hlater, rfl⟩
      cases hfirst
      exact hlater
  | cons a inputs ih =>
    rw [cons_append, run_cons_eq_ok]
    constructor
    · rintro ⟨out, next, rest, last, hstep, hrest, rfl⟩
      obtain ⟨outs, mid, outs', s', hfirst, hlater, heq⟩ := ih.1 hrest
      cases heq
      refine ⟨out ++ outs, mid, outs', last, ?_, hlater, by rw [append_assoc]⟩
      exact (run_cons_eq_ok step).2 ⟨out, next, outs, mid, hstep, hfirst, rfl⟩
    · rintro ⟨outs, mid, outs', s', hfirst, hlater, rfl⟩
      obtain ⟨out, next, rest, last, hstep, hrest, heq⟩ := (run_cons_eq_ok step).1 hfirst
      cases heq
      exact ⟨out, next, rest ++ outs', s', hstep,
        ih.2 ⟨rest, mid, outs', s', hrest, hlater, rfl⟩, by rw [append_assoc]⟩

lemma run_map {β : Type} (encode : β → α) (s : σ) (inputs : List β) :
    run step s (inputs.map encode) = run (fun s b => step s (encode b)) s inputs := by
  induction inputs generalizing s with
  | nil => rfl
  | cons b inputs ih =>
    rw [map_cons, run, run]
    simp only [ih]

lemma forall_mem_run {P : ε → Prop} (h : ∀ s a out s', step s a = .ok (out, s') → ∀ e ∈ out, P e)
    {s s' : σ} {outs : List ε} (hrun : run step s inputs = .ok (outs, s')) : ∀ e ∈ outs, P e := by
  induction inputs generalizing s outs with
  | nil =>
    cases hrun
    exact forall_mem_nil _
  | cons a inputs ih =>
    obtain ⟨out, mid, later, last, hstep, hrest, heq⟩ := (run_cons_eq_ok step).1 hrun
    cases heq
    exact forall_mem_append.2 ⟨h _ _ _ _ hstep, ih hrest⟩

lemma exists_run_eq_ok (h : ∀ s, ∀ a ∈ inputs, ∃ result, step s a = .ok result) (s : σ) :
    ∃ result, run step s inputs = .ok result := by
  induction inputs generalizing s with
  | nil => exact ⟨_, rfl⟩
  | cons a inputs ih =>
    obtain ⟨⟨out, mid⟩, hstep⟩ := h s a mem_cons_self
    obtain ⟨⟨outs, s'⟩, hrest⟩ := ih (fun s b hb => h s b (mem_cons_of_mem a hb)) mid
    exact ⟨_, (run_cons_eq_ok step).2 ⟨out, mid, outs, s', hstep, hrest, rfl⟩⟩

def total (s : σ) (a : α) : List ε × σ :=
  match step s a with
  | .ok result => result
  | .error _ => ([], s)

lemma total_of_ok {result : List ε × σ} {s : σ} {a : α} (h : step s a = .ok result) :
    total step s a = result := by
  rw [total, h]

lemma run_total {result : List ε × σ} {s : σ} (hrun : run step s inputs = .ok result) :
    Mealy.run (total step) s inputs = result := by
  induction inputs generalizing s result with
  | nil =>
    cases hrun
    rfl
  | cons a inputs ih =>
    obtain ⟨out, mid, outs, s', hstep, hrest, rfl⟩ := (run_cons_eq_ok step).1 hrun
    rw [Mealy.run_cons, total_of_ok step hstep, ih hrest]

end Checked
end MarlinspikeDpi
