import Mathlib.Data.List.Basic

/-!
# Lists joined by a separator, and split at it

What joining some lists by one separator does to their number, their members and their separators.
-/

namespace MarlinspikeDpi.Separated

open List

variable {α β : Type*}

lemma length_le_length_flatMap {f : α → List β} (hf : ∀ x, f x ≠ []) (xs : List α) :
    xs.length ≤ (xs.flatMap f).length := by
  induction xs with
  | nil => exact Nat.le_refl _
  | cons x xs ih =>
    have hx : 0 < (f x).length := length_pos_iff.2 (hf x)
    rw [flatMap_cons, length_append, length_cons]
    omega

lemma append_cons_inj_of_not_mem {c : α} {xs ys ds es : List α} (hd : c ∉ ds) (he : c ∉ es)
    (h : xs ++ c :: ds = ys ++ c :: es) : xs = ys ∧ ds = es := by
  rcases append_eq_append_iff.1 h with ⟨mid, rfl, hmid⟩ | ⟨mid, rfl, hmid⟩
  · cases mid with
    | nil => exact ⟨(append_nil xs).symm, (cons.inj hmid).2⟩
    | cons m mid =>
      refine absurd ?_ hd
      rw [(cons.inj hmid).2]
      exact mem_append_right _ mem_cons_self
  · cases mid with
    | nil => exact ⟨append_nil ys, (cons.inj hmid).2.symm⟩
    | cons m mid =>
      refine absurd ?_ he
      rw [(cons.inj hmid).2]
      exact mem_append_right _ mem_cons_self

lemma length_le_length_intercalate {xs : List (List α)} {sep : α} (h : ∀ x ∈ xs, x ≠ []) :
    xs.length ≤ ([sep].intercalate xs).length := by
  induction xs with
  | nil => exact Nat.zero_le _
  | cons x xs ih =>
    have hx : 0 < x.length := length_pos_iff.2 (h x mem_cons_self)
    have hxs := ih fun y hy => h y (mem_cons_of_mem _ hy)
    cases xs with
    | nil => simpa [Nat.one_le_iff_ne_zero, Nat.pos_iff_ne_zero] using hx
    | cons y xs =>
      rw [intercalate_cons_cons, length_append, length_append, length_cons]
      omega

variable (sep : α)

lemma intercalate_cons (x : List α) (xs : List (List α)) :
    [sep].intercalate (x :: xs) = x ++ xs.flatMap (sep :: ·) := by
  induction xs generalizing x with
  | nil => simp
  | cons y xs ih => simp [intercalate_cons_cons, ih]

lemma mem_intercalate {xs : List (List α)} {sep c : α} (hc : c ≠ sep) : c ∈ [sep].intercalate xs ↔
    ∃ x ∈ xs, c ∈ x := by
  induction xs with
  | nil => simp
  | cons x xs ih =>
    cases xs with
    | nil => simp
    | cons y xs => simp [intercalate_cons_cons, hc, ih]

lemma count_intercalate [DecidableEq α] (x : List α) (xs : List (List α)) :
    ([sep].intercalate (x :: xs)).count sep = (x :: xs).flatten.count sep + xs.length := by
  induction xs generalizing x with
  | nil => simp
  | cons y xs ih =>
    rw [intercalate_cons_cons, count_append, count_append, ih]
    simp
    omega

lemma length_splitOn [DecidableEq α] (xs : List α) :
    (xs.splitOn sep).length = xs.count sep + 1 := by
  induction xs with
  | nil => simp
  | cons x xs ih =>
    rw [splitOn_cons_eq_if_modifyHead]
    by_cases hx : x = sep <;> simp [hx, ih]

lemma not_mem_of_mem_splitOn [DecidableEq α] {xs x : List α} (hx : x ∈ xs.splitOn sep) :
    sep ∉ x := by
  induction xs generalizing x with
  | nil => simp_all
  | cons y xs ih =>
    rw [splitOn_cons_eq_if_modifyHead] at hx
    split at hx
    · rcases mem_cons.1 hx with rfl | hlater
      · exact not_mem_nil
      · exact ih hlater
    · rename_i hy
      cases hsplit : xs.splitOn sep with
      | nil => exact absurd hsplit (splitOn_ne_nil _ _)
      | cons first later =>
        rw [hsplit] at hx ih
        rcases mem_cons.1 hx with rfl | hlater
        · rw [mem_cons, not_or]
          exact ⟨fun hself => hy (by simp [hself]), ih mem_cons_self⟩
        · exact ih (mem_cons_of_mem _ hlater)

lemma splitOn_terminated {xs : List (List α)} [DecidableEq α] {sep : α} (h : ∀ x ∈ xs, sep ∉ x) :
    (xs.flatMap (· ++ [sep])).splitOn sep = xs ++ [[]] := by
  induction xs with
  | nil => simp
  | cons x xs ih =>
    have hxs := ih fun y hy => h y (mem_cons_of_mem _ hy)
    rw [flatMap_cons, append_assoc, singleton_append,
      splitOn_append_cons_self_of_not_mem (h x mem_cons_self), hxs, cons_append]

/-- As many pieces without the separator, joined to the same text, are the same. -/
lemma eq_of_intercalate_map_eq [DecidableEq α] {piece : β → List α}
    (hinj : Function.Injective piece)
    (hsep : ∀ b, sep ∉ piece b) {bs cs : List β} (hlength : bs.length = cs.length)
    (h : [sep].intercalate (bs.map piece) = [sep].intercalate (cs.map piece)) : bs = cs := by
  by_cases hnil : bs = []
  · subst hnil
    exact (length_eq_zero_iff.1 hlength.symm).symm
  have hpieces : ∀ ds : List β, ∀ x ∈ ds.map piece, sep ∉ x :=
    fun ds => forall_mem_map.2 fun d _ => hsep d
  have hsplit := congrArg (splitOn sep) h
  rw [splitOn_intercalate sep (hpieces _) (by simpa using hnil),
    splitOn_intercalate sep (hpieces _) ?_] at hsplit
  · exact map_injective_iff.2 hinj hsplit
  · rw [ne_eq, map_eq_nil_iff, ← length_eq_zero_iff, ← hlength, length_eq_zero_iff]
    exact hnil

end MarlinspikeDpi.Separated
