import Mathlib.Data.List.Basic

/-!
# Escaping, and reading up to an unescaped end

A writer puts an escape character before every character that has a meaning of its own; a reader
takes an escaped character literally and stops at the first unescaped one that ends the text.
-/

namespace MarlinspikeDpi

open List

/-- What is escaped in a text, and what ends it. -/
structure Escaping (α : Type*) where
  esc : α
  (escaped stop : α → Bool)
  escaped_of_stop : ∀ c, stop c = true → escaped c = true
  esc_not_stop : stop esc = false

namespace Escaping

variable {α : Type*} (E : Escaping α)

/-! ## Writing -/

def escape (text : List α) : List α := text.flatMap fun c => if E.escaped c then [E.esc, c] else [c]

variable {E} {c d x : α} {rest tail text : List α}

@[simp] lemma escape_nil : E.escape [] = [] := rfl

lemma escape_cons_of_escaped (h : E.escaped x = true) :
    E.escape (x :: text) = E.esc :: x :: E.escape text := by
  simp [escape, h]

lemma escape_cons_of_plain (h : E.escaped x = false) :
    E.escape (x :: text) = x :: E.escape text := by
  simp [escape, h]

lemma stop_eq_false (h : E.escaped c = false) : E.stop c = false := by
  cases hstop : E.stop c with
  | false => rfl
  | true =>
    rw [E.escaped_of_stop c hstop] at h
    exact h

lemma head?_escape (hesc : E.escaped E.esc = false) (htext : text ≠ []) :
    ∀ d ∈ (E.escape text ++ tail).head?, E.escaped d = false := by
  cases text with
  | nil => exact absurd rfl htext
  | cons x text =>
    intro d hd
    cases hx : E.escaped x with
    | true =>
      rw [escape_cons_of_escaped hx] at hd
      obtain rfl : E.esc = d := by simpa using hd
      exact hesc
    | false =>
      rw [escape_cons_of_plain hx] at hd
      obtain rfl : x = d := by simpa using hd
      exact hx

lemma mem_escape (hc : c ≠ E.esc) : c ∈ E.escape text ↔ c ∈ text := by
  induction text with
  | nil => simp
  | cons x text ih =>
    cases hx : E.escaped x with
    | true => simp [escape_cons_of_escaped hx, hc, ih]
    | false => simp [escape_cons_of_plain hx, ih]

/-! ## Reading -/

variable [DecidableEq α]

variable (E) in
/-- Read a text up to its end: what was read, and the rest with the character that ended it. -/
def scan : List α → List α × List α
  | [] => ([], [])
  | [c] => if E.stop c then ([], [c]) else ([c], [])
  | c :: d :: rest =>
    if E.stop c then ([], c :: d :: rest)
    else if c = E.esc ∧ E.escaped d then (d :: (scan rest).1, (scan rest).2)
    else (c :: (scan (d :: rest)).1, (scan (d :: rest)).2)

lemma scan_stop (h : E.stop c = true) : E.scan (c :: rest) = ([], c :: rest) := by
  cases rest with
  | nil => simp [scan, h]
  | cons d rest => simp [scan, h]

lemma scan_pair (h : E.escaped d = true) :
    E.scan (E.esc :: d :: rest) = (d :: (E.scan rest).1, (E.scan rest).2) := by
  simp [scan, E.esc_not_stop, h]

lemma scan_plain (hstop : E.stop c = false)
    (hnext : c = E.esc → ∀ d ∈ rest.head?, E.escaped d = false) :
    E.scan (c :: rest) = (c :: (E.scan rest).1, (E.scan rest).2) := by
  cases rest with
  | nil => simp [scan, hstop]
  | cons d rest =>
    have hpair : ¬ (c = E.esc ∧ E.escaped d = true) := by
      rintro ⟨rfl, hd⟩
      have hplain : E.escaped d = false := hnext rfl d rfl
      rw [hd] at hplain
      exact Bool.noConfusion hplain
    simp [scan, hstop, hpair]

/-! ## Reading what was written -/

/-- The step of reading back: every character comes back, unless it is a final escape character that
the writer left as it is. -/
theorem scan_escape_cons (h : E.escaped E.esc = true ∨ x ≠ E.esc ∨ text ≠ []) :
    E.scan (E.escape (x :: text) ++ tail) =
      (x :: (E.scan (E.escape text ++ tail)).1, (E.scan (E.escape text ++ tail)).2) := by
  cases hx : E.escaped x with
  | true =>
    rw [escape_cons_of_escaped hx]
    exact scan_pair hx
  | false =>
    rw [escape_cons_of_plain hx]
    refine scan_plain (stop_eq_false hx) fun hesc => ?_
    subst hesc
    have htext : text ≠ [] := by
      rcases h with h | h | h
      · rw [h] at hx
        exact Bool.noConfusion hx
      · exact absurd rfl h
      · exact h
    exact head?_escape hx htext

lemma scan_escape (hstop : E.stop c = true)
    (h : E.escaped E.esc = true ∨ text.getLast? ≠ some E.esc) :
    E.scan (E.escape text ++ c :: rest) = (text, c :: rest) := by
  -- the condition on the end of the text is that of its tail, and makes every step one of
  -- `scan_escape_cons`
  induction text with
  | nil => exact scan_stop hstop
  | cons x text ih =>
    have hstep : E.escaped E.esc = true ∨ x ≠ E.esc ∨ text ≠ [] := by
      refine h.imp_right fun hlast => ?_
      by_cases htext : text = []
      · subst htext
        exact .inl fun hx => hlast (by rw [hx]; rfl)
      · exact .inr htext
    have hrest : E.escaped E.esc = true ∨ text.getLast? ≠ some E.esc := by
      refine h.imp_right fun hlast htext => hlast ?_
      rw [getLast?_cons, htext]
      rfl
    rw [scan_escape_cons hstep, ih hrest]

lemma scan_escape_ne (hesc : E.escaped E.esc = false) (hstop : E.stop c = true)
    (hlast : text.getLast? = some E.esc) : (E.scan (E.escape text ++ c :: rest)).1 ≠ text := by
  have hc : E.escaped c = true := E.escaped_of_stop c hstop
  induction text with
  | nil => simp at hlast
  | cons x text ih =>
    by_cases htext : text = []
    · -- the escape character makes the end of the text part of it
      subst htext
      obtain rfl : x = E.esc := by simpa using hlast
      rw [escape_cons_of_plain hesc]
      intro hsame
      have hread : E.scan (E.esc :: c :: rest) = (c :: (E.scan rest).1, (E.scan rest).2) :=
        scan_pair hc
      have hce : c = E.esc := by
        have := hread ▸ hsame
        exact (cons.inj this).1
      rw [hce, hesc] at hc
      exact Bool.noConfusion hc
    · have hlast' : text.getLast? = some E.esc := by
        rw [getLast?_cons, Option.some.injEq] at hlast
        obtain ⟨y, hy⟩ :=
          Option.ne_none_iff_exists'.1 fun hnone => htext (getLast?_eq_none_iff.1 hnone)
        rw [hy] at hlast ⊢
        exact congrArg some hlast
      rw [scan_escape_cons (.inr (.inr htext))]
      intro hsame
      exact ih hlast' (cons.inj hsame).2

lemma scan_escape_iff (hesc : E.escaped E.esc = false) (hstop : E.stop c = true) :
    (E.scan (E.escape text ++ c :: rest)).1 = text ↔ text.getLast? ≠ some E.esc := by
  refine ⟨fun hsame hlast => scan_escape_ne hesc hstop hlast hsame, fun hlast => ?_⟩
  rw [scan_escape hstop (.inr hlast)]

end Escaping

end MarlinspikeDpi
