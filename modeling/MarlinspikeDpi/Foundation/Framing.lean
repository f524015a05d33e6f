import Mathlib.Data.List.Basic

/-!
# Messages cut out of a stream

A framing says whether a byte string begins with a whole message. `drain` takes all whole messages
from the front and leaves the rest.

* `drain_append`: draining does not depend on the cuts.
-/

namespace MarlinspikeDpi

open List

structure Framing (α : Type) where
  /-- The first message and what follows it. -/
  next : List α → Option (List α × List α)
  shrinks : ∀ {bs frame rest}, next bs = some (frame, rest) → rest.length < bs.length
  stable : ∀ {bs frame rest} (more), next bs = some (frame, rest) →
    next (bs ++ more) = some (frame, rest ++ more)

namespace Framing

variable {α : Type} (F : Framing α)

def drainFuel : Nat → List α → List (List α) × List α
  | 0, bs => ([], bs)
  | fuel + 1, bs =>
    match F.next bs with
    | none => ([], bs)
    | some (frame, rest) => (frame :: (drainFuel fuel rest).1, (drainFuel fuel rest).2)

def drain (bs : List α) : List (List α) × List α := F.drainFuel bs.length bs

lemma next_nil : F.next [] = none := by
  cases h : F.next [] with
  | none => rfl
  | some found => exact absurd (F.shrinks h) (Nat.not_lt_zero _)

variable {β : Type}

lemma drainFuel_eq {bs : List α} {fuel : Nat} (hfuel : bs.length ≤ fuel) :
    F.drainFuel fuel bs = F.drain bs := by
  induction fuel using Nat.strongRecOn generalizing bs with
  | ind fuel ih =>
    cases bs with
    | nil =>
      cases fuel with
      | zero => rfl
      | succ fuel => rw [drainFuel, F.next_nil]; rfl
    | cons b bs =>
      obtain ⟨fuel, rfl⟩ : ∃ n, fuel = n + 1 := ⟨fuel - 1, by simp at hfuel; omega⟩
      rw [drain, length_cons, drainFuel, drainFuel]
      cases hnext : F.next (b :: bs) with
      | none => rfl
      | some found =>
        obtain ⟨frame, rest⟩ := found
        have hrest : rest.length < bs.length + 1 := F.shrinks hnext
        rw [length_cons] at hfuel
        dsimp only
        rw [ih fuel (Nat.lt_succ_self fuel) (by omega), ih bs.length (by omega) (by omega)]

lemma drain_of_next_eq_none {bs : List α} (h : F.next bs = none) : F.drain bs = ([], bs) := by
  rw [drain]
  cases bs.length with
  | zero => rfl
  | succ n => rw [drainFuel, h]

lemma drain_of_next_eq_some {bs frame rest : List α} (h : F.next bs = some (frame, rest)) :
    F.drain bs = (frame :: (F.drain rest).1, (F.drain rest).2) := by
  have hshorter := F.shrinks h
  rw [← F.drainFuel_eq (Nat.le_succ bs.length), drainFuel, h]
  dsimp only
  rw [F.drainFuel_eq (Nat.le_of_lt hshorter)]

@[simp] lemma drain_nil : F.drain [] = ([], []) := F.drain_of_next_eq_none F.next_nil

/-- Induction on the frames at the front. -/
lemma frames_induction {P : List α → Prop} (stop : ∀ bs, F.next bs = none → P bs)
    (step : ∀ bs frame rest, F.next bs = some (frame, rest) → P rest → P bs)
    (bs : List α) : P bs := by
  induction hlen : bs.length using Nat.strongRecOn generalizing bs with
  | ind n ih =>
    cases hnext : F.next bs with
    | none => exact stop bs hnext
    | some found => exact step bs _ _ hnext (ih _ (hlen ▸ F.shrinks hnext) _ rfl)

lemma next_drain_snd (bs : List α) : F.next (F.drain bs).2 = none := by
  induction bs using F.frames_induction with
  | stop bs hnext =>
    rw [F.drain_of_next_eq_none hnext]
    exact hnext
  | step bs frame rest hnext ih =>
    rw [F.drain_of_next_eq_some hnext]
    exact ih

lemma drain_drain_snd (bs : List α) : F.drain (F.drain bs).2 = ([], (F.drain bs).2) :=
  F.drain_of_next_eq_none (F.next_drain_snd bs)

lemma drain_append (bs more : List α) : F.drain (bs ++ more) =
      ((F.drain bs).1 ++ (F.drain ((F.drain bs).2 ++ more)).1,
        (F.drain ((F.drain bs).2 ++ more)).2) := by
  induction bs using F.frames_induction with
  | stop bs hnext =>
    rw [F.drain_of_next_eq_none hnext]
    rfl
  | step bs frame rest hnext ih =>
    rw [F.drain_of_next_eq_some hnext, F.drain_of_next_eq_some (F.stable more hnext), ih]
    rfl

lemma drain_encoded (encode body : β → List α)
    (hencode : ∀ message rest, F.next (encode message ++ rest) = some (body message, rest))
    (messages : List β) : F.drain (messages.flatMap encode) = (messages.map body, []) := by
  induction messages with
  | nil => exact F.drain_nil
  | cons message messages ih =>
    rw [flatMap_cons, F.drain_of_next_eq_some (hencode message _), ih]
    rfl

lemma flatten_drain_append (hjoin : ∀ {bs frame rest}, F.next bs = some (frame, rest) →
    frame ++ rest = bs) (bs : List α) : (F.drain bs).1.flatten ++ (F.drain bs).2 = bs := by
  induction bs using F.frames_induction with
  | stop bs hnext =>
    rw [F.drain_of_next_eq_none hnext]
    rfl
  | step bs frame rest hnext ih =>
    rw [F.drain_of_next_eq_some hnext, flatten_cons, append_assoc, ih]
    exact hjoin hnext

lemma drain_encoded_append (encode body : β → List α)
    (hencode : ∀ message rest, F.next (encode message ++ rest) = some (body message, rest))
    (messages : List β) (more : List α) :
    F.drain (messages.flatMap encode ++ more) =
      (messages.map body ++ (F.drain more).1, (F.drain more).2) := by
  rw [F.drain_append, F.drain_encoded encode body hencode, nil_append]

end Framing
end MarlinspikeDpi
