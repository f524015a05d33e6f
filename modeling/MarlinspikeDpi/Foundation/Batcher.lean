import Mathlib.Data.List.Basic

/-!
# A buffer that hands its contents over in batches

Items arrive in groups and are appended to a pending buffer.
-/

namespace MarlinspikeDpi

open List

/-- One batch offered to the receiver, with its answer. -/
structure Attempt (ε : Type) where
  items : List ε
  accepted : Bool

structure Batcher (ε : Type) where
  threshold : Nat
  pending : List ε
  attempts : List (Attempt ε)

namespace Batcher

variable {ε : Type} (b : Batcher ε)

def handed : List ε := b.attempts.flatMap Attempt.items

def delivered : List ε := (b.attempts.filter Attempt.accepted).flatMap Attempt.items

def rejections : Nat := b.attempts.countP fun a => !a.accepted

variable (items : List ε)

def add : Batcher ε :=
  { b with pending := b.pending ++ items }

variable (answer : Bool)

def flush : Batcher ε :=
  { b with
    pending := []
    attempts := b.attempts ++ [⟨b.pending, answer⟩] }

/-- Append a group of items, then flush once the threshold is reached. -/
def offer : Batcher ε :=
  if b.threshold ≤ (b.add items).pending.length then (b.add items).flush answer else b.add items

def close : Batcher ε :=
  if (b.add items).pending = [] then b.add items else (b.add items).flush answer

@[simp] lemma handed_add : (b.add items).handed = b.handed := rfl

@[simp] lemma pending_add : (b.add items).pending = b.pending ++ items := rfl

@[simp] lemma pending_flush : (b.flush answer).pending = [] := rfl

@[simp] lemma handed_flush : (b.flush answer).handed = b.handed ++ b.pending := by
  simp [handed, flush]

@[simp] lemma delivered_flush : (b.flush answer).delivered = b.delivered ++ if answer then b.pending
    else [] := by
  cases answer <;> simp [delivered, flush]

@[simp] lemma rejections_flush : (b.flush answer).rejections = b.rejections + if answer then 0
    else 1 := by
  cases answer <;> simp [rejections, flush]

lemma delivered_eq_handed {b : Batcher ε} (h : b.rejections = 0) : b.delivered = b.handed := by
  have haccepted : ∀ a ∈ b.attempts, a.accepted = true := by
    intro a ha
    simpa using countP_eq_zero.1 h a ha
  rw [delivered, filter_eq_self.2 haccepted, handed]

/-! ## Conservation -/

/-- Batches and buffer together hold exactly the items fed in, and every batch was full. -/
structure Conserves (b : Batcher ε) (fed : List ε) : Prop where
  split : b.handed ++ b.pending = fed
  full : ∀ a ∈ b.attempts, b.threshold ≤ a.items.length

lemma Conserves.offer {b : Batcher ε} {fed : List ε} (h : b.Conserves fed) (items : List ε)
    (answer : Bool) : (b.offer items answer).Conserves (fed ++ items) := by
  have hsplit : b.handed ++ (b.pending ++ items) = fed ++ items := by rw [← append_assoc, h.split]
  unfold Batcher.offer
  split
  · rename_i hfull
    constructor
    · simpa using hsplit
    · intro a ha
      rcases mem_append.1 ha with hold | hnew
      · exact h.full a hold
      · rw [mem_singleton.1 hnew]
        exact hfull
  · exact ⟨hsplit, h.full⟩

lemma Conserves.handed_close {b : Batcher ε} {fed : List ε} (h : b.Conserves fed)
    (items : List ε) (answer : Bool) : (b.close items answer).handed = fed ++ items := by
  have hsplit : b.handed ++ (b.pending ++ items) = fed ++ items := by rw [← append_assoc, h.split]
  unfold close
  split
  · rename_i hnil
    have hempty : b.pending ++ items = [] := hnil
    rw [handed_add, ← hsplit, hempty, append_nil]
  · simpa using hsplit

lemma delivered_close {b : Batcher ε} :
    (b.close items true).delivered = b.delivered ++ (b.add items).pending := by
  unfold close
  split
  · rename_i hnil
    rw [hnil, append_nil]
    rfl
  · rw [delivered_flush]
    rfl

end Batcher
end MarlinspikeDpi
