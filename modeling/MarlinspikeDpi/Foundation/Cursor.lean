import MarlinspikeDpi.Foundation.Bytes

/-!
# Reading a byte string from front to back

A reader takes what it needs from the front and leaves the rest; if there is not enough, it fails.
-/

namespace MarlinspikeDpi

abbrev Cursor : Type → Type := StateT (List UInt8) Option

namespace Cursor

open Bytes

def u8 : Cursor UInt8
  | [] => none
  | b :: bytes => some (b, bytes)

def take (n : Nat) : Cursor (List UInt8) := fun bytes =>
  if bytes.length < n then none else some (bytes.take n, bytes.drop n)

def u16le : Cursor UInt16 := do return UInt16.ofNat (leNat (← take 2))

def u32le : Cursor UInt32 := do return UInt32.ofNat (leNat (← take 4))

def u64le : Cursor UInt64 := do return UInt64.ofNat (leNat (← take 8))

def u16be : Cursor UInt16 := do return UInt16.ofNat (beNat (← take 2))

def u32be : Cursor UInt32 := do return UInt32.ofNat (beNat (← take 4))

variable {α : Type}

def times : Nat → Cursor α → Cursor (List α)
  | 0, _ => return []
  | n + 1, reader => do
      let x ← reader
      let xs ← times n reader
      return x :: xs

/-! ## Readers of a fixed length -/

/-- On fewer than `n` bytes the reader fails; otherwise it takes `n` bytes, and its result is as
`post` says. -/
def Takes (reader : Cursor α) (n : Nat) (post : α → Prop) : Prop :=
  ∀ bytes, if bytes.length < n then reader bytes = none
    else ∃ x, post x ∧ reader bytes = some (x, bytes.drop n)

variable {β : Type}

lemma takes_pure {post : α → Prop} {x : α} (h : post x) : Takes (pure x) 0 post :=
  fun _ => ⟨x, h, rfl⟩

lemma Takes.bind {reader : Cursor α} {n m : Nat} {post : α → Prop} {post' : β → Prop}
    (h : Takes reader n post) {next : α → Cursor β} (hnext : ∀ x, post x → Takes (next x) m post') :
    Takes (reader >>= next) (n + m) post' := by
  intro bytes
  have hstep : (reader >>= next) bytes = (reader bytes).bind fun p => next p.1 p.2 := rfl
  have hreader := h bytes
  rw [hstep]
  split at hreader
  · rw [if_pos (by omega), hreader]
    rfl
  · obtain ⟨x, hx, htaken⟩ := hreader
    have hrest := hnext x hx (bytes.drop n)
    rw [htaken, Option.bind_some]
    rw [List.length_drop, List.drop_drop] at hrest
    by_cases hlong : bytes.length < n + m
    · rw [if_pos (by omega)] at hrest
      rwa [if_pos hlong]
    · rw [if_neg (by omega)] at hrest
      rwa [if_neg hlong]

lemma takes_take (n : Nat) : Takes (take n) n fun _ => True := by
  intro bytes
  by_cases hlong : bytes.length < n
  · rw [if_pos hlong, take, if_pos hlong]
  · rw [if_neg hlong, take, if_neg hlong]
    exact ⟨_, trivial, rfl⟩

lemma takes_u16be : Takes u16be 2 fun _ => True := (takes_take 2).bind fun _ _ => takes_pure trivial

lemma takes_u32be : Takes u32be 4 fun _ => True := (takes_take 4).bind fun _ _ => takes_pure trivial

lemma Takes.times {reader : Cursor α} {n : Nat} (h : Takes reader n fun _ => True)
    (k : Nat) : Takes (times k reader) (k * n) (·.length = k) := by
  induction k with
  | zero =>
    rw [Nat.zero_mul]
    exact takes_pure rfl
  | succ k ih =>
    rw [Nat.succ_mul, Nat.add_comm (k * n)]
    refine h.bind fun _ _ => ih.bind fun xs hxs => takes_pure ?_
    rw [List.length_cons, hxs]

end Cursor
end MarlinspikeDpi
