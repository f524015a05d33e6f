import MarlinspikeDpi.Foundation.Bytes

/-!
# Reading on after a failure

A reader takes what it needs from the front of a byte string.
-/

namespace MarlinspikeDpi

/-- Reads from the front of a byte string and keeps its place on failure. -/
abbrev Reader (ε α : Type) : Type := ExceptT ε (StateM (List UInt8)) α

namespace Reader

open Bytes List

variable {ε α β : Type} (r : Reader ε α)

def on (bytes : List UInt8) : Except ε α × List UInt8 := r bytes

def take (e : ε) (n : Nat) : Reader ε (List UInt8) := fun bytes =>
  if bytes.length < n then (.error e, bytes) else (.ok (bytes.take n), bytes.drop n)

def u8 (e : ε) : Reader ε UInt8 := do return byteAt (← take e 1) 0

def u16le (e : ε) : Reader ε UInt16 := do return UInt16.ofNat (leNat (← take e 2))

def u32le (e : ε) : Reader ε UInt32 := do return UInt32.ofNat (leNat (← take e 4))

def u64le (e : ε) : Reader ε UInt64 := do return UInt64.ofNat (leNat (← take e 8))

def opt (present : Bool) (r : Reader ε α) : Reader ε (Option α) :=
  if present then some <$> r else return none

def times : Nat → Reader ε α → Reader ε (List α)
  | 0, _ => return []
  | n + 1, r => do
      let x ← r
      let xs ← times n r
      return x :: xs

lemma on_bind (f : α → Reader ε β) (bytes : List UInt8) : on (r >>= f) bytes =
      match on r bytes with
      | (.ok a, rest) => on (f a) rest
      | (.error e, rest) => (.error e, rest) := by
  simp only [ExceptT.bind, ExceptT.mk, bind, StateT.bind, on]
  generalize r bytes = result
  obtain ⟨_ | a, rest⟩ := result <;> rfl

/-! ## Reading what was written -/

/-- The reader gets `a` from the bytes, and leaves what follows them. -/
def Reads (bytes : List UInt8) (a : α) : Prop := ∀ rest, on r (bytes ++ rest) = (.ok a, rest)

lemma Reads.pure (a : α) : Reads (pure a : Reader ε α) [] a := fun _ => rfl

variable {r} {a : α} {f : α → Reader ε β}

lemma Reads.bind {bytes more : List UInt8} {b : β}
    (hr : Reads r bytes a) (hf : Reads (f a) more b) : Reads (r >>= f) (bytes ++ more) b := by
  intro rest
  rw [on_bind, append_assoc, hr]
  exact hf rest

lemma Reads.map {bytes : List UInt8} (hr : Reads r bytes a)
    (f : α → β) : Reads (f <$> r) bytes (f a) := by
  rw [← append_nil bytes]
  exact hr.bind (Reads.pure (f a))

lemma Reads.bind_pure {bytes : List UInt8} (hr : Reads r bytes a)
    (f : α → β) : Reads (r >>= fun a => Pure.pure (f a)) bytes (f a) := by
  exact hr.map f

lemma reads_opt {γ : Type} {r : Reader ε α} (encode : γ → List UInt8) (value : γ → α)
    (part : Option γ) (hr : ∀ g ∈ part, Reads r (encode g) (value g)) :
    Reads (opt part.isSome r) (part.elim [] encode) (part.map value) := by
  cases part with
  | none => exact Reads.pure none
  | some g => exact (hr g rfl).map some

lemma Reads.opt {bytes : List UInt8} (hr : Reads r bytes a) (present : Bool) :
    Reads (opt present r) (if present then bytes else []) (if present then some a else none) := by
  cases present with
  | true => exact hr.map some
  | false => exact Reads.pure none

lemma reads_opt_self (encode : α → List UInt8) (hr : ∀ a, Reads r (encode a) a)
    (part : Option α) : Reads (opt part.isSome r) (part.elim [] encode) part := by
  have hread := reads_opt encode id part fun a _ => hr a
  rwa [Option.map_id_apply] at hread

lemma reads_take {bytes : List UInt8} (e : ε) {n : Nat} (hlength : bytes.length = n) :
    Reads (take e n) bytes bytes := by
  subst hlength
  intro rest
  simp [on, take]

lemma reads_u8 (e : ε) (b : UInt8) : Reads (u8 e) [b] b := fun _ => rfl

lemma reads_u16le (e : ε) (n : UInt16) : Reads (u16le e) (toLe 2 n.toNat) n := by
  have hvalue : UInt16.ofNat (leNat (toLe 2 n.toNat)) = n := by
    rw [leNat_toLe n.toNat_lt, UInt16.ofNat_toNat]
  have htake := (reads_take e (length_toLe 2 n.toNat)).map fun bytes => UInt16.ofNat (leNat bytes)
  rw [hvalue] at htake
  exact htake

lemma reads_u32le (e : ε) (n : UInt32) : Reads (u32le e) (toLe 4 n.toNat) n := by
  have hvalue : UInt32.ofNat (leNat (toLe 4 n.toNat)) = n := by
    rw [leNat_toLe n.toNat_lt, UInt32.ofNat_toNat]
  have htake := (reads_take e (length_toLe 4 n.toNat)).map fun bytes => UInt32.ofNat (leNat bytes)
  rw [hvalue] at htake
  exact htake

lemma reads_u64le (e : ε) (n : UInt64) : Reads (u64le e) (toLe 8 n.toNat) n := by
  have hvalue : UInt64.ofNat (leNat (toLe 8 n.toNat)) = n := by
    rw [leNat_toLe n.toNat_lt, UInt64.ofNat_toNat]
  have htake := (reads_take e (length_toLe 8 n.toNat)).map fun bytes => UInt64.ofNat (leNat bytes)
  rw [hvalue] at htake
  exact htake

lemma reads_times (encode : α → List UInt8) (hr : ∀ a, Reads r (encode a) a) (as : List α) :
    Reads (times as.length r) (as.flatMap encode) as := by
  induction as with
  | nil => exact Reads.pure []
  | cons a as ih =>
    rw [flatMap_cons, length_cons]
    refine (hr a).bind ?_
    rw [← append_nil (as.flatMap encode)]
    exact ih.bind (Reads.pure _)

/-! ## How a reader can end -/

/-- A value in `P` or a failure in `E`. -/
def Outcome (P : α → Prop) (E : ε → Prop) : Except ε α → Prop
  | .ok a => P a
  | .error e => E e

/-- Whatever the bytes, the reader ends with a value in `P` or with a failure in `E`. -/
def Ends (r : Reader ε α) (P : α → Prop) (E : ε → Prop) : Prop :=
  ∀ bytes, Outcome P E (on r bytes).1

variable {P : α → Prop} {Q : β → Prop} {E : ε → Prop}

lemma Ends.pure (h : P a) : Ends (pure a : Reader ε α) P E := fun _ => h

lemma Ends.bind (hr : Ends r P E) (hf : ∀ a, P a → Ends (f a) Q E) : Ends (r >>= f) Q E := by
  intro bytes
  have hfirst := hr bytes
  rw [on_bind]
  cases hon : on r bytes with
  | mk result rest =>
    rw [hon] at hfirst
    cases result with
    | error e => exact hfirst
    | ok a => exact hf a hfirst rest

lemma ends_take {e : ε} (he : E e) (n : Nat) : Ends (take e n) (fun _ => True) E := by
  intro bytes
  simp only [on, take]
  by_cases hshort : bytes.length < n
  · rw [if_pos hshort]
    exact he
  · rw [if_neg hshort]
    trivial

lemma ends_u8 {e : ε} (he : E e) : Ends (u8 e) (fun _ => True) E :=
  (ends_take he 1).bind fun _ _ => .pure trivial

lemma ends_u16le {e : ε} (he : E e) : Ends (u16le e) (fun _ => True) E :=
  (ends_take he 2).bind fun _ _ => .pure trivial

lemma ends_u32le {e : ε} (he : E e) : Ends (u32le e) (fun _ => True) E :=
  (ends_take he 4).bind fun _ _ => .pure trivial

lemma ends_u64le {e : ε} (he : E e) : Ends (u64le e) (fun _ => True) E :=
  (ends_take he 8).bind fun _ _ => .pure trivial

lemma Ends.opt (hr : Ends r P E) (present : Bool) : Ends (opt present r) (fun _ => True) E := by
  cases present with
  | true => exact hr.bind fun _ _ => .pure trivial
  | false => exact .pure trivial

end Reader
end MarlinspikeDpi
