import Mathlib.Data.List.Basic

/-!
# A seekable byte source with short reads

A `read` call on a file or a socket may hand out fewer bytes than the buffer holds.
-/

namespace MarlinspikeDpi

open List

/-- A byte source: its contents, the read position and the schedule of read lengths. -/
structure Source where
  data : List UInt8
  pos : Nat
  quota : Nat → Nat
  calls : Nat

namespace Source

variable (s : Source)

def rest : List UInt8 := s.data.drop s.pos

/-- One `read` into a buffer of `want` bytes; an empty answer means the end of the source. -/
def read (want : Nat) : List UInt8 × Source :=
  let got := s.rest.take (min want (max 1 (s.quota s.calls)))
  (got, { s with pos := s.pos + got.length, calls := s.calls + 1 })

def seek (pos : Nat) : Source :=
  { s with pos }

@[simp] lemma seek_rest (p : Nat) : (s.seek p).rest = s.data.drop p := rfl

@[simp] lemma read_data (want : Nat) : (s.read want).2.data = s.data := rfl

lemma read_rest (want : Nat) : (s.read want).2.rest = s.rest.drop (s.read want).1.length := by
  simp [read, rest, drop_drop]

lemma read_length_le (want : Nat) : (s.read want).1.length ≤ want := by
  simp only [read, length_take]
  omega

lemma read_eq_nil_iff {s : Source} {want : Nat} (h : want ≠ 0) : (s.read want).1 = [] ↔
    s.rest = [] := by
  simp only [read, take_eq_nil_iff]
  constructor
  · rintro (hmin | hrest)
    · omega
    · exact hrest
  · intro hrest
    exact Or.inr hrest

lemma read_append_rest (want : Nat) : (s.read want).1 ++ (s.read want).2.rest = s.rest := by
  have hfront : (s.read want).1 = s.rest.take (s.read want).1.length := by
    simp only [read, length_take]
    rw [take_eq_take_iff]
    omega
  rw [read_rest]
  nth_rewrite 1 [hfront]
  exact take_append_drop _ _

/-- Read until `want` bytes have arrived or the source ends. -/
def fill (s : Source) (want : Nat) : List UInt8 × Source :=
  if want = 0 then
    ([], s)
  else
    if _hgot : (s.read want).1 = [] then
      ([], (s.read want).2)
    else
      let more := fill (s.read want).2 (want - (s.read want).1.length)
      ((s.read want).1 ++ more.1, more.2)
termination_by want
decreasing_by
  have hpos : 0 < (s.read want).1.length := length_pos_iff.2 _hgot
  omega

lemma fill_bytes (want : Nat) : (s.fill want).1 = s.rest.take want := by
  induction s, want using fill.induct with
  | case1 s => simp [fill]
  | case2 s want hwant hgot =>
    have hrest : s.rest = [] := (read_eq_nil_iff hwant).1 hgot
    rw [fill]
    simp [hwant, hgot, hrest]
  | case3 s want hwant hgot ih =>
    rw [fill]
    simp only [hwant, hgot, if_false, dif_neg, not_false_eq_true, ih]
    -- the part already read is the front of the request
    have hle : (s.read want).1.length ≤ want := read_length_le s want
    have hsplit := read_append_rest s want
    conv_rhs => rw [← hsplit, take_append, take_of_length_le hle]

@[simp] lemma fill_data (want : Nat) : (s.fill want).2.data = s.data := by
  induction s, want using fill.induct with
  | case1 s => simp [fill]
  | case2 s want hwant hgot =>
    rw [fill]
    simp [hwant, hgot]
  | case3 s want hwant hgot ih =>
    rw [fill]
    simpa [hwant, hgot] using ih

lemma fill_rest (want : Nat) : (s.fill want).2.rest = s.rest.drop want := by
  induction s, want using fill.induct with
  | case1 s => simp [fill]
  | case2 s want hwant hgot =>
    have hrest : s.rest = [] := (read_eq_nil_iff hwant).1 hgot
    rw [fill]
    simp [hwant, hgot, read_rest, hrest]
  | case3 s want hwant hgot ih =>
    have hle : (s.read want).1.length ≤ want := read_length_le s want
    rw [fill]
    simp only [hwant, hgot, if_false, dif_neg, not_false_eq_true, ih, read_rest, drop_drop]
    congr 1
    omega

/-! ## Buffers that must be filled -/

variable {ε : Type} (cut : ε)

/-- Fill a buffer of `want` bytes; a source that ends before that is the error `cut`. -/
def readExact (s : Source) (want : Nat) : Except ε (List UInt8) × Source :=
  let (got, s) := s.fill want
  if got.length < want then (.error cut, s) else (.ok got, s)

def readExactOrEof (s : Source) (want : Nat) : Except ε (Option (List UInt8)) × Source :=
  let (got, s) := s.fill want
  if got.length = want then (.ok (some got), s)
  else if got = [] then (.ok none, s)
  else (.error cut, s)

lemma readExact_fst (s : Source) (want : Nat) : (s.readExact cut want).1 =
      if s.rest.length < want then .error cut else .ok (s.rest.take want) := by
  have hshort : (s.rest.take want).length < want ↔ s.rest.length < want := by
    rw [length_take]
    omega
  simp only [readExact, fill_bytes, hshort]
  split <;> rfl

lemma readExact_rest (s : Source) (want : Nat) :
    (s.readExact cut want).2.rest = s.rest.drop want := by
  simp only [readExact]
  split <;> exact fill_rest s want

lemma readExactOrEof_fst (s : Source) {want : Nat} (hwant : 0 < want) :
      (s.readExactOrEof cut want).1 = if s.rest = [] then .ok none
      else if s.rest.length < want then .error cut
      else .ok (some (s.rest.take want)) := by
  simp only [readExactOrEof, fill_bytes, length_take, take_eq_nil_iff]
  by_cases hnil : s.rest = []
  · simp [hnil, Nat.ne_of_lt hwant]
  · by_cases hshort : s.rest.length < want
    · have hne : min want s.rest.length ≠ want := by omega
      simp [hnil, hshort, hne, Nat.ne_of_gt hwant]
    · have heq : min want s.rest.length = want := by omega
      simp [hnil, hshort, heq]

lemma readExactOrEof_rest (s : Source) (want : Nat) :
    (s.readExactOrEof cut want).2.rest = s.rest.drop want := by
  simp only [readExactOrEof]
  split
  · exact fill_rest s want
  · split <;> exact fill_rest s want

@[simp] lemma readExactOrEof_data (s : Source)
    (want : Nat) : (s.readExactOrEof cut want).2.data = s.data := by
  simp only [readExactOrEof]
  split
  · exact fill_data s want
  · split <;> exact fill_data s want

/-! ## Reading to the end -/

def readAll (s : Source) (chunk : Nat) : List UInt8 × Source :=
  if _hgot : (s.read chunk).1 = [] then
    ([], (s.read chunk).2)
  else
    let more := readAll (s.read chunk).2 chunk
    ((s.read chunk).1 ++ more.1, more.2)
termination_by s.rest.length
decreasing_by
  have hpos : 0 < (s.read chunk).1.length := length_pos_iff.2 _hgot
  have hsplit := congrArg List.length (read_append_rest s chunk)
  rw [length_append] at hsplit
  omega

lemma readAll_bytes {chunk : Nat} (hchunk : chunk ≠ 0)
    (s : Source) : (s.readAll chunk).1 = s.rest := by
  induction s using readAll.induct chunk with
  | case1 s hgot =>
    rw [readAll]
    simp [hgot, (read_eq_nil_iff hchunk).1 hgot]
  | case2 s hgot ih =>
    rw [readAll]
    simp only [hgot, dif_neg, not_false_eq_true, ih]
    exact read_append_rest s chunk

@[simp] lemma readAll_data (s : Source) (chunk : Nat) : (s.readAll chunk).2.data = s.data := by
  induction s using readAll.induct chunk with
  | case1 s hgot =>
    rw [readAll]
    simp [hgot]
  | case2 s hgot ih =>
    rw [readAll]
    simpa [hgot] using ih

end Source
end MarlinspikeDpi
