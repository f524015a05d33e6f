import MarlinspikeDpi.Foundation.Source

/-!
# Files that are sequences of records

Many file formats are a header followed by records, and their readers are all the same loop: pull
the next record from the source, hand it to a callback, stop at the end of the file or at the first
error.
-/

namespace MarlinspikeDpi

open List

/-- A reader of single records.  `pull` answers `none` at the end of the file. -/
structure RecordReader (α ε : Type) where
  pull : Source → Except ε (Option α) × Source
  /-- What `pull` finds, as a function of the remaining bytes. -/
  next : List UInt8 → Except ε (Option (α × List UInt8))
  /-- A record takes up at least one byte. -/
  next_shrinks : ∀ {bytes a rest}, next bytes = .ok (some (a, rest)) → rest.length < bytes.length
  next_rest : ∀ s, next s.rest = (pull s).1.map (Option.map fun a => (a, (pull s).2.rest))

open RecordReader

namespace RecordReader

variable {α β ε : Type}

/-- Hand records to a callback until it fails; then the given outcome. -/
def feed (body : β → α → Except ε Unit × β) : β → List α → Except ε Unit → Except ε Unit × β
  | b, [], outcome => (outcome, b)
  | b, a :: as, outcome =>
    match body b a with
    | (.error e, b) => (.error e, b)
    | (.ok _, b) => feed body b as outcome

def collect (seen : List α) (a : α) : Except ε Unit × List α := (.ok (), seen ++ [a])

lemma feed_collect (seen as : List α) (outcome : Except ε Unit) :
    feed collect seen as outcome = (outcome, seen ++ as) := by
  induction as generalizing seen with
  | nil => simp [feed]
  | cons a as ih => simp [feed, collect, ih]

variable (r : RecordReader α ε)

lemma next_of_pull {s : Source} {found : Except ε (Option α)} (h : (r.pull s).1 = found) :
    r.next s.rest = found.map (Option.map fun a => (a, (r.pull s).2.rest)) := by
  rw [r.next_rest, h]

def forEach (body : β → α → Except ε Unit × β) (b : β) (s : Source) : Except ε Unit × β :=
  match _h : (r.pull s).1 with
  | .error e => (.error e, b)
  | .ok none => (.ok (), b)
  | .ok (some a) =>
    match body b a with
    | (.error e, b) => (.error e, b)
    | (.ok _, b) => forEach body b (r.pull s).2
termination_by s.rest.length
decreasing_by exact r.next_shrinks (r.next_of_pull _h)

/-! ## The records of a byte string -/

/-- The records at the front of `bytes`, at most `fuel` of them, and how the sequence ends. -/
def itemsWithin : Nat → List UInt8 → List α × Except ε Unit
  | 0, _ => ([], .ok ())
  | fuel + 1, bytes =>
    match r.next bytes with
    | .error e => ([], .error e)
    | .ok none => ([], .ok ())
    | .ok (some (a, rest)) =>
      let (as, outcome) := itemsWithin fuel rest
      (a :: as, outcome)

/-- All records of a byte string; there are no more of them than bytes. -/
def items (bytes : List UInt8) : List α × Except ε Unit := r.itemsWithin (bytes.length + 1) bytes

lemma itemsWithin_eq_items {bytes : List UInt8} {fuel : Nat} (h : bytes.length < fuel) :
    r.itemsWithin fuel bytes = r.items bytes := by
  suffices hany : ∀ n m (bs : List UInt8), bs.length < n → bs.length < m →
      r.itemsWithin n bs = r.itemsWithin m bs from hany _ _ _ h (Nat.lt_succ_self _)
  intro n
  induction n with
  | zero =>
    intro m bs hn _
    exact absurd hn (Nat.not_lt_zero _)
  | succ n ih =>
    intro m bs hn hm
    cases m with
    | zero => exact absurd hm (Nat.not_lt_zero _)
    | succ m =>
      simp only [itemsWithin]
      split
      · rfl
      · rfl
      · next a rest hnext =>
          have hless := r.next_shrinks hnext
          rw [ih m rest (by omega) (by omega)]

variable {r}

lemma items_error {bytes : List UInt8} {e : ε} (h : r.next bytes = .error e) :
    r.items bytes = ([], .error e) := by
  simp only [items, itemsWithin, h]

lemma items_none {bytes : List UInt8} (h : r.next bytes = .ok none) :
    r.items bytes = ([], .ok ()) := by
  simp only [items, itemsWithin, h]

lemma items_some {bytes : List UInt8} {rest : List UInt8} {a : α}
    (h : r.next bytes = .ok (some (a, rest))) :
    r.items bytes = (a :: (r.items rest).1, (r.items rest).2) := by
  have hless := r.next_shrinks h
  simp only [items, itemsWithin, h]
  rw [r.itemsWithin_eq_items hless]
  rfl

variable (r)

lemma forEach_eq (body : β → α → Except ε Unit × β) (b : β) (s : Source) :
    r.forEach body b s = feed body b (r.items s.rest).1 (r.items s.rest).2 := by
  induction b, s using forEach.induct r body with
  | case1 b s e hpull =>
    rw [forEach, items_error (r.next_of_pull hpull)]
    split <;> simp_all [feed]
  | case2 b s hpull =>
    rw [forEach, items_none (r.next_of_pull hpull)]
    split <;> simp_all [feed]
  | case3 b s a hpull e b' hbody =>
    rw [forEach, items_some (r.next_of_pull hpull)]
    split <;> simp_all [feed]
  | case4 b s a hpull u b' hbody ih =>
    rw [forEach, items_some (r.next_of_pull hpull)]
    split <;> simp_all [feed]

variable {r}

/-- If a record is found as well in front of more bytes, a longer byte string has the same records
at its front. -/
lemma items_front (hstable : ∀ {bytes a rest} more, r.next bytes = .ok (some (a, rest)) →
      r.next (bytes ++ more) = .ok (some (a, rest ++ more))) (bytes more : List UInt8) :
    (r.items bytes).1 <+: (r.items (bytes ++ more)).1 := by
  induction hlen : bytes.length using Nat.strongRecOn generalizing bytes with
  | ind n ih =>
    cases hnext : r.next bytes with
    | error e =>
      rw [items_error hnext]
      exact nil_prefix
    | ok found =>
      cases found with
      | none =>
        rw [items_none hnext]
        exact nil_prefix
      | some found =>
        rw [items_some hnext, items_some (hstable more hnext)]
        exact cons_prefix_cons.2 ⟨rfl, ih _ (hlen ▸ r.next_shrinks hnext) _ rfl⟩

end RecordReader

/-! ## Encoded files -/

/-- An encoder of records that a reader understands: it finds an encoded record in front of
anything, the empty string is the end of a file, and a record that is cut off is an error. -/
structure Codec {α ε : Type} (r : RecordReader α ε) (γ : Type) where
  encode : γ → List UInt8
  value : γ → α
  next_encode : ∀ g tail, r.next (encode g ++ tail) = .ok (some (value g, tail))
  next_nil : r.next [] = .ok none
  next_cut : ∀ g n, 0 < n → n < (encode g).length → ∃ e, r.next ((encode g).take n) = .error e

namespace Codec

variable {α ε γ : Type} {r : RecordReader α ε} (c : Codec r γ)

variable (gs : List γ)

def file : List UInt8 := gs.flatMap c.encode

/-- The offset at which the first `k` records end. -/
def boundary (k : Nat) : Nat := (c.file (gs.take k)).length

lemma items_file : r.items (c.file gs) = (gs.map c.value, .ok ()) := by
  induction gs with
  | nil => exact items_none c.next_nil
  | cons g gs ih =>
    have hnext := c.next_encode g (c.file gs)
    calc
      r.items (c.file (g :: gs))
          = (c.value g :: (r.items (c.file gs)).1, (r.items (c.file gs)).2) := items_some hnext
      _ = ((g :: gs).map c.value, .ok ()) := by rw [ih, map_cons]

@[simp] lemma boundary_zero : c.boundary gs 0 = 0 := rfl

lemma boundary_cons (g : γ) (gs : List γ) (k : Nat) :
    c.boundary (g :: gs) (k + 1) = (c.encode g).length + c.boundary gs k := by
  simp [boundary, file]

/-- How a file that is cut off after `n` bytes is read. -/
structure CutAt (gs : List γ) (n k : Nat) (found : List α × Except ε Unit) : Prop where
  /-- `k` counts the records that lie wholly in front of the cut. -/
  le_length : k ≤ gs.length
  boundary_le : c.boundary gs k ≤ n
  maximal : ∀ j ≤ gs.length, c.boundary gs j ≤ n → j ≤ k
  /-- These records are read. -/
  items : found.1 = (gs.take k).map c.value
  /-- Reading ends well exactly if the cut is between two records. -/
  outcome : found.2.isOk = true ↔ ∃ j ≤ gs.length, n = c.boundary gs j

variable {c}

lemma CutAt.first {g : γ} {gs : List γ} {n : Nat} (h : n < (c.encode g).length) :
    c.CutAt (g :: gs) n 0 (r.items ((c.encode g).take n)) := by
  have hbehind : ∀ j, n < c.boundary (g :: gs) (j + 1) := by
    intro j
    rw [c.boundary_cons]
    omega
  have hmaximal : ∀ j ≤ (g :: gs).length, c.boundary (g :: gs) j ≤ n → j ≤ 0 := by
    intro j _ hle
    cases j with
    | zero => exact Nat.le_refl 0
    | succ j => exact absurd hle (Nat.not_le_of_lt (hbehind j))
  cases n with
  | zero =>
    have hitems : r.items ((c.encode g).take 0) = ([], .ok ()) := items_none c.next_nil
    refine ⟨Nat.zero_le _, Nat.le_refl _, hmaximal, by rw [hitems]; rfl, ?_⟩
    rw [hitems]
    exact ⟨fun _ => ⟨0, Nat.zero_le _, rfl⟩, fun _ => rfl⟩
  | succ n =>
    rcases c.next_cut g (n + 1) (Nat.succ_pos n) h with ⟨e, he⟩
    have hitems := items_error he
    refine ⟨Nat.zero_le _, Nat.zero_le _, hmaximal, by rw [hitems]; rfl, ?_⟩
    rw [hitems]
    constructor
    · intro hok
      cases hok
    · rintro ⟨j, _, hj⟩
      cases j with
      | zero => cases hj
      | succ j => exact absurd hj (Nat.ne_of_lt (hbehind j))

lemma CutAt.cons {g : γ} {gs : List γ} {n k : Nat} {found : List α × Except ε Unit}
    (h : c.CutAt gs n k found) :
    c.CutAt (g :: gs) ((c.encode g).length + n) (k + 1) (c.value g :: found.1, found.2) where
  le_length := Nat.succ_le_succ h.le_length
  boundary_le := by
    rw [c.boundary_cons]
    exact Nat.add_le_add_left h.boundary_le _
  maximal := by
    intro j hj hle
    cases j with
    | zero => exact Nat.zero_le _
    | succ j =>
      rw [c.boundary_cons] at hle
      exact Nat.succ_le_succ (h.maximal j (Nat.le_of_succ_le_succ hj)
        (Nat.le_of_add_le_add_left hle))
  items := by rw [h.items, take_succ_cons, map_cons]
  outcome := by
    refine h.outcome.trans ⟨?_, ?_⟩
    · rintro ⟨j, hj, rfl⟩
      exact ⟨j + 1, Nat.succ_le_succ hj, (c.boundary_cons g gs j).symm⟩
    · rintro ⟨j, hj, heq⟩
      cases j with
      | zero =>
        -- a record is not empty, so the cut is behind the start of the file
        have hpos := r.next_shrinks (c.next_encode g [])
        rw [append_nil] at hpos
        rw [c.boundary_zero] at heq
        omega
      | succ j =>
        rw [c.boundary_cons] at heq
        exact ⟨j, Nat.le_of_succ_le_succ hj, Nat.add_left_cancel heq⟩

lemma exists_cutAt (n : Nat) (hn : n ≤ (c.file gs).length) :
    ∃ k, c.CutAt gs n k (r.items ((c.file gs).take n)) := by
  induction gs generalizing n with
  | nil =>
    cases Nat.le_zero.1 hn
    have hitems : r.items [] = ([], .ok ()) := items_none c.next_nil
    refine ⟨0, Nat.le_refl _, Nat.le_refl _, fun j hj _ => hj, ?_, ?_⟩
    · exact congrArg _ hitems
    · have hok : (r.items ((c.file []).take 0)).2 = .ok () := congrArg _ hitems
      rw [hok]
      exact ⟨fun _ => ⟨0, Nat.le_refl _, rfl⟩, fun _ => rfl⟩
  | cons g gs ih =>
    have hfile : c.file (g :: gs) = c.encode g ++ c.file gs := flatMap_cons
    rw [hfile] at hn ⊢
    rcases Nat.lt_or_ge n _ with hless | hge
    · rw [take_append_of_le_length (Nat.le_of_lt hless)]
      exact ⟨0, CutAt.first hless⟩
    · rcases Nat.exists_eq_add_of_le hge with ⟨m, rfl⟩
      rw [length_append] at hn
      rcases ih m (Nat.le_of_add_le_add_left hn) with ⟨k, hk⟩
      refine ⟨k + 1, ?_⟩
      rw [take_length_add_append, items_some (c.next_encode g _)]
      exact hk.cons

end Codec

/-! ## Records with a header and a body -/

/-- A record format: a header of fixed size, from which the length of the body is computed. -/
structure Framed (η α ε : Type) where
  headerLen : Nat
  headerLen_pos : 0 < headerLen
  parseHeader : List UInt8 → Except ε η
  bodyLen : η → Nat
  build : η → List UInt8 → α
  /-- The errors for a file that ends within a header or within a body. -/
  (cutHeader cutBody : ε)

namespace Framed

variable {η α ε : Type} (f : Framed η α ε)

/-- Read a header unless the file ends here, look at it, then read the body. -/
def pull (s : Source) : Except ε (Option α) × Source :=
  match s.readExactOrEof f.cutHeader f.headerLen with
  | (.error e, s) => (.error e, s)
  | (.ok none, s) => (.ok none, s)
  | (.ok (some header), s) =>
    match f.parseHeader header with
    | .error e => (.error e, s)
    | .ok h =>
      match s.readExact f.cutBody (f.bodyLen h) with
      | (.error e, s) => (.error e, s)
      | (.ok body, s) => (.ok (some (f.build h body)), s)

def next (bytes : List UInt8) : Except ε (Option (α × List UInt8)) :=
  if bytes = [] then .ok none
  else if bytes.length < f.headerLen then .error f.cutHeader
  else
    match f.parseHeader (bytes.take f.headerLen) with
    | .error e => .error e
    | .ok h =>
      if (bytes.drop f.headerLen).length < f.bodyLen h then .error f.cutBody
      else
        .ok (some (f.build h ((bytes.drop f.headerLen).take (f.bodyLen h)),
          (bytes.drop f.headerLen).drop (f.bodyLen h)))

lemma next_shrinks {bytes rest : List UInt8} {a : α}
    (h : f.next bytes = .ok (some (a, rest))) : rest.length < bytes.length := by
  have hpos := f.headerLen_pos
  unfold next at h
  split at h
  · cases h
  · split at h
    · cases h
    · split at h
      · cases h
      · split at h
        · cases h
        · cases h
          simp only [length_drop]
          omega

lemma next_rest (s : Source) : f.next s.rest = (f.pull s).1.map
    (Option.map fun a => (a, (f.pull s).2.rest)) := by
  have hheader := s.readExactOrEof_fst f.cutHeader f.headerLen_pos
  have hbehind := s.readExactOrEof_rest f.cutHeader f.headerLen
  unfold next pull
  generalize s.readExactOrEof f.cutHeader f.headerLen = found at hheader hbehind ⊢
  rcases found with ⟨result, s'⟩
  dsimp only at hheader hbehind
  subst hheader
  split
  · rfl
  · split
    · rfl
    · dsimp only
      cases f.parseHeader (s.rest.take f.headerLen) with
      | error e => rfl
      | ok h =>
        have hbody := s'.readExact_fst f.cutBody (f.bodyLen h)
        have hend := s'.readExact_rest f.cutBody (f.bodyLen h)
        rw [hbehind] at hbody hend
        dsimp only
        generalize s'.readExact f.cutBody (f.bodyLen h) = read at hbody hend ⊢
        rcases read with ⟨result, s''⟩
        dsimp only at hbody hend
        subst hbody
        split
        · rfl
        · simp only [Except.map, Option.map, hend]

lemma next_append {bytes rest : List UInt8} {a : α} (more : List UInt8)
    (h : f.next bytes = .ok (some (a, rest))) :
      f.next (bytes ++ more) = .ok (some (a, rest ++ more)) := by
  have hheader : f.headerLen ≤ bytes.length := by
    unfold next at h
    grind
  have hne : bytes ++ more ≠ [] := by
    intro hnil
    simp_all [next]
  unfold next at h ⊢
  rw [if_neg hne, if_neg (by simp; omega), take_append_of_le_length hheader,
    drop_append_of_le_length hheader]
  grind

def reader : RecordReader α ε :=
  { pull := f.pull, next := f.next, next_shrinks := f.next_shrinks, next_rest := f.next_rest }

structure Encoder (γ : Type) where
  (header body : γ → List UInt8)
  parsed : γ → η
  length_header : ∀ g, (header g).length = f.headerLen
  parseHeader_header : ∀ g, f.parseHeader (header g) = .ok (parsed g)
  bodyLen_parsed : ∀ g, f.bodyLen (parsed g) = (body g).length

namespace Encoder

variable {f} {γ : Type}

lemma next_header (enc : f.Encoder γ) (g : γ) (bytes : List UInt8) :
      f.next (enc.header g ++ bytes) = if bytes.length < (enc.body g).length then .error f.cutBody
      else .ok (some (f.build (enc.parsed g) (bytes.take (enc.body g).length),
        bytes.drop (enc.body g).length)) := by
  have hlen := enc.length_header g
  have hpos := f.headerLen_pos
  have hne : enc.header g ++ bytes ≠ [] := by
    intro hnil
    rw [append_eq_nil_iff.1 hnil |>.1, length_nil] at hlen
    omega
  have hlong : ¬ (enc.header g ++ bytes).length < f.headerLen := by
    rw [length_append]
    omega
  have htake : (enc.header g ++ bytes).take f.headerLen = enc.header g := by rw [← hlen, take_left]
  have hdrop : (enc.header g ++ bytes).drop f.headerLen = bytes := by rw [← hlen, drop_left]
  unfold next
  rw [if_neg hne, if_neg hlong, htake, hdrop, enc.parseHeader_header g]
  dsimp only
  rw [enc.bodyLen_parsed g]

lemma next_cut (enc : f.Encoder γ) (g : γ) (n : Nat) (hpos : 0 < n)
    (hn : n < (enc.header g ++ enc.body g).length) :
    ∃ e, f.next ((enc.header g ++ enc.body g).take n) = .error e := by
  rw [length_append] at hn
  rcases Nat.lt_or_ge n _ with hheader | hbody
  · refine ⟨f.cutHeader, ?_⟩
    rw [take_append_of_le_length (Nat.le_of_lt hheader)]
    have hlen : ((enc.header g).take n).length = n := by
      rw [length_take]
      omega
    have hne : (enc.header g).take n ≠ [] := by
      intro hnil
      rw [hnil, length_nil] at hlen
      omega
    have hshort : ((enc.header g).take n).length < f.headerLen := by
      rw [hlen, ← enc.length_header g]
      exact hheader
    unfold next
    rw [if_neg hne, if_pos hshort]
  · refine ⟨f.cutBody, ?_⟩
    rcases Nat.exists_eq_add_of_le hbody with ⟨m, rfl⟩
    have hshort : ((enc.body g).take m).length < (enc.body g).length := by
      rw [length_take]
      omega
    rw [take_length_add_append, enc.next_header, if_pos hshort]

def codec (enc : f.Encoder γ) : Codec f.reader γ :=
  { encode := fun g => enc.header g ++ enc.body g
    value := fun g => f.build (enc.parsed g) (enc.body g)
    next_encode := by
      intro g tail
      have hlong : ¬ (enc.body g ++ tail).length < (enc.body g).length := by
        rw [length_append]
        omega
      calc
        f.next (enc.header g ++ enc.body g ++ tail)
            = f.next (enc.header g ++ (enc.body g ++ tail)) := by rw [append_assoc]
        _ = _ := by rw [enc.next_header, if_neg hlong, take_left, drop_left]
    next_nil := rfl
    next_cut := enc.next_cut }

end Encoder
end Framed
end MarlinspikeDpi
