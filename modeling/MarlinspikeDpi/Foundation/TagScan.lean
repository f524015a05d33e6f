import Mathlib.Data.List.Basic

/-!
# Elements found byte by byte

A scan looks at two adjacent bytes as a tag and a length.

* `hits_flip`: two scans of bytes that differ in one neutral byte.
-/

namespace MarlinspikeDpi.TagScan

open List

structure Hit where
  tag : UInt8
  value : List UInt8
deriving DecidableEq

variable (accept : UInt8 → UInt8 → Bool)

def hits : List UInt8 → List Hit
  | [] => []
  | [_] => []
  | tag :: len :: rest =>
    if accept tag len ∧ len.toNat ≤ rest.length then
      ⟨tag, rest.take len.toNat⟩ :: hits (rest.drop len.toNat)
    else hits (len :: rest)
termination_by bs => bs.length
decreasing_by
  · simp only [length_cons, length_drop]
    omega
  · simp only [length_cons]
    omega

/-- The scan of the bytes ends at their end, and has found the elements. -/
inductive Walk : List UInt8 → List Hit → Prop where
  | nil : Walk [] []
  | last (tag : UInt8) : Walk [tag] []
  | skip {tag len : UInt8} {rest : List UInt8} {found : List Hit} :
      accept tag len = false → Walk (len :: rest) found → Walk (tag :: len :: rest) found
  | hit {tag len : UInt8} {value rest : List UInt8} {found : List Hit} :
      accept tag len = true → value.length = len.toNat → Walk rest found →
        Walk (tag :: len :: (value ++ rest)) (⟨tag, value⟩ :: found)

variable {accept}

lemma hits_skip {tag len : UInt8} {rest : List UInt8} (h : accept tag len = false) :
    hits accept (tag :: len :: rest) = hits accept (len :: rest) := by
  rw [hits, if_neg (by simp [h])]

lemma hits_take {tag len : UInt8} {rest : List UInt8} (h : accept tag len = true)
    (hfits : len.toNat ≤ rest.length) :
    hits accept (tag :: len :: rest) = ⟨tag, rest.take len.toNat⟩ :: hits accept
      (rest.drop len.toNat) := by
  rw [hits, if_pos ⟨h, hfits⟩]

lemma hits_hit {tag len : UInt8} {value : List UInt8} (h : accept tag len = true)
    (hlen : value.length = len.toNat) (rest : List UInt8) :
    hits accept (tag :: len :: (value ++ rest)) = ⟨tag, value⟩ :: hits accept rest := by
  have hfits : len.toNat ≤ (value ++ rest).length := by
    rw [length_append]
    omega
  rw [hits_take h hfits, ← hlen, take_left, drop_left]

def NoLength (accept : UInt8 → UInt8 → Bool) (len : UInt8) : Prop := ∀ tag, accept tag len = false

lemma hits_append_of_walk {found : List Hit} {front : List UInt8} (h : Walk accept front found)
    {next : UInt8} (hnext : NoLength accept next) (rest : List UInt8) :
    hits accept (front ++ next :: rest) = found ++ hits accept (next :: rest) := by
  induction h with
  | nil => rfl
  | last tag => exact hits_skip (hnext tag)
  | skip hreject _ ih =>
    rw [cons_append, cons_append, hits_skip hreject]
    exact ih
  | hit haccept hlen _ ih =>
    rw [cons_append, cons_append, append_assoc, hits_hit haccept hlen, ih]
    rfl

lemma Walk.cons_of_reject {tag len : UInt8} {found : List Hit} (hreject : accept tag len = false)
    {before front behind : List UInt8}
    (h : Walk accept before found) (hsplit : len :: front = before ++ behind) :
    Walk accept (tag :: before) found := by
  cases before with
  | nil =>
    cases h
    exact .last tag
  | cons b before =>
    obtain ⟨rfl, -⟩ := List.cons.inj hsplit
    exact .skip hreject h

lemma Walk.accepted {found : List Hit} {front : List UInt8} (h : Walk accept front found) :
    ∀ hit ∈ found, ∃ len, accept hit.tag len = true := by
  induction h with
  | nil => exact forall_mem_nil _
  | last tag => exact forall_mem_nil _
  | skip _ _ ih => exact ih
  | hit haccept _ _ ih => exact forall_mem_cons.mpr ⟨⟨_, haccept⟩, ih⟩

/-- A byte that the scan takes neither for a tag nor for a length. -/
structure Neutral (accept : UInt8 → UInt8 → Bool) (byte : UInt8) : Prop where
  tag : ∀ len, accept byte len = false
  length : NoLength accept byte

lemma hits_neutral {byte : UInt8} (h : Neutral accept byte) (rest : List UInt8) :
    hits accept (byte :: rest) = hits accept rest := by
  cases rest with
  | nil => rw [hits, hits]
  | cons len rest => exact hits_skip (h.tag len)

/-- The element whose value a byte at the end of the front is in: the scan has come to its tag. -/
structure Covers (accept : UInt8 → UInt8 → Bool) (front : List UInt8) (before : List UInt8)
    (found : List Hit) (tag len : UInt8) (value : List UInt8) : Prop where
  split : front = before ++ tag :: len :: value
  walk : Walk accept before found
  accepted : accept tag len = true
  short : value.length < len.toNat

/-- What two scans find if only one neutral byte is different: the same, or the same but for the
value of the element that the byte is in. -/
theorem hits_flip {rest : List UInt8} {byte byte' : UInt8} (h : Neutral accept byte)
    (h' : Neutral accept byte') (front : List UInt8)
    (hfits : ∀ tag len, accept tag len = true → len.toNat ≤ rest.length + 1) :
    hits accept (front ++ byte :: rest) = hits accept (front ++ byte' :: rest) ∨
      ∃ before found tag len value behind later, Covers accept front before found tag len value ∧
        hits accept (front ++ byte :: rest) = found ++ ⟨tag, value ++ byte :: behind⟩ :: later ∧
        hits accept (front ++ byte' :: rest) = found ++ ⟨tag, value ++ byte' :: behind⟩ ::
          later := by
  induction hlen : front.length using Nat.strongRecOn generalizing front with
  | ind n ih =>
    match front, hlen with
    | [], _ =>
      left
      rw [nil_append, nil_append, hits_neutral h, hits_neutral h']
    | [tag], _ =>
      left
      show hits accept (tag :: byte :: rest) = hits accept (tag :: byte' :: rest)
      rw [hits_skip (h.length tag), hits_skip (h'.length tag), hits_neutral h, hits_neutral h']
    | tag :: len :: front, hlen =>
      rw [length_cons, length_cons] at hlen
      cases haccept : accept tag len with
      | false =>
        -- the scan goes on with the next byte
        have hskip : ∀ b, hits accept (tag :: len :: front ++ b :: rest) =
            hits accept (len :: front ++ b :: rest) := fun b => hits_skip haccept
        rw [hskip, hskip]
        rcases ih (front.length + 1) (by omega) (len :: front) rfl with
          hsame | ⟨before, found, t, l, value, behind, later, hcovers, hb, hb'⟩
        · exact .inl hsame
        · refine .inr ⟨tag :: before, found, t, l, value, behind, later, ?_, hb, hb'⟩
          exact ⟨by rw [hcovers.split, cons_append],
            hcovers.walk.cons_of_reject haccept hcovers.split, hcovers.accepted, hcovers.short⟩
      | true =>
        rcases Nat.lt_or_ge front.length len.toNat with hshort | hinside
        · -- the value goes on behind the front
          obtain ⟨k, hk⟩ := Nat.exists_eq_add_of_lt hshort
          have hvalue : ∀ b, hits accept (tag :: len :: front ++ b :: rest) =
              ⟨tag, front ++ b :: rest.take k⟩ :: hits accept (rest.drop k) := by
            intro b
            have hl := hfits tag len haccept
            have hwhole : len.toNat ≤ (front ++ b :: rest).length := by
              rw [length_append, length_cons]
              omega
            rw [cons_append, cons_append, hits_take haccept hwhole, hk, Nat.add_assoc,
              take_length_add_append, drop_length_add_append, take_succ_cons, drop_succ_cons]
          exact .inr ⟨[], [], tag, len, front, _, _, ⟨rfl, .nil, haccept, hshort⟩, hvalue byte,
            hvalue byte'⟩
        · have hhit : ∀ b, hits accept (tag :: len :: front ++ b :: rest) =
              ⟨tag, front.take len.toNat⟩ :: hits accept (front.drop len.toNat ++ b :: rest) := by
            intro b
            rw [cons_append, cons_append, hits_take haccept (by rw [length_append]; omega),
              take_append_of_le_length hinside, drop_append_of_le_length hinside]
          rw [hhit, hhit]
          rcases ih (front.drop len.toNat).length (by rw [length_drop]; omega) _ rfl with
            hsame | ⟨before, found, t, l, value, behind, later, hcovers, hb, hb'⟩
          · exact .inl (congrArg (_ :: ·) hsame)
          · refine .inr ⟨tag :: len :: (front.take len.toNat ++ before),
              ⟨tag, front.take len.toNat⟩ :: found, t, l,
              value, behind, later, ⟨?_, .hit haccept (length_take_of_le hinside) hcovers.walk,
              hcovers.accepted, hcovers.short⟩, ?_, ?_⟩
            · rw [cons_append, cons_append, append_assoc, ← hcovers.split, take_append_drop]
            · rw [hb]
              rfl
            · rw [hb']
              rfl

section

variable {σ : Type} (step : σ → Hit → σ) (done : σ → Bool)

def scanUntil : σ → List Hit → σ
  | s, [] => s
  | s, hit :: rest => if done (step s hit) then step s hit else scanUntil (step s hit) rest

variable {step done}

lemma scanUntil_append {s : σ} (hopen : done s = false) (front rest : List Hit) :
    scanUntil step done s (front ++ rest) =
      if done (scanUntil step done s front) then scanUntil step done s front
      else scanUntil step done (scanUntil step done s front) rest := by
  induction front generalizing s with
  | nil => rw [nil_append, scanUntil, if_neg (Bool.eq_false_iff.mp hopen)]
  | cons hit front ih =>
    rw [cons_append, scanUntil, scanUntil]
    cases hdone : done _ with
    | true => rw [if_pos rfl, if_pos rfl, if_pos hdone]
    | false =>
      rw [if_neg Bool.false_ne_true]
      exact ih hdone

lemma scanUntil_keeps {s : σ} {P : σ → Prop} {found : List Hit}
    (hstep : ∀ s, ∀ hit ∈ found, P s → P (step s hit))
    (h : P s) : P (scanUntil step done s found) := by
  induction found generalizing s with
  | nil => exact h
  | cons hit found ih =>
    obtain ⟨hhit, hfound⟩ : (∀ s, P s → P _) ∧ ∀ s, ∀ h ∈ found, P s → P _ :=
      ⟨fun s => hstep s hit mem_cons_self, fun s h hh => hstep s h (mem_cons_of_mem _ hh)⟩
    rw [scanUntil]
    split
    · exact hhit s h
    · exact ih hfound (hhit s h)

/-- Two scans of the same elements stay related if every element keeps them so and related states
are complete together. -/
theorem scanUntil_rel {R : σ → σ → Prop} (hdone : ∀ s s', R s s' → done s = done s')
    (hstep : ∀ s s' hit, R s s' → R (step s hit) (step s' hit)) {s s' : σ} (h : R s s')
    (found : List Hit) :
    R (scanUntil step done s found) (scanUntil step done s' found) := by
  induction found generalizing s s' with
  | nil => exact h
  | cons hit found ih =>
    have hnext := hstep s s' hit h
    rw [scanUntil, scanUntil, hdone _ _ hnext]
    split
    · exact hnext
    · exact ih hnext

variable (step done)

/-- The loop over the bytes. A length of zero, or a value that is cut off, is not looked at any
further. -/
def slidingScan (accept : UInt8 → UInt8 → Bool) : Nat → List UInt8 → σ → σ
  | 0, _, s => s
  | fuel + 1, bytes, s =>
    match bytes with
    | tag :: len :: rest =>
      if len = 0 ∨ rest.length < len.toNat then slidingScan accept fuel (len :: rest) s
      else if accept tag len then
        let s' := step s ⟨tag, rest.take len.toNat⟩
        if done s' then s' else slidingScan accept fuel (rest.drop len.toNat) s'
      else if done s then s else slidingScan accept fuel (len :: rest) s
    | _ => s

lemma slidingScan_eq_scanUntil {s : σ} (hzero : NoLength accept 0) {fuel : Nat} {bytes : List UInt8}
    (hfuel : bytes.length ≤ fuel) (hdone : done s = false) :
    slidingScan step done accept fuel bytes s = scanUntil step done s (hits accept bytes) := by
  -- every round moves on by one byte or by a whole element
  induction fuel generalizing bytes s with
  | zero =>
    rw [length_eq_zero_iff.mp (Nat.le_zero.mp hfuel), hits]
    rfl
  | succ fuel ih =>
    match bytes, hfuel with
    | [], _ =>
      rw [hits]
      rfl
    | [_], _ =>
      rw [hits]
      rfl
    | tag :: len :: rest, hfuel =>
      rw [length_cons, length_cons] at hfuel
      have hnext : (len :: rest).length ≤ fuel := by
        rw [length_cons]
        omega
      rw [slidingScan]
      split
      · next hcut =>
          have hreject : ¬(accept tag len = true ∧ len.toNat ≤ rest.length) := by
            rintro ⟨haccept, hfits⟩
            rcases hcut with rfl | hcut
            · rw [hzero tag] at haccept
              exact Bool.false_ne_true haccept
            · omega
          rw [hits, if_neg hreject]
          exact ih hnext hdone
      · next hwhole =>
          have hfits : len.toNat ≤ rest.length := by
            by_contra hcut
            exact hwhole (.inr (by omega))
          cases haccept : accept tag len with
          | true =>
            rw [hits_take haccept hfits, scanUntil, if_pos rfl]
            dsimp only
            split
            · rfl
            · next hopen =>
                exact ih (by rw [length_drop]; omega) (Bool.eq_false_iff.mpr hopen)
          | false =>
            rw [hits_skip haccept, hdone]
            exact ih hnext hdone

end

end MarlinspikeDpi.TagScan
