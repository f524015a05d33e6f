import MarlinspikeDpi.Foundation.Ber
import MarlinspikeDpi.Iec61850.Dissector

/-!
# The invoke id of a confirmed request or response

The first element of such a unit is its invoke id, an INTEGER.

* `invokeId_recovered_iff`: for which shapes of a unit all ids are found.
-/

namespace MarlinspikeDpi.Iec61850

open Bytes Ber List

/-! ## The units -/

inductive ConfirmedKind where
  | request
  | response
deriving DecidableEq

def ConfirmedKind.tag : ConfirmedKind → UInt8
  | request => 0xA0
  | response => 0xA1

/-- The number of bytes of a non-negative INTEGER, which begins with a bit that is zero. -/
def idWidth (id : UInt32) : Nat :=
  if id.toNat < 2 ^ 7 then 1
  else if id.toNat < 2 ^ 15 then 2
  else if id.toNat < 2 ^ 23 then 3
  else if id.toNat < 2 ^ 31 then 4
  else 5

def idBytes (id : UInt32) : List UInt8 := toBe (idWidth id) id.toNat

def invokePdu (kind : ConfirmedKind) (form : LengthForm) (id : UInt32) (service : List UInt8) :
  List UInt8 := tlv form kind.tag (tlv .short 0x02 (idBytes id) ++ service)

/-- The lengths in a unit, and how that of the whole is written. -/
structure PduShape where
  kind : ConfirmedKind
  form : LengthForm
  (width serviceLength : Nat)
  width_range : 1 ≤ width ∧ width ≤ 5
  form_range : form.count ≤ 3
  fits : form.Fits (2 + width + serviceLength)

namespace PduShape

def contentLength (shape : PduShape) : Nat := 2 + shape.width + shape.serviceLength

/-- The bytes of the length that the scan looks at: it steps over one byte, and over two more behind
0x82. -/
def scanned (shape : PduShape) : List UInt8 :=
  match shape.form with
  | .short => []
  | .long 2 => []
  | .long count => toBe count shape.contentLength

/-- Every id is found in every unit of this shape. -/
def Recovered (shape : PduShape) : Prop :=
  ∀ id : UInt32, idWidth id = shape.width →
    ∀ service : List UInt8, service.length = shape.serviceLength →
      extractMmsInvokeId (invokePdu shape.kind shape.form id service) = some id

end PduShape

lemma toNat_lt_idWidth (id : UInt32) : id.toNat < 256 ^ idWidth id := by
  have hid := id.toNat_lt
  unfold idWidth
  split_ifs <;> omega

lemma length_idBytes (id : UInt32) : (idBytes id).length = idWidth id := length_toBe _ _

lemma length_content (id : UInt32) (service : List UInt8) :
    (tlv .short 0x02 (idBytes id) ++ service).length = 2 + idWidth id + service.length := by
  rw [length_append]
  show (idBytes id).length + 1 + 1 + service.length = _
  rw [length_idBytes]
  omega

/-! ## The scan -/

/-- Among the bytes and the tag 0x02 behind them, an INTEGER of one to four bytes seems to begin. -/
def FalseInteger (octets : List UInt8) : Prop :=
  ∃ front len behind, octets ++ [0x02] = front ++ 0x02 :: len :: behind ∧ 1 ≤ len ∧ len ≤ 4

lemma scanInvokeId_hit {len : UInt8} (hlen : 1 ≤ len ∧ len ≤ 4) (rounds : Nat) (rest : List UInt8) :
    scanInvokeId (rounds + 1) (0x02 :: len :: rest) =
      if rest.length < len.toNat then none else some (u32FromBytes (rest.take len.toNat)) := by
  have hrange : ¬(len = 0 ∨ 4 < len) := by
    rintro (rfl | h)
    · exact absurd hlen.1 (by decide)
    · exact absurd h (UInt8.not_lt.mpr hlen.2)
  rw [scanInvokeId]
  exact if_neg hrange

lemma scanInvokeId_miss {rest : List UInt8} {b : UInt8}
    (h : ∀ len behind, b = 0x02 → rest = len :: behind → ¬(1 ≤ len ∧ len ≤ 4)) (hne : rest ≠ [])
    (rounds : Nat) :
    scanInvokeId (rounds + 1) (b :: rest) = scanInvokeId rounds rest := by
  obtain ⟨len, behind, rfl⟩ := exists_cons_of_ne_nil hne
  rw [scanInvokeId]
  split
  · next hb =>
      have hrange : len = 0 ∨ 4 < len := by
        by_contra hnone
        obtain ⟨hzero, hbig⟩ := not_or.mp hnone
        have hpos : 0 < len.toNat := Nat.pos_of_ne_zero fun hz => hzero (UInt8.toNat_inj.mp hz)
        exact h len behind hb rfl ⟨UInt8.le_iff_toNat_le.mpr hpos, UInt8.not_lt.mp hbig⟩
      exact if_pos hrange
  · rfl

lemma FalseInteger.cons {octets : List UInt8} {b : UInt8} (h : FalseInteger octets) :
    FalseInteger (b :: octets) := by
  obtain ⟨front, len, behind, hsplit, hlen⟩ := h
  exact ⟨b :: front, len, behind, congrArg _ hsplit, hlen⟩

lemma scanInvokeId_cons {octets : List UInt8} {b : UInt8}
    (h : ∀ len behind, b = 0x02 → octets ++ [0x02] = len :: behind → ¬(1 ≤ len ∧ len ≤ 4))
    (rounds : Nat)
    (rest : List UInt8) :
    scanInvokeId (rounds + 1) (b :: octets ++ 0x02 :: rest) = scanInvokeId rounds
      (octets ++ 0x02 :: rest) := by
  apply scanInvokeId_miss
  · intro len behind hb hrest
    cases octets with
    | nil =>
      obtain ⟨rfl, -⟩ := cons.inj hrest
      exact h _ [] hb rfl
    | cons o octets =>
      obtain ⟨rfl, -⟩ := cons.inj hrest
      exact h _ _ hb rfl
  · simp

lemma scanInvokeId_clean {octets : List UInt8} (h : ¬FalseInteger octets) (rounds : Nat)
    (rest : List UInt8) :
    scanInvokeId (rounds + octets.length) (octets ++ 0x02 :: rest) = scanInvokeId rounds
      (0x02 :: rest) := by
  induction octets with
  | nil => rfl
  | cons b octets ih =>
    have hhead : ∀ len behind, b = 0x02 → octets ++ [0x02] = len :: behind →
        ¬(1 ≤ len ∧ len ≤ 4) := by
      rintro len behind rfl hsplit hlen
      exact h ⟨[], len, behind, congrArg _ hsplit, hlen⟩
    rw [length_cons, ← Nat.add_assoc, scanInvokeId_cons hhead]
    exact ih fun hfalse => h hfalse.cons

/-- With a false INTEGER the scan takes what follows it for the value: some of the bytes, or the
tag, and then what is behind the tag. -/
theorem scanInvokeId_false {octets : List UInt8} (h : FalseInteger octets) {rounds : Nat}
    (hrounds : octets.length ≤ rounds) :
    ∃ (len : Nat) (behind : List UInt8), len ≤ 4 ∧
      ∀ rest, scanInvokeId rounds (octets ++ 0x02 :: rest) =
      if (behind ++ rest).length < len then none
        else some (u32FromBytes ((behind ++ rest).take len)) := by
  induction octets generalizing rounds with
  | nil =>
    obtain ⟨front, len, behind, hsplit, -⟩ := h
    have hlen := congrArg length hsplit
    simp only [length_append, length_cons, length_nil] at hlen
    omega
  | cons b octets ih =>
    obtain ⟨rounds, rfl⟩ := Nat.exists_eq_add_of_le' hrounds
    by_cases hhead : ∀ len behind, b = 0x02 → octets ++ [0x02] = len :: behind →
      ¬(1 ≤ len ∧ len ≤ 4)
    · -- the false INTEGER begins later
      have hlater : FalseInteger octets := by
        obtain ⟨front, len, behind, hsplit, hlen⟩ := h
        cases front with
        | nil =>
          obtain ⟨rfl, hbehind⟩ := cons.inj hsplit
          exact absurd hlen (hhead len behind rfl hbehind)
        | cons f front => exact ⟨front, len, behind, (cons.inj hsplit).2, hlen⟩
      obtain ⟨len, behind, hfour, hscan⟩ := ih hlater (Nat.le_add_left _ rounds)
      refine ⟨len, behind, hfour, fun rest => ?_⟩
      rw [length_cons, ← Nat.add_assoc, scanInvokeId_cons hhead]
      exact hscan rest
    · push Not at hhead
      obtain ⟨len, behind, rfl, hbehind, hlen⟩ := hhead
      refine ⟨len.toNat, behind, UInt8.le_iff_toNat_le.mp hlen.2, fun rest => ?_⟩
      have hdata : octets ++ 0x02 :: rest = len :: (behind ++ rest) := by
        rw [← cons_append, ← hbehind, append_assoc]
        rfl
      rw [cons_append, hdata, length_cons, ← Nat.add_assoc, scanInvokeId_hit hlen]

/-! ## Units of a shape -/

lemma extract_of_tag {rest : List UInt8} {kind : ConfirmedKind} {first : UInt8}
    (hfirst : first ≠ 0x82) :
    extractMmsInvokeId (kind.tag :: first :: rest) = scanInvokeId 16 rest := by
  cases kind <;> simp [extractMmsInvokeId, ConfirmedKind.tag, byteAt, hfirst]

lemma extract_of_tag_long {rest : List UInt8} {kind : ConfirmedKind} {hi lo : UInt8} :
    extractMmsInvokeId (kind.tag :: 0x82 :: hi :: lo :: rest) = scanInvokeId 16 rest := by
  cases kind <;> simp [extractMmsInvokeId, ConfirmedKind.tag, byteAt]

namespace PduShape

variable (shape : PduShape)

lemma extract_invokePdu {id : UInt32} (hid : idWidth id = shape.width) {service : List UInt8}
    (hservice : service.length = shape.serviceLength) :
    extractMmsInvokeId (invokePdu shape.kind shape.form id service) =
      scanInvokeId 16 (shape.scanned ++ 0x02 :: UInt8.ofNat shape.width ::
        (idBytes id ++ service)) := by
  have hcontent : tlv .short 0x02 (idBytes id) ++ service =
      0x02 :: UInt8.ofNat shape.width :: (idBytes id ++ service) := by
    show 0x02 :: UInt8.ofNat _ :: (idBytes id ++ service) = _
    rw [length_idBytes, hid]
  have hlength := length_content id service
  rw [hid, hservice] at hlength
  rw [invokePdu, tlv, hlength, hcontent]
  have hfits := shape.fits
  have hrange := shape.form_range
  unfold scanned
  cases hform : shape.form with
  | short =>
    rw [hform] at hfits
    have hfirst : UInt8.ofNat shape.contentLength ≠ 0x82 := by
      intro h
      have hn := congrArg UInt8.toNat h
      rw [UInt8.toNat_ofNat_of_lt' (show shape.contentLength < 2 ^ 8 from Nat.lt_trans hfits
        (by decide))] at hn
      exact absurd (hn ▸ hfits : (0x82 : UInt8).toNat < 128) (by decide)
    exact extract_of_tag hfirst
  | long count =>
    rw [hform] at hfits hrange
    rcases count with _ | _ | _ | _ | count
    · exact absurd hfits.1 (by decide)
    · exact extract_of_tag (by decide)
    · exact extract_of_tag_long
    · exact extract_of_tag (by decide)
    · exact absurd hrange (by simp [LengthForm.count])

lemma length_scanned_le : shape.scanned.length ≤ 3 := by
  have hrange := shape.form_range
  unfold scanned
  split
  · decide
  · decide
  · next count _ hform =>
      rw [hform] at hrange
      rw [length_toBe]
      exact hrange

lemma recovered_of_clean (hwidth : shape.width ≤ 4) (hclean : ¬FalseInteger shape.scanned) :
    shape.Recovered := by
  intro id hid service hservice
  obtain ⟨rounds, hrounds⟩ : ∃ rounds, 16 = rounds + 1 + shape.scanned.length :=
    ⟨15 - shape.scanned.length, by have := shape.length_scanned_le; omega⟩
  have hpos := shape.width_range.1
  have hwidthNat : (UInt8.ofNat shape.width).toNat = shape.width :=
    UInt8.toNat_ofNat_of_lt' (show shape.width < 256 by omega)
  have hlen : 1 ≤ UInt8.ofNat shape.width ∧ UInt8.ofNat shape.width ≤ 4 := by
    rw [UInt8.le_iff_toNat_le, UInt8.le_iff_toNat_le, hwidthNat]
    exact ⟨hpos, hwidth⟩
  have hbytes : (idBytes id).length = shape.width := (length_idBytes id).trans hid
  have hvalue : beNat (idBytes id) = id.toNat := beNat_toBe (toNat_lt_idWidth id)
  rw [shape.extract_invokePdu hid hservice, hrounds, scanInvokeId_clean hclean,
    scanInvokeId_hit hlen, hwidthNat,
    if_neg (by rw [length_append]; omega), take_left' hbytes, u32FromBytes_eq, hvalue,
      UInt32.ofNat_toNat]

lemma exists_ids {width : Nat} (h : 1 ≤ width ∧ width ≤ 5) :
    ∃ (id id' : UInt32) (front : List UInt8) (last last' : UInt8), idWidth id = width ∧
      idWidth id' = width ∧
      idBytes id = front ++ [last] ∧ idBytes id' = front ++ [last'] ∧ id ≠ id' ∧
        0x02 ∉ idBytes id := by
  obtain ⟨hlow, hhigh⟩ := h
  interval_cases width
  · exact ⟨0, 1, [], 0, 1, by decide, by decide, by decide, by decide, by decide, by decide⟩
  · exact ⟨0x80, 0x81, [0], 0x80, 0x81, by decide, by decide, by decide, by decide, by decide, by
      decide⟩
  · exact ⟨0x8000, 0x8001, [0, 0x80], 0,
      1, by decide, by decide, by decide, by decide, by decide, by decide⟩
  · exact ⟨0x800000, 0x800001, [0, 0x80, 0], 0,
      1, by decide, by decide, by decide, by decide, by decide, by decide⟩
  · exact ⟨0x80000000, 0x80000001, [0, 0x80, 0, 0], 0,
      1, by decide, by decide, by decide, by decide, by decide, by decide⟩

lemma u32FromBytes_ne {id : UInt32} {len : Nat} {behind service : List UInt8} {width : UInt8}
    (hwidth : 1 ≤ width.toNat) (hfour : len ≤ 4)
    (hcovers : (behind ++ width :: idBytes id).length ≤ len) :
    u32FromBytes ((behind ++ width :: (idBytes id ++ service)).take len) ≠ id := by
  intro hsame
  obtain ⟨extra, hextra⟩ : ∃ extra, (behind ++ width :: (idBytes id ++ service)).take len =
      behind ++ width :: (idBytes id ++ extra) := by
    refine ⟨service.take (len - (behind ++ width :: idBytes id).length), ?_⟩
    have hsplit : ∀ more, behind ++ width :: (idBytes id ++ more) =
        (behind ++ width :: idBytes id) ++ more := by
      intro more
      rw [append_assoc, cons_append]
    rw [hsplit, hsplit, take_append, take_of_length_le hcovers]
  have hvalue := congrArg UInt32.toNat hsame
  have hshort : (behind ++ width :: (idBytes id ++ extra)).length ≤ 4 := by
    rw [← hextra, length_take]
    omega
  have hlt : beNat (behind ++ width :: (idBytes id ++ extra)) < 2 ^ 32 :=
    (beNat_lt rfl).trans_le (Nat.pow_le_pow_right (n := 256) (by decide) hshort)
  rw [hextra, u32FromBytes_eq, UInt32.toNat_ofNat', Nat.mod_eq_of_lt hlt] at hvalue
  have hlarge := pow_length_le_beNat behind hwidth (idBytes id ++ extra)
  have hpow : 256 ^ idWidth id ≤ 256 ^ (idBytes id ++ extra).length := by
    apply Nat.pow_le_pow_right (by decide)
    rw [length_append, length_idBytes]
    exact Nat.le_add_right _ _
  have hid := toNat_lt_idWidth id
  omega

lemma take_append_eq {len : Nat} {front : List UInt8} (h : len ≤ front.length)
    (rest rest' : List UInt8) : (front ++ rest).take len = (front ++ rest').take len := by
  rw [take_append_of_le_length h, take_append_of_le_length h]

lemma clean_of_recovered (h : shape.Recovered) : ¬FalseInteger shape.scanned := by
  intro hfalse
  have hrounds : shape.scanned.length ≤ 16 := Nat.le_trans shape.length_scanned_le (by decide)
  obtain ⟨len, behind, hfour, hscan⟩ := scanInvokeId_false hfalse hrounds
  obtain ⟨id, id', front, last, last', hid, hid', hbytes, hbytes', hne, -⟩ :=
    exists_ids shape.width_range
  have hzeros : (replicate shape.serviceLength (0 : UInt8)).length = shape.serviceLength :=
    length_replicate
  have hvalue : ∀ i, idWidth i = shape.width → u32FromBytes ((behind ++ UInt8.ofNat shape.width ::
      (idBytes i ++ replicate shape.serviceLength 0)).take len) = i := by
    intro i hi
    have hrecovered := h i hi _ hzeros
    rw [shape.extract_invokePdu hi hzeros, hscan] at hrecovered
    split at hrecovered
    · exact absurd hrecovered (by simp)
    · exact Option.some.inj hrecovered
  rcases Nat.lt_or_ge (behind ++ UInt8.ofNat _ :: front).length len with hcovers | hbefore
  · -- the value covers the id
    have hpos : 1 ≤ (UInt8.ofNat shape.width).toNat := by
      have hrange := shape.width_range
      rw [UInt8.toNat_ofNat_of_lt' (show shape.width < 256 by omega)]
      exact hrange.1
    refine u32FromBytes_ne hpos hfour ?_ (hvalue id hid)
    rw [hbytes]
    simp only [length_append, length_cons, length_nil] at hcovers ⊢
    omega
  · -- the value ends before the last byte of the id
    apply hne
    rw [← hvalue id hid, ← hvalue id' hid', hbytes, hbytes']
    have hsplit : ∀ last : UInt8, behind ++ UInt8.ofNat shape.width ::
        (front ++ [last] ++ replicate shape.serviceLength 0) =
          (behind ++ UInt8.ofNat shape.width :: front) ++
            ([last] ++ replicate shape.serviceLength 0) := by
      intro last
      simp
    rw [hsplit, hsplit, take_append_eq hbefore]

lemma scanInvokeId_none {bytes : List UInt8} (h : 0x02 ∉ bytes) (rounds : Nat) :
    scanInvokeId rounds bytes = none := by
  induction rounds generalizing bytes with
  | zero => rfl
  | succ rounds ih =>
    cases bytes with
    | nil => rfl
    | cons b bytes =>
      obtain ⟨hb, hbytes⟩ := not_or.mp (mt mem_cons.mpr h)
      exact (if_neg (Ne.symm hb)).trans (ih hbytes)

lemma width_of_recovered (h : shape.Recovered) : shape.width ≤ 4 := by
  by_contra hlong
  have hfive : shape.width = 5 := by
    have := shape.width_range
    omega
  have hclean := shape.clean_of_recovered h
  obtain ⟨rounds, hrounds⟩ : ∃ rounds, 16 = rounds + 1 + shape.scanned.length :=
    ⟨15 - shape.scanned.length, by have := shape.length_scanned_le; omega⟩
  obtain ⟨id, -, -, -, -, hid, -, -, -, -, hnone⟩ := exists_ids shape.width_range
  have hzeros : (replicate shape.serviceLength (0 : UInt8)).length = shape.serviceLength :=
    length_replicate
  have hrecovered := h id hid _ hzeros
  have hrest : 0x02 ∉ UInt8.ofNat 5 :: (idBytes id ++ replicate shape.serviceLength 0) := by
    rw [mem_cons, mem_append, mem_replicate]
    rintro (h | h | h)
    · exact absurd h (by decide)
    · exact hnone h
    · exact absurd h.2 (by decide)
  have hmiss : ∀ len behind, (0x02 : UInt8) = 0x02 →
      UInt8.ofNat 5 :: (idBytes id ++ replicate shape.serviceLength 0) = len :: behind →
        ¬(1 ≤ len ∧ len ≤ 4) := by
    intro len behind _ hsplit
    obtain ⟨rfl, -⟩ := cons.inj hsplit
    decide
  rw [shape.extract_invokePdu hid hzeros, hrounds, scanInvokeId_clean hclean, hfive,
    scanInvokeId_miss hmiss (cons_ne_nil _ _), scanInvokeId_none hrest] at hrecovered
  exact absurd hrecovered (by simp)

/-- The ids of a shape are found exactly if they have at most four bytes and the bytes of the length
that the scan looks at do not look like an INTEGER. -/
theorem invokeId_recovered_iff : shape.Recovered ↔ shape.width ≤ 4 ∧ ¬FalseInteger shape.scanned :=
  ⟨fun h => ⟨shape.width_of_recovered h, shape.clean_of_recovered h⟩,
    fun h => shape.recovered_of_clean h.1 h.2⟩

end PduShape

/-- The id 2147614983 needs five bytes, and the last three of them are taken for an INTEGER of their
own. -/
theorem largeId_misread :
    invokePdu .request .short 0x80020107 [0xA4, 0x00] =
        [0xA0, 0x09, 0x02, 0x05, 0x00, 0x80, 0x02, 0x01, 0x07, 0xA4, 0x00] ∧
      extractMmsInvokeId (invokePdu .request .short 0x80020107 [0xA4, 0x00]) = some 7 := by
  decide

end MarlinspikeDpi.Iec61850
