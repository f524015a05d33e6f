import MarlinspikeDpi.Ldap.Segmentation

/-!
# The values in a constructed value

A constructed value is walked one tag, length and value after another.

* `walkSequence_correct`: the walk finds the values that were written.
-/

namespace MarlinspikeDpi.Ldap

open Bytes List Ber Int

/-! ## One value -/

structure Tlv where
  tag : UInt8
  form : LengthForm
  value : List UInt8
  fits : value.length < form.capacity

def Tlv.encode (t : Tlv) : List UInt8 := t.tag :: (t.form.encode t.value.length ++ t.value)

lemma decodeTlv_encode (t : Tlv) (rest : List UInt8) :
    decodeTlv (t.encode ++ rest) = some (t.tag, t.value, t.encode.length) := by
  have hform : t.form.encode t.value.length ≠ [] := by cases t.form <;> exact cons_ne_nil _ _
  have hpos := length_pos_iff.2 hform
  have hlength := t.form.decodeBerLength_encode t.fits (t.value ++ rest)
  simp [decodeTlv, Tlv.encode, slice, byteAt, hlength, Nat.add_comm 1, Nat.add_right_comm,
    Nat.add_assoc]
  omega

lemma decodeTlv_eq_some {buf value : List UInt8} {tag : UInt8} {consumed : Nat}
    (h : decodeTlv buf = some (tag, value, consumed)) :
    ∃ start, 0 < start ∧ start + value.length = consumed ∧ consumed ≤ buf.length ∧
      byteAt buf 0 = tag ∧ slice buf start value.length = value := by
  rw [decodeTlv] at h
  split at h
  · cases h
  · obtain ⟨⟨vlen, llen⟩, -, h⟩ := Option.bind_eq_some_iff.1 h
    dsimp only at h
    split at h
    · cases h
    · rename_i hlong
      cases h
      -- the value is whole
      have hlength : (slice buf (1 + llen) vlen).length = vlen := by
        rw [slice, length_take, length_drop]
        omega
      rw [hlength]
      exact ⟨1 + llen, by omega, rfl, by omega, rfl, rfl⟩

/-! ## All values -/

lemma walkSequence_congr {bytes : List UInt8} {fuel fuel' : Nat} (hfuel : bytes.length ≤ fuel)
    (hfuel' : bytes.length ≤ fuel') : walkSequence fuel bytes = walkSequence fuel' bytes := by
  induction fuel generalizing fuel' bytes with
  | zero =>
    rw [length_eq_zero_iff.1 (Nat.le_zero.1 hfuel)]
    cases fuel' <;> rfl
  | succ fuel ih =>
    cases fuel' with
    | zero =>
      rw [length_eq_zero_iff.1 (Nat.le_zero.1 hfuel')]
      rfl
    | succ fuel' =>
      rw [walkSequence, walkSequence]
      split
      · rename_i tag value consumed hfound
        -- at least the tag is taken, so what is left needs less fuel
        obtain ⟨start, hstart, hconsumed, hwithin, -⟩ := decodeTlv_eq_some hfound
        rw [@ih (bytes.drop consumed) fuel' (by rw [length_drop]; omega)
          (by rw [length_drop]; omega)]
      · rfl

lemma children_cons (t : Tlv) (rest : List UInt8) :
    children (t.encode ++ rest) = (t.tag, t.value) :: children rest := by
  rw [children, Tlv.encode, cons_append, length_cons, walkSequence, ← cons_append, ← Tlv.encode,
    decodeTlv_encode]
  dsimp only
  rw [drop_left]
  congr 1
  refine walkSequence_congr ?_ le_rfl
  simp only [length_append]
  omega

/-- From an offset on, each tag stands where the value before it ends, and its value lies behind it
and within the bytes. -/
def InOrder (bytes : List UInt8) : Nat → List (UInt8 × List UInt8) → Prop
  | _, [] => True
  | pos, (tag, value) :: more =>
    ∃ start, pos < start ∧ start + value.length ≤ bytes.length ∧ byteAt bytes pos = tag ∧
      slice bytes start value.length = value ∧ InOrder bytes (start + value.length) more

lemma inOrder_walkSequence (bytes : List UInt8) (fuel pos : Nat) (hpos : pos ≤ bytes.length) :
    InOrder bytes pos (walkSequence fuel (bytes.drop pos)) := by
  induction fuel generalizing pos with
  | zero => trivial
  | succ fuel ih =>
    rw [walkSequence]
    split
    · rename_i tag value consumed hfound
      obtain ⟨start, hstart, hconsumed, hwithin, htag, hvalue⟩ := decodeTlv_eq_some hfound
      -- offsets into what is left count from `pos`
      rw [length_drop] at hwithin
      rw [slice, drop_drop] at hvalue
      rw [drop_drop]
      refine ⟨pos + start, by omega, by omega, ?_, hvalue, ?_⟩
      · rw [← htag, byteAt, byteAt, getD_eq_getElem?_getD, getD_eq_getElem?_getD, getElem?_drop,
          Nat.add_zero]
      · rw [Nat.add_assoc, hconsumed]
        exact ih (pos + consumed) (by omega)
    · trivial

/-! ## Numbers -/

def twosComplement (w : Nat) (v : Int) : List UInt8 := toBe w (v % 256 ^ w).toNat

lemma signed_twosComplement {w : Nat} {v : Int} (hlow : -(128 * 256 ^ w) ≤ v)
    (hhigh : v < 128 * 256 ^ w) : signed (twosComplement (w + 1) v) = v := by
  have hlength : (twosComplement (w + 1) v).length = w + 1 := length_toBe _ _
  have hpower : (0 : Int) < 256 ^ (w + 1) := by positivity
  have hvalue : (beNat (twosComplement (w + 1) v) : Int) = v % 256 ^ (w + 1) := by
    have hnonneg := emod_nonneg v hpower.ne'
    have hlt := emod_lt_of_pos v hpower
    rw [twosComplement, beNat_toBe (by zify; rwa [toNat_of_nonneg hnonneg]),
      toNat_of_nonneg hnonneg]
  have hsame : signed (twosComplement (w + 1) v) % 256 ^ (w + 1) = v % 256 ^ (w + 1) := by
    rw [signed, hlength, hvalue]
    split
    · rw [sub_emod_right, emod_emod]
    · rw [emod_emod]
  -- both lie in an interval as long as the modulus
  obtain ⟨hsignedLow, hsignedHigh⟩ := signed_bounds hlength
  refine sub_eq_zero.1 (eq_zero_of_abs_lt_dvd (Int.ModEq.dvd hsame.symm) ?_)
  rw [abs_lt, pow_succ]
  constructor <;> linarith

/-- The walk finds the values that were written, on any bytes it ends and takes values in order, and
numbers are read back. -/
theorem walkSequence_correct :
    (∀ tlvs : List Tlv, children (tlvs.flatMap Tlv.encode) = tlvs.map fun t => (t.tag, t.value)) ∧
      (∀ bytes fuel, bytes.length ≤ fuel →
        walkSequence fuel bytes = children bytes ∧ InOrder bytes 0 (children bytes)) ∧
      ∀ w < 8, ∀ v : Int, -(128 * 256 ^ w) ≤ v → v < 128 * 256 ^ w →
        (decodeInteger (twosComplement (w + 1) v)).map BitVec.toInt = some v := by
  refine ⟨fun tlvs => ?_, fun bytes fuel hfuel => ?_, fun w hw v hlow hhigh => ?_⟩
  · induction tlvs with
    | nil => rfl
    | cons t tlvs ih => rw [flatMap_cons, children_cons, ih, map_cons]
  · exact ⟨walkSequence_congr hfuel le_rfl, inOrder_walkSequence bytes bytes.length 0
      (Nat.zero_le _)⟩
  · have hlength : (twosComplement (w + 1) v).length = w + 1 := length_toBe _ _
    have hne : twosComplement (w + 1) v ≠ [] := ne_nil_of_length_eq_add_one hlength
    rw [decodeInteger, if_neg (by rw [hlength]; simp [hne]; omega), Option.map_some,
      toInt_foldl_signExtend hne (by omega), signed_twosComplement hlow hhigh]

end MarlinspikeDpi.Ldap
