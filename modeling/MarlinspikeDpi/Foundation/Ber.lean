import MarlinspikeDpi.Foundation.Bytes
import Mathlib.Tactic.Linarith
import Mathlib.Tactic.NormNum
import Mathlib.Tactic.Positivity

/-!
# Elements with a tag and a definite length

An element is a tag, the length of its content, and the content.
-/

namespace MarlinspikeDpi.Ber

open Bytes List

/-- How a length is written: in one byte, or in so many bytes behind the byte that counts them. -/
inductive LengthForm where
  | short
  | long (count : Nat)
deriving DecidableEq

namespace LengthForm

def count : LengthForm → Nat
  | short => 0
  | long count => count

def Fits : LengthForm → Nat → Prop
  | short, n => n < 128
  | long count, n => 0 < count ∧ count < 127 ∧ n < 256 ^ count

instance (form : LengthForm) (n : Nat) : Decidable (form.Fits n) :=
  match form with
  | short => inferInstanceAs (Decidable (n < 128))
  | long count => inferInstanceAs (Decidable (0 < count ∧ count < 127 ∧ n < 256 ^ count))

lemma fits_one : short.Fits 1 := by decide

def octets : LengthForm → Nat → List UInt8
  | short, n => [UInt8.ofNat n]
  | long count, n => UInt8.ofNat (128 + count) :: toBe count n

lemma first_short {n : Nat} (h : n < 128) : UInt8.ofNat n &&& 0x80 = 0 ∧
    (UInt8.ofNat n).toNat = n := by
  have hall : ∀ k : Fin 128, UInt8.ofNat k.val &&& 0x80 = 0 := by decide
  exact ⟨hall ⟨n, h⟩, UInt8.toNat_ofNat_of_lt' (show n < 256 by omega)⟩

lemma first_long {count : Nat} (hpos : 0 < count) (hfour : count ≤ 4) :
    ¬UInt8.ofNat (128 + count) &&& 0x80 = 0 ∧
      (UInt8.ofNat (128 + count) &&& 0x7F).toNat = count := by
  have hall : ∀ k : Fin 4, ¬UInt8.ofNat (128 + (k.val + 1)) &&& 0x80 = 0 ∧
      (UInt8.ofNat (128 + (k.val + 1)) &&& 0x7F).toNat = k.val + 1 := by decide
  obtain ⟨k, rfl⟩ := Nat.exists_eq_add_of_le' hpos
  exact hall ⟨k, hfour⟩

/-- In the long form, a length below 256 ends with its byte and before it a zero or the byte that
counts. -/
theorem octets_long_end {count n : Nat} (hcount : 0 < count) (hn : n < 256) :
    ∃ front b, (long count).octets n = front ++ [b, UInt8.ofNat n] ∧ (b = 0x81 ∨ b = 0) := by
  have hzero : n / 256 = 0 := Nat.div_eq_of_lt hn
  match count, hcount with
  | 1, _ => exact ⟨[], 0x81, rfl, .inl rfl⟩
  | count + 2, _ =>
    refine ⟨UInt8.ofNat (128 + (count + 2)) :: toBe count 0, 0, ?_, .inr rfl⟩
    rw [octets, toBe, toLe, toLe, hzero, reverse_cons, reverse_cons, append_assoc]
    rfl

end LengthForm

structure Element where
  form : LengthForm
  content : List UInt8
  fits : form.Fits content.length

variable (form : LengthForm) (tag : UInt8) (content : List UInt8)

def tlv : List UInt8 := tag :: (form.octets content.length ++ content)

lemma length_add_two_le_tlv : content.length + 2 ≤ (tlv form tag content).length := by
  have hoctets : 1 ≤ (form.octets content.length).length := by
    cases form with
    | short => exact Nat.le_refl 1
    | long count => exact Nat.succ_le_succ (Nat.zero_le _)
  rw [tlv, length_cons, length_append]
  omega

def Element.encode (e : Element) : List UInt8 := tlv e.form tag e.content

def encodeOptional : Option Element → List UInt8
  | none => []
  | some e => e.encode tag

/-! ## What bytes encode -/

/-- The bytes are one element with the tag, and its content is as described. -/
def IsTlv (limit : Nat) (tag : UInt8) (described : List UInt8 → Prop) (bytes : List UInt8) : Prop :=
  ∃ form content, LengthForm.Fits form content.length ∧ form.count ≤ limit ∧ described content ∧
    bytes = tlv form tag content

variable {content}

lemma isTlv_short {described : List UInt8 → Prop} {limit : Nat} {tag : UInt8}
    (hdescribed : described content) (hsmall : content.length < 128) :
    IsTlv limit tag described (tlv .short tag content) :=
  ⟨.short, content, hsmall, Nat.zero_le _, hdescribed, rfl⟩

lemma isTlv_wrapped {described : List UInt8 → Prop} {limit : Nat} {outer tag : UInt8}
    (hdescribed : described content) (hsmall : content.length < 126) :
    IsTlv limit outer (IsTlv limit tag described) (tlv .short outer (tlv .short tag content)) := by
  have hlength : (tlv .short tag content).length = content.length + 2 := rfl
  exact isTlv_short (isTlv_short hdescribed (by omega)) (by omega)

abbrev Field : Type := UInt8 × (List UInt8 → Prop)

/-- The bytes are elements as described, one behind the other. -/
inductive Fields (limit : Nat) : List Field → List UInt8 → Prop where
  | nil : Fields limit [] []
  | cons {tag : UInt8} {described : List UInt8 → Prop} {fields : List Field}
      {bytes rest : List UInt8} : IsTlv limit tag described bytes → Fields limit fields rest →
        Fields limit ((tag, described) :: fields) (bytes ++ rest)

/-- A tag, and what the content of its element is like if there is one. -/
abbrev Slot : Type := UInt8 × Option (List UInt8 → Prop)

def present (slots : List Slot) : List Field := slots.filterMap fun slot => slot.2.map (slot.1, ·)

lemma tag_mem_of_mem_present {slots : List Slot} {field : Field} (h : field ∈ present slots) :
    field.1 ∈ slots.map Prod.fst := by
  obtain ⟨slot, hslot, hfield⟩ := mem_filterMap.mp h
  obtain ⟨described, -, rfl⟩ := Option.map_eq_some_iff.mp hfield
  exact mem_map_of_mem hslot

lemma find?_present {tag : UInt8} {slots : List Slot} (hnodup : (slots.map Prod.fst).Nodup)
    {described : Option (List UInt8 → Prop)} (hmem : (tag, described) ∈ slots) :
    (present slots).find? (fun field => field.1 == tag) = described.map (tag, ·) := by
  induction slots with
  | nil => exact absurd hmem not_mem_nil
  | cons slot slots ih =>
    obtain ⟨hfresh, hnodup⟩ := nodup_cons.mp hnodup
    rw [present, filterMap_cons]
    rcases mem_cons.mp hmem with rfl | hlater
    · cases described with
      | none =>
        -- the tag is not used again
        refine find?_eq_none.mpr fun field hfield htag => hfresh ?_
        rw [← beq_iff_eq.mp htag]
        exact tag_mem_of_mem_present hfield
      | some described => exact find?_cons_of_pos (beq_self_eq_true tag)
    · have hne : slot.1 ≠ tag := by
        rintro rfl
        exact hfresh (mem_map.mpr ⟨_, hlater, rfl⟩)
      cases hslot : slot.2 with
      | none => exact ih hnodup hlater
      | some other =>
        refine (find?_cons_of_neg ?_).trans (ih hnodup hlater)
        simpa using hne

/-! ## Signed numbers -/

def signed (bytes : List UInt8) : Int :=
  if 128 ≤ (byteAt bytes 0).toNat then (beNat bytes : Int) - 256 ^ bytes.length else beNat bytes

lemma signed_bounds {bytes : List UInt8} {w : Nat} (hlen : bytes.length = w + 1) :
    -(128 * 256 ^ w : Int) ≤ signed bytes ∧ signed bytes < 128 * 256 ^ w := by
  obtain ⟨b, rest, rfl⟩ := exists_cons_of_length_eq_add_one hlen
  have hrest : rest.length = w := Nat.succ_injective hlen
  have hvalue : beNat (b :: rest) = b.toNat * 256 ^ w + beNat rest := by
    have happend := beNat_append [b] rest
    rw [hrest] at happend
    simpa [beNat] using happend
  have hlt : beNat rest < 256 ^ w := beNat_lt hrest
  have hb : b.toNat < 256 := b.toNat_lt
  have hhead : byteAt (b :: rest) 0 = b := rfl
  rw [signed, hhead, hvalue, hlen, pow_succ]
  push_cast
  have hrestInt : (beNat rest : Int) < 256 ^ w := by exact_mod_cast hlt
  have hlow : 128 ≤ b.toNat → (128 : Int) * 256 ^ w ≤ b.toNat * 256 ^ w :=
    fun h => Int.mul_le_mul_of_nonneg_right (by omega) (by positivity)
  have hhigh : ∀ bound : Nat, b.toNat ≤ bound → (b.toNat : Int) * 256 ^ w ≤ bound * 256 ^ w :=
    fun bound h => Int.mul_le_mul_of_nonneg_right (by omega) (by positivity)
  have hpower : (0 : Int) < 256 ^ w := by positivity
  split
  · next hnegative =>
      have hl := hlow hnegative
      have hh := hhigh 255 (by omega)
      push_cast at hh
      constructor <;> linarith [Int.natCast_nonneg (beNat rest)]
  · next hpositive =>
      have hh := hhigh 127 (by omega)
      push_cast at hh
      have hnonneg : (0 : Int) ≤ b.toNat * 256 ^ w := by positivity
      constructor <;> linarith [Int.natCast_nonneg (beNat rest)]

lemma toInt_foldl_signExtend {bytes : List UInt8} (hne : bytes ≠ []) (hlen : bytes.length ≤ 8) :
    (bytes.foldl (fun (v : BitVec 64) b => (v <<< 8) ||| BitVec.ofNat 64 b.toNat)
      (if byteAt bytes 0 &&& 0x80 ≠ 0 then BitVec.allOnes 64 else 0)).toInt = signed bytes := by
  obtain ⟨w, hw⟩ := Nat.exists_eq_add_one_of_ne_zero (mt length_eq_zero_iff.mp hne)
  have hbounds := signed_bounds hw
  have hpower : (256 : Int) ^ w ≤ 256 ^ 7 := by
    apply pow_le_pow_right₀ (by decide)
    omega
  have hself : (signed bytes).bmod (2 ^ 64) = signed bytes := by
    apply Int.bmod_eq_of_le
    · norm_num
      linarith [hbounds.1]
    · norm_num
      linarith [hbounds.2]
  have hsign : byteAt bytes 0 &&& 0x80 ≠ 0 ↔ 128 ≤ (byteAt bytes 0).toNat := by
    have hall : ∀ n : Fin 256, UInt8.ofNat n &&& 0x80 ≠ 0 ↔ 128 ≤ n.val := by decide +kernel
    have hbyte := hall ⟨(byteAt bytes 0).toNat, (byteAt bytes 0).toNat_lt⟩
    rwa [UInt8.ofNat_toNat] at hbyte
  by_cases hnegative : 128 ≤ (byteAt bytes 0).toNat
  · have hones : BitVec.allOnes 64 = BitVec.ofNat 64 (2 ^ 64 - 1) := rfl
    have hvalue : (((2 ^ 64 - 1) * 256 ^ bytes.length + beNat bytes : Nat) : Int) =
        signed bytes + 2 ^ 64 * 256 ^ bytes.length := by
      rw [signed, if_pos hnegative]
      push_cast
      ring
    rw [if_pos (hsign.mpr hnegative), hones, foldl_shiftLeft_or_bitVec (by decide),
      BitVec.toInt_ofNat', hvalue]
    exact (Int.add_mul_bmod_self_left (signed bytes) (2 ^ 64) (256 ^ bytes.length)).trans hself
  · have hzero : (0 : BitVec 64) = BitVec.ofNat 64 0 := rfl
    rw [if_neg (mt hsign.mp hnegative), hzero, foldl_shiftLeft_or_bitVec (by decide),
      BitVec.toInt_ofNat', Nat.zero_mul, Nat.zero_add]
    have hvalue : signed bytes = beNat bytes := if_neg hnegative
    rw [hvalue] at hself ⊢
    exact hself

end MarlinspikeDpi.Ber
