import MarlinspikeDpi.Foundation.LastWrite
import MarlinspikeDpi.Iec61850.Dissector

/-!
# The parameters of a connection

A COTP connection request or confirm has a fixed part of seven bytes and then parameters, each with
a code and a length.

* `layout_described_iff`: which units are described rightly.
-/

namespace MarlinspikeDpi.Iec61850

open Bytes Text List

/-! ## The text of a selector -/

lemma hexUpper_toList (b : UInt8) :
    (hexUpper b).toList = (hexDigits 2 b.toNat).map Char.toUpper := by
  rw [hexUpper, toAsciiUppercase, hexPad, String.toList_ofList, String.toList_ofList]

def digitValue (c : Char) : Nat := if c.isDigit then c.toNat - 48 else c.toNat - 55

lemma digitValue_hexDigit : ∀ d : Fin 16, digitValue (hexDigit d).toUpper = d := by decide

lemma hexUpper_injective : Function.Injective hexUpper := by
  intro b b' h
  have hvalue : ∀ a : UInt8, ((hexUpper a).toList.map digitValue) =
      [a.toNat / 16, a.toNat % 16] := by
    intro a
    have ha : a.toNat < 256 := a.toNat_lt
    have hhigh := digitValue_hexDigit ⟨a.toNat / 16 % 16, by omega⟩
    have hlow := digitValue_hexDigit ⟨a.toNat % 16, by omega⟩
    rw [hexUpper_toList]
    simp only [hexDigits, nil_append, singleton_append, map_cons, map_nil] at hhigh hlow ⊢
    rw [hhigh, hlow, Nat.mod_eq_of_lt (show a.toNat / 16 < 16 by omega)]
  have hdigits := hvalue b
  rw [h, hvalue b'] at hdigits
  simp only [List.cons.injEq, and_true] at hdigits
  exact UInt8.toNat_inj.mp (by omega)

lemma length_hexUpper (b : UInt8) : (hexUpper b).toList.length = 2 := by
  rw [hexUpper_toList]
  rfl

lemma colon_not_mem_hexUpper (b : UInt8) : ':' ∉ (hexUpper b).toList := by
  have hdigit : ∀ d : Fin 16, ':' ≠ (hexDigit d).toUpper := by decide
  rw [hexUpper_toList, mem_map]
  rintro ⟨c, hc, hupper⟩
  obtain ⟨d, hd, rfl⟩ := exists_of_mem_hexDigits hc
  exact hdigit ⟨d, hd⟩ hupper.symm

lemma formatTsap_joined {bytes : List UInt8} (hone : bytes.length ≠ 1) (htwo : bytes.length ≠ 2) :
    (formatTsap bytes).toList = [':'].intercalate (bytes.map fun b => (hexUpper b).toList) := by
  have hsep : ":".toList = [':'] := rfl
  match bytes, hone, htwo with
  | [], _, _ => rfl
  | a :: b :: c :: more, _, _ =>
    show (":".intercalate _).toList = _
    rw [String.toList_intercalate, map_map]
    rfl

/-- How long the text of a selector is: no two lengths give texts of the same length. -/
def textLength : Nat → Nat
  | 0 => 0
  | 1 => 4
  | 2 => 6
  | n + 3 => 3 * n + 8

lemma textLength_injective : Function.Injective textLength := by
  have hlater : ∀ n, textLength n < textLength (n + 1) := by
    intro n
    match n with
    | 0 | 1 | 2 => decide
    | n + 3 =>
      simp only [textLength]
      omega
  exact (strictMono_nat_of_lt_succ hlater).injective

lemma length_formatTsap (bytes : List UInt8) :
    (formatTsap bytes).toList.length = textLength bytes.length := by
  match bytes with
  | [] => rfl
  | [a] =>
    show ("0x" ++ hexUpper a).toList.length = 4
    rw [String.toList_append, length_append, length_hexUpper]
    rfl
  | [a, b] =>
    show ("0x" ++ hexUpper a ++ hexUpper b).toList.length = 6
    rw [String.toList_append, String.toList_append, length_append, length_append, length_hexUpper,
      length_hexUpper]
    rfl
  | a :: b :: c :: more =>
    have hparts : ∀ bs : List UInt8,
        ((bs.map fun b => (hexUpper b).toList).flatMap (':' :: ·)).length = 3 * bs.length := by
      intro bs
      simp [length_flatMap, length_hexUpper, Function.comp_def, Nat.mul_comm]
    rw [formatTsap_joined (by simp) (by simp), map_cons, Separated.intercalate_cons, length_append,
      hparts, length_hexUpper]
    simp only [length_cons, textLength]
    omega

lemma length_eq_of_formatTsap_eq {bytes bytes' : List UInt8}
    (h : formatTsap bytes = formatTsap bytes') : bytes.length = bytes'.length := by
  apply textLength_injective
  rw [← length_formatTsap, ← length_formatTsap, h]

lemma formatTsap_injective : Function.Injective formatTsap := by
  intro bytes bytes' h
  have hlen := length_eq_of_formatTsap_eq h
  rcases Nat.lt_or_ge bytes.length 3 with hfew | hmany
  · interval_cases hcount : bytes.length
    · rw [length_eq_zero_iff.mp hcount, length_eq_zero_iff.mp hlen.symm]
    · obtain ⟨a, rfl⟩ := length_eq_one_iff.mp hcount
      obtain ⟨a', rfl⟩ := length_eq_one_iff.mp hlen.symm
      have ha : "0x" ++ hexUpper a = "0x" ++ hexUpper a' := h
      rw [hexUpper_injective (String.append_right_inj _ |>.mp ha)]
    · obtain ⟨a, b, rfl⟩ := length_eq_two.mp hcount
      obtain ⟨a', b', rfl⟩ := length_eq_two.mp hlen.symm
      have hboth : "0x" ++ hexUpper a ++ hexUpper b = "0x" ++ hexUpper a' ++ hexUpper b' := h
      rw [String.append_assoc, String.append_assoc, String.append_right_inj] at hboth
      have hlists := congrArg String.toList hboth
      rw [String.toList_append, String.toList_append] at hlists
      obtain ⟨ha, hb⟩ := append_inj hlists (by rw [length_hexUpper, length_hexUpper])
      rw [hexUpper_injective (String.toList_inj.mp ha),
        hexUpper_injective (String.toList_inj.mp hb)]
  · have hlists := congrArg String.toList h
    rw [formatTsap_joined (by omega) (by omega), formatTsap_joined (by omega) (by omega)] at hlists
    exact Separated.eq_of_intercalate_map_eq ':'
      (fun _ _ hxy => hexUpper_injective (String.toList_inj.mp hxy))
      colon_not_mem_hexUpper hlen hlists

/-! ## A connection request or confirm -/

structure Parameter where
  code : UInt8
  value : List UInt8
  fits : value.length < 256

open Parameter

def Parameter.encode (p : Parameter) : List UInt8 := p.code :: UInt8.ofNat p.value.length :: p.value

inductive ConnectionKind where
  | request
  | confirm
deriving DecidableEq

/-- A connection request or confirm in its TPKT packet. Class 0, the only one that TPKT is defined
for, has no credit. -/
structure ConnectionUnit where
  reserved : UInt8
  kind : ConnectionKind
  credit : Fin 16
  (destination source : UInt16)
  classOption : UInt8
  parameters : List Parameter
  userData : List UInt8
  indicator_fits : 6 + (parameters.flatMap Parameter.encode).length < 256
  packet_fits : 11 + (parameters.flatMap Parameter.encode).length + userData.length < 65536

namespace ConnectionUnit

variable (u : ConnectionUnit)

def variablePart : List UInt8 := u.parameters.flatMap Parameter.encode

def code : UInt8 :=
  match u.kind with
  | .request => UInt8.ofNat (0xE0 + u.credit)
  | .confirm => UInt8.ofNat (0xD0 + u.credit)

def packetLength : Nat := 11 + u.variablePart.length + u.userData.length

def head : List UInt8 :=
  [0x03, u.reserved] ++ toBe 2 u.packetLength ++ [UInt8.ofNat (6 + u.variablePart.length),
    u.code] ++ toBe 2 u.destination.toNat ++ toBe 2 u.source.toNat ++ [u.classOption]

def encode : List UInt8 := u.head ++ u.variablePart ++ u.userData

def lastValue (code : UInt8) : Option (List UInt8) :=
  lastWrite (fun p : Parameter => if p.code = code then some p.value else none) u.parameters

end ConnectionUnit

/-! ## The loop over the parameters -/

lemma cotpParameters_round {data : List UInt8} {cotpEnd cursor : Nat} {p : Parameter}
    (hcode : byteAt data cursor = p.code)
    (hlength : byteAt data (cursor + 1) = UInt8.ofNat p.value.length)
    (hvalue : slice data (cursor + 2) p.value.length = p.value)
    (hend : cursor + 2 + p.value.length ≤ cotpEnd)
    (fuel : Nat) (tsaps : Tsaps) :
    cotpParameters data cotpEnd (fuel + 1) cursor tsaps =
      cotpParameters data cotpEnd fuel (cursor + 2 + p.value.length)
        (tsaps.set p.code p.value) := by
  have hlen := UInt8.toNat_ofNat_of_lt' p.fits
  rw [cotpParameters, if_pos (by omega), hcode, hlength]
  rw [hlen, if_neg (by omega), hvalue]

lemma cotpParameters_encoded (front rest : List UInt8) (parameters : List Parameter) (tsaps : Tsaps)
    {fuel : Nat} (hfuel : parameters.length ≤ fuel) :
    cotpParameters (front ++ (parameters.flatMap encode ++ rest))
        (front.length + (parameters.flatMap encode).length) fuel front.length tsaps =
      parameters.foldl (fun tsaps p => tsaps.set p.code p.value) tsaps := by
  induction parameters generalizing front tsaps fuel with
  | nil =>
    cases fuel with
    | zero => rfl
    | succ fuel => exact if_neg (by simp)
  | cons p parameters ih =>
    match fuel, hfuel with
    | fuel + 1, hfuel =>
      -- what is behind the front begins with the parameter
      have hbehind : (p :: parameters).flatMap encode ++ rest =
          p.code :: UInt8.ofNat p.value.length ::
            (p.value ++ (parameters.flatMap encode ++ rest)) := by
        rw [flatMap_cons, append_assoc]
        rfl
      have hdata : front ++ ((p :: parameters).flatMap encode ++ rest) =
          (front ++ p.encode) ++ (parameters.flatMap encode ++ rest) := by
        rw [flatMap_cons, append_assoc, append_assoc]
      have hlong : (front ++ p.encode).length = front.length + 2 + p.value.length := by
        rw [length_append]
        show front.length + (p.value.length + 1 + 1) = _
        omega
      have hend : front.length + ((p :: parameters).flatMap encode).length =
          (front ++ p.encode).length + (parameters.flatMap encode).length := by
        rw [flatMap_cons, length_append, length_append, Nat.add_assoc]
      rw [cotpParameters_round (p := p), hdata, hend, ← hlong]
      · exact ih _ _ (Nat.le_of_succ_le_succ hfuel)
      · exact byteAt_append_right front _ 0
      · exact byteAt_append_right front _ 1
      · rw [hbehind, slice_append_right (by omega), Nat.add_sub_cancel_left]
        exact slice_append_self rfl
      · omega

/-! ## What is returned for a unit -/

lemma foldl_set (parameters : List Parameter) :
    parameters.foldl (fun (tsaps : Tsaps) p => tsaps.set p.code p.value) ⟨none, none⟩ =
      ⟨lastWrite (fun p => (if p.code = 0xC1 then some p.value else none).map formatTsap)
        parameters,
        lastWrite (fun p => (if p.code = 0xC2 then some p.value else none).map formatTsap)
          parameters⟩ := by
  have hset : ∀ (tsaps : Tsaps) (p : Parameter), tsaps.set p.code p.value =
      ⟨((if p.code = 0xC1 then some p.value else none).map formatTsap).or tsaps.called,
        ((if p.code = 0xC2 then some p.value else none).map formatTsap).or tsaps.calling⟩ := by
    intro tsaps p
    unfold Tsaps.set
    split
    · next h =>
        rw [h]
        rfl
    · next h =>
        rw [h]
        rfl
    · next h₁ h₂ =>
        rw [if_neg h₁, if_neg h₂]
        rfl
  have hcalled := view_run _ (fun tsaps p => congrArg Tsaps.called (hset tsaps p))
    ⟨none, none⟩ parameters
  have hcalling := view_run _ (fun tsaps p => congrArg Tsaps.calling (hset tsaps p))
    ⟨none, none⟩ parameters
  rw [Option.or_none] at hcalled hcalling
  rw [← hcalled, ← hcalling]

namespace ConnectionUnit

variable (u : ConnectionUnit)

lemma length_head : u.head.length = 11 := rfl

lemma code_iff : u.code = 0xE0 ∨ u.code = 0xD0 ↔ u.credit = 0 := by
  have hrequest : ∀ credit : Fin 16,
      UInt8.ofNat (0xE0 + credit) = 0xE0 ∨ UInt8.ofNat (0xE0 + credit) = 0xD0 ↔ credit = 0 := by
        decide
  have hconfirm : ∀ credit : Fin 16,
      UInt8.ofNat (0xD0 + credit) = 0xE0 ∨ UInt8.ofNat (0xD0 + credit) = 0xD0 ↔ credit = 0 := by
        decide
  cases hkind : u.kind with
  | request => simpa only [code, hkind] using hrequest _
  | confirm => simpa only [code, hkind] using hconfirm _

lemma length_parameters_le : u.parameters.length ≤ u.variablePart.length :=
  Separated.length_le_length_flatMap (f := Parameter.encode) (fun p => cons_ne_nil p.code _) _

lemma cotpParameters_encode (rest : List UInt8) :
    cotpParameters (u.encode ++ rest) (11 + u.variablePart.length) (11 + u.variablePart.length) 11
      ⟨none, none⟩ = ⟨(u.lastValue 0xC1).map formatTsap, (u.lastValue 0xC2).map formatTsap⟩ := by
  have hsplit : u.encode ++ rest = u.head ++ (u.variablePart ++ (u.userData ++ rest)) := by
    simp only [encode, append_assoc]
  have hfuel : u.parameters.length ≤ 11 + u.variablePart.length :=
    Nat.le_add_left_of_le u.length_parameters_le
  have hloop := cotpParameters_encoded u.head (u.userData ++ rest) _ ⟨none, none⟩ hfuel
  rw [foldl_set, lastWrite_map, lastWrite_map] at hloop
  rw [hsplit]
  exact hloop

lemma parseCotpLayout_encode (rest : List UInt8) : parseCotpLayout (u.encode ++ rest) = some
        { tpktLength := u.packetLength
          cotpPduType := u.code
          calledTsap := if u.credit = 0 then (u.lastValue 0xC1).map formatTsap else none
          callingTsap := if u.credit = 0 then (u.lastValue 0xC2).map formatTsap else none
          payload := u.userData } := by
  have hlength : (u.encode ++ rest).length = u.packetLength + rest.length := by
    simp only [encode, packetLength, length_append, length_head]
  have hpacket : beNat (slice (u.encode ++ rest) 2 2) = u.packetLength := by
    have hslice : slice (u.encode ++ rest) 2 2 = toBe 2 u.packetLength := rfl
    have hfits : u.packetLength < 256 ^ 2 := u.packet_fits
    rw [hslice, beNat_toBe hfits]
  have hindicator : (UInt8.ofNat (6 + u.variablePart.length)).toNat = 6 + u.variablePart.length :=
    UInt8.toNat_ofNat_of_lt' u.indicator_fits
  have hend : tpktHeaderSize + (1 + (6 + u.variablePart.length)) = 11 + u.variablePart.length := by
    simp only [tpktHeaderSize]
    omega
  have hbounds : 11 + u.variablePart.length ≤ u.packetLength := Nat.le_add_right _ _
  have hpayload : slice (u.encode ++ rest) (11 + u.variablePart.length)
      (u.packetLength - (11 + u.variablePart.length)) = u.userData := by
    have hfront : (u.head ++ u.variablePart).length = 11 + u.variablePart.length := length_append
    rw [encode, append_assoc, slice_append_right (by omega), hfront, Nat.sub_self]
    exact slice_append_self (by rw [packetLength]; omega)
  have hgetLength : (u.encode ++ rest)[tpktHeaderSize]? =
    some (UInt8.ofNat (6 + u.variablePart.length)) := rfl
  have hgetType : (u.encode ++ rest)[tpktHeaderSize + 1]? = some u.code := rfl
  have hsize : tpktHeaderSize = 4 := rfl
  have hstart : ¬((u.encode ++ rest).length < tpktHeaderSize ∨
      byteAt (u.encode ++ rest) 0 ≠ 0x03) := by
    rintro (h | h)
    · omega
    · exact h rfl
  rw [parseCotpLayout, if_neg hstart]
  dsimp only
  rw [hpacket, if_neg (by omega), hgetLength, Option.bind_some, hindicator, if_neg (by omega),
    hgetType, Option.map_some, hend, hpayload]
  have htsaps : (if u.code = 0xE0 ∨ u.code = 0xD0 then
      cotpParameters (u.encode ++ rest) (11 + u.variablePart.length) (11 + u.variablePart.length)
        (tpktHeaderSize + 7) ⟨none, none⟩
      else ⟨none, none⟩) = (⟨if u.credit = 0 then (u.lastValue 0xC1).map formatTsap else none,
          if u.credit = 0 then (u.lastValue 0xC2).map formatTsap else none⟩ : Tsaps) := by
    by_cases hcredit : u.credit = 0
    · rw [if_pos (u.code_iff.mpr hcredit), if_pos hcredit, if_pos hcredit]
      exact u.cotpParameters_encode rest
    · rw [if_neg (mt u.code_iff.mp hcredit), if_neg hcredit, if_neg hcredit]
  rw [htsaps]

/-- The answer for the unit: 0xC1 is the calling selector, 0xC2 the called one. -/
def Described (rest : List UInt8) : Prop :=
  ∃ layout, parseCotpLayout (u.encode ++ rest) = some layout ∧
    layout.callingTsap = (u.lastValue 0xC1).map formatTsap ∧
    layout.calledTsap = (u.lastValue 0xC2).map formatTsap ∧
    layout.payload = u.userData

/-- A unit is described rightly exactly if its two selectors are the same or both missing; with a
credit, only if both are missing. -/
theorem layout_described_iff (rest : List UInt8) :
    u.Described rest ↔
      if u.credit = 0 then u.lastValue 0xC1 = u.lastValue 0xC2
      else u.lastValue 0xC1 = none ∧ u.lastValue 0xC2 = none := by
  have hparse := u.parseCotpLayout_encode rest
  constructor
  · rintro ⟨layout, hlayout, hcalling, hcalled, -⟩
    obtain rfl := Option.some.inj (hparse.symm.trans hlayout)
    dsimp only at hcalling hcalled
    split
    · next hcredit =>
        rw [if_pos hcredit] at hcalling
        exact (Option.map_injective formatTsap_injective hcalling).symm
    · next hcredit =>
        rw [if_neg hcredit] at hcalling hcalled
        exact ⟨Option.map_eq_none_iff.mp hcalling.symm, Option.map_eq_none_iff.mp hcalled.symm⟩
  · intro hsame
    refine ⟨_, hparse, ?_⟩
    split at hsame
    · next hcredit =>
        rw [if_pos hcredit, if_pos hcredit, hsame]
        exact ⟨rfl, rfl, rfl⟩
    · next hcredit =>
        rw [if_neg hcredit, if_neg hcredit, hsame.1, hsame.2]
        exact ⟨rfl, rfl, rfl⟩

end ConnectionUnit

/-- A connection request from selector 0x0100 to selector 0x0102. -/
def twoSelectors : ConnectionUnit :=
  { reserved := 0
    kind := .request
    credit := ⟨0, Nat.two_pow_pos 4⟩
    destination := 0
    source := 1
    classOption := 0
    parameters :=
      [⟨0xC0, [0x0A], by decide⟩, ⟨0xC1, [0x01, 0x00], by decide⟩, ⟨0xC2, [0x01, 0x02], by decide⟩]
    userData := []
    indicator_fits := by decide
    packet_fits := by decide }

theorem twoSelectors_swapped :
    parseCotpLayout twoSelectors.encode = some ⟨22, 0xE0, some "0x0100", some "0x0102", []⟩ ∧
      ¬twoSelectors.Described [] := by
  have hparse : parseCotpLayout twoSelectors.encode =
      some ⟨22, 0xE0, some "0x0100", some "0x0102", []⟩ := by
    decide +kernel
  refine ⟨hparse, ?_⟩
  rintro ⟨layout, hlayout, hcalling, -⟩
  rw [append_nil, hparse] at hlayout
  obtain rfl := Option.some.inj hlayout
  have hvalue : twoSelectors.lastValue 0xC1 = some [0x01, 0x00] := rfl
  rw [hvalue] at hcalling
  revert hcalling
  decide +kernel

end MarlinspikeDpi.Iec61850
