import MarlinspikeDpi.Net

/-!
# Bytes behind the declared end of a frame

* `padding_found_iff`: for which declared lengths findings are exact.
-/

namespace MarlinspikeDpi.Stovetop

open Bytes Text List

inductive FindingSeverity where
  | low
  | medium
  | high
  | critical

/-- A finding about the padding; the other kinds come from other checks. -/
structure NonZeroPadding where
  (paddingOffset paddingLen : Nat)
  entropy : Float
  paddingHex : String
  severity : FindingSeverity
  decoder : String

variable (ethertype : UInt16) (l2Payload : List UInt8)

/-- The IPv4 total length, or the length of an 802.3 frame. -/
def realPayloadLen : Option Nat :=
  if ethertype = 0x0800 ∧ 4 ≤ l2Payload.length
    then some (be16 (byteAt l2Payload 2) (byteAt l2Payload 3)).toNat
  else if ethertype ≤ 1500 then some ethertype.toNat
  else none

def minPayload : Nat := 46

def extractPadding (ethernetHeaderLen : Nat) : Option (Nat × List UInt8) :=
  match realPayloadLen ethertype l2Payload with
  | none => none
  | some realPayloadLen =>
    let actualPayloadLen := l2Payload.length
    if realPayloadLen < actualPayloadLen ∧ realPayloadLen < minPayload then
      -- what is behind the minimum payload is left out
      let paddingEnd := min actualPayloadLen minPayload
      if realPayloadLen < paddingEnd then
        some (ethernetHeaderLen + realPayloadLen,
          slice l2Payload realPayloadLen (paddingEnd - realPayloadLen))
      else none
    else if realPayloadLen < actualPayloadLen then
      some (ethernetHeaderLen + realPayloadLen, l2Payload.drop realPayloadLen)
    else none

def shannonEntropy (data : List UInt8) : Float :=
  if data.isEmpty then 0
  else
    (List.range 256).foldl (fun entropy b =>
      let count := data.count (UInt8.ofNat b)
      if 0 < count then
        let p := Float.ofNat count / Float.ofNat data.length
        entropy - p * p.log2
      else entropy) 0

def hasNonzeroPadding (padding : List UInt8) : Bool := padding.any fun b => b ≠ 0

def checkPadding (paddingEntropyThreshold : Float) (ethernetHeaderLen : Nat) :
  List NonZeroPadding := match extractPadding ethertype l2Payload ethernetHeaderLen with
  | none => []
  | some (offset, padding) =>
    if ¬ hasNonzeroPadding padding then []
    else
      [{ paddingOffset := offset
         paddingLen := padding.length
         entropy := shannonEntropy padding
         paddingHex := hexEncode (padding.take 32)
         severity := if paddingEntropyThreshold < shannonEntropy padding then .high else .medium
         decoder := "stovetop:padding" }]

/-! ## What is found -/

def inspected (declared : Nat) : List UInt8 :=
  (if declared < minPayload then l2Payload.take minPayload else l2Payload).drop declared

variable {ethertype l2Payload}

lemma extractPadding_bytes {declared : Nat}
    (hdeclared : realPayloadLen ethertype l2Payload = some declared) (ethernetHeaderLen : Nat) :
    ((extractPadding ethertype l2Payload ethernetHeaderLen).map Prod.snd).getD [] =
      inspected l2Payload declared := by
  simp only [extractPadding, inspected, hdeclared]
  by_cases hmore : declared < l2Payload.length
  · by_cases hshort : declared < minPayload
    · have hend : declared < min l2Payload.length minPayload := Nat.lt_min.2 ⟨hmore, hshort⟩
      rw [if_pos ⟨hmore, hshort⟩, if_pos hend, if_pos hshort, drop_take, Option.map_some,
        Option.getD_some, slice, take_eq_take_iff, length_drop]
      omega
    · rw [if_neg (fun h => hshort h.2), if_pos hmore, if_neg hshort]
      rfl
  · rw [if_neg (fun h => hmore h.1), if_neg hmore]
    refine (drop_eq_nil_of_le ?_).symm
    split
    · exact (length_take_le' _ _).trans (Nat.le_of_not_lt hmore)
    · exact Nat.le_of_not_lt hmore

lemma checkPadding_ne_nil_iff {declared : Nat}
    (hdeclared : realPayloadLen ethertype l2Payload = some declared) (threshold : Float)
    (ethernetHeaderLen : Nat) :
    checkPadding ethertype l2Payload threshold ethernetHeaderLen ≠ [] ↔
      ∃ b ∈ inspected l2Payload declared, b ≠ 0 := by
  unfold checkPadding
  rw [← extractPadding_bytes hdeclared _]
  cases extractPadding ethertype l2Payload _ with
  | none => simp
  | some found => simp [hasNonzeroPadding]

/-- A frame with an IPv4 datagram or an 802.3 length, and the length that it declares. -/
structure LengthFrame where
  ethertype : UInt16
  l2Payload : List UInt8
  declared : Nat
  declares : (ethertype = 0x0800 ∧ 4 ≤ l2Payload.length ∧
      declared = (be16 (byteAt l2Payload 2) (byteAt l2Payload 3)).toNat) ∨
    (ethertype.toNat ≤ 1500 ∧ declared = ethertype.toNat)

lemma LengthFrame.realPayloadLen_eq (frame : LengthFrame) :
    realPayloadLen frame.ethertype frame.l2Payload = some frame.declared := by
  unfold realPayloadLen
  rcases frame.declares with ⟨hipv4, hlength, hdeclared⟩ | ⟨hshort, hdeclared⟩
  · rw [if_pos ⟨hipv4, hlength⟩, hdeclared]
  · have hother : frame.ethertype ≠ 0x0800 := by
      intro h
      rw [h] at hshort
      exact absurd hshort (by decide)
    rw [if_neg (fun h => hother h.1), if_pos (UInt16.le_iff_toNat_le.2 hshort), hdeclared]

/-- A finding is made exactly if some byte behind the declared length is not zero, if and only if
the declared length is at least 46, or such a byte is among the first 46, or none is behind them. -/
theorem padding_found_iff (frame : LengthFrame) (threshold : Float) (ethernetHeaderLen : Nat) :
    (checkPadding frame.ethertype frame.l2Payload threshold ethernetHeaderLen ≠ [] ↔
        ∃ b ∈ frame.l2Payload.drop frame.declared, b ≠ 0) ↔
      46 ≤ frame.declared ∨ (∃ b ∈ (frame.l2Payload.take 46).drop frame.declared, b ≠ 0) ∨
        ∀ b ∈ frame.l2Payload.drop 46, b = 0 := by
  rw [checkPadding_ne_nil_iff frame.realPayloadLen_eq, inspected, minPayload]
  by_cases hshort : frame.declared < 46
  · have hsplit := drop_take_append_drop frame.l2Payload frame.declared (46 - frame.declared)
    rw [Nat.add_sub_of_le hshort.le, ← drop_take] at hsplit
    have hzero : (∀ b ∈ frame.l2Payload.drop 46, b = 0) ↔
      ¬ ∃ b ∈ frame.l2Payload.drop 46, b ≠ 0 := by simp
    rw [if_pos hshort, ← hsplit, or_iff_right (Nat.not_le_of_lt hshort), hzero]
    simp only [mem_append, or_and_right, exists_or]
    by_cases hearly : ∃ b ∈ (frame.l2Payload.take 46).drop frame.declared, b ≠ 0
    · simp only [hearly, true_or]
    · simp only [hearly, false_or, false_iff]
  · rw [if_neg hshort]
    exact iff_of_true Iff.rfl (.inl (Nat.le_of_not_lt hshort))

/-- An IPv4 datagram of 20 bytes in a frame of 51, the last byte of which is not zero. -/
def longTrailer : LengthFrame where
  ethertype := 0x0800
  l2Payload := [0x45, 0, 0, 20] ++ List.replicate 46 0 ++ [0xFF]
  declared := 20
  declares := .inl ⟨rfl, by decide, rfl⟩

theorem longTrailer_missed :
    (∃ b ∈ longTrailer.l2Payload.drop longTrailer.declared, b ≠ 0) ∧
      checkPadding longTrailer.ethertype longTrailer.l2Payload 0.5 14 = [] :=
  ⟨by decide, rfl⟩

end MarlinspikeDpi.Stovetop
