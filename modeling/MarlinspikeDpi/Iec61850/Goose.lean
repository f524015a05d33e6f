import MarlinspikeDpi.Foundation.Ber
import MarlinspikeDpi.Iec61850.Dissector

/-!
# The counters of a GOOSE unit

A GOOSE unit counts changes of state (stNum, tag 0x85) and repetitions (sqNum, tag 0x86), and has a
flag for tests (tag 0x87).

* `goose_reported_iff`: which frames are reported rightly.
-/

namespace MarlinspikeDpi.Iec61850

open Bytes Ber TagScan List GooseNumbers Option UInt8

/-! ## The units -/

structure Counter where
  element : Element
  width : 1 ≤ element.content.length ∧ element.content.length ≤ 5
  value : UInt32
  value_eq : beNat element.content = value.toNat

lemma Counter.u32FromBytes_content (c : Counter) : u32FromBytes c.element.content = c.value := by
  rw [u32FromBytes_eq, c.value_eq, UInt32.ofNat_toNat]

/-- The elements of a unit but for the value of its test flag. -/
structure GooseBody where
  (gocbRef timeAllowedToLive datSet : Element)
  goId : Option Element
  t : Element
  (stNum sqNum : Counter)
  testForm : LengthForm
  test_fits : testForm.Fits 1
  confRev : Element
  ndsComForm : LengthForm
  ndsCom_fits : ndsComForm.Fits 1
  ndsCom : UInt8
  numDatSetEntries : Counter
  allData : Element

open GooseBody

namespace GooseBody

variable (body : GooseBody)

def front : List UInt8 :=
  body.gocbRef.encode 0x80 ++ body.timeAllowedToLive.encode 0x81 ++ body.datSet.encode 0x82 ++
    encodeOptional 0x83 body.goId ++ body.t.encode 0x84 ++ body.stNum.element.encode 0x85

def test (octet : UInt8) : List UInt8 := tlv body.testForm 0x87 [octet]

def behind : List UInt8 :=
  body.confRev.encode 0x88 ++ tlv body.ndsComForm 0x89 [body.ndsCom] ++
    body.numDatSetEntries.element.encode 0x8A ++ body.allData.encode 0xAB

def content (octet : UInt8) : List UInt8 :=
  body.front ++ body.sqNum.element.encode 0x86 ++ body.test octet ++ body.behind

lemma length_content (octet : UInt8) : (body.content octet).length = (body.content 0).length := by
  simp only [content, test, tlv, length_append, length_cons, length_nil]

end GooseBody

/-- A frame with one unit; `padding` is what Ethernet adds. -/
structure GooseFrame where
  appId : UInt16
  reserved : UInt32
  form : LengthForm
  body : GooseBody
  padding : List UInt8
  form_fits : form.Fits (body.content 0).length
  fits : 8 + (tlv form 0x61 (body.content 0)).length < 65536

namespace GooseFrame

variable (frame : GooseFrame)

variable (octet : UInt8)

def pdu : List UInt8 := tlv frame.form 0x61 (frame.body.content octet)

def encode : List UInt8 :=
  toBe 2 frame.appId.toNat ++ toBe 2 (8 + (frame.pdu octet).length) ++
    toBe 4 frame.reserved.toNat ++ frame.pdu octet ++ frame.padding

/-- The counters and the flag of the frame are reported. -/
def Reported : Prop :=
  ∃ fields, parseGooseOrSv (frame.encode octet) .goose = some fields ∧
    fields.gooseStNum = some frame.body.stNum.value ∧
      fields.gooseSqNum = some frame.body.sqNum.value ∧
    fields.gooseTest = (octet != 0)

lemma length_pdu : (frame.pdu octet).length =
    (tlv frame.form 0x61 (frame.body.content 0)).length := by
  simp only [pdu, tlv, length_append, length_cons, length_content]

lemma parseGooseOrSv_encode : ∃ fields, parseGooseOrSv (frame.encode octet) .goose = some fields ∧
      (⟨fields.gooseStNum, fields.gooseSqNum, fields.gooseTest⟩ : GooseNumbers) =
        extractGooseSequenceNumbers (frame.pdu octet) := by
  have hlength : (frame.encode octet).length =
      8 + (frame.pdu octet).length + frame.padding.length := by
    simp only [encode, length_append, length_toBe]
  have hpdu : 8 + (frame.pdu octet).length < 256 ^ 2 := by
    rw [length_pdu]
    exact frame.fits
  have hfield : beNat (slice (frame.encode octet) 2 2) = 8 + (frame.pdu octet).length := by
    have hslice : slice (frame.encode octet) 2 2 = toBe 2 (8 + (frame.pdu octet).length) := rfl
    rw [hslice, beNat_toBe hpdu]
  have hpayload : slice (frame.encode octet) 8 (8 + (frame.pdu octet).length - 8) =
      frame.pdu octet := by
    have hheader : (toBe 2 frame.appId.toNat ++ toBe 2 (8 + (frame.pdu octet).length) ++
        toBe 4 frame.reserved.toNat).length = 8 := by
      simp only [length_append, length_toBe]
    rw [encode, append_assoc, slice_append_right (Nat.le_of_eq hheader), hheader,
      Nat.add_sub_cancel_left]
    exact slice_append_self rfl
  rw [parseGooseOrSv, if_neg (by omega)]
  dsimp only
  rw [hfield, Nat.min_eq_left (by omega), if_neg (by omega), hpayload]
  exact ⟨_, rfl, rfl⟩

lemma reported_iff : frame.Reported octet ↔ extractGooseSequenceNumbers (frame.pdu octet) =
        ⟨some frame.body.stNum.value, some frame.body.sqNum.value, octet != 0⟩ := by
  obtain ⟨fields, hparse, hnumbers⟩ := frame.parseGooseOrSv_encode octet
  rw [← hnumbers, GooseNumbers.mk.injEq]
  constructor
  · rintro ⟨fields', hparse', hreported⟩
    obtain rfl := some.inj (hparse.symm.trans hparse')
    exact hreported
  · intro hreported
    exact ⟨fields, hparse, hreported⟩

end GooseFrame

/-! ## The scan -/

lemma gooseTag_iff {tag len : UInt8} :
    gooseTag tag len = true ↔ (tag = 0x86 ∧ len = 1) ∨
      ((tag = 0x89 ∨ tag = 0x8A) ∧ 1 ≤ len ∧ len ≤ 4) := by
  unfold gooseTag
  split
  · simp
  · simp
  · simp
  · next h₁ h₂ h₃ =>
      refine iff_of_false Bool.false_ne_true ?_
      rintro (⟨htag, -⟩ | ⟨htag | htag, -⟩)
      · exact h₁ htag
      · exact h₂ htag
      · exact h₃ htag

lemma value_le_four {tag len : UInt8} (h : gooseTag tag len = true) : 1 ≤ len.toNat ∧
    len.toNat ≤ 4 := by
  rcases gooseTag_iff.mp h with ⟨-, rfl⟩ | ⟨-, hlow, hhigh⟩
  · decide
  · exact ⟨le_iff_toNat_le.mp hlow, le_iff_toNat_le.mp hhigh⟩

lemma noLength_gooseTag {len : UInt8} (h : len = 0 ∨ 4 < len) : NoLength gooseTag len := by
  intro tag
  rw [← Bool.not_eq_true]
  intro haccept
  have hlen := value_le_four haccept
  rcases h with rfl | h
  · exact absurd hlen.1 (by decide)
  · have hlarge : 4 < len.toNat := lt_iff_toNat_lt.mp h
    omega

lemma neutral_gooseTag {byte : UInt8} (h : byte = 0 ∨ byte = 0xFF) : Neutral gooseTag byte := by
  rcases h with rfl | rfl
  · exact ⟨fun _ => rfl, noLength_gooseTag (.inl rfl)⟩
  · exact ⟨fun _ => rfl, noLength_gooseTag (.inr (by decide))⟩

lemma gooseNumbers_eq (bytes : List UInt8) :
    extractGooseSequenceNumbers bytes = scanUntil set complete ⟨none, none, false⟩
      (hits gooseTag bytes) :=
  slidingScan_eq_scanUntil _ _ (noLength_gooseTag (.inl rfl)) le_rfl rfl

abbrev scanNumbers : GooseNumbers → List Hit → GooseNumbers :=
  scanUntil GooseNumbers.set GooseNumbers.complete

/-! ## The test flag -/

structure SameTest (numbers numbers' : GooseNumbers) : Prop where
  test : numbers.test = numbers'.test
  stNum : numbers.stNum.isSome = numbers'.stNum.isSome
  sqNum : numbers.sqNum.isSome = numbers'.sqNum.isSome

lemma SameTest.complete {numbers numbers' : GooseNumbers} (h : SameTest numbers numbers') :
    numbers.complete = numbers'.complete := by
  rw [GooseNumbers.complete, GooseNumbers.complete, h.stNum, h.sqNum]

lemma SameTest.set {numbers numbers' : GooseNumbers} (h : SameTest numbers numbers')
    {hit hit' : Hit}
    (htag : hit.tag = hit'.tag) (hvalue : hit.tag = 0x86 → hit.value = hit'.value) :
    SameTest (numbers.set hit) (numbers'.set hit') := by
  unfold GooseNumbers.set
  rw [← htag]
  split
  · next hflag =>
      rw [hvalue hflag]
      exact ⟨rfl, h.stNum, h.sqNum⟩
  · exact ⟨h.test, rfl, h.sqNum⟩
  · exact ⟨h.test, h.stNum, rfl⟩
  · exact h

lemma test_covers {tag len : UInt8} {lead : List UInt8} {form : LengthForm} (hform : form.Fits 1)
    {before : List UInt8} {found : List Hit} {value : List UInt8}
    (h : Covers gooseTag (lead ++ 0x87 :: form.octets 1) before found tag len value) :
      tag ≠ 0x86 := by
  rintro rfl
  have hlen : len = 1 := by
    rcases gooseTag_iff.mp h.accepted with ⟨-, hlen⟩ | ⟨htag, -⟩
    · exact hlen
    · exact absurd htag (by decide)
  subst hlen
  have hnil : value = [] := length_eq_zero_iff.mp (Nat.lt_one_iff.mp h.short)
  subst hnil
  -- the two bytes that the front ends with
  obtain ⟨start, b, hend, hb⟩ : ∃ start b, lead ++ 0x87 :: form.octets 1 = start ++ [b, 1] ∧
      (b = 0x87 ∨ b = 0x81 ∨ b = 0) := by
    match form, hform with
    | .short, _ => exact ⟨lead, 0x87, rfl, .inl rfl⟩
    | .long count, hform =>
      obtain ⟨start, b, hoctets, hb⟩ := LengthForm.octets_long_end hform.1 (show 1 < 256 by decide)
      refine ⟨lead ++ 0x87 :: start, b, ?_, .inr hb⟩
      rw [hoctets]
      simp
  have hlast := (append_inj' (hend.symm.trans h.split) rfl).2
  obtain ⟨rfl, -⟩ := List.cons.inj hlast
  exact absurd hb (by decide)

lemma sameTest_of_flip {tag : UInt8} {found later : List Hit} (htag : tag ≠ 0x86)
    (value value' : List UInt8) :
    SameTest (scanNumbers ⟨none, none, false⟩ (found ++ ⟨tag, value⟩ :: later))
      (scanNumbers ⟨none, none, false⟩ (found ++ ⟨tag, value'⟩ :: later)) := by
  have hrefl : ∀ numbers, SameTest numbers numbers := fun _ => ⟨rfl, rfl, rfl⟩
  rw [scanNumbers, scanUntil_append rfl, scanUntil_append rfl]
  split
  · exact hrefl _
  · have hnext : SameTest ((scanNumbers ⟨none, none, false⟩ found).set ⟨tag, value⟩)
        ((scanNumbers ⟨none, none, false⟩ found).set ⟨tag, value'⟩) :=
          (hrefl _).set rfl (fun h => absurd h htag)
    rw [scanUntil, scanUntil, hnext.complete]
    split
    · exact hnext
    · exact scanUntil_rel (fun _ _ h => h.complete)
        (fun _ _ _ h => h.set rfl fun _ => rfl) hnext later

namespace GooseFrame

variable (frame : GooseFrame)

lemma test_not_read :
    (extractGooseSequenceNumbers (frame.pdu 0)).test =
      (extractGooseSequenceNumbers (frame.pdu 0xFF)).test := by
  obtain ⟨lead, hpdu⟩ : ∃ lead, ∀ octet, frame.pdu octet =
      (lead ++ 0x87 :: frame.body.testForm.octets 1) ++ octet :: frame.body.behind := by
    refine ⟨0x61 :: (frame.form.octets (frame.body.content 0).length ++
      (frame.body.front ++ frame.body.sqNum.element.encode 0x86)), fun octet => ?_⟩
    rw [pdu, tlv]
    simp [GooseBody.content, GooseBody.test, tlv]
  have hfits : ∀ tag len, gooseTag tag len = true → len.toNat ≤ frame.body.behind.length + 1 := by
    intro tag len haccept
    have hlen := value_le_four haccept
    simp only [behind, Element.encode, tlv, length_append, length_cons]
    omega
  rw [gooseNumbers_eq, gooseNumbers_eq, hpdu, hpdu]
  rcases hits_flip (neutral_gooseTag (.inl rfl)) (neutral_gooseTag (.inr rfl))
    _ hfits with
    hsame | ⟨_, found, tag, _, value, rest, later, hcovers, hzero, hfull⟩
  · rw [hsame]
  · rw [hzero, hfull]
    exact (sameTest_of_flip (test_covers frame.body.test_fits hcovers) _ _).test

/-! ## What is returned if nothing else looks like the elements -/

def beforeNdsCom (octet : UInt8) : List UInt8 :=
  0x61 :: frame.form.octets (frame.body.content 0).length ++ frame.body.front ++
    frame.body.sqNum.element.encode 0x86 ++ frame.body.test octet ++ frame.body.confRev.encode 0x88

/-- The number of repetitions is written as 86 01 and one byte. -/
def OneByteSqNum : Prop := frame.body.sqNum.element.form = .short ∧
    frame.body.sqNum.element.content.length = 1

instance : Decidable frame.OneByteSqNum := inferInstanceAs (Decidable (_ ∧ _))

/-- The scan finds nothing before ndsCom but the number of repetitions, if this stands in one byte;
and ndsCom and the number of entries are where it looks for them. -/
structure Quiet (octet : UInt8) : Prop where
  walk : Walk gooseTag (frame.beforeNdsCom octet)
    (if frame.OneByteSqNum then [⟨0x86, frame.body.sqNum.element.content⟩] else [])
  ndsCom : frame.body.ndsComForm = .short
  entries : frame.body.numDatSetEntries.element.form = .short
  width : frame.body.numDatSetEntries.element.content.length ≤ 4

lemma hits_of_quiet {octet : UInt8} (h : frame.Quiet octet) : hits gooseTag (frame.pdu octet) =
      (if frame.OneByteSqNum then [⟨0x86, frame.body.sqNum.element.content⟩] else []) ++
        ⟨0x89, [frame.body.ndsCom]⟩ :: ⟨0x8A, frame.body.numDatSetEntries.element.content⟩ ::
          hits gooseTag (frame.body.allData.encode 0xAB) := by
  have hwidth := frame.body.numDatSetEntries.width
  have hshort := h.width
  have hlen :=
    toNat_ofNat_of_lt' (show frame.body.numDatSetEntries.element.content.length < 256 by omega)
  have hentries : gooseTag 0x8A (ofNat frame.body.numDatSetEntries.element.content.length) =
      true := by
    rw [gooseTag_iff, le_iff_toNat_le, le_iff_toNat_le, hlen]
    exact .inr ⟨.inr rfl, hwidth.1, hshort⟩
  have hndsCom : gooseTag 0x89 1 = true := rfl
  have hpdu : frame.pdu octet = frame.beforeNdsCom octet ++ 0x89 :: 1 :: ([frame.body.ndsCom] ++
      0x8A :: ofNat frame.body.numDatSetEntries.element.content.length ::
        (frame.body.numDatSetEntries.element.content ++ frame.body.allData.encode 0xAB)) := by
    rw [pdu, tlv, frame.body.length_content octet]
    simp [content, behind, beforeNdsCom, Element.encode, tlv, h.ndsCom, h.entries,
      LengthForm.octets]
  rw [hpdu, hits_append_of_walk h.walk (noLength_gooseTag (.inr (by decide))), hits_hit hndsCom rfl,
    hits_hit hentries hlen.symm]

/-- The flag ndsCom is returned as the number of changes, the number of entries as that of
repetitions, and a number of repetitions of one byte as the test flag. -/
theorem numbers_of_quiet {octet : UInt8} (h : frame.Quiet octet) :
    extractGooseSequenceNumbers (frame.pdu octet) =
      ⟨some frame.body.ndsCom.toUInt32, some frame.body.numDatSetEntries.value,
        decide frame.OneByteSqNum && frame.body.sqNum.value != 0⟩ := by
  have hscan : ∀ (test : Bool) (later : List Hit), scanNumbers ⟨none, none, test⟩
      (⟨0x89, [frame.body.ndsCom]⟩ :: ⟨0x8A, frame.body.numDatSetEntries.element.content⟩ ::
        later) =
        ⟨some (u32FromBytes [frame.body.ndsCom]),
          some (u32FromBytes frame.body.numDatSetEntries.element.content), test⟩ := fun _ _ => rfl
  rw [u32FromBytes_singleton, frame.body.numDatSetEntries.u32FromBytes_content] at hscan
  rw [gooseNumbers_eq, frame.hits_of_quiet h]
  by_cases hone : frame.OneByteSqNum
  · obtain ⟨b, hb⟩ := length_eq_one_iff.mp hone.2
    have hvalue := frame.body.sqNum.u32FromBytes_content
    rw [hb, u32FromBytes_singleton] at hvalue
    have htest : (b != 0) = (frame.body.sqNum.value != 0) := by
      rw [← hvalue]
      have hiff : b = 0 ↔ b.toUInt32 = 0 := by
        rw [← UInt8.toNat_inj, ← UInt32.toNat_inj]
        rfl
      exact congrArg not (decide_eq_decide.mpr hiff)
    rw [if_pos hone, hb, decide_eq_true hone, ← htest]
    exact hscan _ (hits gooseTag (frame.body.allData.encode 0xAB))
  · rw [if_neg hone, decide_eq_false hone]
    exact hscan false (hits gooseTag _)

/-- The elements that the source looks at happen to have the values of the counters and the flag. -/
def Coincides (octet : UInt8) : Prop :=
  frame.body.stNum.value = frame.body.ndsCom.toUInt32 ∧
    frame.body.sqNum.value = frame.body.numDatSetEntries.value ∧
    (octet != 0) = (decide frame.OneByteSqNum && frame.body.sqNum.value != 0)

/-- A frame without other bytes that look like the elements is reported rightly exactly if other
elements happen to have its values. -/
theorem goose_reported_iff :
    (∀ octet, frame.Quiet octet → (frame.Reported octet ↔ frame.Coincides octet)) ∧
      ¬(frame.Reported 0x00 ∧ frame.Reported 0xFF) := by
  constructor
  · intro octet hquiet
    rw [reported_iff, frame.numbers_of_quiet hquiet, GooseNumbers.mk.injEq, some.injEq, some.injEq,
      Coincides]
    exact ⟨fun ⟨hst, hsq, htest⟩ => ⟨hst.symm, hsq.symm, htest.symm⟩,
      fun ⟨hst, hsq, htest⟩ => ⟨hst.symm, hsq.symm, htest.symm⟩⟩
  · rintro ⟨hzero, hfull⟩
    have htest := frame.test_not_read
    rw [(frame.reported_iff 0).mp hzero, (frame.reported_iff 0xFF).mp hfull] at htest
    exact absurd (show (false : Bool) = true from htest) (by decide)

end GooseFrame

/-- A frame of a device that has changed once: stNum is 1, sqNum is 0, ndsCom is false and there is
one entry. -/
def firstChange : GooseFrame :=
  { appId := 1
    reserved := 0
    form := .short
    body :=
      { gocbRef := ⟨.short, [0x49, 0x31], by decide⟩
        timeAllowedToLive := ⟨.short, [0x07, 0xD0], by decide⟩
        datSet := ⟨.short, [0x44, 0x31], by decide⟩
        goId := none
        t := ⟨.short, [0x5F, 0, 0, 0, 0, 0, 0, 0x0A], by decide⟩
        stNum := ⟨⟨.short, [1], by decide⟩, by decide, 1, by decide⟩
        sqNum := ⟨⟨.short, [0], by decide⟩, by decide, 0, by decide⟩
        testForm := .short
        test_fits := by decide
        confRev := ⟨.short, [1], by decide⟩
        ndsComForm := .short
        ndsCom_fits := by decide
        ndsCom := 0
        numDatSetEntries := ⟨⟨.short, [1], by decide⟩, by decide, 1, by decide⟩
        allData := ⟨.short, [0x83, 0x01, 0x00], by decide⟩ }
    padding := []
    form_fits := by decide
    fits := by decide }

lemma firstChange_quiet : firstChange.Quiet 0 := by
  have hbytes : firstChange.beforeNdsCom 0 =
      [0x61, 0x2D, 0x80, 0x02, 0x49, 0x31, 0x81, 0x02, 0x07, 0xD0, 0x82, 0x02, 0x44, 0x31, 0x84,
        0x08, 0x5F, 0, 0, 0, 0,
        0, 0, 0x0A, 0x85, 0x01, 0x01] ++ 0x86 :: 0x01 ::
          ([0x00] ++ [0x87, 0x01, 0x00, 0x88, 0x01, 0x01]) := rfl
  have hone : firstChange.OneByteSqNum := by decide
  refine ⟨?_, rfl, rfl, by decide⟩
  rw [hbytes, if_pos hone]
  iterate 27 refine .skip rfl ?_
  refine .hit rfl rfl ?_
  iterate 5 refine .skip rfl ?_
  exact .last _

theorem firstChange_reported_iff : firstChange.Quiet 0 ∧
    (firstChange.Reported 0 ↔ firstChange.Coincides 0) :=
  ⟨firstChange_quiet, firstChange.goose_reported_iff.1 0 firstChange_quiet⟩

theorem firstChange_swapped :
    extractGooseSequenceNumbers (firstChange.pdu 0) = ⟨some 0, some 1, false⟩ ∧
      ¬firstChange.Reported 0 := by
  have hnumbers : extractGooseSequenceNumbers (firstChange.pdu 0) = ⟨some 0, some 1, false⟩ := by
    decide
  refine ⟨hnumbers, ?_⟩
  rw [GooseFrame.reported_iff, hnumbers]
  decide

end MarlinspikeDpi.Iec61850
