import MarlinspikeDpi.Foundation.Ber
import MarlinspikeDpi.Iec61850.Dissector

/-!
# The sample count and its synchronisation

The source looks for the bytes 82 02 and 85 01 anywhere in the unit.

* `sampleFields_reported_iff`: for which layouts all values are reported.
-/

namespace MarlinspikeDpi.Iec61850

open Bytes Ber TagScan List SampleFields Bool Option

/-! ## The units -/

/-- A block of samples (an ASDU) but for the values of its two counters. -/
structure AsduLayout where
  svId : Element
  datSet : Option Element
  smpCntForm : LengthForm
  smpCnt_fits : smpCntForm.Fits 2
  confRev : Element
  refrTm : Option Element
  smpSynchForm : LengthForm
  smpSynch_fits : smpSynchForm.Fits 1
  sample : Element

namespace AsduLayout

def front (layout : AsduLayout) : List UInt8 :=
  layout.svId.encode 0x80 ++ encodeOptional 0x81 layout.datSet
def middle (layout : AsduLayout) : List UInt8 :=
  layout.confRev.encode 0x83 ++ encodeOptional 0x84 layout.refrTm
def smpCnt (layout : AsduLayout) (cnt : UInt16) : List UInt8 :=
  tlv layout.smpCntForm 0x82 (toBe 2 cnt.toNat)
def smpSynch (layout : AsduLayout) (synch : UInt8) : List UInt8 :=
  tlv layout.smpSynchForm 0x85 [synch]

def content (layout : AsduLayout) (cnt : UInt16) (synch : UInt8) : List UInt8 :=
  layout.front ++ layout.smpCnt cnt ++ layout.middle ++ layout.smpSynch synch ++
    layout.sample.encode 0x87

def length (layout : AsduLayout) : Nat := (layout.content 0 0).length

lemma length_content (layout : AsduLayout) (cnt : UInt16) (synch : UInt8) :
    (layout.content cnt synch).length = layout.length := by
  simp only [length, content, smpCnt, smpSynch, tlv, length_append, length_cons, length_toBe]

end AsduLayout

structure Asdu where
  layout : AsduLayout
  form : LengthForm
  fits : form.Fits layout.length
  cnt : UInt16
  synch : UInt8

def Asdu.encode (a : Asdu) : List UInt8 := tlv a.form 0x30 (a.layout.content a.cnt a.synch)

def asduBlocks (form : LengthForm) (first : AsduLayout) (more : List Asdu) (cnt : UInt16)
    (synch : UInt8) : List UInt8 :=
  tlv form 0x30 (first.content cnt synch) ++ more.flatMap Asdu.encode

def savContent (noAsdu : Element) (seqForm : LengthForm) (blocks : List UInt8) : List UInt8 :=
  noAsdu.encode 0x80 ++ tlv seqForm 0xA2 blocks

/-- A unit but for the values of the two counters of its first block. -/
structure SavPdu where
  form : LengthForm
  noAsdu : Element
  (seqForm firstForm : LengthForm)
  first : AsduLayout
  more : List Asdu
  first_fits : firstForm.Fits first.length
  seq_fits : seqForm.Fits (asduBlocks firstForm first more 0 0).length
  fits : form.Fits (savContent noAsdu seqForm (asduBlocks firstForm first more 0 0)).length

namespace SavPdu

def blocks (pdu : SavPdu) (cnt : UInt16) (synch : UInt8) : List UInt8 :=
  asduBlocks pdu.firstForm pdu.first pdu.more cnt synch

def encode (pdu : SavPdu) (cnt : UInt16) (synch : UInt8) : List UInt8 :=
  tlv pdu.form 0x60 (savContent pdu.noAsdu pdu.seqForm (pdu.blocks cnt synch))

def front (pdu : SavPdu) : List UInt8 :=
  0x60 :: pdu.form.octets (savContent pdu.noAsdu pdu.seqForm (pdu.blocks 0 0)).length ++
    (pdu.noAsdu.encode 0x80 ++ 0xA2 :: pdu.seqForm.octets (pdu.blocks 0 0).length ++
      (0x30 :: pdu.firstForm.octets pdu.first.length ++ pdu.first.front))

def behind (pdu : SavPdu) : List UInt8 :=
  pdu.first.sample.encode 0x87 ++ pdu.more.flatMap Asdu.encode

end SavPdu

def sampleBytes (front : List UInt8) (cntForm : LengthForm) (middle : List UInt8)
    (synchForm : LengthForm) (behind : List UInt8) (cnt : UInt16) (synch : UInt8) : List UInt8 :=
  front ++ (tlv cntForm 0x82 (toBe 2 cnt.toNat) ++
    (middle ++ (tlv synchForm 0x85 [synch] ++ behind)))

lemma SavPdu.encode_eq (pdu : SavPdu) (cnt : UInt16) (synch : UInt8) : pdu.encode cnt synch =
      sampleBytes pdu.front pdu.first.smpCntForm pdu.first.middle pdu.first.smpSynchForm pdu.behind
        cnt synch := by
  have hblocks : (pdu.blocks cnt synch).length = (pdu.blocks 0 0).length := by
    simp only [blocks, asduBlocks, tlv, length_append, length_cons, AsduLayout.length_content]
  have hcontent : (savContent pdu.noAsdu pdu.seqForm (pdu.blocks cnt synch)).length =
      (savContent pdu.noAsdu pdu.seqForm (pdu.blocks 0 0)).length := by
    simp only [savContent, tlv, length_append, length_cons, hblocks]
  have hexpand : savContent pdu.noAsdu pdu.seqForm (pdu.blocks cnt synch) =
      pdu.noAsdu.encode 0x80 ++ 0xA2 :: (pdu.seqForm.octets (pdu.blocks 0 0).length ++
        (0x30 :: (pdu.firstForm.octets pdu.first.length ++ pdu.first.content cnt synch) ++
          pdu.more.flatMap Asdu.encode)) := by
    have hwhole : pdu.blocks cnt synch =
        0x30 :: (pdu.firstForm.octets pdu.first.length ++ pdu.first.content cnt synch) ++
          pdu.more.flatMap Asdu.encode := by
      rw [blocks, asduBlocks, tlv, AsduLayout.length_content]
    rw [savContent, tlv, hblocks, hwhole]
  rw [encode, tlv, hcontent, hexpand]
  simp only [sampleBytes, front, behind, AsduLayout.content, AsduLayout.smpCnt, AsduLayout.smpSynch,
    append_assoc, cons_append]

/-! ## The scan -/

lemma svTag_iff {tag len : UInt8} : svTag tag len = true ↔
    (tag = 0x82 ∧ len = 2) ∨ (tag = 0x85 ∧ len = 1) := by
  unfold svTag
  split
  · simp
  · simp
  · next h₁ h₂ =>
      refine iff_of_false false_ne_true ?_
      rintro (⟨htag, -⟩ | ⟨htag, -⟩)
      · exact h₁ htag
      · exact h₂ htag

lemma svTag_eq_false {tag len : UInt8} (h₁ : tag = 0x82 → len ≠ 2) (h₂ : tag = 0x85 → len ≠ 1) :
    svTag tag len = false := by
  rw [← not_eq_true, svTag_iff]
  rintro (⟨htag, hlen⟩ | ⟨htag, hlen⟩)
  · exact h₁ htag hlen
  · exact h₂ htag hlen

lemma noLength_svTag {len : UInt8} (h₁ : len ≠ 1) (h₂ : len ≠ 2) : NoLength svTag len :=
  fun _ => svTag_eq_false (fun _ => h₂) (fun _ => h₁)

lemma neutral_svTag {byte : UInt8} (hbyte : byte = 0 ∨ byte = 3) : Neutral svTag byte := by
  rcases hbyte with rfl | rfl
  · exact ⟨fun len => svTag_eq_false (fun h => absurd h (by decide))
      (fun h => absurd h (by decide)), noLength_svTag (by decide) (by decide)⟩
  · exact ⟨fun len => svTag_eq_false (fun h => absurd h (by decide))
      (fun h => absurd h (by decide)), noLength_svTag (by decide) (by decide)⟩

lemma sampleFields_eq (bytes : List UInt8) :
    extractSvSampleFields bytes = scanUntil set complete ⟨none, none⟩ (hits svTag bytes) :=
  slidingScan_eq_scanUntil _ _ (noLength_svTag (by decide) (by decide)) le_rfl rfl

lemma hit_tag {found : List Hit} {front : List UInt8} (h : Walk svTag front found) :
    ∀ hit ∈ found, hit.tag = 0x82 ∨ hit.tag = 0x85 := by
  intro hit hhit
  obtain ⟨len, haccept⟩ := h.accepted hit hhit
  exact (svTag_iff.mp haccept).imp And.left And.left

/-! ## Updates -/

lemma set_cnt {fields : SampleFields} {hit : Hit} (h : hit.tag = 0x82) :
    fields.set hit =
      { fields with smpCnt := some (UInt16.ofNat (beNat (slice hit.value 0 2))) } := by
  rw [SampleFields.set, h]
  rfl

lemma set_synch {fields : SampleFields} {hit : Hit} (h : hit.tag = 0x85) :
    fields.set hit = { fields with smpSynch := some (byteAt hit.value 0) } := by
  rw [SampleFields.set, h]
  rfl

abbrev scanFields : SampleFields → List Hit → SampleFields :=
  scanUntil SampleFields.set SampleFields.complete

def countOf (hit : Hit) : UInt16 := UInt16.ofNat (beNat (slice hit.value 0 2))

lemma complete_of_none {fields : SampleFields} (h : fields.smpSynch = none) :
    ¬fields.complete = true := by
  rw [complete, h, Option.isSome_none, Bool.and_false]
  exact false_ne_true

lemma scanFields_count {fields : SampleFields} {hit : Hit} (hopen : fields.smpSynch = none)
    (h : hit.tag = 0x82)
    (rest : List Hit) : scanFields fields (hit :: rest) =
      scanFields ⟨some (countOf hit), none⟩ rest := by
  have hset : fields.set hit = ⟨some (countOf hit), none⟩ := by
    rw [set_cnt h, hopen]
    rfl
  rw [scanFields, scanUntil, hset, if_neg (complete_of_none rfl)]

lemma scanFields_synch {hit : Hit} (cnt : UInt16) (synch : Option UInt8) (h : hit.tag = 0x85)
    (rest : List Hit) :
    scanFields ⟨some cnt, synch⟩ (hit :: rest) = ⟨some cnt, some (byteAt hit.value 0)⟩ := by
  rw [scanFields, scanUntil, set_synch h]
  rfl

lemma scanFields_last {fields : SampleFields} {hit : Hit} {synch : UInt8}
    (hsynch : fields.smpSynch = some synch)
    (h : hit.tag = 0x82) (rest : List Hit) :
      scanFields fields (hit :: rest) = ⟨some (countOf hit), some synch⟩ := by
  rw [scanFields, scanUntil, set_cnt h, hsynch]
  rfl

lemma smpSynch_of_counts {found : List Hit} (h : ∀ hit ∈ found, hit.tag = 0x82)
    {fields : SampleFields} (hopen : fields.smpSynch = none) :
    (scanFields fields found).smpSynch = none := by
  refine scanUntil_keeps (P := fun fields : SampleFields => fields.smpSynch = none) ?_ hopen
  intro fields hit hhit hnone
  rw [set_cnt (h hit hhit)]
  exact hnone

lemma smpSynch_isSome {found : List Hit} {hit : Hit} (hmem : hit ∈ found) (htag : hit.tag = 0x85)
    (fields : SampleFields) : (scanFields fields found).smpSynch.isSome := by
  have hkeeps : ∀ (fields : SampleFields) (hit : Hit), fields.smpSynch.isSome →
      (fields.set hit).smpSynch.isSome := by
    intro fields hit hsome
    unfold SampleFields.set
    split
    · exact hsome
    · rfl
    · exact hsome
  induction found generalizing fields with
  | nil => exact absurd hmem not_mem_nil
  | cons first found ih =>
    rw [scanFields, scanUntil]
    rcases mem_cons.mp hmem with rfl | hlater
    · have hset : (fields.set hit).smpSynch.isSome := by
        rw [set_synch htag]
        rfl
      split
      · exact hset
      · exact scanUntil_keeps (P := fun fields : SampleFields => fields.smpSynch.isSome = true)
          (fun s h _ => hkeeps s h) hset
    · split
      · next hdone => exact (and_eq_true_iff.mp hdone).2
      · exact ih hlater _

/-! ## When both values are reported -/

section

lemma value_fits {tag len : UInt8} (h : svTag tag len = true) : len.toNat ≤ 2 := by
  rcases svTag_iff.mp h with ⟨-, rfl⟩ | ⟨-, rfl⟩ <;> decide

lemma hits_sampleBytes {front middle : List UInt8} {synchForm : LengthForm} {behind : List UInt8}
    {found : List Hit} (hfront : Walk svTag front found) (cnt : UInt16) (synch : UInt8) :
    hits svTag (sampleBytes front .short middle synchForm behind cnt synch) =
      found ++ ⟨0x82, toBe 2 cnt.toNat⟩ :: hits svTag
        (middle ++ (tlv synchForm 0x85 [synch] ++ behind)) := by
  have hcnt : tlv .short 0x82 (toBe 2 cnt.toNat) ++
    (middle ++ (tlv synchForm 0x85 [synch] ++ behind)) =
      0x82 :: 2 :: (toBe 2 cnt.toNat ++ (middle ++ (tlv synchForm 0x85 [synch] ++ behind))) := by
    rw [tlv]
    rfl
  have haccept : svTag 0x82 2 = true := rfl
  rw [sampleBytes, hcnt, hits_append_of_walk hfront (noLength_svTag (by decide) (by decide)),
    hits_hit haccept (length_toBe 2 _)]

lemma hits_synch {middle behind : List UInt8} {found : List Hit} (hmiddle : Walk svTag middle found)
    (synch : UInt8) :
    hits svTag (middle ++ (tlv .short 0x85 [synch] ++ behind)) =
      found ++ ⟨0x85, [synch]⟩ :: hits svTag behind := by
  have haccept : svTag 0x85 1 = true := rfl
  have hsynch : tlv .short 0x85 [synch] ++ behind = 0x85 :: 1 :: ([synch] ++ behind) := rfl
  rw [hsynch, hits_append_of_walk hmiddle (noLength_svTag (by decide) (by decide)),
    hits_hit haccept rfl]

lemma countOf_toBe (cnt : UInt16) : countOf ⟨0x82, toBe 2 cnt.toNat⟩ = cnt := by
  have hcnt : cnt.toNat < 256 ^ 2 := cnt.toNat_lt
  rw [countOf, slice_self (length_toBe 2 _), beNat_toBe hcnt, UInt16.ofNat_toNat]

lemma reports_of_walk {front middle behind : List UInt8} {found : List Hit}
    (hfront : Walk svTag front found) (hcounts : ∀ hit ∈ found, hit.tag = 0x82)
    (hmiddle : Walk svTag middle []) (cnt : UInt16) (synch : UInt8) :
    extractSvSampleFields (sampleBytes front .short middle .short behind cnt synch) =
      ⟨some cnt, some synch⟩ := by
  have hopen : (scanFields ⟨none, none⟩ found).smpSynch = none := smpSynch_of_counts hcounts rfl
  calc
    extractSvSampleFields (sampleBytes front .short middle .short behind cnt synch)
        = scanFields ⟨none, none⟩
          (found ++ ⟨0x82, toBe 2 cnt.toNat⟩ :: ⟨0x85, [synch]⟩ :: hits svTag behind) := by
          rw [sampleFields_eq, hits_sampleBytes hfront, hits_synch hmiddle, nil_append]
    _ = scanFields (scanFields ⟨none, none⟩ found)
          (⟨0x82, toBe 2 cnt.toNat⟩ :: ⟨0x85, [synch]⟩ :: hits svTag behind) := by
          rw [scanFields, scanUntil_append rfl, if_neg (complete_of_none hopen)]
    _ = scanFields ⟨some cnt, none⟩ (⟨0x85, [synch]⟩ :: hits svTag behind) := by
          rw [scanFields_count hopen rfl, countOf_toBe]
    _ = ⟨some cnt, some synch⟩ := scanFields_synch cnt none rfl _

/-- Where a scan can be if a byte is in a value: at an element 82 02 with at most one byte behind,
or at 85 01. -/
theorem covers_cases {tag len : UInt8} {before value : List UInt8} {found : List Hit}
    {bytes : List UInt8} (h : Covers svTag bytes before found tag len value) :
    (tag = 0x82 ∧ bytes = before ++ [0x82, 2] ∧ value = []) ∨
      (tag = 0x82 ∧ ∃ v, bytes = before ++ [0x82, 2, v] ∧ value = [v]) ∨
      (tag = 0x85 ∧ bytes = before ++ [0x85, 1] ∧ value = []) := by
  have hsplit := h.split
  have hshort := h.short
  rcases svTag_iff.mp h.accepted with ⟨rfl, rfl⟩ | ⟨rfl, rfl⟩
  · match value, hshort with
    | [], _ => exact .inl ⟨rfl, hsplit, rfl⟩
    | [v], _ => exact .inr (.inl ⟨rfl, v, hsplit, rfl⟩)
    | _ :: _ :: value, hshort =>
      have htwo : (2 : UInt8).toNat = 2 := rfl
      rw [length_cons, length_cons] at hshort
      omega
  · match value, hshort with
    | [], _ => exact .inr (.inr ⟨rfl, hsplit, rfl⟩)
    | _ :: value, hshort =>
      have hone : (1 : UInt8).toNat = 1 := rfl
      rw [length_cons] at hshort
      omega

/-- If the last byte of the sample count is in a value, the element is in the short form and the
scan has come to its tag. -/
theorem count_covers {front : List UInt8} {cntForm : LengthForm} {tag len : UInt8}
    {before value : List UInt8} {found : List Hit} (hcnt : cntForm.Fits 2)
    (h : Covers svTag (front ++ 0x82 :: (cntForm.octets 2 ++ [0])) before found tag len value) :
    cntForm = .short ∧ Walk svTag front found := by
  have hwalk := h.walk
  rcases covers_cases h with ⟨-, hsplit, -⟩ | ⟨-, v, hsplit, -⟩ | ⟨-, hsplit, -⟩
  · have hlast := congrArg getLast? hsplit
    simp [getLast?_append, getLast?_cons] at hlast
  · match cntForm, hcnt with
    | .short, _ =>
      have hsame : front ++ [0x82, 2, 0] = before ++ [0x82, 2, v] := hsplit
      obtain ⟨rfl, -⟩ := append_inj' hsame rfl
      exact ⟨rfl, hwalk⟩
    | .long count, hcnt =>
      obtain ⟨lead, b, hoctets, hb⟩ := LengthForm.octets_long_end hcnt.1 (show 2 < 256 by decide)
      have hsame : (front ++ 0x82 :: lead) ++ [b, 2, 0] = before ++ [0x82, 2, v] := by
        rw [← hsplit, hoctets]
        simp
      have hend := (append_inj' hsame rfl).2
      obtain ⟨rfl, -⟩ := cons.inj hend
      exact absurd hb (by decide)
  · have hlast := congrArg getLast? hsplit
    simp [getLast?_append, getLast?_cons] at hlast

lemma synch_covers {middle : List UInt8} {synchForm : LengthForm} {tag len : UInt8}
    {before value : List UInt8} {found : List Hit} (hsynch : synchForm.Fits 1)
    (h : Covers svTag (middle ++ 0x85 :: synchForm.octets 1) before found tag len value) :
    synchForm = .short ∧ Walk svTag middle found := by
  have hwalk := h.walk
  -- the two bytes that the front ends with
  obtain ⟨lead, b, hend, hb⟩ : ∃ lead b, middle ++ 0x85 :: synchForm.octets 1 = lead ++ [b, 1] ∧
      ((b = 0x85 ∧ lead = middle ∧ synchForm = .short) ∨ b = 0x81 ∨ b = 0) := by
    match synchForm, hsynch with
    | .short, _ => exact ⟨middle, 0x85, rfl, .inl ⟨rfl, rfl, rfl⟩⟩
    | .long count, hsynch =>
      obtain ⟨lead, b, hoctets, hb⟩ := LengthForm.octets_long_end hsynch.1 (show 1 < 256 by decide)
      refine ⟨middle ++ 0x85 :: lead, b, ?_, .inr hb⟩
      rw [hoctets]
      simp
  rcases covers_cases h with ⟨-, hsplit, -⟩ | ⟨-, v, hsplit, -⟩ | ⟨-, hsplit, -⟩
  · have hlast := (append_inj' (hend.symm.trans hsplit) rfl).2
    simp at hlast
  · have hthree : before ++ [0x82, 2, v] = (before ++ [0x82]) ++ [2, v] := by simp
    have hlast := (append_inj' (hend.symm.trans (hsplit.trans hthree)) rfl).2
    obtain ⟨rfl, -⟩ := cons.inj hlast
    exact absurd hb (by simp)
  · obtain ⟨hlead, hlast⟩ := append_inj' (hend.symm.trans hsplit) rfl
    obtain ⟨rfl, -⟩ := cons.inj hlast
    rcases hb with ⟨-, hmiddle, hform⟩ | hb | hb
    · rw [← hmiddle, hlead]
      exact ⟨hform, hwalk⟩
    · exact absurd hb (by decide)
    · exact absurd hb (by decide)

def Reports (front : List UInt8) (cntForm : LengthForm) (middle : List UInt8)
    (synchForm : LengthForm) (behind : List UInt8) : Prop :=
  ∀ cnt synch, extractSvSampleFields (sampleBytes front cntForm middle synchForm behind cnt synch) =
    ⟨some cnt, some synch⟩

lemma Reports.hits_ne {front : List UInt8} {cntForm : LengthForm} {middle : List UInt8}
    {synchForm : LengthForm} {behind : List UInt8}
    (h : Reports front cntForm middle synchForm behind) {cnt cnt' : UInt16} {synch synch' : UInt8}
    (hne : cnt ≠ cnt' ∨ synch ≠ synch') :
    hits svTag (sampleBytes front cntForm middle synchForm behind cnt synch) ≠
      hits svTag (sampleBytes front cntForm middle synchForm behind cnt' synch') := by
  intro hsame
  have hfields := h cnt synch
  rw [sampleFields_eq, hsame, ← sampleFields_eq, h] at hfields
  obtain ⟨hcnt, hsynch⟩ := mk.inj hfields
  rcases hne with hne | hne
  · exact hne (some.inj hcnt).symm
  · exact hne (some.inj hsynch).symm

lemma Reports.count_short {front : List UInt8} {cntForm : LengthForm} {middle : List UInt8}
    {synchForm : LengthForm} {behind : List UInt8}
    (h : Reports front cntForm middle synchForm behind) (hcnt : cntForm.Fits 2) :
    cntForm = .short ∧ ∃ found, Walk svTag front found := by
  have hbytes : ∀ (cnt : UInt16) (lo : UInt8), toBe 2 cnt.toNat = [0, lo] →
      sampleBytes front cntForm middle synchForm behind cnt 0 =
        (front ++ 0x82 :: (cntForm.octets 2 ++ [0])) ++ lo ::
          (middle ++ (tlv synchForm 0x85 [0] ++ behind)) := by
    intro cnt lo hlo
    rw [sampleBytes, tlv, hlo]
    simp
  have hfits : ∀ tag len, svTag tag len = true →
      len.toNat ≤ (middle ++ (tlv synchForm 0x85 [0] ++ behind)).length + 1 := by
    intro tag len haccept
    have hlen := value_fits haccept
    simp only [tlv, length_append, length_cons]
    omega
  rcases hits_flip (neutral_svTag (.inl rfl)) (neutral_svTag (.inr rfl))
    _ hfits with hsame | ⟨_, found, _, _, _, _, _, hcovers, -, -⟩
  · rw [← hbytes 0 0 rfl, ← hbytes 3 3 rfl] at hsame
    exact absurd hsame (h.hits_ne (.inl (by decide)))
  · obtain ⟨hform, hwalk⟩ := count_covers hcnt hcovers
    exact ⟨hform, found, hwalk⟩

lemma Reports.counts {front middle : List UInt8} {synchForm : LengthForm} {behind : List UInt8}
    {found : List Hit} (h : Reports front .short middle synchForm behind)
    (hfront : Walk svTag front found) : ∀ hit ∈ found, hit.tag = 0x82 := by
  intro hit hmem
  rcases hit_tag hfront hit hmem with htag | htag
  · exact htag
  · obtain ⟨synch, hsynch⟩ := isSome_iff_exists.mp (smpSynch_isSome hmem htag ⟨none, none⟩)
    have hfields : ∀ s : UInt8,
        (extractSvSampleFields (sampleBytes front .short middle synchForm behind 0 s)).smpSynch =
        some synch := by
      intro s
      rw [sampleFields_eq, hits_sampleBytes hfront, scanUntil_append rfl]
      split
      · exact hsynch
      · exact congrArg _ (scanFields_last hsynch rfl _)
    have hzero := hfields 0
    have hone := hfields 1
    rw [h] at hzero hone
    exact absurd (hzero.trans hone.symm) (by decide)

lemma Reports.fields_eq {front middle : List UInt8} {synchForm : LengthForm} {behind : List UInt8}
    {found : List Hit} (h : Reports front .short middle synchForm behind)
    (hfront : Walk svTag front found) (cnt : UInt16) (synch : UInt8) :
    scanFields ⟨some cnt, none⟩ (hits svTag (middle ++ (tlv synchForm 0x85 [synch] ++ behind))) =
      ⟨some cnt, some synch⟩ := by
  have hopen : (scanFields ⟨none, none⟩ found).smpSynch = none :=
    smpSynch_of_counts (h.counts hfront) rfl
  have hfields := h cnt synch
  rw [sampleFields_eq, hits_sampleBytes hfront, scanUntil_append rfl,
    if_neg (complete_of_none hopen)] at hfields
  have hcount : scanFields (scanFields ⟨none, none⟩ found) (⟨0x82, toBe 2 cnt.toNat⟩ ::
      hits svTag (middle ++ (tlv synchForm 0x85 [synch] ++ behind))) =
        scanFields ⟨some (countOf ⟨0x82, toBe 2 cnt.toNat⟩), none⟩
          (hits svTag (middle ++ (tlv synchForm 0x85 [synch] ++ behind))) :=
            scanFields_count hopen rfl _
  rw [countOf_toBe] at hcount
  exact hcount.symm.trans hfields

lemma Reports.synch_short {front middle : List UInt8} {synchForm : LengthForm} {behind : List UInt8}
    {found : List Hit} (h : Reports front .short middle synchForm behind)
    (hfront : Walk svTag front found) (hsynch : synchForm.Fits 1) (hbehind : 1 ≤ behind.length) :
    synchForm = .short ∧ ∃ between, Walk svTag middle between := by
  have hbytes : ∀ synch : UInt8, middle ++ (tlv synchForm 0x85 [synch] ++ behind) =
      (middle ++ 0x85 :: synchForm.octets 1) ++ synch :: behind := by
    simp [tlv]
  have hfits : ∀ tag len, svTag tag len = true → len.toNat ≤ behind.length + 1 := by
    intro tag len haccept
    have hlen := value_fits haccept
    omega
  rcases hits_flip (neutral_svTag (.inl rfl)) (neutral_svTag (.inr rfl)) _
    hfits with
    hsame | ⟨_, between, _, _, _, _, _, hcovers, -, -⟩
  · rw [← hbytes, ← hbytes] at hsame
    have hzero := h.fields_eq hfront 0 0
    rw [hsame, h.fields_eq hfront] at hzero
    exact absurd hzero (by decide)
  · obtain ⟨hform, hwalk⟩ := synch_covers hsynch hcovers
    exact ⟨hform, between, hwalk⟩

lemma Reports.middle_walk {front middle behind : List UInt8}
    (h : Reports front .short middle .short behind) {found between : List Hit}
    (hfront : Walk svTag front found) (hmiddle : Walk svTag middle between) : between = [] := by
  cases between with
  | nil => rfl
  | cons hit between =>
    have hfields : ∀ cnt synch, scanFields ⟨some cnt, none⟩
        (hit :: (between ++ ⟨0x85, [synch]⟩ :: hits svTag behind)) = ⟨some cnt, some synch⟩ := by
      intro cnt synch
      have heq := h.fields_eq hfront cnt synch
      rwa [hits_synch hmiddle] at heq
    rcases hit_tag hmiddle hit mem_cons_self with htag | htag
    · -- the count is the same for every sample count
      have hzero := hfields 0 0
      have hone := hfields 1 0
      rw [scanFields_count rfl htag] at hzero hone
      exact absurd (hzero.symm.trans hone) (by decide)
    · have hzero := hfields 0 0
      have hone := hfields 0 1
      rw [scanFields_synch _ _ htag] at hzero hone
      exact absurd (hzero.symm.trans hone) (by decide)

/-- Both values are reported exactly if both lengths are in the short form, the scan finds nothing
but sample counts before them and comes to the right one, and it finds nothing in between. -/
theorem reports_iff {front : List UInt8} {cntForm : LengthForm} {middle : List UInt8}
    {synchForm : LengthForm} {behind : List UInt8} (hcnt : cntForm.Fits 2)
    (hsynch : synchForm.Fits 1) (hbehind : 1 ≤ behind.length) :
    Reports front cntForm middle synchForm behind ↔ cntForm = .short ∧ synchForm = .short ∧
        (∃ found, Walk svTag front found ∧ ∀ hit ∈ found, hit.tag = 0x82) ∧
          Walk svTag middle [] := by
  constructor
  · intro h
    obtain ⟨rfl, found, hfront⟩ := h.count_short hcnt
    obtain ⟨rfl, between, hmiddle⟩ := h.synch_short hfront hsynch hbehind
    obtain rfl := h.middle_walk hfront hmiddle
    exact ⟨rfl, rfl, ⟨found, hfront, h.counts hfront⟩, hmiddle⟩
  · rintro ⟨rfl, rfl, ⟨found, hfront, hcounts⟩, hmiddle⟩ cnt synch
    exact reports_of_walk hfront hcounts hmiddle cnt synch

end

/-- For a unit with given lengths and other contents: every sample count and synchronisation of its
first block is reported exactly if both have a length in the short form, no bytes 85 01 before them
and no bytes 82 02 or 85 01 between them are taken for an element, and no element that is found
before them runs into them. -/
theorem sampleFields_reported_iff (pdu : SavPdu) :
    (∀ cnt synch, extractSvSampleFields (pdu.encode cnt synch) = ⟨some cnt, some synch⟩) ↔
      pdu.first.smpCntForm = .short ∧ pdu.first.smpSynchForm = .short ∧
        (∃ found, Walk svTag pdu.front found ∧ ∀ hit ∈ found, hit.tag = 0x82) ∧
          Walk svTag pdu.first.middle [] := by
  have hbehind : 1 ≤ pdu.behind.length := by
    simp only [SavPdu.behind, Element.encode, tlv, length_append, length_cons]
    omega
  simp only [pdu.encode_eq]
  exact reports_iff pdu.first.smpCnt_fits pdu.first.smpSynch_fits hbehind

/-- One block whose configuration revision is 34049, in bytes 00 00 85 01. -/
def revisionPdu : SavPdu :=
  { form := .short
    noAsdu := ⟨.short, [1], LengthForm.fits_one⟩
    seqForm := .short
    firstForm := .short
    first :=
      { svId := ⟨.short, [0x4D, 0x55], by decide⟩
        datSet := none
        smpCntForm := .short
        smpCnt_fits := by decide
        confRev := ⟨.short, [0x00, 0x00, 0x85, 0x01], by decide⟩
        refrTm := none
        smpSynchForm := .short
        smpSynch_fits := LengthForm.fits_one
        sample := ⟨.short, [0x00, 0x07], by decide⟩ }
    more := []
    first_fits := by decide
    seq_fits := by decide
    fits := by decide }

/-- The synchronisation 2 is reported as 133. -/
theorem revisionPdu_misread : extractSvSampleFields (revisionPdu.encode 5 2) =
    ⟨some 5, some 0x85⟩ := by
  decide

end MarlinspikeDpi.Iec61850
