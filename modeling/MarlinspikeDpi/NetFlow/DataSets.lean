import MarlinspikeDpi.NetFlow.Decoder
import Mathlib.Data.List.TakeWhile

/-!
# The records of a data set

An IPFIX data set is a header, the records one after another and some zero bytes of padding. A v9
data flowset is cut into as many records as it has room for.

* `flowRecords_iff`: when all IPFIX records are reported.
* `v9FlowRecords_eq`: how a v9 flowset is cut.
-/

namespace MarlinspikeDpi.NetFlow

open Engine Bytes List Nat List.Forall₂ NetFlowDecoder OrderedMap

/-! ## Encoded records -/

def Fits (fields : List TemplateField) (values : List (List UInt8)) : Prop :=
  List.Forall₂ (fun field bytes => bytes.length = field.fieldLength.toNat) fields values

variable {fields : List TemplateField}

lemma Fits.length_flatten {values : List (List UInt8)} (hfits : Fits fields values) :
    values.flatten.length = recordLen fields := by
  induction hfits with
  | nil => rfl
  | cons hlength _ ih =>
    rw [flatten_cons, length_append, hlength, ih]
    rfl

lemma Fits.namedValues_flatten {values : List (List UInt8)} (hfits : Fits fields values) :
    namedValues fields values.flatten = zipWith namedValue fields values := by
  induction hfits with
  | nil => rfl
  | @cons field bytes fields values hlength _ ih =>
    have hthere : ¬ (bytes ++ values.flatten).length < field.fieldLength.toNat := by
      rw [length_append]
      omega
    rw [flatten_cons, namedValues, if_neg hthere, ← hlength, take_left, drop_left, ih]
    rfl

/-- A data set for a template: its header, the values of each record, and the number of padding
bytes. -/
structure DataSet (fields : List TemplateField) where
  header : List UInt8
  records : List (List (List UInt8))
  padding : Nat
  header_length : header.length = 4
  fits : ∀ values ∈ records, Fits fields values
  padding_le : padding ≤ 3
  padding_lt : padding < recordLen fields

namespace DataSet

def body (set : DataSet fields) : List UInt8 :=
  (set.records.map List.flatten).flatten ++ List.replicate set.padding 0

def bytes (set : DataSet fields) : List UInt8 := set.header ++ set.body

end DataSet

/-! ## Which records are decoded -/

lemma rawRecords_eq {records : List (List UInt8)} {len padding fuel : Nat}
    (hlen : ∀ record ∈ records, record.length = len) (hpadding : padding < len)
    (hfuel : records.flatten.length ≤ fuel) :
    rawRecords .ipfix len fuel (records.flatten ++ replicate padding 0) =
      records.takeWhile fun record => byteAt record 0 != 0 || len == 1 := by
  induction records generalizing fuel with
  | nil =>
    cases fuel with
    | zero => rfl
    | succ fuel =>
      have hshort : (flatten [] ++ replicate padding (0 : UInt8)).length < len := by
        simpa using hpadding
      rw [rawRecords, if_pos hshort]
      rfl
  | cons record records ih =>
    obtain ⟨hrecord, hrecords⟩ := forall_mem_cons.1 hlen
    rw [flatten_cons, length_append] at hfuel
    cases fuel with
    | zero => omega
    | succ fuel =>
      have hrest := @ih fuel hrecords (by omega)
      rw [flatten_cons, append_assoc, takeWhile_cons, rawRecords,
        if_neg (by rw [length_append]; omega)]
      generalize records.flatten ++ replicate padding 0 = rest at hrest ⊢
      have hfirst : byteAt (record ++ rest) 0 = byteAt record 0 := by
        cases record with
        | nil => rw [length_nil] at hrecord; omega
        | cons b bs => rfl
      have htake : (record ++ rest).take len = record := by rw [← hrecord, take_left]
      have hdrop : (record ++ rest).drop len = rest := by rw [← hrecord, drop_left]
      rw [hfirst, htake, hdrop, hrest]
      by_cases hzero : byteAt record 0 = 0
      · by_cases hone : len = 1
        · simp [hzero, hone]
        · have hmore : 1 < len := by omega
          simp [hzero, hone, hmore]
      · simp [hzero]

/-! ## Which records are reported -/

def flowRecordOf (source : Source) (fields : List TemplateField) (values : List (List UInt8)) :
  BronzeEvent := let attr := OrderedMap.empty.extend (List.zipWith namedValue fields values)
  txEvent source.chunk source.dialect.flowRecord attr (buildFlowRef attr)

/-- The transaction of a flow record. -/
def isFlowRecord (dialect : Dialect) (event : BronzeEvent) : Bool :=
  match event.family with
  | .protocolTransaction tx => tx.operation == dialect.flowRecord
  | _ => false

lemma filter_emitRecord {values : List (List UInt8)} (source : Source)
    (hfits : Fits fields values) (hlen : 0 < recordLen fields) (d : NetFlowDecoder) :
    (d.emitRecord source fields values.flatten).1.filter (isFlowRecord source.dialect) =
      [flowRecordOf source fields values] := by
  have hattr : decodeRecordFields values.flatten fields =
    (empty.extend (zipWith namedValue fields values),
        buildFlowRef (empty.extend (zipWith namedValue fields values))) := by
    rw [decodeRecordFields, hfits.namedValues_flatten]
  have hnonempty : (empty.extend (zipWith namedValue fields values)).isEmpty = false := by
    refine isEmpty_extend (.inr ?_)
    cases hfits with
    | nil => exact absurd hlen (by decide)
    | cons _ _ => exact cons_ne_nil _ _
  have hrecord : isFlowRecord source.dialect (flowRecordOf source fields values) = true := by
    simp [isFlowRecord, flowRecordOf, txEvent, newEvent]
  rw [emitRecord, hattr]
  dsimp only
  rw [if_neg (by rw [hnonempty]; exact Bool.false_ne_true)]
  -- an asset event may stand in front
  split
  · exact filter_cons_of_pos hrecord
  · split <;> exact filter_cons_of_pos hrecord

section

lemma filter_decodeDataSet_of_rawRecords {d : NetFlowDecoder} {templateId : UInt16}
    {record : TemplateRecord} {source : Source} {header body : List UInt8}
    {records : List (List (List UInt8))}
    (hstored : d.templates.lookup (source.key templateId) = some record)
    (hdata : record.isOptions = false)
    (hlen : 0 < recordLen record.fields) (hheader : header.length = 4)
    (hfits : ∀ values ∈ records, Fits record.fields values)
    (hraw : rawRecords source.dialect (recordLen record.fields) body.length body =
      records.map flatten) :
    (d.decodeDataSet source templateId (header ++ body)).1.filter (isFlowRecord source.dialect) =
      records.map (flowRecordOf source record.fields) := by
  rw [decodeDataSet, hstored]
  dsimp only
  rw [if_neg (by rw [hdata]; exact Bool.false_ne_true), decodeWith, if_neg (ne_of_gt hlen),
    ← hheader, drop_left]
  dsimp only
  rw [hraw, Mealy.filter_run_map _ _ _ fun values => [flowRecordOf source record.fields values]]
  · exact map_eq_flatMap.symm
  · exact fun d values hvalues => filter_emitRecord source (hfits values hvalues) hlen d

lemma filter_decodeDataSet {d : NetFlowDecoder} {templateId : UInt16} {record : TemplateRecord}
    {chunk : StreamChunk} {domain : UInt32}
    (hstored : d.templates.lookup (Source.key ⟨.ipfix, chunk, domain⟩ templateId) = some record)
    (hdata : record.isOptions = false) (set : DataSet record.fields) :
    (d.decodeDataSet ⟨.ipfix, chunk, domain⟩ templateId set.bytes).1.filter (isFlowRecord .ipfix) =
      (set.records.takeWhile fun values =>
        byteAt values.flatten 0 != 0 || recordLen record.fields == 1).map
        (flowRecordOf ⟨.ipfix, chunk, domain⟩ record.fields) := by
  have hlen : 0 < recordLen record.fields := lt_of_le_of_lt (zero_le _) set.padding_lt
  have hlengths : ∀ bytes ∈ set.records.map flatten, bytes.length = recordLen record.fields := by
    intro bytes hbytes
    obtain ⟨values, hvalues, rfl⟩ := mem_map.1 hbytes
    exact (set.fits values hvalues).length_flatten
  have hfuel : (set.records.map flatten).flatten.length ≤ set.body.length := by
    rw [DataSet.body, length_append]
    exact le_add_right _ _
  exact filter_decodeDataSet_of_rawRecords hstored hdata hlen set.header_length
    (fun values hvalues => set.fits values ((takeWhile_sublist _).subset hvalues))
    ((rawRecords_eq hlengths set.padding_lt hfuel).trans takeWhile_map)

end

/-- All records are reported, each with its values, exactly if records are one byte long or none
begins with a zero byte. -/
theorem flowRecords_iff (d : NetFlowDecoder) (chunk : StreamChunk) (domain : UInt32)
    (templateId : UInt16) (record : TemplateRecord)
    (hstored : d.templates.lookup (Source.key ⟨.ipfix, chunk, domain⟩ templateId) = some record)
    (hdata : record.isOptions = false) (set : DataSet record.fields) :
    (d.decodeDataSet ⟨.ipfix, chunk, domain⟩ templateId set.bytes).1.filter (isFlowRecord .ipfix) =
        set.records.map (flowRecordOf ⟨.ipfix, chunk, domain⟩ record.fields) ↔
      recordLen record.fields = 1 ∨ ∀ values ∈ set.records, byteAt values.flatten 0 ≠ 0 := by
  rw [filter_decodeDataSet hstored hdata set]
  constructor
  · intro hsame
    -- as many reports as records: no record was left out
    have hall := ( takeWhile_prefix _).eq_of_length (by simpa using congrArg length hsame)
    rw [takeWhile_eq_self_iff] at hall
    by_cases hone : recordLen record.fields = 1
    · exact .inl hone
    · refine .inr fun values hvalues => ?_
      simpa [hone] using hall values hvalues
  · intro hcondition
    congr 1
    rw [takeWhile_eq_self_iff]
    intro values hvalues
    rcases hcondition with hone | hfirst
    · simp [hone]
    · simp [hfirst values hvalues]

/-! ## v9 data flowsets -/

/-- The values of the fields of a record that begins at an offset into the body of a flowset. -/
def valuesAt (fields : List TemplateField) (body : List UInt8) (start : Nat) : List (List UInt8) :=
  fields.mapIdx fun j field => slice body
    (start + recordLen (fields.take j)) field.fieldLength.toNat

lemma valuesAt_cons (field : TemplateField) (fields : List TemplateField) (body : List UInt8)
    (start : Nat) : valuesAt (field :: fields) body start =
      slice body start field.fieldLength.toNat :: valuesAt fields body
        (start + field.fieldLength.toNat) := by
  simp [valuesAt, mapIdx_cons, recordLen, Nat.add_assoc]

lemma fits_valuesAt {body : List UInt8} {start : Nat}
    (hbody : start + recordLen fields ≤ body.length) : Fits fields (valuesAt fields body start) ∧
      (valuesAt fields body start).flatten = slice body start (recordLen fields) := by
  induction fields generalizing start with
  | nil => exact ⟨.nil, rfl⟩
  | cons field fields ih =>
    have hcons : recordLen (field :: fields) = field.fieldLength.toNat + recordLen fields := rfl
    rw [hcons] at hbody
    obtain ⟨hfits, hflatten⟩ := @ih (start + field.fieldLength.toNat) (by omega)
    rw [valuesAt_cons, flatten_cons, hflatten, hcons]
    refine ⟨.cons ?_ hfits, ?_⟩
    · rw [slice, length_take, length_drop]
      omega
    · rw [slice, slice, slice, take_add, drop_drop]

lemma rawRecords_v9_eq {len : Nat} (hlen : 0 < len) {fuel : Nat} {body : List UInt8}
    (hfuel : body.length ≤ fuel) :
    rawRecords .v9 len fuel body = (range (body.length / len)).map fun i =>
      slice body (i * len) len := by
  induction fuel generalizing body with
  | zero => rw [Nat.le_zero.1 hfuel, Nat.zero_div]; rfl
  | succ fuel ih =>
    rw [rawRecords]
    split
    case isTrue hshort => rw [div_eq_of_lt hshort]; rfl
    case isFalse hlong =>
      -- the first record is cut off; the others are those of what is left
      have hcount := div_eq_sub_div hlen (Nat.not_lt.1 hlong)
      rw [if_neg (fun h => nomatch h.1), ih (by rw [length_drop]; omega), hcount, range_succ_eq_map,
        map_cons, map_map, length_drop, Nat.zero_mul]
      congr 1
      refine map_congr_left fun i _ => ?_
      rw [Function.comp, slice, slice, drop_drop, Nat.succ_mul, Nat.add_comm]

/-- The body is cut into records of the template's length, and each field of each record has its own
bytes. -/
theorem v9FlowRecords_eq (d : NetFlowDecoder) (chunk : StreamChunk) (sourceId : UInt32)
    (templateId : UInt16) (record : TemplateRecord)
    (hstored : d.templates.lookup (Source.key ⟨.v9, chunk, sourceId⟩ templateId) = some record)
    (hdata : record.isOptions = false) (hlen : 1 ≤ recordLen record.fields)
    (header body : List UInt8)
    (hheader : header.length = 4) :
    (d.decodeDataSet ⟨.v9, chunk, sourceId⟩ templateId (header ++ body)).1.filter
      (isFlowRecord .v9) = (List.range (body.length / recordLen record.fields)).map fun i =>
        flowRecordOf ⟨.v9, chunk, sourceId⟩ record.fields
          (valuesAt record.fields body (i * recordLen record.fields)) := by
  set len := recordLen record.fields
  have hrecord : ∀ i ∈ range (body.length / len),
      Fits record.fields (valuesAt record.fields body (i * len)) ∧
        (valuesAt record.fields body (i * len)).flatten = slice body (i * len) len := by
    intro i hi
    -- the record ends within the body
    refine fits_valuesAt ?_
    have hmul : (i + 1) * len ≤ body.length := (Nat.le_div_iff_mul_le hlen).1 (mem_range.1 hi)
    rwa [Nat.succ_mul] at hmul
  refine (filter_decodeDataSet_of_rawRecords hstored hdata hlen hheader
    (forall_mem_map.2 fun i hi =>
    (hrecord i hi).1) ?_).trans map_map
  rw [map_map, rawRecords_v9_eq hlen le_rfl]
  exact map_congr_left fun i hi => (hrecord i hi).2.symm

/-! ## Ports below 256 -/

def portTemplate : TemplateRecord := ⟨256, [⟨7, 2, none⟩], false⟩

def portDecoder : NetFlowDecoder :=
  NetFlowDecoder.default.storeTemplate ("10.0.0.1", 0, 256) portTemplate

def setChunk : StreamChunk := hostChunk 1 .udp 4739 4739 []

lemma fits_port (hi lo : UInt8) : Fits portTemplate.fields [[hi, lo]] := cons rfl nil

def portSet (hi lo hi' lo' : UInt8) : DataSet portTemplate.fields where
  header := [1, 0, 0, 8]
  records := [[[hi, lo]], [[hi', lo']]]
  padding := 0
  header_length := rfl
  fits := forall_mem_cons.2 ⟨fits_port hi lo, forall_mem_singleton.2 (fits_port hi' lo')⟩
  padding_le := Nat.zero_le 3
  padding_lt := Nat.zero_lt_two

/-- Five bytes are two ports, also where one begins with a zero byte. -/
theorem v9Ports_reported :
    (portDecoder.decodeDataSet ⟨.v9, setChunk, 0⟩ 256 [1, 0, 0, 9, 0, 80, 31, 144, 0]).1.filter
        (isFlowRecord .v9) =
      [[[0, 80]], [[31, 144]]].map (flowRecordOf ⟨.v9, setChunk, 0⟩ portTemplate.fields) :=
  v9FlowRecords_eq portDecoder setChunk 0 256 portTemplate (by decide) rfl (by decide) [1, 0, 0, 9]
    [0, 80, 31, 144, 0] rfl

/-- The ports 443 and 8080 are both reported. -/
theorem highPorts_reported :
    (∀ values ∈ (portSet 1 187 31 144).records, byteAt values.flatten 0 ≠ 0) ∧
      (portDecoder.decodeDataSet ⟨.ipfix, setChunk, 0⟩ 256 (portSet 1 187 31 144).bytes).1.filter
          (isFlowRecord .ipfix) =
        (portSet 1 187 31 144).records.map
          (flowRecordOf ⟨.ipfix, setChunk, 0⟩ portTemplate.fields) := by
  have hfirst : ∀ values ∈ (portSet 1 187 31 144).records, byteAt values.flatten 0 ≠ 0 := by decide
  exact ⟨hfirst, (flowRecords_iff portDecoder setChunk 0 256 portTemplate (by decide) rfl
    (portSet 1 187 31 144)).2 (.inr hfirst)⟩

/-- With the port 80 in front nothing is reported, not even the second record. -/
theorem lowPort_hides_records :
    (portDecoder.decodeDataSet ⟨.ipfix, setChunk, 0⟩ 256 (portSet 0 80 31 144).bytes).1.filter
      (isFlowRecord .ipfix) = [] := by
  decide

end MarlinspikeDpi.NetFlow
