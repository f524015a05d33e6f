import MarlinspikeDpi.Igmp.Decoder

/-!
# The group records of a version 3 report

A report declares a number of group records.

* `v3Report_records_iff`: when the whole records are reported, and the missing ones.
-/

namespace MarlinspikeDpi.Igmp

open Engine Bytes List Option

/-! ## Reading behind a part of the data -/

lemma readU16Be_append (front body : List UInt8) (k : Nat) : readU16Be (front ++ body)
    (front.length + k) = readU16Be body k := by
  have hfits : front.length + k + 2 ≤ (front ++ body).length ↔ k + 2 ≤ body.length := by
    rw [length_append]
    omega
  simp only [readU16Be, hfits, slice_append_right (Nat.le_add_right _ k), Nat.add_sub_cancel_left]

lemma readU32Be_append (front body : List UInt8) (k : Nat) : readU32Be (front ++ body)
    (front.length + k) = readU32Be body k := by
  have hfits : front.length + k + 4 ≤ (front ++ body).length ↔ k + 4 ≤ body.length := by
    rw [length_append]
    omega
  simp only [readU32Be, hfits, slice_append_right (Nat.le_add_right _ k), Nat.add_sub_cancel_left]

lemma readAddrs_append (front body : List UInt8) (k count : Nat) :
    readAddrs (front ++ body) (front.length + k) count = readAddrs body k count := by
  simp only [readAddrs, Nat.add_assoc, readU32Be_append]

lemma readGroupRecords_append (front body : List UInt8) (declared k : Nat) :
    readGroupRecords (front ++ body) declared (front.length + k) =
      readGroupRecords body declared k := by
  induction declared generalizing k with
  | zero => rfl
  | succ declared ih =>
    have hshort : ∀ n, (front ++ body).length < front.length + n ↔ body.length < n := by
      rw [length_append]
      omega
    -- with all offsets counted from the end of the front, both sides read the same
    simp only [readGroupRecords, Nat.add_assoc, hshort, readU16Be_append, readU32Be_append,
      readAddrs_append, byteAt_append_right, ih]

/-! ## Records as they are sent -/

/-- 32-bit words, most significant byte first. -/
def words (ws : List UInt32) : List UInt8 := ws.flatMap fun w => toBe 4 w.toNat

lemma length_words (ws : List UInt32) : (words ws).length = ws.length * 4 := by
  simp [words, length_flatMap]

structure GroupRecord where
  recordType : UInt8
  groupAddr : UInt32
  (sources auxData : List UInt32)
  sources_fit : sources.length < 256 ^ 2
  auxData_fit : auxData.length < 256

open GroupRecord

namespace GroupRecord

variable (r : GroupRecord)

def head : List UInt8 :=
  [r.recordType, UInt8.ofNat r.auxData.length] ++ toBe 2 r.sources.length ++
    toBe 4 r.groupAddr.toNat ++ words r.sources

def encode : List UInt8 := r.head ++ words r.auxData

def parsed : IgmpV3GroupRecord :=
  { recordType := r.recordType, numSources := UInt16.ofNat r.sources.length,
    groupAddr := r.groupAddr, sourceAddrs := r.sources }

lemma length_head : r.head.length = 8 + r.sources.length * 4 := by
  simp only [head, length_append, length_toBe, length_words, length_cons, length_nil]

lemma length_encode : r.encode.length = r.head.length + r.auxData.length * 4 := by
  rw [encode, length_append, length_words]

end GroupRecord

/-! ## The loop over encoded records -/

lemma readU32Be_toBe (w : UInt32) (rest : List UInt8) :
    readU32Be (toBe 4 w.toNat ++ rest) 0 = some w := by
  have hfits : 0 + 4 ≤ (toBe 4 w.toNat ++ rest).length := by
    rw [length_append, length_toBe]
    omega
  rw [readU32Be, if_pos hfits, slice_append_self (length_toBe 4 w.toNat), beNat_toBe w.toNat_lt,
    UInt32.ofNat_toNat]

lemma readAddrs_words (ws : List UInt32) (rest : List UInt8) :
    readAddrs (words ws ++ rest) 0 ws.length = ws := by
  induction ws with
  | nil => rfl
  | cons w ws ih =>
    have hcons : words (w :: ws) ++ rest = toBe 4 w.toNat ++ (words ws ++ rest) := by
      rw [words, flatMap_cons, append_assoc, words]
    -- the other addresses are read behind the first
    have hlater : ∀ i, readU32Be (toBe 4 w.toNat ++ (words ws ++ rest)) (0 + (i + 1) * 4) =
        readU32Be (words ws ++ rest) (0 + i * 4) := by
      intro i
      have hoff : 0 + (i + 1) * 4 = (toBe 4 w.toNat).length + (0 + i * 4) := by
        rw [length_toBe]
        omega
      rw [hoff, readU32Be_append]
    rw [readAddrs, hcons, length_cons, range_succ_eq_map, filterMap_cons, filterMap_map]
    simp only [Nat.zero_mul, Nat.add_zero, readU32Be_toBe]
    refine congrArg _ (Eq.trans ?_ ih)
    apply filterMap_congr
    intro i _
    exact hlater i

/-- A record whose header and sources are there is read; the loop goes on behind its auxiliary
data. -/
theorem readGroupRecords_head (r : GroupRecord) (rest : List UInt8) (declared : Nat) :
    readGroupRecords (r.head ++ rest) (declared + 1) 0 =
      (r.parsed :: (readGroupRecords (r.head ++ rest) declared r.encode.length).1,
        (readGroupRecords (r.head ++ rest) declared r.encode.length).2) := by
  have hsources : ((UInt16.ofNat r.sources.length).toNat) = r.sources.length := by
    rw [UInt16.toNat_ofNat']
    exact Nat.mod_eq_of_lt r.sources_fit
  have haux : (UInt8.ofNat r.auxData.length).toNat = r.auxData.length := by
    rw [UInt8.toNat_ofNat']
    exact Nat.mod_eq_of_lt r.auxData_fit
  have hlen : (r.head ++ rest).length = 8 + r.sources.length * 4 + rest.length := by
    rw [length_append, r.length_head]
  have hcount : readU16Be (r.head ++ rest) 2 = some (UInt16.ofNat r.sources.length) := by
    have hslice : slice (r.head ++ rest) 2 2 = toBe 2 r.sources.length := rfl
    rw [readU16Be, if_pos (by omega), hslice, beNat_toBe r.sources_fit]
  have hgroup : readU32Be (r.head ++ rest) 4 = some r.groupAddr := by
    have hslice : slice (r.head ++ rest) 4 4 = toBe 4 r.groupAddr.toNat := rfl
    rw [readU32Be, if_pos (by omega), hslice, beNat_toBe r.groupAddr.toNat_lt, UInt32.ofNat_toNat]
  have haddrs : readAddrs (r.head ++ rest) 8 r.sources.length = r.sources := by
    have hsplit : r.head ++ rest =
        ([r.recordType, UInt8.ofNat r.auxData.length] ++ toBe 2 r.sources.length ++
          toBe 4 r.groupAddr.toNat) ++ (words r.sources ++ rest) := append_assoc _ _ _
    rw [hsplit]
    exact (readAddrs_append _ _ 0 _).trans (readAddrs_words r.sources rest)
  have htype : byteAt (r.head ++ rest) 0 = r.recordType := rfl
  have hwords : byteAt (r.head ++ rest) 1 = UInt8.ofNat r.auxData.length := rfl
  rw [readGroupRecords]
  simp only [groupRecordHdrLen, Nat.zero_add, hcount, hgroup, getD_some, hsources, haddrs, htype,
    hwords, haux]
  rw [if_neg (by omega), if_neg (by omega), r.length_encode, r.length_head]
  rfl

lemma readGroupRecords_short {data : List UInt8} (declared : Nat) {pos : Nat}
    (hshort : data.length < pos + groupRecordHdrLen) :
    readGroupRecords data declared pos = ([], decide (0 < declared)) := by
  cases declared with
  | zero => rfl
  | succ declared =>
    rw [readGroupRecords, if_pos hshort]
    rfl

lemma readGroupRecords_encode (r : GroupRecord) (rest : List UInt8) (declared : Nat) :
    readGroupRecords (r.encode ++ rest) (declared + 1) 0 =
      (r.parsed :: (readGroupRecords rest declared 0).1, (readGroupRecords rest declared 0).2) := by
  have hbehind : readGroupRecords (r.encode ++ rest) declared r.encode.length =
      readGroupRecords rest declared 0 := readGroupRecords_append _ rest declared 0
  rw [encode, append_assoc] at hbehind ⊢
  rw [readGroupRecords_head, ← hbehind]
  rfl

/-! ## Every datagram -/

lemma exists_words {bytes : List UInt8} {n : Nat} (h : bytes.length = n * 4) :
    ∃ ws : List UInt32, ws.length = n ∧ words ws = bytes := by
  induction n generalizing bytes with
  | zero => exact ⟨[], rfl, (length_eq_zero_iff.1 h).symm⟩
  | succ n ih =>
    have hfirst : (bytes.take 4).length = 4 := by
      rw [length_take]
      omega
    obtain ⟨ws, hlen, hws⟩ := @ih (bytes.drop 4) (by rw [length_drop]; omega)
    refine ⟨UInt32.ofNat (beNat (bytes.take 4)) :: ws, by rw [length_cons, hlen], ?_⟩
    have hlt : beNat (bytes.take 4) < 256 ^ 4 := beNat_lt hfirst
    have hword : (UInt32.ofNat (beNat (bytes.take 4))).toNat = beNat (bytes.take 4) := by
      exact Nat.mod_eq_of_lt hlt
    calc
      words (UInt32.ofNat (beNat (bytes.take 4)) :: ws)
          = toBe 4 (beNat (bytes.take 4)) ++ words ws := by rw [words, flatMap_cons, hword, words]
      _ = bytes.take 4 ++ bytes.drop 4 := by rw [hws, toBe_beNat hfirst]
      _ = bytes := take_append_drop 4 bytes

def Whole (data : List UInt8) : Prop := ∃ (r : GroupRecord)
    (rest : List UInt8), data = r.encode ++ rest

def CutInAux (data : List UInt8) : Prop :=
  ∃ (r : GroupRecord) (n : Nat), r.head.length ≤ n ∧ n < r.encode.length ∧ data = r.encode.take n

/-- Eight bytes with enough of them behind are the header and the sources of a record, with any
auxiliary data of the length that is said. -/
theorem exists_head {more : List UInt8} (b0 b4 b5 b6 b7 : UInt8) {b1 b2 b3 : UInt8}
    (hsources : beNat [b2, b3] * 4 ≤ more.length) {aux : List UInt32}
    (haux : aux.length = b1.toNat) :
    ∃ r : GroupRecord, r.auxData = aux ∧ r.sources.length = beNat [b2, b3] ∧
      [b0, b1, b2, b3, b4, b5, b6, b7] ++ more = r.head ++ more.drop (beNat [b2, b3] * 4) := by
  have hlen : (more.take (beNat [b2, b3] * 4)).length = beNat [b2, b3] * 4 := by
    rw [length_take]
    omega
  obtain ⟨sources, hsrc, hwords⟩ := exists_words hlen
  have hcount : sources.length < 256 ^ 2 := hsrc ▸ beNat_lt (w := 2) rfl
  have hgroup : (UInt32.ofNat (beNat [b4, b5, b6, b7])).toNat = beNat [b4, b5, b6, b7] := by
    exact Nat.mod_eq_of_lt (beNat_lt (w := 4) rfl)
  have hbytes : [b2, b3] ++ [b4, b5, b6, b7] ++ words sources =
      toBe 2 sources.length ++ toBe 4 (UInt32.ofNat (beNat [b4, b5, b6, b7])).toNat ++
        words sources := by
    rw [hsrc, hgroup, toBe_beNat (w := 2) rfl, toBe_beNat (w := 4) rfl]
  refine ⟨⟨b0, UInt32.ofNat (beNat [b4, b5, b6, b7]), sources, aux, hcount, haux ▸ b1.toNat_lt⟩,
    rfl, hsrc, ?_⟩
  have haux' : UInt8.ofNat aux.length = b1 := by rw [haux, UInt8.ofNat_toNat]
  calc
    [b0, b1, b2, b3, b4, b5, b6, b7] ++ more
        = [b0, b1] ++ ([b2, b3] ++ [b4, b5, b6, b7] ++ words sources) ++ more.drop
          (beNat [b2, b3] * 4) := by
          rw [hwords]
          simp
    _ = _ := by
          rw [hbytes, GroupRecord.head, haux']
          simp

lemma whole_or_cutInAux {more : List UInt8} {b0 b1 b2 b3 b4 b5 b6 b7 : UInt8}
    (hsources : beNat [b2, b3] * 4 ≤ more.length) :
    Whole ([b0, b1, b2, b3, b4, b5, b6, b7] ++ more) ∨
      CutInAux ([b0, b1, b2, b3, b4, b5, b6, b7] ++ more) := by
  generalize hrest : more.drop _ = rest
  rcases Nat.lt_or_ge rest.length (b1.toNat * 4) with hcut | hall
  · -- the part that is missing is filled up with zeros
    have hlen : (rest ++ List.replicate (b1.toNat * 4 - rest.length) 0).length = b1.toNat * 4 := by
      rw [length_append, length_replicate]
      omega
    obtain ⟨aux, haux, hwords⟩ := exists_words hlen
    obtain ⟨r, rfl, -, hdata⟩ := exists_head b0 b4 b5 b6 b7 hsources haux
    refine .inr ⟨r, r.head.length + rest.length, Nat.le_add_right _ _, ?_, ?_⟩
    · rw [r.length_encode, haux]
      exact Nat.add_lt_add_left hcut _
    · rw [hdata, hrest, encode, hwords, take_length_add_append,
        take_append_of_le_length (Nat.le_refl _), take_length]
  · have hlen : (rest.take (b1.toNat * 4)).length = b1.toNat * 4 := by
      rw [length_take]
      omega
    obtain ⟨aux, haux, hwords⟩ := exists_words hlen
    obtain ⟨r, rfl, -, hdata⟩ := exists_head b0 b4 b5 b6 b7 hsources haux
    refine .inl ⟨r, rest.drop (b1.toNat * 4), ?_⟩
    rw [hdata, hrest, encode, hwords, append_assoc, take_append_drop]

lemma readGroupRecords_of_not_whole {data : List UInt8} (hwhole : ¬ Whole data)
    (hcut : ¬ CutInAux data)
    (declared : Nat) : readGroupRecords data declared 0 = ([], decide (0 < declared)) := by
  rcases Nat.lt_or_ge data.length 8 with hshort | hheader
  · exact readGroupRecords_short declared (by rw [Nat.zero_add]; exact hshort)
  match data, hheader with
  | b0 :: b1 :: b2 :: b3 :: b4 :: b5 :: b6 :: b7 :: more, _ =>
    have hcount : readU16Be (b0 :: b1 :: b2 :: b3 :: b4 :: b5 :: b6 :: b7 :: more) 2 =
        some (UInt16.ofNat (beNat [b2, b3])) := by
      rw [readU16Be, if_pos (by simp only [length_cons]; omega)]
      rfl
    have hnat : (UInt16.ofNat (beNat [b2, b3])).toNat = beNat [b2, b3] := by
      rw [UInt16.toNat_ofNat']
      exact Nat.mod_eq_of_lt (beNat_lt (w := 2) rfl)
    have hsources : more.length < beNat [b2, b3] * 4 := by
      by_contra henough
      rcases whole_or_cutInAux (Nat.le_of_not_lt henough) with h | h
      · exact hwhole h
      · exact hcut h
    cases declared with
    | zero => rfl
    | succ declared =>
      rw [readGroupRecords]
      simp only [groupRecordHdrLen, Nat.zero_add, hcount, getD_some, hnat, length_cons]
      rw [if_neg (by omega), if_pos (by omega)]
      rfl

lemma readGroupRecords_cutInAux {data : List UInt8} (hcut : CutInAux data) (declared : Nat) :
    ∃ r : GroupRecord, readGroupRecords data (declared + 1) 0 =
      ([r.parsed], decide (0 < declared)) := by
  obtain ⟨r, n, hhead, hn, rfl⟩ := hcut
  refine ⟨r, ?_⟩
  obtain ⟨m, rfl⟩ := Nat.exists_eq_add_of_le hhead
  have hsplit : r.encode.take (r.head.length + m) = r.head ++ (words r.auxData).take m := by
    rw [encode, take_length_add_append]
  have hend : (r.head ++ (words r.auxData).take m).length <
      r.encode.length + groupRecordHdrLen := by
    rw [← hsplit, length_take]
    omega
  rw [hsplit, readGroupRecords_head, readGroupRecords_short declared hend]

/-! ## The records of a report -/

/-- The declared records that are in the data as a whole, and what follows them. -/
structure Fitting (declared : Nat) (data : List UInt8) (records : List GroupRecord)
    (rest : List UInt8) : Prop where
  split : data = records.flatMap GroupRecord.encode ++ rest
  within : records.length ≤ declared
  maximal : records.length < declared → ¬ Whole rest

lemma exists_fitting (declared : Nat) (data : List UInt8) :
    ∃ (records : List GroupRecord) (rest : List UInt8), Fitting declared data records rest := by
  induction declared generalizing data with
  | zero => exact ⟨[], data, rfl, Nat.le_refl 0, fun h => absurd h (Nat.lt_irrefl 0)⟩
  | succ declared ih =>
    by_cases hwhole : Whole data
    · obtain ⟨r, more, rfl⟩ := hwhole
      obtain ⟨records, rest, hfit⟩ := ih more
      refine ⟨r :: records, rest, ?_, Nat.succ_le_succ hfit.within,
        fun h => hfit.maximal (Nat.lt_of_succ_lt_succ h)⟩
      rw [hfit.split, flatMap_cons, append_assoc]
    · exact ⟨[], data, rfl, Nat.zero_le _, fun _ => hwhole⟩

lemma readGroupRecords_records (records : List GroupRecord) (rest : List UInt8) (more : Nat) :
    readGroupRecords (records.flatMap encode ++ rest) (records.length + more) 0 =
      (records.map parsed ++ (readGroupRecords rest more 0).1,
        (readGroupRecords rest more 0).2) := by
  induction records with
  | nil => simp
  | cons r records ih =>
    have hlen : (r :: records).length + more = (records.length + more) + 1 := by
      rw [length_cons]
      omega
    rw [hlen, flatMap_cons, append_assoc, readGroupRecords_encode, ih]
    rfl

/-- A datagram that is a version 3 report: the number of records it declares, and what follows its
header. -/
structure IsV3Report (payload : List UInt8) (declared : Nat) (body : List UInt8) : Prop where
  long : v3ReportHdrLen ≤ payload.length
  type : byteAt payload 0 = typeV3MembershipReport
  count : beNat (slice payload 6 2) = declared
  body : payload.drop v3ReportHdrLen = body

namespace IsV3Report

lemma read {payload body : List UInt8} {declared : Nat} (h : IsV3Report payload declared body) :
    readGroupRecords payload declared v3ReportHdrLen = readGroupRecords body declared 0 := by
  have hlen : (payload.take v3ReportHdrLen).length = v3ReportHdrLen := by
    rw [length_take]
    exact Nat.min_eq_left h.long
  have hbehind := readGroupRecords_append (payload.take v3ReportHdrLen)
    (payload.drop v3ReportHdrLen) declared 0
  rw [hlen, take_append_drop, h.body] at hbehind
  exact hbehind

lemma onDatagram {body : List UInt8} {declared : Nat} {chunk : StreamChunk}
    (h : IsV3Report chunk.payload declared body) : IgmpDecoder.onDatagram chunk =
      (if (readGroupRecords body declared 0).2 then [recordsTruncated chunk chunk.payload]
        else []) ++ [transaction chunk "igmp_v3_membership_report"
          ("IGMPv3 Report records=" ++ toString (readGroupRecords body declared 0).1.length)
          ((readGroupRecords body declared 0).1.map fun r => ipFromU32 r.groupAddr).eraseDups
          (v3Attributes (readGroupRecords body declared 0).1)] ++
        ((readGroupRecords body declared 0).1.filter fun r => isJoinRecordType r.recordType).map
          fun r =>
          emitMulticastJoin chunk chunk.context.srcIp.display (ipFromU32 r.groupAddr) := by
  have hlong := h.long
  have hne : chunk.payload ≠ [] := by
    intro hnil
    rw [hnil] at hlong
    exact absurd hlong (by decide)
  have hcount : ((readU16Be chunk.payload 6).getD 0).toNat = declared := by
    have hlen : (slice chunk.payload 6 2).length = 2 := by
      rw [slice, length_take, length_drop]
      unfold v3ReportHdrLen at hlong
      omega
    rw [readU16Be, if_pos (show 6 + 2 ≤ chunk.payload.length from hlong), getD_some, ← h.count]
    exact Nat.mod_eq_of_lt (beNat_lt hlen)
  rw [IgmpDecoder.onDatagram]
  simp only [if_neg hne, if_neg (Nat.not_lt.2 hlong : ¬ chunk.payload.length < minV1V2Len), h.type]
  rw [decodeV3Report, if_neg (Nat.not_lt.2 hlong), hcount, h.read]
  rfl

lemma recordsTruncated_mem {body : List UInt8} {declared : Nat} {chunk : StreamChunk}
    (h : IsV3Report chunk.payload declared body) :
    recordsTruncated chunk chunk.payload ∈ IgmpDecoder.onDatagram chunk ↔
      (readGroupRecords body declared 0).2 = true := by
  rw [h.onDatagram]
  constructor
  · intro hmem
    by_contra hfalse
    -- without it, all events are of other families
    rw [if_neg hfalse] at hmem
    rcases mem_append.1 hmem with htransaction | hjoin
    · exact BronzeEventFamily.noConfusion
        (congrArg BronzeEvent.family (mem_singleton.1 htransaction))
    · obtain ⟨r, -, hr⟩ := mem_map.1 hjoin
      exact BronzeEventFamily.noConfusion (congrArg BronzeEvent.family hr)
  · intro htrue
    rw [if_pos htrue]
    exact mem_append_left _ (mem_append_left _ mem_cons_self)

end IsV3Report

/-- Exactly the records are read, and the anomaly is reported if and only if there are less than
declared. -/
def Reported (chunk : StreamChunk) (declared : Nat) (records : List GroupRecord) : Prop :=
  (readGroupRecords chunk.payload declared v3ReportHdrLen).1 = records.map GroupRecord.parsed ∧
    (recordsTruncated chunk chunk.payload ∈ IgmpDecoder.onDatagram chunk ↔
      records.length < declared)

/-- In every version 3 report the records that fit as a whole are reported, and the anomaly exactly
if one of the declared records is missing, if and only if the first missing one is not cut in its
auxiliary data. -/
theorem v3Report_records_iff {chunk : StreamChunk} {declared : Nat} {body : List UInt8}
    (h : IsV3Report chunk.payload declared body) :
    (∃ records rest, Fitting declared body records rest) ∧
      ∀ records rest, Fitting declared body records rest →
        (Reported chunk declared records ↔ ¬ (records.length < declared ∧ CutInAux rest)) := by
  refine ⟨exists_fitting declared body, fun records rest hfit => ?_⟩
  obtain ⟨more, rfl⟩ := Nat.exists_eq_add_of_le hfit.within
  have hread := readGroupRecords_records records rest more
  rw [← hfit.split] at hread
  have hmore : records.length < records.length + more ↔ 0 < more := by omega
  rw [Reported, h.recordsTruncated_mem, h.read, hread, hmore]
  constructor
  · rintro ⟨hrecords, -⟩ ⟨hmissing, hcut⟩
    obtain ⟨more, rfl⟩ := Nat.exists_eq_add_of_le' hmissing
    obtain ⟨r, hr⟩ := readGroupRecords_cutInAux hcut more
    rw [hr] at hrecords
    exact absurd (append_right_eq_self.1 hrecords) (cons_ne_nil _ _)
  · intro hnot
    have hrest : readGroupRecords rest more 0 = ([], decide (0 < more)) := by
      by_cases hmissing : 0 < more
      · exact readGroupRecords_of_not_whole (hfit.maximal (by omega))
          (fun hcut => hnot ⟨hmissing, hcut⟩) more
      · obtain rfl : more = 0 := by omega
        rfl
    rw [hrest]
    exact ⟨append_nil _, by simp⟩

lemma Whole.le_length {data : List UInt8} (h : Whole data) :
    8 + (byteAt data 1).toNat * 4 ≤ data.length := by
  obtain ⟨r, rest, rfl⟩ := h
  have haux : (byteAt (r.encode ++ rest) 1).toNat = r.auxData.length := by
    have hbyte : byteAt (r.encode ++ rest) 1 = UInt8.ofNat r.auxData.length := rfl
    rw [hbyte]
    exact Nat.mod_eq_of_lt r.auxData_fit
  rw [length_append, r.length_encode, r.length_head]
  omega

/-- A report with one record, CHANGE_TO_EXCLUDE for 239.1.2.3, whose word of auxiliary data is
missing. -/
def cutReport : List UInt8 := [0x22, 0, 0, 0, 0, 0, 0, 1, 4, 1, 0, 0, 239, 1, 2, 3]

def cutReportChunk : StreamChunk := hostChunk 0 .udp 0 0 cutReport

lemma cutReport_isV3Report : IsV3Report cutReportChunk.payload 1 [4, 1, 0, 0, 239, 1, 2, 3] :=
  ⟨by decide, rfl, rfl, rfl⟩

/-- The record is reported, and the anomaly is not. -/
theorem cutReport_reported :
    Fitting 1 [4, 1, 0, 0, 239, 1, 2, 3] [] [4, 1, 0, 0, 239, 1, 2, 3] ∧
      (readGroupRecords cutReportChunk.payload 1 v3ReportHdrLen).1 = [⟨4, 0, 0xEF010203, []⟩] ∧
      recordsTruncated cutReportChunk cutReportChunk.payload ∉ IgmpDecoder.onDatagram
        cutReportChunk ∧
      ¬ Reported cutReportChunk 1 [] := by
  have hread : (readGroupRecords cutReportChunk.payload 1 v3ReportHdrLen).1 =
    [⟨4, 0, 0xEF010203, []⟩] := by decide
  refine ⟨⟨rfl, by decide, fun _ hwhole => ?_⟩, hread, ?_, fun hreported => ?_⟩
  · exact absurd hwhole.le_length (by decide)
  · rw [cutReport_isV3Report.recordsTruncated_mem]
    decide
  · exact absurd (hread.symm.trans hreported.1) (cons_ne_nil _ _)

/-- The same report with its auxiliary data, and cut in the header of its record. -/
theorem wholeReport_reported :
    (∃ records rest, Fitting 1 [4, 1, 0, 0, 239, 1, 2, 3, 0, 0, 0, 0] records rest) ∧
      Fitting 1 [4, 1, 0, 0] [] [4, 1, 0, 0] ∧
      Reported (hostChunk 0 .udp 0 0 (cutReport.take 12)) 1 [] := by
  have hwhole : IsV3Report (hostChunk 0 .udp 0 0 (cutReport ++ [0, 0, 0, 0])).payload 1
      [4, 1, 0, 0, 239, 1, 2, 3, 0, 0, 0, 0] := ⟨by decide, rfl, rfl, rfl⟩
  have hcut : IsV3Report (hostChunk 0 .udp 0 0 (cutReport.take 12)).payload 1 [4, 1, 0, 0] :=
    ⟨by decide, rfl, rfl, rfl⟩
  have hfit : Fitting 1 [4, 1, 0, 0] [] [4, 1, 0, 0] :=
    ⟨rfl, by decide, fun _ hwhole => absurd hwhole.le_length (by decide)⟩
  refine ⟨(v3Report_records_iff hwhole).1, hfit, ((v3Report_records_iff hcut).2 [] _ hfit).2 ?_⟩
  rintro ⟨-, r, n, hhead, -, hbytes⟩
  -- a record that is cut in its auxiliary data has eight bytes at least
  have hlen := congrArg List.length hbytes
  rw [length_take, r.length_encode, r.length_head] at hlen
  rw [r.length_head] at hhead
  simp only [length_cons, length_nil] at hlen
  omega

end MarlinspikeDpi.Igmp
