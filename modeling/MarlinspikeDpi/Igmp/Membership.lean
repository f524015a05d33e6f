import MarlinspikeDpi.Igmp.Records

/-!
# Which records of a report join a group

A record of version 3 asks for the packets of a group from all sources but those it lists (exclude),
or from those it lists (include).

* `joins_interested_iff`: when the joins are those of interested records.
-/

namespace MarlinspikeDpi.Igmp

open Engine Bytes GroupRecord List Bool

/-! ## Interest -/

def isExcludeRecordType (rt : UInt8) : Bool := rt == rtModeIsExclude || rt == rtChangeToExclude

namespace GroupRecord

/-- The record asks for packets of its group. -/
def expressesInterest (r : GroupRecord) : Bool :=
  isExcludeRecordType r.recordType || (isJoinRecordType r.recordType && !r.sources.isEmpty)

def leaves (r : GroupRecord) : Bool := isJoinRecordType r.recordType && r.sources.isEmpty

end GroupRecord

lemma not_exclude_of_join {rt : UInt8} (h : isJoinRecordType rt = true) :
    isExcludeRecordType rt = false := by
  simp only [isJoinRecordType, or_eq_true, beq_iff_eq] at h
  rcases h with (rfl | rfl) | rfl <;> decide

/-! ## Joins -/

def joinOf (e : BronzeEvent) : Option (String × String) :=
  match e.family with
  | .topologyObservation t =>
    if t.observationType = "multicast_join" then t.remoteId.map fun group => (t.localId, group)
      else none
  | _ => none

def joins (chunk : StreamChunk) : List (String × String) :=
  (IgmpDecoder.onDatagram chunk).filterMap joinOf

def joinFor (chunk : StreamChunk) (r : GroupRecord) : String × String :=
  (chunk.context.srcIp.display, ipFromU32 r.groupAddr)

lemma ipFromU32_injective {a b : UInt32} (h : ipFromU32 a = ipFromU32 b) : a = b := by
  have hbytes := Ipv4Addr.display_injective h
  simp only [Ipv4Addr.mk.injEq, ← UInt8.toNat_inj, UInt8.toNat_ofNat'] at hbytes
  have ha := a.toNat_lt
  have hb := b.toNat_lt
  apply UInt32.toNat_inj.1
  omega

lemma joinFor_beq (chunk : StreamChunk) (r : GroupRecord) (group : UInt32) :
    (joinFor chunk r == (chunk.context.srcIp.display, ipFromU32 group)) =
      (r.groupAddr == group) := by
  rw [Bool.eq_iff_iff, beq_iff_eq, beq_iff_eq]
  constructor
  · intro heq
    exact ipFromU32_injective (congrArg Prod.snd heq)
  · intro heq
    rw [joinFor, heq]

lemma joins_eq {chunk : StreamChunk} {records : List GroupRecord} {trailing : List UInt8}
    (h : IsV3Report chunk.payload records.length (records.flatMap encode ++ trailing)) :
    joins chunk = (records.filter fun r => isJoinRecordType r.recordType).map (joinFor chunk) := by
  have hread : readGroupRecords (records.flatMap encode ++ trailing) records.length 0 =
      (records.map parsed, false) := by
    have hall := readGroupRecords_records records trailing 0
    rw [Nat.add_zero] at hall
    rw [hall]
    simp [readGroupRecords]
  have hjoins : ∀ rs : List IgmpV3GroupRecord,
      (rs.map fun r => emitMulticastJoin chunk chunk.context.srcIp.display
        (ipFromU32 r.groupAddr)).filterMap joinOf =
        rs.map fun r => (chunk.context.srcIp.display, ipFromU32 r.groupAddr) := by
    intro rs
    induction rs with
    | nil => rfl
    | cons r rs ih => exact congrArg _ ih
  have htransaction : ∀ operation summary refs attrs,
      joinOf (transaction chunk operation summary refs attrs) = none := fun _ _ _ _ => rfl
  rw [joins, h.onDatagram, hread, filterMap_append, hjoins]
  simp only [false_eq_true, if_false, nil_append, filterMap_cons, htransaction, filterMap_nil,
    filter_map, map_map]
  rfl

/-! ## Counting -/

section

variable {α β : Type} [BEq β]

lemma count_map_filter {p : α → Bool} {f : α → β} (xs : List α)
    (b : β) : ((xs.filter p).map f).count b = xs.countP fun x => p x && f x == b := by
  rw [count_eq_countP, countP_map, countP_filter]
  simp only [Function.comp_def, Bool.and_comm]

lemma perm_map_filter_iff {p q : α → Bool} {f : α → β} [LawfulBEq β]
    (xs : List α) : ((xs.filter p).map f).Perm ((xs.filter q).map f) ↔
      ∀ b, (xs.countP fun x => (p x && !q x) && f x == b) = xs.countP fun x =>
        (q x && !p x) && f x == b := by
  have hsplit : ∀ (p q : α → Bool) b, (xs.countP fun x => p x && f x == b) =
      (xs.countP fun x => (p x && q x) && f x == b) + xs.countP fun x =>
        (p x && !q x) && f x == b := by
    intro p q b
    rw [countP_eq_countP_filter_add xs _ q, countP_filter, countP_filter]
    simp only [Bool.and_assoc, Bool.and_comm, Bool.and_left_comm]
  have hcommon : ∀ b, (xs.countP fun x => (p x && q x) && f x == b) = xs.countP fun x =>
      (q x && p x) && f x == b := by
    intro b
    simp only [and_comm (p _)]
  rw [perm_iff_count]
  refine forall_congr' fun b => ?_
  rw [count_map_filter, count_map_filter, hsplit p q b, hsplit q p b, hcommon b,
    Nat.add_left_cancel_iff]

end

/-! ## The joins of a report -/

def countFor (records : List GroupRecord) (group : UInt32) (p : GroupRecord → Bool) : Nat :=
  records.countP fun r => p r && r.groupAddr == group

/-- The joins of a report are those of the records that express interest, if and only if for every
group the exclude records are as many as the include records without sources. -/
theorem joins_interested_iff {chunk : StreamChunk} {records : List GroupRecord}
    {trailing : List UInt8}
    (h : IsV3Report chunk.payload records.length (records.flatMap GroupRecord.encode ++ trailing)) :
    (joins chunk).Perm ((records.filter expressesInterest).map (joinFor chunk)) ↔
      ∀ group, countFor records group leaves = countFor records group fun r =>
        isExcludeRecordType r.recordType := by
  have hleaves : ∀ r : GroupRecord, (isJoinRecordType r.recordType && !r.expressesInterest) =
      r.leaves := by
    intro r
    cases hjoin : isJoinRecordType r.recordType with
    | false => simp [leaves, hjoin]
    | true => simp [leaves, expressesInterest, hjoin, not_exclude_of_join hjoin]
  have hexclude : ∀ r : GroupRecord,
      (r.expressesInterest && !isJoinRecordType r.recordType) =
        isExcludeRecordType r.recordType := by
    intro r
    cases hjoin : isJoinRecordType r.recordType with
    | false => simp [expressesInterest, hjoin]
    | true => simp [not_exclude_of_join hjoin]
  rw [joins_eq h, perm_map_filter_iff]
  simp only [hleaves, hexclude]
  constructor
  · intro hall group
    have hsame := hall (chunk.context.srcIp.display, ipFromU32 group)
    simp only [joinFor_beq] at hsame
    exact hsame
  · intro hall join
    -- a pair that is not the join of any group is counted on neither side
    by_cases hjoin : ∃ group, join = (chunk.context.srcIp.display, ipFromU32 group)
    · obtain ⟨group, rfl⟩ := hjoin
      simp only [joinFor_beq]
      exact hall group
    · have hnone : ∀ r : GroupRecord, (joinFor chunk r == join) = false := by
        intro r
        rw [eq_false_iff]
        intro heq
        exact hjoin ⟨r.groupAddr, (beq_iff_eq.1 heq).symm⟩
      simp only [hnone, Bool.and_false]

def reportChunk (records : List GroupRecord) : StreamChunk :=
  hostChunk 0 .udp 0 0 ([0x22, 0, 0, 0, 0, 0] ++ toBe 2 records.length ++
    records.flatMap GroupRecord.encode)

/-- CHANGE_TO_INCLUDE for 239.1.1.1 without sources, which leaves the group. -/
def leaveRecord : GroupRecord := ⟨rtChangeToInclude, 0xEF010101, [], [], by decide, by decide⟩

/-- CHANGE_TO_EXCLUDE for 239.2.2.2 without sources, which joins the group. -/
def anySourceRecord : GroupRecord := ⟨rtChangeToExclude, 0xEF020202, [], [], by decide, by decide⟩

/-- ALLOW_NEW_SOURCES for 239.3.3.3 with one source. -/
def oneSourceRecord : GroupRecord :=
  ⟨rtAllowNewSources, 0xEF030303, [0x0A000009], [], by decide, by decide⟩

/-- The group that is left is reported as joined, and the other one is not. -/
theorem leaveRecord_joins :
    joins (reportChunk [leaveRecord, anySourceRecord]) = [joinFor (reportChunk []) leaveRecord] ∧
      ([leaveRecord, anySourceRecord].filter expressesInterest) = [anySourceRecord] ∧
      ¬ (joins (reportChunk [leaveRecord, anySourceRecord])).Perm
        (([leaveRecord, anySourceRecord].filter expressesInterest).map
          (joinFor (reportChunk []))) := by
  have hreport : IsV3Report (reportChunk [leaveRecord, anySourceRecord]).payload
      [leaveRecord, anySourceRecord].length
      ([leaveRecord, anySourceRecord].flatMap encode ++ []) := ⟨by decide, rfl, rfl, rfl⟩
  have hjoins : joins (reportChunk [leaveRecord, anySourceRecord]) =
      [joinFor (reportChunk []) leaveRecord] := by
    rw [joins_eq hreport]
    rfl
  refine ⟨hjoins, rfl, fun hperm => ?_⟩
  rw [hjoins] at hperm
  have hsame : joinFor (reportChunk []) leaveRecord = joinFor (reportChunk []) anySourceRecord :=
    singleton_perm_singleton.1 hperm
  exact absurd (ipFromU32_injective (congrArg Prod.snd hsame)) (by decide)

/-- A record with a source is reported as a join. -/
theorem oneSourceRecord_joins :
    (joins (reportChunk [oneSourceRecord])).Perm
      (([oneSourceRecord].filter expressesInterest).map
        (joinFor (reportChunk [oneSourceRecord]))) := by
  have hreport : IsV3Report (reportChunk [oneSourceRecord]).payload [oneSourceRecord].length
      ([oneSourceRecord].flatMap encode ++ []) := ⟨by decide, rfl, rfl, rfl⟩
  exact (joins_interested_iff hreport).2 fun group => rfl

end MarlinspikeDpi.Igmp
