import MarlinspikeDpi.Engine.Decoder

/-!
# Group membership messages

IGMP messages are datagrams of IP protocol 2. A query asks for memberships, a report of version 1 or
2 joins one group, a leave leaves it.
-/

namespace MarlinspikeDpi.Igmp

open Engine Bytes Text

/-! ## Types -/

@[match_pattern] def typeMembershipQuery : UInt8 := 0x11
@[match_pattern] def typeV1MembershipReport : UInt8 := 0x12
@[match_pattern] def typeV2MembershipReport : UInt8 := 0x16
@[match_pattern] def typeLeaveGroup : UInt8 := 0x17
@[match_pattern] def typeV3MembershipReport : UInt8 := 0x22

@[match_pattern] def rtModeIsInclude : UInt8 := 1
@[match_pattern] def rtModeIsExclude : UInt8 := 2
@[match_pattern] def rtChangeToInclude : UInt8 := 3
@[match_pattern] def rtChangeToExclude : UInt8 := 4
@[match_pattern] def rtAllowNewSources : UInt8 := 5
@[match_pattern] def rtBlockOldSources : UInt8 := 6

def minV1V2Len : Nat := 8
def minV3QueryLen : Nat := 12
def v3ReportHdrLen : Nat := 8
def groupRecordHdrLen : Nat := 8

/-- A byte below 128 is the value; another has an exponent of three and a mantissa of four bits. -/
def decodeFloatTime (byte : UInt8) : Nat :=
  if byte &&& 0x80 = 0 then byte.toNat
  else ((byte &&& 0x0F).toNat ||| 0x10) <<< (((byte >>> 4) &&& 0x07).toNat + 3)

def recordTypeName (rt : UInt8) : String :=
  match rt with
  | rtModeIsInclude => "mode_is_include"
  | rtModeIsExclude => "mode_is_exclude"
  | rtChangeToInclude => "change_to_include"
  | rtChangeToExclude => "change_to_exclude"
  | rtAllowNewSources => "allow_new_sources"
  | rtBlockOldSources => "block_old_sources"
  | _ => "unknown"

def isJoinRecordType (rt : UInt8) : Bool :=
  rt == rtModeIsInclude || rt == rtChangeToInclude || rt == rtAllowNewSources

def ipFromU32 (addr : UInt32) : String :=
  Ipv4Addr.display ⟨UInt8.ofNat (addr.toNat / 2 ^ 24), UInt8.ofNat (addr.toNat / 2 ^ 16),
    UInt8.ofNat (addr.toNat / 2 ^ 8), UInt8.ofNat addr.toNat⟩

def readU16Be (buf : List UInt8) (off : Nat) : Option UInt16 :=
  if off + 2 ≤ buf.length then some (UInt16.ofNat (beNat (slice buf off 2))) else none

def readU32Be (buf : List UInt8) (off : Nat) : Option UInt32 :=
  if off + 4 ≤ buf.length then some (UInt32.ofNat (beNat (slice buf off 4))) else none

/-! ## Events -/

variable (chunk : StreamChunk)

def mkEnvelope : EventEnvelope :=
  buildEnvelope chunk.context chunk.toFrameInfo .udp (some "igmp") chunk.sessionKey

def anomaly (severity reason : String) (data : List UInt8) : BronzeEvent :=
  parseAnomalyEvent chunk.captureId (mkEnvelope chunk) "igmp" severity reason data

def transaction (operation requestSummary : String) (objectRefs : List String)
    (attributes : List (String × String)) : BronzeEvent :=
  newEvent chunk.captureId (mkEnvelope chunk) (.protocolTransaction
    { operation, status := "observed", requestSummary := some requestSummary, objectRefs,
      attributes := OrderedMap.empty.extend attributes })

def emitMulticastJoin (srcIp groupAddr : String) : BronzeEvent :=
  newEvent chunk.captureId (mkEnvelope chunk) (.topologyObservation
    { observationType := "multicast_join", localId := srcIp, remoteId := some groupAddr,
      description := none, capabilities := [], metadata := OrderedMap.empty })

/-! ## Queries, and reports and leaves of one group -/

variable (data : List UInt8)

def readAddrs (off count : Nat) : List UInt32 :=
  (List.range count).filterMap fun i => readU32Be data (off + i * 4)

def groupOf : UInt32 := (readU32Be data 4).getD 0

def queryKind (groupAddr : UInt32) (numSources : Nat) : String :=
  if groupAddr = 0 then "general"
  else if numSources = 0 then "group_specific"
  else "group_and_source_specific"

/-- The kind of a version 3 query, its attributes, and whether its sources are all there. -/
def v3Query : String × List (String × String) × Bool :=
  let flagsByte := byteAt data 8
  let numSources := ((readU16Be data 10).getD 0).toNat
  let whole := decide (12 + numSources * 4 ≤ data.length)
  let sourceAddrs := if whole then (readAddrs data 12 numSources).map ipFromU32 else []
  let kind := queryKind (groupOf data) numSources
  (kind, [("version", "3"), ("query_kind", kind), ("group_address", ipFromU32 (groupOf data)),
      ("max_resp_code_decisec", toString (decodeFloatTime (byteAt data 1))),
      ("s_flag", toString ((flagsByte >>> 3) &&& 0x01).toNat),
        ("qrv", toString (flagsByte &&& 0x07).toNat),
      ("qqic", toString (decodeFloatTime (byteAt data 9))),
        ("source_count", toString numSources)] ++
      (if sourceAddrs = [] then [] else [("source_addresses", ",".intercalate sourceAddrs)]),
    whole)

def v2Query : String × List (String × String) :=
  let maxRespTime := byteAt data 1
  let kind := queryKind (groupOf data) 0
  (kind, [("version", if maxRespTime = 0 then "1" else "2"), ("query_kind", kind),
      ("group_address", ipFromU32 (groupOf data)),
        ("max_resp_time_decisec", toString maxRespTime.toNat)])

def decodeQuery : List BronzeEvent :=
  let report := fun (kind : String) (attrs : List (String × String)) =>
    transaction chunk "igmp_membership_query"
      ("IGMP Membership Query kind=" ++ kind ++ " group=" ++ ipFromU32 (groupOf data))
      (if groupOf data ≠ 0 then [ipFromU32 (groupOf data)] else []) attrs
  if minV3QueryLen ≤ data.length then
    let (kind, attrs, whole) := v3Query data
    (if whole then []
      else [anomaly chunk "low" "IGMPv3 query: source address list truncated" data]) ++
      [report kind attrs]
  else
    let (kind, attrs) := v2Query data
    [report kind attrs]

def decodeV1Report : List BronzeEvent :=
  let group := ipFromU32 (groupOf data)
  [transaction chunk "igmp_v1_membership_report" ("IGMPv1 Report group=" ++ group) [group]
      [("version", "1"), ("group_address", group)],
    emitMulticastJoin chunk chunk.context.srcIp.display group]

def decodeV2Report : List BronzeEvent :=
  let group := ipFromU32 (groupOf data)
  [transaction chunk "igmp_v2_membership_report" ("IGMPv2 Report group=" ++ group) [group]
      [("version", "2"), ("group_address", group),
        ("max_resp_time_decisec", toString (byteAt data 1).toNat)],
    emitMulticastJoin chunk chunk.context.srcIp.display group]

def decodeLeave : List BronzeEvent :=
  let group := ipFromU32 (groupOf data)
  [transaction chunk "igmp_leave_group" ("IGMPv2 Leave Group group=" ++ group) [group]
      [("version", "2"), ("group_address", group)]]

/-! ## Reports of version 3 -/

structure IgmpV3GroupRecord where
  recordType : UInt8
  numSources : UInt16
  groupAddr : UInt32
  sourceAddrs : List UInt32
deriving DecidableEq

/-- The loop over the declared records, from an offset on: the records, and whether it has run into
the end. -/
def readGroupRecords (data : List UInt8) : Nat → Nat → List IgmpV3GroupRecord × Bool
  | 0, _ => ([], false)
  | declared + 1, pos =>
    if data.length < pos + groupRecordHdrLen then ([], true)
    else
      let numSources := (readU16Be data (pos + 2)).getD 0
      let sourcesEnd := pos + groupRecordHdrLen + numSources.toNat * 4
      if data.length < sourcesEnd then ([], true)
      else
        let record : IgmpV3GroupRecord :=
          { recordType := byteAt data pos, numSources, groupAddr :=
            (readU32Be data (pos + 4)).getD 0,
            sourceAddrs := readAddrs data (pos + groupRecordHdrLen) numSources.toNat }
        -- the auxiliary data is skipped, whether it is there or not
        let (records, parseError) :=
          readGroupRecords data declared (sourcesEnd + (byteAt data (pos + 1)).toNat * 4)
        (record :: records, parseError)

/-- How many records of each type there are, the types in the order of their names. -/
def recordTypeCounts (records : List IgmpV3GroupRecord) : OrderedMap String Nat :=
  records.foldl (fun counts r =>
    let name := recordTypeName r.recordType
    counts.insert name ((counts.get name).getD 0 + 1)) OrderedMap.empty

def v3Attributes (records : List IgmpV3GroupRecord) : List (String × String) :=
  [("version", "3"), ("record_count", toString records.length)] ++
    (recordTypeCounts records).entries.map fun e =>
      ("record_type_" ++ e.1 ++ "_count", toString e.2)

def recordsTruncated : BronzeEvent :=
  anomaly chunk "low" "IGMPv3 report: group record list truncated or malformed" data

def decodeV3Report : List BronzeEvent :=
  if data.length < v3ReportHdrLen then
    [anomaly chunk "low" "IGMPv3 report truncated: shorter than 8-byte header" data]
  else
    let (records, recordParseError) :=
      readGroupRecords data ((readU16Be data 6).getD 0).toNat v3ReportHdrLen
    (if recordParseError then [recordsTruncated chunk data] else []) ++
      [transaction chunk "igmp_v3_membership_report"
        ("IGMPv3 Report records=" ++ toString records.length)
        (records.map fun r => ipFromU32 r.groupAddr).eraseDups (v3Attributes records)] ++
      (records.filter fun r => isJoinRecordType r.recordType).map fun r =>
        emitMulticastJoin chunk chunk.context.srcIp.display (ipFromU32 r.groupAddr)

/-! ## The decoder -/

structure IgmpDecoder where

def IgmpDecoder.onDatagram : List BronzeEvent :=
  let data := chunk.payload
  if data = [] then [anomaly chunk "low" "empty IGMP datagram" data]
  else if data.length < minV1V2Len then
    [anomaly chunk "low" "IGMP datagram shorter than 8-byte minimum" data]
  else
    match byteAt data 0 with
    | typeMembershipQuery => decodeQuery chunk data
    | typeV1MembershipReport => decodeV1Report chunk data
    | typeV2MembershipReport => decodeV2Report chunk data
    | typeLeaveGroup => decodeLeave chunk data
    | typeV3MembershipReport => decodeV3Report chunk data
    | other => [anomaly chunk "low" ("unknown IGMP type 0x" ++ hexPad 2 other.toNat) data]

instance : SessionDecoder IgmpDecoder where
  name _ := "igmp"
  interest _ := [.ipProto 2]
  onDatagram d chunk := (IgmpDecoder.onDatagram chunk, d)

end MarlinspikeDpi.Igmp
