import MarlinspikeDpi.OpcUa.PubSub

/-!
# Data set messages side by side

A network message is written with all the parts that its header may have, and the decoder is run on
it.  The header is read back (`NetworkMessage.reads_encode`).  The decoder expects the data set
messages right behind it: `dataSetMessages_isolated_iff` says that nothing else may stand there.

* `dataSetMessages_isolated_iff`: for which layouts messages do not disturb each other.
-/

namespace MarlinspikeDpi.OpcUa
namespace PubSub

open Engine Bytes Text Reader List GroupHeader OpcUaPubSubDecoder UInt8

/-! ## Network messages as they are written -/

lemma toInt32_ofNat_nonneg {n : Nat} (h : n < 2 ^ 31) : ¬ (UInt32.ofNat n).toInt32 < 0 := by
  have hvalue : (UInt32.ofNat n).toInt32.toInt = n := by
    have hbits : (UInt32.ofNat n).toInt32.toInt = (BitVec.ofNat 32 n).toInt := rfl
    have hsmall : (BitVec.ofNat 32 n).toNat = n := by exact Nat.mod_eq_of_lt (by omega)
    rw [hbits, BitVec.toInt_eq_toNat_of_lt (by omega), hsmall]
  rw [Int32.lt_iff_toInt_lt, hvalue]
  exact Int.not_lt.2 (Int.natCast_nonneg n)

inductive PublisherId where
  | byte (value : UInt8)
  | uint16 (value : UInt16)
  | uint32 (value : UInt32)
  | uint64 (value : UInt64)
  | string (text : List UInt8) (fits : text.length < 2 ^ 31)
  | nullString

namespace PublisherId

def typeCode : PublisherId → Fin 5
  | byte _ => 0
  | uint16 _ => 1
  | uint32 _ => 2
  | uint64 _ => 3
  | string _ _ | nullString => 4

/-- A string has its length before it, and none has the length -1. -/
def encode : PublisherId → List UInt8
  | byte value => [value]
  | uint16 value => toLe 2 value.toNat
  | uint32 value => toLe 4 value.toNat
  | uint64 value => toLe 8 value.toNat
  | string text _ => toLe 4 text.length ++ text
  | nullString => [0xFF, 0xFF, 0xFF, 0xFF]

def display : PublisherId → String
  | byte value => toString value.toNat
  | uint16 value => toString value.toNat
  | uint32 value => toString value.toNat
  | uint64 value => toString value.toNat
  | string text _ => utf8Lossy text
  | nullString => ""

def typeName : PublisherId → String
  | byte _ => "byte"
  | uint16 _ => "uint16"
  | uint32 _ => "uint32"
  | uint64 _ => "uint64"
  | string _ _ | nullString => "string"

lemma reads_encode (p : PublisherId) :
    Reads (readPublisherId (ofNat p.typeCode)) p.encode (some p.display, some p.typeName) := by
  cases p with
  | byte value => exact (reads_u8 _ value).map fun v => (some (toString v.toNat), some "byte")
  | uint16 value => exact (reads_u16le _ value).map fun v =>
    (some (toString v.toNat), some "uint16")
  | uint32 value => exact (reads_u32le _ value).map fun v =>
    (some (toString v.toNat), some "uint32")
  | uint64 value => exact (reads_u64le _ value).map fun v =>
    (some (toString v.toNat), some "uint64")
  | nullString =>
    have hread := reads_u32le "truncated: missing PublisherId string length" 0xFFFFFFFF
    refine hread.bind ?_
    exact .pure _
  | string text fits =>
    have hsmall : text.length < 2 ^ 32 := by omega
    have hlength : (UInt32.ofNat text.length).toNat = text.length := UInt32.toNat_ofNat_of_lt hsmall
    have hread := reads_u32le "truncated: missing PublisherId string length"
      (UInt32.ofNat text.length)
    rw [hlength] at hread
    refine hread.bind ?_
    rw [if_neg (toInt32_ofNat_nonneg fits), hlength]
    exact (reads_take _ rfl).map fun bytes => (some (utf8Lossy bytes), some "string")

end PublisherId

def flag (present : Bool) (value : UInt8) : UInt8 := if present then value else 0

namespace GroupHeader

def flags (g : GroupHeader) : UInt8 :=
  flag g.writerGroupId.isSome 1 ||| flag g.groupVersion.isSome 2 ||| flag
    g.networkMessageNumber.isSome 4 ||| flag g.sequenceNumber.isSome 8

def encode (g : GroupHeader) : List UInt8 :=
  [g.flags] ++ (g.writerGroupId.elim [] (fun n => toLe 2 n.toNat) ++
    (g.groupVersion.elim [] (fun n => toLe 4 n.toNat) ++
      (g.networkMessageNumber.elim [] (fun n => toLe 2 n.toNat) ++ g.sequenceNumber.elim []
        (fun n => toLe 2 n.toNat))))

lemma reads_encode (g : GroupHeader) : Reads readGroupHeader g.encode g := by
  have hbits : ∀ a b c d : Bool, bit (flag a 1 ||| flag b 2 ||| flag c 4 ||| flag d 8) 0 = a ∧
        bit (flag a 1 ||| flag b 2 ||| flag c 4 ||| flag d 8) 1 = b ∧
        bit (flag a 1 ||| flag b 2 ||| flag c 4 ||| flag d 8) 2 = c ∧
        bit (flag a 1 ||| flag b 2 ||| flag c 4 ||| flag d 8) 3 = d := by
    decide
  obtain ⟨hwriter, hversion, hnumber, hsequence⟩ := hbits _ _
    _ _
  refine (reads_u8 _ g.flags).bind ?_
  unfold flags
  rw [hwriter, hversion, hnumber, hsequence]
  refine (reads_opt_self _ (reads_u16le _) _).bind ?_
  refine (reads_opt_self _ (reads_u32le _) _).bind ?_
  refine (reads_opt_self _ (reads_u16le _) _).bind ?_
  exact (reads_opt_self _ (reads_u16le _) _).bind_pure _

end GroupHeader

/-- The header of a network message with a payload header. -/
structure NetworkMessage where
  version : Fin 16
  publisherId : Option PublisherId
  dataSetClassId : Option { guid : List UInt8 // guid.length = 16 }
  extendedFlags2 : Bool
  group : Option GroupHeader
  timestamp : Option UInt64
  picoSeconds : Option UInt16
  promotedFields : Option { fields : List UInt8 // fields.length < 2 ^ 16 }
  securityHeader : Option { header : List UInt8 // header ≠ [] }
  flags2Written : promotedFields.isSome = true → extendedFlags2 = true

namespace NetworkMessage

variable (nm : NetworkMessage)

def pidType : Fin 5 := nm.publisherId.elim 0 PublisherId.typeCode

def extendedFlags1 : UInt8 :=
  UInt8.ofNat nm.pidType ||| flag nm.dataSetClassId.isSome 0x08 |||
    flag nm.securityHeader.isSome 0x10 ||| flag nm.timestamp.isSome 0x20 |||
    flag nm.picoSeconds.isSome 0x40 ||| flag nm.extendedFlags2 0x80

def flags1 : UInt8 :=
  UInt8.ofNat nm.version ||| flag nm.publisherId.isSome 0x10 ||| flag nm.group.isSome
    0x20 ||| 0x40 ||| flag (nm.extendedFlags1 != 0) 0x80

def encode (nm : NetworkMessage) (writerIds : List UInt16) : List UInt8 :=
  [nm.flags1] ++ ((if nm.extendedFlags1 != 0 then [nm.extendedFlags1] else []) ++
    ((if nm.extendedFlags2 then [flag nm.promotedFields.isSome 0x02] else []) ++
      (nm.publisherId.elim [] PublisherId.encode ++
      (nm.dataSetClassId.elim [] Subtype.val ++ (nm.group.elim [] GroupHeader.encode ++
        ([UInt8.ofNat writerIds.length] ++ writerIds.flatMap fun id => toLe 2 id.toNat))))))

/-- What stands behind the payload header and is not read by the decoder. -/
def unread : List UInt8 :=
  nm.timestamp.elim [] (fun t => toLe 8 t.toNat) ++
    (nm.picoSeconds.elim [] (fun n => toLe 2 n.toNat) ++
    (nm.promotedFields.elim [] (fun p => toLe 2 p.val.length ++ p.val) ++
      nm.securityHeader.elim [] Subtype.val))

def header (writerIds : List UInt16) : NetworkMessageHeader :=
  { uaVersion := UInt8.ofNat nm.version
    publisherId := nm.publisherId.map PublisherId.display
    publisherIdType := nm.publisherId.map PublisherId.typeName
    datasetClassId := nm.dataSetClassId.map fun guid => hexGuid guid
    writerGroupId := nm.group.bind GroupHeader.writerGroupId
    groupVersion := nm.group.bind GroupHeader.groupVersion
    networkMessageNumber := nm.group.bind GroupHeader.networkMessageNumber
    sequenceNumber := nm.group.bind GroupHeader.sequenceNumber
    datasetWriterIds := writerIds }

lemma flags1_bits :
    bit nm.flags1 4 = nm.publisherId.isSome ∧ bit nm.flags1 5 = nm.group.isSome ∧
      bit nm.flags1 6 = true ∧
      bit nm.flags1 7 = (nm.extendedFlags1 != 0) ∧ nm.flags1 &&& 0x0F = ofNat nm.version := by
  have hbits : ∀ (v : Fin 16) (a b c : Bool),
      let f := ofNat v ||| flag a 0x10 ||| flag b 0x20 ||| 0x40 ||| flag c 0x80
      bit f 4 = a ∧ bit f 5 = b ∧ bit f 6 = true ∧ bit f 7 = c ∧ f &&& 0x0F = ofNat v := by
    decide
  exact hbits nm.version _ _ _

lemma extendedFlags1_bits :
    bit nm.extendedFlags1 3 = nm.dataSetClassId.isSome ∧
      bit nm.extendedFlags1 7 = nm.extendedFlags2 ∧
      nm.extendedFlags1 &&& 0x07 = ofNat nm.pidType := by
  have hbits : ∀ (t : Fin 5) (a b c d e : Bool),
      let f :=
        ofNat t ||| flag a 0x08 ||| flag b 0x10 ||| flag c 0x20 ||| flag d 0x40 ||| flag e 0x80
      bit f 3 = a ∧ bit f 7 = e ∧ f &&& 0x07 = ofNat t := by
    decide
  exact hbits _ _ _ _ _ _

lemma reads_writerIds {writerIds : List UInt16} (hcount : writerIds.length < 256) :
    Reads readPayloadHeader ([ofNat writerIds.length] ++ writerIds.flatMap fun id =>
      toLe 2 id.toNat) writerIds := by
  have hlength : (ofNat writerIds.length).toNat = writerIds.length := toNat_ofNat_of_lt hcount
  refine (reads_u8 _ _).bind ?_
  rw [hlength]
  exact reads_times _ (reads_u16le _) writerIds

lemma reads_encode {writerIds : List UInt16} (nm : NetworkMessage)
    (hcount : writerIds.length < 256) :
    Reads parseNetworkMessage (nm.encode writerIds) (nm.header writerIds) := by
  obtain ⟨hpublisher, hgroup, hpayload, hextended, hversion⟩ := nm.flags1_bits
  obtain ⟨hclass, hsecond, htype⟩ := nm.extendedFlags1_bits
  have hflags : (if nm.extendedFlags1 != 0 then some nm.extendedFlags1 else none).getD 0 =
      nm.extendedFlags1 := by
    by_cases hzero : nm.extendedFlags1 = 0 <;> simp [hzero]
  have hheader : nm.header writerIds =
      { uaVersion := ofNat nm.version
        publisherId := (nm.publisherId.map fun p => (some p.display, some p.typeName)).bind Prod.fst
        publisherIdType :=
          (nm.publisherId.map fun p => (some p.display, some p.typeName)).bind Prod.snd
        datasetClassId := (nm.dataSetClassId.map Subtype.val).map hexGuid
        writerGroupId := nm.group.bind writerGroupId
        groupVersion := nm.group.bind groupVersion
        networkMessageNumber := nm.group.bind networkMessageNumber
        sequenceNumber := nm.group.bind sequenceNumber
        datasetWriterIds := (some writerIds).getD [] } := by
    unfold header
    cases nm.publisherId <;> cases nm.dataSetClassId <;> rfl
  rw [hheader]
  refine (reads_u8 _ _).bind ?_
  rw [hpublisher, hgroup, hpayload, hextended, hversion]
  refine ((reads_u8 _ _).opt _).bind ?_
  dsimp only
  rw [hflags, hclass, hsecond, htype]
  refine ((reads_u8 _ _).opt _).bind ?_
  refine (reads_opt _ (fun p => (some p.display, some p.typeName)) _ ?_).bind ?_
  · intro p hp
    have hcode : nm.pidType = p.typeCode := by
      rw [pidType, Option.mem_def.1 hp]
      rfl
    rw [hcode]
    exact p.reads_encode
  refine (reads_opt _ _ _ fun guid _ => reads_take _ guid.2).bind ?_
  refine (reads_opt_self _ GroupHeader.reads_encode _).bind ?_
  exact ((reads_writerIds hcount).map some).bind_pure _

end NetworkMessage

/-! ## The first event of a data set message -/

/-- The failures of reading the header of a data set message. -/
def headerFailures : List String :=
  ["truncated: missing DataSetFlags2", "truncated: missing DSM SequenceNumber",
    "truncated: missing DSM Timestamp",
    "truncated: missing DSM PicoSeconds", "truncated: missing DSM StatusCode",
      "truncated: missing DSM MajorVersion",
    "truncated: missing DSM MinorVersion"]

def rawDataReason : String :=
  "RawData field encoding requires out-of-band PublishedDataSet config; skipped"

/-- The first byte of a data set message has the encoding of its fields. -/
def encodingOf (flags1 : UInt8) : UInt8 := (flags1 >>> 1) &&& 0x03

lemma parseDsmHeader_cons (b : UInt8) (bytes : List UInt8) :
    Outcome (fun hdr => hdr.fieldEncoding = encodingOf b) (· ∈ headerFailures)
      (on parseDsmHeader (b :: bytes)).1 := by
  have hfirst : on (u8 "truncated: missing DataSetFlags1") (b :: bytes) = (.ok b, bytes) := rfl
  have hmem : ∀ {reason : String}, headerFailures.contains reason = true →
    reason ∈ headerFailures := fun h => contains_iff_mem.1 h
  rw [parseDsmHeader, on_bind, hfirst]
  dsimp only
  refine (?_ : Ends _ (fun hdr : DsmHeader => hdr.fieldEncoding = encodingOf b)
    (· ∈ headerFailures)) bytes
  refine ((ends_u8 (hmem rfl)).opt _).bind fun extended _ => ?_
  refine ((ends_u16le (hmem rfl)).opt _).bind fun sequenceNumber _ => ?_
  refine ((ends_u64le (hmem rfl)).opt _).bind fun ticks _ => ?_
  refine ((ends_u16le (hmem rfl)).opt _).bind fun _ _ => ?_
  refine ((ends_u16le (hmem rfl)).opt _).bind fun statusCode _ => ?_
  refine ((ends_u32le (hmem rfl)).opt _).bind fun _ _ => ?_
  exact ((ends_u32le (hmem rfl)).opt _).bind fun _ _ => .pure rfl

lemma parseDsmHeader_plain {b : UInt8} (h : bit b 3 = false ∧ bit b 4 = false ∧ bit b 5 = false ∧
      bit b 6 = false ∧ bit b 7 = false) (rest : List UInt8) :
    on parseDsmHeader (b :: rest) = (.ok ⟨encodingOf b, 0, none, none, none⟩, rest) := by
  have hfirst : on (u8 "truncated: missing DataSetFlags1") (b :: rest) = (.ok b, rest) := rfl
  have hzero : bit ((none : Option UInt8).getD 0) 4 = false ∧
      bit ((none : Option UInt8).getD 0) 5 = false := ⟨rfl, rfl⟩
  rw [parseDsmHeader, on_bind, hfirst]
  dsimp only
  rw [h.2.2.2.2, h.1, h.2.1, h.2.2.1, h.2.2.2.1]
  simp only [opt, Bool.false_eq_true, if_false, pure_bind, hzero]
  rfl

variable (chunk : StreamChunk) (writerId : UInt16)

def reasonIn (event : BronzeEvent) : Option String :=
  match event.family with
  | .parseAnomaly a => some a.reason
  | _ => none

def encodingIn (event : BronzeEvent) : Option String :=
  match event.family with
  | .protocolTransaction t => t.attributes.get "field_encoding"
  | _ => none

lemma encodingIn_dsmTransaction (hdr : DsmHeader) (fieldCount : Nat) :
    encodingIn (dsmTransaction chunk writerId hdr fieldCount) =
      some (fieldEncodingStr hdr.fieldEncoding) := by
  obtain ⟨fieldEncoding, messageType, sequenceNumber, dsmTimestampUs, statusCode⟩ := hdr
  have hattributes : ∀ rest : List (String × String), "field_encoding" ∉ rest.map Prod.fst →
      (OrderedMap.empty.extend ([("dataset_writer_id", toString writerId.toNat),
        ("field_count", toString fieldCount), ("field_encoding", fieldEncodingStr fieldEncoding)] ++
          rest)).get "field_encoding" = some (fieldEncodingStr fieldEncoding) := by
    intro rest hrest
    rw [OrderedMap.extend, foldl_append]
    refine (OrderedMap.get_extend_of_not_mem hrest).trans ?_
    exact OrderedMap.get_extend_concat OrderedMap.empty
      [("dataset_writer_id", toString writerId.toNat), ("field_count", toString fieldCount)] _ _
  refine Eq.trans ?_ (hattributes
    (attributeSome "sequence_number" (number16 sequenceNumber) ++
      attributeSome "status_code" (number16 statusCode)) ?_)
  · rw [← append_assoc]
    rfl
  · cases sequenceNumber <;> cases statusCode <;> simp [attributeSome, number16]

/-- The events begin as those of raw data do. -/
def SaysRaw (events : List BronzeEvent) : Prop :=
  events.head?.bind reasonIn = some rawDataReason ∧ events[1]?.bind encodingIn = some "raw_data"

lemma saysRaw_decodeDsm (rest : List UInt8) (later : List BronzeEvent) :
    SaysRaw ((decodeDsm chunk writerId (0x02 :: rest)).1 ++ later) := by
  have hheader : on parseDsmHeader (0x02 :: rest) = (.ok ⟨1, 0, none, none, none⟩, rest) :=
    parseDsmHeader_plain ⟨rfl, rfl, rfl, rfl, rfl⟩ rest
  rw [decodeDsm, hheader]
  exact ⟨rfl, encodingIn_dsmTransaction chunk writerId ⟨1, 0, none, none, none⟩ 0⟩

lemma fieldEncodingStr_ne {encoding : UInt8} (h : encoding ≠ 1) :
    fieldEncodingStr encoding ≠ "raw_data" := by
  unfold fieldEncodingStr
  split <;> simp_all

lemma not_saysRaw_decodeDsm {b : UInt8} (h : encodingOf b ≠ 1) (rest : List UInt8)
    (later : List BronzeEvent) : ¬ SaysRaw ((decodeDsm chunk writerId (b :: rest)).1 ++ later) := by
  have hheader := parseDsmHeader_cons b rest
  rw [decodeDsm]
  generalize on parseDsmHeader (b :: rest) = result at hheader ⊢
  obtain ⟨reason | hdr, left⟩ := result
  · rintro ⟨hreason, -⟩
    obtain rfl : reason = rawDataReason := Option.some.inj hreason
    exact absurd (show rawDataReason ∈ headerFailures from hheader) (by decide)
  · have hencoding : hdr.fieldEncoding ≠ 1 := fun hraw => h (hheader.symm.trans hraw)
    dsimp only
    rw [if_neg hencoding]
    split
    · rintro ⟨hreason, -⟩
      cases hreason
    · rw [decodeFields]
      split
      · rename_i reason _ hcount
        rintro ⟨hreason, -⟩
        obtain rfl : reason = rawDataReason := Option.some.inj hreason
        have hends := ends_u16le (E := (· = "truncated: missing DSM FieldCount")) rfl left
        rw [hcount] at hends
        exact absurd (show rawDataReason = "truncated: missing DSM FieldCount" from hends)
          (by decide)
      · split
        · -- a field cannot be read: the transaction that follows has another encoding
          rintro ⟨-, hsecond⟩
          have htx : encodingIn (dsmTransaction chunk writerId hdr _) = some "raw_data" := hsecond
          rw [encodingIn_dsmTransaction] at htx
          exact fieldEncodingStr_ne hencoding (Option.some.inj htx)
        · rintro ⟨hreason, -⟩
          cases hreason

lemma head_decodeDsm_raw {b : UInt8} (h : encodingOf b = 1) (rest : List UInt8)
    (later : List BronzeEvent) : ∃ reason ∈ rawDataReason :: headerFailures,
      ((decodeDsm chunk writerId (b :: rest)).1 ++ later).head?.bind reasonIn = some reason := by
  have hheader := parseDsmHeader_cons b rest
  rw [decodeDsm]
  generalize on parseDsmHeader (b :: rest) = result at hheader ⊢
  obtain ⟨reason | hdr, left⟩ := result
  · exact ⟨reason, mem_cons_of_mem _ hheader, rfl⟩
  · dsimp only
    rw [if_pos (Eq.trans hheader h)]
    exact ⟨rawDataReason, mem_cons_self, rfl⟩

/-- A message of zeros has no fields, or is too short to say how many it has. -/
lemma head_decodeDsm_zeros (n : Nat) (later : List BronzeEvent) :
    ∀ reason ∈ rawDataReason :: headerFailures,
      ((decodeDsm chunk writerId (replicate (n + 1) 0)).1 ++ later).head?.bind reasonIn ≠
        some reason := by
  have hheader : on parseDsmHeader (replicate (n + 1) 0) =
    (.ok ⟨0, 0, none, none, none⟩, replicate n 0) :=
    parseDsmHeader_plain ⟨rfl, rfl, rfl, rfl, rfl⟩ _
  rw [decodeDsm, hheader]
  dsimp only
  rw [if_neg (by decide), if_neg (by decide)]
  match n with
  | 0 | 1 =>
    change ∀ reason ∈ rawDataReason :: headerFailures, some "truncated: missing DSM FieldCount" ≠
      some reason
    decide
  | n + 2 =>
    have hcount : on (u16le "truncated: missing DSM FieldCount") (replicate (n + 2) 0) =
        (.ok 0, replicate n 0) := rfl
    rw [decodeFields, hcount]
    rintro reason - hreason
    cases hreason

/-! ## Datagrams -/

structure DataSetMessage where
  writerId : UInt16
  bytes : List UInt8
  nonempty : bytes ≠ []

open DataSetMessage

/-- The writer of a message and its size. -/
def DataSetMessage.place (m : DataSetMessage) : UInt16 × Nat := (m.writerId, m.bytes.length)

def alone (m : DataSetMessage) : List BronzeEvent := (decodeDsm chunk m.writerId m.bytes).1

/-- The sizes of the messages stand before them if there are two or more. -/
def sizesBytes (layout : List (UInt16 × Nat)) : List UInt8 :=
  if layout.length < 2 then [] else layout.flatMap fun place => toLe 2 place.2

def NetworkMessage.datagram (nm : NetworkMessage) (messages : List DataSetMessage) : List UInt8 :=
  nm.encode (messages.map DataSetMessage.writerId) ++
    (nm.unread ++ sizesBytes (messages.map place) ++ messages.flatMap DataSetMessage.bytes)

/-- The events of the datagram are those of its header and those of each message alone. -/
def Isolated (nm : NetworkMessage) (d : OpcUaPubSubDecoder) (chunk : StreamChunk)
    (messages : List DataSetMessage) : Prop :=
  let datagram := { chunk with payload := nm.datagram messages }
  (d.onDatagram datagram).1 =
    (d.observeHeader datagram (nm.header (messages.map DataSetMessage.writerId))).1 ++
      messages.flatMap (alone datagram)

lemma isolated_iff (nm : NetworkMessage) (d : OpcUaPubSubDecoder) (m : DataSetMessage)
    (messages : List DataSetMessage) (hcount : messages.length < 255) :
    Isolated nm d chunk (m :: messages) ↔
      let datagram := { chunk with payload := nm.datagram (m :: messages) }
      decodeDsms datagram (m.writerId :: messages.map DataSetMessage.writerId)
          (nm.unread ++ sizesBytes ((m :: messages).map place) ++ (m :: messages).flatMap bytes) =
        (m :: messages).flatMap (alone datagram) := by
  have hwriters : ((m :: messages).map DataSetMessage.writerId).length < 256 := by
    simpa using Nat.succ_lt_succ hcount
  have hread := nm.reads_encode hwriters
    (nm.unread ++ sizesBytes ((m :: messages).map place) ++ (m :: messages).flatMap bytes)
  have hpayload : nm.unread ++ sizesBytes ((m :: messages).map place) ++
      (m :: messages).flatMap bytes ≠ [] := by
    simp [m.nonempty]
  have hids : (nm.header ((m :: messages).map DataSetMessage.writerId)).datasetWriterIds =
      m.writerId :: messages.map DataSetMessage.writerId := rfl
  dsimp only [Isolated, NetworkMessage.datagram]
  rw [onDatagram, hread]
  dsimp only
  rw [hids, payloadEvents, if_neg hpayload, if_neg (cons_ne_nil _ _), append_cancel_left_eq]

lemma decodeDsms_cons (writerIds : List UInt16) {bytes : List UInt8} (h : bytes ≠ []) :
    decodeDsms chunk (writerId :: writerIds) bytes =
      (decodeDsm chunk writerId bytes).1 ++ decodeDsms chunk writerIds
        (decodeDsm chunk writerId bytes).2 := by
  rw [decodeDsms, if_neg h]

/-- Raw data where the byte that is read first stands for something else, and zeros otherwise. -/
lemma first_misread {b : UInt8} {n : Nat} {m : DataSetMessage}
    (hbytes : m.bytes = (if encodingOf b = 1 then 0 else 0x02) :: replicate n 0) (rest : List UInt8)
    (later later' : List BronzeEvent) :
    (decodeDsm chunk m.writerId (b :: rest)).1 ++ later ≠ alone chunk m ++ later' := by
  intro hevents
  rw [alone, hbytes] at hevents
  by_cases hraw : encodingOf b = 1
  · rw [if_pos hraw, ← replicate_succ] at hevents
    obtain ⟨reason, hreason, hhead⟩ := head_decodeDsm_raw chunk m.writerId hraw rest later
    rw [hevents] at hhead
    exact head_decodeDsm_zeros chunk m.writerId n later' reason hreason hhead
  · rw [if_neg hraw] at hevents
    have hsays := saysRaw_decodeDsm chunk m.writerId (replicate n 0) later'
    rw [← hevents] at hsays
    exact not_saysRaw_decodeDsm chunk m.writerId hraw rest later hsays

/-- If anything stands before the messages, their contents can be such that the first one is not
reported as it is alone. -/
lemma exists_misread (nm : NetworkMessage) (d : OpcUaPubSubDecoder) (place : UInt16 × Nat)
    (layout : List (UInt16 × Nat)) (hcount : layout.length < 255)
    (hsizes : ∀ p ∈ place :: layout, 0 < p.2)
    (hbetween : nm.unread ++ sizesBytes (place :: layout) ≠ []) :
    ∃ messages : List DataSetMessage, messages.map DataSetMessage.place = place :: layout ∧
      ¬ Isolated nm d chunk messages := by
  obtain ⟨b, between, hb⟩ := exists_cons_of_ne_nil hbetween
  obtain ⟨hsize, hothers⟩ := forall_mem_cons.1 hsizes
  obtain ⟨n, hn⟩ := Nat.exists_eq_add_one_of_ne_zero (Nat.ne_zero_of_lt hsize)
  let first : DataSetMessage :=
    ⟨place.1, (if encodingOf b = 1 then 0 else 0x02) :: replicate n 0, cons_ne_nil _ _⟩
  let others : List DataSetMessage := layout.attach.map fun p =>
    ⟨p.1.1, replicate p.1.2 0, by
      rw [Ne, replicate_eq_nil_iff]
      exact Nat.ne_of_gt (hothers p.1 p.2)⟩
  have hplaces : (first :: others).map DataSetMessage.place = place :: layout := by
    have hfirst : first.place = place := by
      refine Prod.ext rfl ?_
      simp [first, DataSetMessage.place, hn]
    have hrest : others.map DataSetMessage.place = layout := by
      simp only [others, map_map]
      exact (map_congr_left fun p _ => by simp [DataSetMessage.place]).trans
        (attach_map_subtype_val layout)
    rw [map_cons, hfirst, hrest]
  refine ⟨first :: others, hplaces, ?_⟩
  rw [isolated_iff chunk nm d first others (by simpa [others] using hcount), hplaces, hb]
  dsimp only
  rw [cons_append, decodeDsms_cons _ _ _ (cons_ne_nil _ _), flatMap_cons (f := alone _)]
  exact first_misread _ rfl _ _ _

lemma sizesBytes_eq_nil_iff (layout : List (UInt16 × Nat)) : sizesBytes layout = [] ↔
    layout.length < 2 := by
  unfold sizesBytes
  split
  · simp_all
  · rename_i hlong
    refine iff_of_false ?_ hlong
    cases layout with
    | nil => exact absurd (by decide) hlong
    | cons place layout =>
      intro hnil
      have hlength := congrArg length hnil
      simp only [flatMap_cons, length_append, length_toLe, length_nil] at hlength
      omega

/-- For every header and every list of writers and sizes: the messages of all datagrams with this
layout, whatever is in the messages, are reported as each of them is alone, if and only if there is
one message and nothing stands between the header and it. -/
theorem dataSetMessages_isolated_iff (nm : NetworkMessage) (layout : List (UInt16 × Nat))
    (hsome : layout ≠ []) (hcount : layout.length < 256)
    (hsizes : ∀ place ∈ layout, 0 < place.2 ∧ place.2 < 2 ^ 16) :
    (∀ (d : OpcUaPubSubDecoder) (chunk : StreamChunk) (messages : List DataSetMessage),
        messages.map DataSetMessage.place = layout → Isolated nm d chunk messages) ↔
      layout.length = 1 ∧ nm.unread = [] := by
  obtain ⟨place, layout, rfl⟩ := exists_cons_of_ne_nil hsome
  rw [length_cons] at hcount
  constructor
  · intro hall
    have hbetween : nm.unread ++ sizesBytes (place :: layout) = [] := by
      by_contra hsomething
      obtain ⟨messages, hplaces, hmisread⟩ :=
        exists_misread (hostChunk 1 .udp 4840 4840 []) nm default
        place layout (by omega) (fun p hp => (hsizes p hp).1) hsomething
      exact hmisread (hall default _ messages hplaces)
    obtain ⟨hunread, hnone⟩ := append_eq_nil_iff.1 hbetween
    have hfew := (sizesBytes_eq_nil_iff _).1 hnone
    rw [length_cons] at hfew ⊢
    exact ⟨by omega, hunread⟩
  · rintro ⟨hone, hunread⟩ d chunk messages hplaces
    have hlength : messages.length = 1 := by
      rw [← length_map (f := DataSetMessage.place), hplaces, hone]
    obtain ⟨m, rfl⟩ := length_eq_one_iff.1 hlength
    have hnone : sizesBytes ([m].map DataSetMessage.place) = [] := rfl
    rw [isolated_iff chunk nm d m [] (by decide), hunread, hnone]
    dsimp only
    rw [nil_append, nil_append, flatMap_singleton, map_nil, decodeDsms_cons _ _ _ m.nonempty,
      flatMap_singleton]
    exact append_nil _

/-! ## Keep-alives -/

def keepAlive : DataSetMessage := ⟨writerId, [0x81, 0x03], by decide⟩

def bareMessage : NetworkMessage := ⟨1, none, none, false, none, none, none, none, none, by decide⟩

theorem keepAlive_isolated : Isolated bareMessage default (hostChunk 1 .udp 4840 4840 [])
    [keepAlive 1] :=
  (dataSetMessages_isolated_iff bareMessage [(1, 2)] (by decide) (by decide) (by decide)).2
    ⟨rfl, rfl⟩ _ _ _ rfl

/-- With their sizes before them, two keep-alives are not reported like this. -/
theorem sizes_misread :
    ¬ Isolated bareMessage default (hostChunk 1 .udp 4840 4840 []) [keepAlive 1, keepAlive 2] := by
  unfold Isolated
  decide

end PubSub
end MarlinspikeDpi.OpcUa
