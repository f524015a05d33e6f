import MarlinspikeDpi.Foundation.Reader
import MarlinspikeDpi.OpcUa.Binary

/-!
# The datagrams of OPC UA PubSub

A datagram is a network message: a header whose parts are announced by flags, and data set messages
with fields.
-/

namespace MarlinspikeDpi.OpcUa
namespace PubSub

open Bytes Text Reader

/-! ## Values -/

section

variable {ε : Type} (e : ε)

def readArrayLength : Reader ε (Option Nat) := do
  let len ← u32le e
  return if len.toInt32 < 0 then none else some len.toNat

def readByteString : Reader ε (Option (List UInt8)) := do
  match ← readArrayLength e with
  | none => return none
  | some n => return some (← take e n)

/-- A string that is not UTF-8 is given up behind its bytes. -/
def readString : Reader ε (Option String) := do
  match ← readByteString e with
  | none => return none
  | some bytes =>
    match utf8Strict bytes with
    | some s => return some s
    | none => throw e

def readScalar (typeId : UInt8) : Reader ε PointValue := do
  match typeId with
  | 0 => return .null
  | 1 => return .bool ((← u8 e) != 0)
  | 2 => return .int8 (← u8 e).toInt8
  | 3 => return .uint8 (← u8 e)
  | 4 => return .int16 (← u16le e).toInt16
  | 5 => return .uint16 (← u16le e)
  | 6 => return .int32 (← u32le e).toInt32
  | 7 => return .uint32 (← u32le e)
  | 8 => return .int64 (← u64le e).toInt64
  | 9 => return .uint64 (← u64le e)
  | 10 => return .float (← u32le e)
  | 11 => return .double (← u64le e)
  | 12 => return ((← readString e).map PointValue.text).getD .null
  | 13 => return ((opcuaDatetimeToUnixUs (← u64le e).toInt64).map PointValue.dateTime).getD .null
  | 14 => return .bytes (← take e 16)
  | 15 => return ((← readByteString e).map PointValue.bytes).getD .null
  | _ => return .null

def consumeArray (typeId : UInt8) : Reader ε Unit := do
  match ← readArrayLength e with
  | none => return ()
  | some n =>
    let _ ← times n (readScalar e typeId)
    return ()

def readVariant : Reader ε PointValue := do
  let mask ← u8 e
  if mask &&& 0x80 ≠ 0 then
    consumeArray e (mask &&& 0x3F)
    if mask &&& 0x40 ≠ 0 then consumeArray e 6
    return .null
  else readScalar e (mask &&& 0x3F)

def readDataValue : Reader ε DecodedDataValue := do
  let mask ← u8 e
  let value ← opt (mask &&& 0x01 != 0) (readVariant e)
  let statusCode ← opt (mask &&& 0x02 != 0) (u32le e)
  let source ← opt (mask &&& 0x04 != 0) (u64le e)
  let _ ← opt (mask &&& 0x10 != 0) (u16le e)
  let server ← opt (mask &&& 0x08 != 0) (u64le e)
  let _ ← opt (mask &&& 0x20 != 0) (u16le e)
  return {
    value := value.getD .null
    quality := .opcUaStatusCode (statusCode.getD 0)
    sourceTs := source.bind fun ticks => opcuaDatetimeToUnixUs ticks.toInt64
    serverTs := server.bind fun ticks => opcuaDatetimeToUnixUs ticks.toInt64 }

end

/-! ## Network messages -/

def bit (flags : UInt8) (i : UInt8) : Bool := (flags >>> i) &&& 1 == 1

structure NetworkMessageHeader where
  uaVersion : UInt8
  (publisherId publisherIdType datasetClassId : Option String)
  writerGroupId : Option UInt16
  groupVersion : Option UInt32
  (networkMessageNumber sequenceNumber : Option UInt16)
  datasetWriterIds : List UInt16

/-- Sixteen bytes as `{XXXXXXXX-XXXX-XXXX-XXXX-XXXXXXXXXXXX}`: three numbers with the low byte
first, then bytes. -/
def hexGuid (b : List UInt8) : String :=
  let hex := hexPad 8 (leNat (slice b 0 4)) ++ "-" ++ hexPad 4 (leNat (slice b 4 2)) ++ "-" ++
    hexPad 4 (leNat (slice b 6 2)) ++ "-" ++ hexEncode (slice b 8 2) ++ "-" ++ hexEncode
      (slice b 10 6)
  "\x7b" ++ String.ofList (hex.toList.map Char.toUpper) ++ "\x7d"

/-- The publisher and the name of its type.  A type that is not known is taken to have no bytes. -/
def readPublisherId (pidType : UInt8) : Reader String (Option String × Option String) := do
  match pidType with
  | 0 =>
    let v ← u8 "truncated: missing PublisherId (Byte)"
    return (some (toString v.toNat), some "byte")
  | 1 =>
    let v ← u16le "truncated: missing PublisherId (UInt16)"
    return (some (toString v.toNat), some "uint16")
  | 2 =>
    let v ← u32le "truncated: missing PublisherId (UInt32)"
    return (some (toString v.toNat), some "uint32")
  | 3 =>
    let v ← u64le "truncated: missing PublisherId (UInt64)"
    return (some (toString v.toNat), some "uint64")
  | 4 =>
    let len ← u32le "truncated: missing PublisherId string length"
    if len.toInt32 < 0 then return (some "", some "string")
    else
      let bytes ← take "truncated: missing PublisherId string bytes" len.toNat
      return (some (utf8Lossy bytes), some "string")
  | _ => return (none, some "unknown")

structure GroupHeader where
  writerGroupId : Option UInt16
  groupVersion : Option UInt32
  (networkMessageNumber sequenceNumber : Option UInt16)

def readGroupHeader : Reader String GroupHeader := do
  let flags ← u8 "truncated: missing GroupHeader flags"
  let writerGroupId ← opt (bit flags 0) (u16le "truncated: missing WriterGroupId")
  let groupVersion ← opt (bit flags 1) (u32le "truncated: missing GroupVersion")
  let networkMessageNumber ← opt (bit flags 2) (u16le "truncated: missing NetworkMessageNumber")
  let sequenceNumber ← opt (bit flags 3) (u16le "truncated: missing SequenceNumber")
  return ⟨writerGroupId, groupVersion, networkMessageNumber, sequenceNumber⟩

/-- The writers of the data set messages. The sizes that follow if there are several are not
read. -/
def readPayloadHeader : Reader String (List UInt16) := do
  let count ← u8 "truncated: missing PayloadHeader count"
  times count.toNat (u16le "truncated: missing DataSetWriterIds")

def parseNetworkMessage : Reader String NetworkMessageHeader := do
  let flags1 ← u8 "empty datagram"
  let extended1 ← opt (bit flags1 7) (u8 "truncated: missing ExtendedFlags1")
  let extendedFlags1 := extended1.getD 0
  -- the second byte of extended flags is read over
  let _ ← opt (bit extendedFlags1 7) (u8 "truncated: missing ExtendedFlags2")
  let publisher ← opt (bit flags1 4) (readPublisherId (extendedFlags1 &&& 0x07))
  let guid ← opt (bit extendedFlags1 3) (take "truncated: missing DataSetClassId" 16)
  let group ← opt (bit flags1 5) readGroupHeader
  let writerIds ← opt (bit flags1 6) readPayloadHeader
  return {
    uaVersion := flags1 &&& 0x0F
    publisherId := publisher.bind Prod.fst
    publisherIdType := publisher.bind Prod.snd
    datasetClassId := guid.map hexGuid
    writerGroupId := group.bind GroupHeader.writerGroupId
    groupVersion := group.bind GroupHeader.groupVersion
    networkMessageNumber := group.bind GroupHeader.networkMessageNumber
    sequenceNumber := group.bind GroupHeader.sequenceNumber
    datasetWriterIds := writerIds.getD [] }

/-! ## Data set messages -/

structure DsmHeader where
  (fieldEncoding messageType : UInt8)
  sequenceNumber : Option UInt16
  dsmTimestampUs : Option UInt64
  statusCode : Option UInt16

/-- Without the second byte of flags the message is a key frame and has no time. -/
def parseDsmHeader : Reader String DsmHeader := do
  let flags1 ← u8 "truncated: missing DataSetFlags1"
  let extended ← opt (bit flags1 7) (u8 "truncated: missing DataSetFlags2")
  let flags2 := extended.getD 0
  let sequenceNumber ← opt (bit flags1 3) (u16le "truncated: missing DSM SequenceNumber")
  let ticks ← opt (bit flags2 4) (u64le "truncated: missing DSM Timestamp")
  let _ ← opt (bit flags2 5) (u16le "truncated: missing DSM PicoSeconds")
  let statusCode ← opt (bit flags1 4) (u16le "truncated: missing DSM StatusCode")
  let _ ← opt (bit flags1 5) (u32le "truncated: missing DSM MajorVersion")
  let _ ← opt (bit flags1 6) (u32le "truncated: missing DSM MinorVersion")
  return {
    fieldEncoding := (flags1 >>> 1) &&& 0x03
    messageType := flags2 &&& 0x0F
    sequenceNumber
    dsmTimestampUs := ticks.bind fun t => opcuaDatetimeToUnixUs t.toInt64
    statusCode }

structure Reading where
  pointIndex : UInt16
  value : PointValue
  quality : RawQuality
  sourceTs : Option UInt64

/-- A field of a message with the given header; only delta frames say which one it is. -/
def readField (hdr : DsmHeader) (fieldIndex : Nat) : Reader String Reading := do
  let written ← opt (hdr.messageType == 1) (u16le "truncated: missing DeltaFrame FieldIndex")
  let pointIndex := written.getD (UInt16.ofNat fieldIndex)
  match hdr.fieldEncoding with
  | 0 =>
    let value ← readVariant "unsupported or truncated Variant in DataSetMessage"
    return ⟨pointIndex, value, .none, hdr.dsmTimestampUs⟩
  | 2 =>
    let dv ← readDataValue "truncated DataValue in DataSetMessage"
    return ⟨pointIndex, dv.value, dv.quality, dv.sourceTs⟩
  | _ => throw "unknown FieldEncoding in DataSetMessage"

/-- The fields up to the first that cannot be read, why it cannot, and what is left. -/
def readFields (hdr : DsmHeader) : Nat → Nat → List UInt8 →
    (List Reading × Option String) × List UInt8
  | 0, _, bytes => (([], none), bytes)
  | n + 1, fieldIndex, bytes =>
    match on (readField hdr fieldIndex) bytes with
    | (.error reason, rest) => (([], some reason), rest)
    | (.ok reading, rest) =>
      let ((readings, failed), rest) := readFields hdr n (fieldIndex + 1) rest
      ((reading :: readings, failed), rest)

end PubSub
end MarlinspikeDpi.OpcUa
