import MarlinspikeDpi.Bronze
import MarlinspikeDpi.Foundation.Cursor

/-!
# The binary encoding of OPC UA services

Node ids, variants, data values, and the bodies of read requests and read responses.
-/

namespace MarlinspikeDpi.OpcUa

open Text Cursor

/-! ## Primitives -/

def readArrayLength : Cursor (Option Nat) := do
  let len ← u32le
  return if len.toInt32 < 0 then none else some len.toNat

def readByteString : Cursor (Option (List UInt8)) := do
  match ← readArrayLength with
  | none => return none
  | some n => return some (← take n)

def readString : Cursor (Option String) := do
  match ← readByteString with
  | none => return none
  | some bytes =>
    match utf8Strict bytes with
    | some s => return some s
    | none => failure

/-- The 100-nanosecond ticks from 1601 to 1970. -/
def ticks1601To1970 : Int := 116444736000000000

/-- Microseconds since the epoch; zero is null, and there is nothing before the epoch. -/
def opcuaDatetimeToUnixUs (ticks : Int64) : Option UInt64 :=
  if ticks = 0 then none
  else
    let sinceUnix := ticks.toInt - ticks1601To1970
    if sinceUnix < 0 then none else some (UInt64.ofNat (sinceUnix / 10).toNat)

/-! ## Node ids -/

structure DecodedNodeId where
  namespaceIndex : UInt16
  identifier : OpcUaNodeId
deriving DecidableEq

def readNodeId : Cursor DecodedNodeId := do
  let encoding ← u8
  match encoding &&& 0x3F with
  | 0x00 => return ⟨0, .numeric (← u8).toUInt32⟩
  | 0x01 =>
    let ns ← u8
    return ⟨ns.toUInt16, .numeric (← u16le).toUInt32⟩
  | 0x02 =>
    let ns ← u16le
    return ⟨ns, .numeric (← u32le)⟩
  | 0x03 =>
    let ns ← u16le
    match ← readArrayLength with
    | none => return ⟨ns, .string ""⟩
    | some n =>
      let bytes ← take n
      match utf8Strict bytes with
      | some s => return ⟨ns, .string s⟩
      | none => return ⟨ns, .stringRaw bytes⟩
  | 0x04 =>
    let ns ← u16le
    return ⟨ns, .guid (← take 16)⟩
  | 0x05 =>
    let ns ← u16le
    return ⟨ns, .opaqueBytes ((← readByteString).getD [])⟩
  | _ => failure

/-! ## Variants -/

/-- The value of a built-in type; types that are not supported are null and take nothing. -/
def readScalar (typeId : UInt8) : Cursor PointValue := do
  match typeId with
  | 0 => return .null
  | 1 => return .bool ((← u8) != 0)
  | 2 => return .int8 (← u8).toInt8
  | 3 => return .uint8 (← u8)
  | 4 => return .int16 (← u16le).toInt16
  | 5 => return .uint16 (← u16le)
  | 6 => return .int32 (← u32le).toInt32
  | 7 => return .uint32 (← u32le)
  | 8 => return .int64 (← u64le).toInt64
  | 9 => return .uint64 (← u64le)
  | 10 => return .float (← u32le)
  | 11 => return .double (← u64le)
  | 12 => return ((← readString).map PointValue.text).getD .null
  | 13 => return ((opcuaDatetimeToUnixUs (← u64le).toInt64).map PointValue.dateTime).getD .null
  | 14 => return .bytes (← take 16)
  | 15 => return ((← readByteString).map PointValue.bytes).getD .null
  | _ => return .null

def consumeArray (typeId : UInt8) : Cursor Unit := do
  match ← readArrayLength with
  | none => return ()
  | some n =>
    let _ ← times n (readScalar typeId)
    return ()

def readVariant : Cursor PointValue := do
  let mask ← u8
  if mask &&& 0x80 ≠ 0 then
    consumeArray (mask &&& 0x3F)
    if mask &&& 0x40 ≠ 0 then consumeArray 6
    return .null
  else readScalar (mask &&& 0x3F)

/-! ## Data values -/

structure DecodedDataValue where
  value : PointValue
  quality : RawQuality
  (sourceTs serverTs : Option UInt64)
deriving DecidableEq

def optional {α : Type} (mask bit : UInt8) (reader : Cursor α) : Cursor (Option α) :=
  if mask &&& bit ≠ 0 then some <$> reader else return none

def readDataValue : Cursor DecodedDataValue := do
  let mask ← u8
  let value ← optional mask 0x01 readVariant
  let statusCode ← optional mask 0x02 u32le
  let source ← optional mask 0x04 u64le
  let _ ← optional mask 0x10 u16le
  let server ← optional mask 0x08 u64le
  let _ ← optional mask 0x20 u16le
  return {
    value := value.getD .null
    -- without a status the value is good
    quality := .opcUaStatusCode (statusCode.getD 0)
    sourceTs := source.bind fun ticks => opcuaDatetimeToUnixUs ticks.toInt64
    serverTs := server.bind fun ticks => opcuaDatetimeToUnixUs ticks.toInt64 }

/-! ## Services -/

def readRequestTypeId : UInt32 := 631

def readResponseTypeId : UInt32 := 634

def readServiceTypeId : Cursor UInt32 := do
  let node ← readNodeId
  match node.identifier with
  | .numeric n => if node.namespaceIndex = 0 then return n else failure
  | _ => failure

def skipExtensionObject : Cursor Unit := do
  let _ ← readNodeId
  match ← u8 with
  | 0x00 => return ()
  | 0x01 | 0x02 =>
    let _ ← readByteString
    return ()
  | _ => failure

def skipDiagnosticInfoWithin : Nat → Cursor Unit
  | 0 => failure
  | depth + 1 => do
      let mask ← u8
      let _ ← optional mask 0x01 u32le
      let _ ← optional mask 0x02 u32le
      let _ ← optional mask 0x04 u32le
      let _ ← optional mask 0x08 u32le
      let _ ← optional mask 0x10 readByteString
      let _ ← optional mask 0x20 u32le
      let _ ← optional mask 0x40 (skipDiagnosticInfoWithin depth)
      return ()

def skipDiagnosticInfo : Cursor Unit := fun bytes => skipDiagnosticInfoWithin bytes.length bytes

def skipStringArray : Cursor Unit := do
  match ← readArrayLength with
  | none => return ()
  | some n =>
    let _ ← times n readByteString
    return ()

def skipRequestHeader : Cursor UInt32 := do
  let _ ← readNodeId
  let _ ← u64le
  let requestHandle ← u32le
  let _ ← u32le
  let _ ← readString
  let _ ← u32le
  skipExtensionObject
  return requestHandle

def skipResponseHeader : Cursor (UInt32 × UInt32) := do
  let _ ← u64le
  let requestHandle ← u32le
  let serviceResult ← u32le
  skipDiagnosticInfo
  skipStringArray
  skipExtensionObject
  return (requestHandle, serviceResult)

/-- A node to read: its id, and an attribute, a range and an encoding that are not kept. -/
def readValueId : Cursor DecodedNodeId := do
  let nodeId ← readNodeId
  let _ ← u32le
  let _ ← readString
  let _ ← u16le
  let _ ← readString
  return nodeId

def parseReadRequestBody : Cursor (List DecodedNodeId) := do
  let _ ← skipRequestHeader
  let _ ← u64le
  let _ ← u32le
  match ← readArrayLength with
  | none => return []
  | some n => times n readValueId

structure ReadResponseBody where
  (requestHandle serviceResult : UInt32)
  results : List DecodedDataValue

def parseReadResponseBody : Cursor ReadResponseBody := do
  let (requestHandle, serviceResult) ← skipResponseHeader
  match ← readArrayLength with
  | none => return { requestHandle, serviceResult, results := [] }
  | some n =>
    return {
      requestHandle
      serviceResult
      results := ← times n readDataValue }

end MarlinspikeDpi.OpcUa
