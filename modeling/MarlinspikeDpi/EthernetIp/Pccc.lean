import MarlinspikeDpi.Bronze
import MarlinspikeDpi.Foundation.Cursor
import MarlinspikeDpi.Foundation.Table

/-!
# PCCC commands that travel in CIP messages

A typed logical read asks for some elements of a data table file.
-/

namespace MarlinspikeDpi.EthernetIp

open Cursor

/-! ## Addresses and values -/

def ftBit : UInt8 := 0x85

def ftTimer : UInt8 := 0x86

def ftCounter : UInt8 := 0x87

def ftInteger : UInt8 := 0x89

def ftFloat : UInt8 := 0x8A

structure PcccHeader where
  (cmd sts : UInt8)
  tns : UInt16

structure PcccAddress where
  (fileType fileNumber : UInt8)
  element : UInt16
  subElement : Option UInt8
deriving DecidableEq

def readHeader : Cursor PcccHeader := do
  let cmd ← u8
  let sts ← u8
  let tns ← u16le
  return { cmd, sts, tns }

def skipRequestorId : Cursor Unit := do
  let len ← u8
  let _ ← take (len.toNat - 1)
  return ()

/-- One byte, or two after the escape `0xFF`. -/
def readOneOrExtended : Cursor UInt16 := do
  let b ← u8
  if b = 0xFF then u16le else return b.toUInt16

def readThreeAddressFromFunctionBody : Cursor PcccAddress := do
  let fileNumber ← readOneOrExtended
  let fileType ← u8
  let element ← readOneOrExtended
  let sub ← readOneOrExtended
  return {
    fileType
    fileNumber := fileNumber.toUInt8
    element
    subElement := if sub = 0 then none else some sub.toUInt8 }

def elementWidth (fileType : UInt8) : Nat :=
  if fileType = ftInteger ∨ fileType = ftBit then 2
  else if fileType = ftFloat then 4
  else if fileType = ftTimer ∨ fileType = ftCounter then 6
  else 0

def decodeValue (fileType : UInt8) : Cursor PointValue :=
  if fileType = ftInteger then do return .int16 (← u16le).toInt16
  else if fileType = ftBit then do return .uint16 (← u16le)
  else if fileType = ftFloat then do return .float (← u32le)
  else failure

/-! ## Requests and replies -/

structure Pending where
  quantity : Nat
  start : PcccAddress
deriving DecidableEq

structure PcccDecoder where
  pending : Table (IpAddr × UInt16) Pending

def PcccDecoder.new : PcccDecoder := ⟨∅⟩

/-- A typed logical read; the size tells the number of elements, at least one. -/
def parseTypedRead : Cursor Pending := do
  let function ← u8
  if function = 0x68 then
    let byteSize ← u8
    let start ← readThreeAddressFromFunctionBody
    let width := elementWidth start.fileType
    return {
      quantity := if width = 0 then 1 else max (byteSize.toNat / width) 1
      start }
  -- writes and all other functions are passed over
  else failure

/-- The values of the elements from the `n`th one on, as far as the reply goes. -/
def elementValues (start : PcccAddress) : Nat → Nat → List UInt8 → List (PcccAddress × PointValue)
  | 0, _, _ => []
  | quantity + 1, n, body =>
    match decodeValue start.fileType body with
    | none => []
    | some (value, rest) =>
      ({ start with element := start.element + UInt16.ofNat n }, value) ::
        elementValues start quantity (n + 1) rest

def Pending.readings (p : Pending) (body : List UInt8) : List (PcccAddress × PointValue) :=
  elementValues p.start p.quantity 0 body

def envelopeUs (envelope : EventEnvelope) : UInt64 :=
  let nanos := envelope.timestamp.timestampNanosOpt.getD 0
  if nanos < 0 then 0 else UInt64.ofNat (nanos / 1000).toNat

def pcccEvent (envelope : EventEnvelope) (captureId : String) (reading : PcccAddress × PointValue) :
  BronzeEvent := newEvent captureId envelope (.processReading
    { sourceProtocol := "pccc"
      pointId := .pcccAddress reading.1.fileType reading.1.fileNumber reading.1.element
        reading.1.subElement
      value := reading.2
      quality := .cipGeneralStatus 0
      sourceTs := none
      observedTs := envelopeUs envelope })

namespace PcccDecoder

def handleRequest (d : PcccDecoder) (header : PcccHeader) (body : List UInt8) (clientIp : IpAddr) :
  PcccDecoder := match parseTypedRead body with
  | some (p, _) => ⟨d.pending.insert (clientIp, header.tns) p⟩
  | none => d

def handleResponse (d : PcccDecoder) (header : PcccHeader) (body : List UInt8) (clientIp : IpAddr)
    (envelope : EventEnvelope) (captureId : String) : List BronzeEvent × PcccDecoder :=
  match d.pending.lookup (clientIp, header.tns) with
  | none => ([], d)
  | some p =>
    -- an error reply reports nothing, but it is the answer
    (if header.sts ≠ 0 then [] else (p.readings body).map (pcccEvent envelope captureId),
      ⟨d.pending.erase (clientIp, header.tns)⟩)

def handlePdu (d : PcccDecoder) (bytes : List UInt8) (isRequest : Bool) (clientIp : IpAddr)
    (envelope : EventEnvelope) (captureId : String) : List BronzeEvent × PcccDecoder :=
  match skipRequestorId bytes with
  | none => ([], d)
  | some (_, bytes) =>
    match readHeader bytes with
    | none => ([], d)
    | some (header, body) =>
      if isRequest then
        if header.cmd = 0x0F then ([], d.handleRequest header body clientIp) else ([], d)
      else d.handleResponse header body clientIp envelope captureId

end PcccDecoder

end MarlinspikeDpi.EthernetIp
