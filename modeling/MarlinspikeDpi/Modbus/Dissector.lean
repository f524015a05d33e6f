import MarlinspikeDpi.Bronze

/-!
# One Modbus/TCP frame

MBAP header (seven bytes): transaction id, protocol id (zero), length, unit id; then the function
code and its data.
-/

namespace MarlinspikeDpi.Modbus

open Bytes Text

inductive ModbusDirection where
  | request
  | response
deriving DecidableEq, Repr

structure ModbusPdu where
  functionCode : UInt8
  direction : ModbusDirection
  startAddr : Option UInt16 := none
  qty : Option UInt16 := none
  values : List UInt16 := []
  exceptionCode : Option UInt8 := none
deriving DecidableEq

structure ModbusFields where
  transactionId : UInt16
  (unitId functionCode : UInt8)
  isException : Bool
  exceptionCode : UInt8
  pdu : Option ModbusPdu
  registers : List (UInt16 × UInt16)
  deviceIdentification : OrderedMap String String

def modbusPort : UInt16 := 502

/-! ## The data behind the function code -/

def wordAt (data : List UInt8) (i : Nat) : UInt16 := be16 (byteAt data i) (byteAt data (i + 1))

/-- `data.get(i..i + n)`. -/
def range? (data : List UInt8) (i n : Nat) : Option (List UInt8) :=
  if i + n ≤ data.length then some (slice data i n) else none

def coils (bytes : List UInt8) : List UInt16 :=
  bytes.flatMap fun b => (List.range 8).map fun bit => ((b >>> UInt8.ofNat bit) &&& 1).toUInt16

def words : List UInt8 → List UInt16
  | hi :: lo :: bytes => be16 hi lo :: words bytes
  | _ => []

variable (functionCode : UInt8)

/-- Address and quantity: a read request, and the echo of a multiple write. -/
def rangePdu (direction : ModbusDirection) (pduData : List UInt8) : Option ModbusPdu :=
  if pduData.length < 4 then none
  else
    some
      { functionCode, direction, startAddr := some (wordAt pduData 0), qty :=
        some (wordAt pduData 2) }

def readResponsePdu (unpack : List UInt8 → List UInt16) (pduData : List UInt8) : Option ModbusPdu :=
  if pduData.isEmpty then none
  else
    -- the byte count must be covered by the payload
    (range? pduData 1 (byteAt pduData 0).toNat).map fun bytes =>
      { functionCode, direction := .response, values := unpack bytes }

def writeSinglePdu (direction : ModbusDirection) (value : UInt16 → UInt16) (pduData : List UInt8) :
  Option ModbusPdu := if pduData.length < 4 then none
  else
    some
      { functionCode, direction, startAddr := some (wordAt pduData 0), values :=
        [value (wordAt pduData 2)] }

/-- A multiple write: address, quantity, byte count, values. Values that are cut off are missing. -/
def writeMultiplePdu (unpack : UInt16 → List UInt8 → List UInt16) (pduData : List UInt8) :
  Option ModbusPdu := if pduData.length < 5 then none
  else
    let qty := wordAt pduData 2
    some
      { functionCode, direction := .request, startAddr := some (wordAt pduData 0), qty := some qty,
        values := unpack qty ((range? pduData 5 (byteAt pduData 4).toNat).getD []) }

/-- `None` only if the data is too short for the fields of its function. -/
def parsePdu (pduData : List UInt8) (direction : ModbusDirection) : Option ModbusPdu :=
  if functionCode = 1 ∨ functionCode = 2 then
    match direction with
    | .request => rangePdu functionCode .request pduData
    | .response => readResponsePdu functionCode coils pduData
  else if functionCode = 3 ∨ functionCode = 4 then
    match direction with
    | .request => rangePdu functionCode .request pduData
    | .response => readResponsePdu functionCode words pduData
  else if functionCode = 5 then
    -- 0xFF00 is on, everything else counts as off
    writeSinglePdu functionCode direction (fun raw => if raw = 0xFF00 then 1 else 0) pduData
  else if functionCode = 6 then
    writeSinglePdu functionCode direction (fun raw => raw) pduData
  else if functionCode = 15 then
    match direction with
    | .request => writeMultiplePdu functionCode
      (fun qty bytes => (coils bytes).take qty.toNat) pduData
    | .response => rangePdu functionCode .response pduData
  else if functionCode = 16 then
    match direction with
    | .request => writeMultiplePdu functionCode (fun _ bytes => words bytes) pduData
    | .response => rangePdu functionCode .response pduData
  else
    -- any other function has a PDU without fields
    some
      { functionCode
        direction }

/-! ## Registers and device identification -/

def singleRegister (pdu : ModbusPdu) : List (UInt16 × UInt16) :=
  match pdu.startAddr, pdu.values.head? with
  | some addr, some value => [(addr, value)]
  | _, _ => []

def numbered (base : UInt16) (values : List UInt16) : List (UInt16 × UInt16) :=
  values.zipIdx.map fun (value, i) => (base + UInt16.ofNat i, value)

/-- The frame as address-value pairs.  The values of a read response are numbered from zero, because
their address is not known without the request. -/
def pduToLegacyRegisters : Option ModbusPdu → List (UInt16 × UInt16)
  | none => []
  | some pdu =>
    if pdu.exceptionCode.isSome then []
    else if 1 ≤ pdu.functionCode ∧ pdu.functionCode ≤ 4 then
      match pdu.direction with
      | .request =>
        match pdu.startAddr, pdu.qty with
        | some addr, some qty => [(addr, qty)]
        | _, _ => []
      | .response => numbered 0 pdu.values
    else if pdu.functionCode = 5 ∨ pdu.functionCode = 6 then singleRegister pdu
    else if pdu.functionCode = 15 ∨ pdu.functionCode = 16 then
      match pdu.direction with
      | .request => numbered (pdu.startAddr.getD 0) pdu.values
      -- the echo names no values
      | .response => []
    else []

def deviceObjectKey : UInt8 → Option String
  | 0x00 => some "vendor_name"
  | 0x01 => some "product_code"
  | 0x02 => some "revision"
  | 0x03 => some "vendor_url"
  | 0x04 => some "product_name"
  | 0x05 => some "model_name"
  | 0x06 => some "user_application_name"
  | _ => none

/-- The next `count` objects: id, length, text. Objects of other kinds are skipped, and the list
ends with the first object that is cut off. -/
def deviceObjects : Nat → List UInt8 → OrderedMap String String → OrderedMap String String
  | 0, _, out => out
  | count + 1, objectId :: len :: bytes, out =>
    if bytes.length < len.toNat then out
    else
      let value := utf8Lossy (bytes.take len.toNat)
      let out :=
        match deviceObjectKey objectId with
        | some key => out.insert key value
        | none => out
      deviceObjects count (bytes.drop len.toNat) out
  | _ + 1, _, out => out

def parseDeviceIdentification (pduData : List UInt8) : OrderedMap String String :=
  -- MEI type 0x0E; byte five is the number of objects
  if functionCode ≠ 43 ∨ pduData.length < 6 ∨ byteAt pduData 0 ≠ 0x0E then OrderedMap.empty
  else deviceObjects (byteAt pduData 5).toNat (pduData.drop 6) OrderedMap.empty

/-! ## The frame -/

def isRequest (context : PacketContext) : Bool :=
  context.dstPort = modbusPort ∧ context.srcPort ≠ modbusPort

def parse (data : List UInt8) (context : PacketContext) : Option ModbusFields :=
  if data.length < 8 then none
  else if wordAt data 2 ≠ 0 then none
  else
    let functionCode := byteAt data 7
    -- the high bit marks an exception
    let isException := functionCode &&& 0x80 != 0
    let baseFc := functionCode &&& 0x7F
    let exceptionCode := if isException ∧ 9 ≤ data.length then byteAt data 8 else 0
    let direction := if isRequest context then ModbusDirection.request else .response
    let pdu :=
      if isException then
        some
          { functionCode := baseFc, direction, exceptionCode := some exceptionCode }
      else parsePdu baseFc (data.drop 8) direction
    some
      { transactionId := wordAt data 0
        unitId := byteAt data 6
        functionCode := baseFc
        isException
        exceptionCode
        pdu
        registers := pduToLegacyRegisters pdu
        deviceIdentification :=
          if isException then OrderedMap.empty
          else parseDeviceIdentification baseFc (data.drop 8) }

end MarlinspikeDpi.Modbus
