import MarlinspikeDpi.Engine.Decoder
import MarlinspikeDpi.Foundation.Correlator
import MarlinspikeDpi.Modbus.Dissector

/-!
# Pairing Modbus requests with responses

The decoder parks every request under the key of its conversation, transaction and unit.
-/

namespace MarlinspikeDpi.Modbus

open Bytes Engine

/-! ## Rendering -/

def modbusFunctionName : UInt8 → String
  | 1 => "read_coils"
  | 3 => "read_holding_registers"
  | 5 => "write_single_coil"
  | 6 => "write_single_register"
  | 15 => "write_multiple_coils"
  | 16 => "write_multiple_registers"
  | 43 => "read_device_identification"
  | _ => "modbus_function"

def isModbusWrite (code : UInt8) : Bool := code = 5 ∨ code = 6 ∨ code = 15 ∨ code = 16

def registerRef (address : UInt16) : String := "register:" ++ toString address.toNat

def modbusObjectRefs (fields : ModbusFields) : List String :=
  fields.registers.map (fun register => registerRef register.1) ++
    if fields.deviceIdentification.isEmpty then [] else ["modbus_device_identification"]

def modbusValues (fields : ModbusFields) : List ObjectValue :=
  fields.registers.map fun (address, value) =>
    { objectRef := registerRef address, value := some (toString value.toNat) }

def modbusAttributes (fields : ModbusFields) : OrderedMap String String :=
  (((OrderedMap.empty.insert "unit_id" (toString fields.unitId.toNat)).insert
    "transaction_id" (toString fields.transactionId.toNat)).insert
    "function_code" (toString fields.functionCode.toNat)).extend
    (fields.deviceIdentification.entries.map fun (key, value) => ("device_id_" ++ key, value))

/-- Model name, product name or product code, whichever is there first. -/
def productOf (deviceIdentification : OrderedMap String String) : Option String :=
  ((deviceIdentification.get "model_name").or (deviceIdentification.get "product_name")).or
    (deviceIdentification.get "product_code")

def modbusSummary (fields : ModbusFields) : String :=
  let name := modbusFunctionName fields.functionCode
  if fields.isException then name ++ " exception " ++ toString fields.exceptionCode.toNat
  else if fields.functionCode = 43 ∧ !fields.deviceIdentification.isEmpty then
    (productOf fields.deviceIdentification).getD "device_identification"
  else if fields.registers.isEmpty then name
  else
    name ++ " " ++ ", ".intercalate (fields.registers.map fun (address, value) =>
      toString address.toNat ++ "=" ++ toString value.toNat)

/-- The structured part of a transaction, from whichever of both frames was seen. -/
def modbusBronzeFields (requestPdu responsePdu : Option ModbusPdu) (isException : Bool)
    (exceptionCode : UInt8) : Option ModbusBronzeFields :=
  ((requestPdu.map ModbusPdu.functionCode).or (responsePdu.map ModbusPdu.functionCode)).map
    fun fc =>
      { fc
        startAddr := requestPdu.bind ModbusPdu.startAddr
        qty := requestPdu.bind ModbusPdu.qty
        -- the values of the response, unless it has none
        values :=
          match responsePdu, requestPdu with
          | some response, some request => if response.values.isEmpty then request.values
            else response.values
          | some response, none => response.values
          | none, some request => request.values
          | none, none => []
        exceptionCode := if isException then some exceptionCode else none
        direction :=
          if requestPdu.isSome ∧ responsePdu.isSome then "paired"
          else if requestPdu.isSome then "request"
          else "response" }

def modbusIdentityObservation (captureId : String) (envelope : EventEnvelope) (assetIp : String)
    (unitId : UInt8) (deviceIdentification : OrderedMap String String) : BronzeEvent :=
  newEvent captureId envelope (.assetObservation
    { assetKey := assetIp
      role := some "server"
      vendor := deviceIdentification.get "vendor_name"
      model := productOf deviceIdentification
      firmware := deviceIdentification.get "revision"
      protocols := ["modbus"]
      identifiers :=
        ((OrderedMap.empty.insert "ip" assetIp).insert "unit_id" (toString unitId.toNat)).extend
          (deviceIdentification.entries.map fun (key, value) => ("modbus_" ++ key, value)) })

/-! ## The decoder -/

structure PendingModbus where
  captureId : String
  envelope : EventEnvelope
  (operation requestSummary : String)
  objectRefs : List String
  values : List ObjectValue
  attributes : OrderedMap String String
  rawPayload : List UInt8
  lastSeen : DateTime
  requestPdu : Option ModbusPdu
deriving DecidableEq

structure ModbusDecoder where
  pending : Table String PendingModbus

def ModbusDecoder.default : ModbusDecoder :=
  { pending := ∅ }

variable (chunk : StreamChunk)

def chunkEnvelope : EventEnvelope :=
  buildEnvelope chunk.context chunk.toFrameInfo .tcp (some "modbus") chunk.sessionKey

def transactionKey (fields : ModbusFields) : String :=
  chunk.sessionKey ++ ":" ++ toString fields.transactionId.toNat ++ ":" ++
    toString fields.unitId.toNat

def parkedRequest (fields : ModbusFields) : PendingModbus :=
  { captureId := chunk.captureId, envelope := chunkEnvelope chunk,
    operation := modbusFunctionName fields.functionCode, requestSummary := modbusSummary fields,
    objectRefs := modbusObjectRefs fields, values := modbusValues fields,
    attributes := modbusAttributes fields, rawPayload := chunk.payload, lastSeen := chunk.timestamp,
    requestPdu := fields.pdu }

/-- The events of a response whose request was parked: the transaction, what the device said about
itself, and the payload of a write. -/
def pairedEvents [External] (chunk : StreamChunk) (fields : ModbusFields)
    (request : PendingModbus) : List BronzeEvent :=
  -- the request's envelope, grown by the response
  let envelope :=
    { request.envelope with
      bytesCount := request.envelope.bytesCount + (chunkEnvelope chunk).bytesCount
      packetCount := request.envelope.packetCount + 1 }
  newEvent request.captureId envelope (.protocolTransaction
      { operation := request.operation
        status :=
          if fields.isException then "exception:" ++ toString fields.exceptionCode.toNat else "ok"
        requestSummary := some request.requestSummary
        responseSummary := some (modbusSummary fields)
        objectRefs := request.objectRefs
        values := request.values ++ modbusValues fields
        attributes := request.attributes.extend (modbusAttributes fields).entries
        modbus := modbusBronzeFields request.requestPdu fields.pdu fields.isException
          fields.exceptionCode }) ::
    ((if fields.deviceIdentification.isEmpty then []
      else [modbusIdentityObservation request.captureId envelope chunk.context.srcIp.display
        fields.unitId fields.deviceIdentification]) ++
    if isModbusWrite fields.functionCode then
      [artifactEvent request.captureId envelope "modbus_write_payload" (transactionKey chunk fields)
        (some "application/octet-stream") (some "Modbus write request payload") request.rawPayload]
    else [])

def unpairedEvents (fields : ModbusFields) : List BronzeEvent :=
  newEvent chunk.captureId (chunkEnvelope chunk) (.protocolTransaction
      { operation := modbusFunctionName fields.functionCode, status := "response_without_request",
        responseSummary := some (modbusSummary fields), objectRefs := modbusObjectRefs fields,
        values := modbusValues fields, attributes := modbusAttributes fields,
        modbus := modbusBronzeFields none fields.pdu fields.isException fields.exceptionCode }) ::
    if fields.deviceIdentification.isEmpty then []
    else [modbusIdentityObservation chunk.captureId (chunkEnvelope chunk)
      chunk.context.srcIp.display fields.unitId fields.deviceIdentification]

def onStreamChunk [External] (d : ModbusDecoder) (chunk : StreamChunk) :
  List BronzeEvent × ModbusDecoder := match parse chunk.payload chunk.context with
  | some fields =>
    let key := transactionKey chunk fields
    if isRequest chunk.context then
      -- a parked request gives no event, so its frame does not move the clock of the segment
      ([], { pending := d.pending.insert key (parkedRequest chunk fields) })
    else
      match d.pending.lookup key with
      | some request => (pairedEvents chunk fields request, { pending := d.pending.erase key })
      | none => (unpairedEvents chunk fields, d)
  | none =>
    ([parseAnomalyEvent chunk.captureId (chunkEnvelope chunk) "modbus" "medium"
      "failed to parse modbus payload" chunk.payload], d)

def partialRequest (request : PendingModbus) : BronzeEvent :=
  newEvent request.captureId request.envelope (.protocolTransaction
    { operation := request.operation, status := "partial_request",
      requestSummary := some request.requestSummary, objectRefs := request.objectRefs,
      values := request.values, attributes := request.attributes,
      modbus := modbusBronzeFields request.requestPdu none false 0 })

def isExpired (timestamp : DateTime) (request : PendingModbus) : Bool :=
  -- whole seconds, truncated towards zero: up to one second in the future still counts
  0 ≤ timestamp.numSecondsSince request.lastSeen

def onIdleFlush (d : ModbusDecoder) (timestamp : DateTime) : List BronzeEvent × ModbusDecoder :=
  (((d.pending.entries.filter fun entry => isExpired timestamp entry.2).map
      fun entry => partialRequest entry.2),
    { pending := d.pending.retain fun _ request => !isExpired timestamp request })

instance [External] : SessionDecoder ModbusDecoder where
  name _ := "modbus"
  interest _ := [.tcpPort 502]
  onStreamChunk
  onIdleFlush

/-! ## The table as a correlator -/

/-- The message that a chunk is for the table, if it can be dissected. -/
def chunkMessage : Option (Message String PendingModbus) :=
  (parse chunk.payload chunk.context).map fun fields =>
    if isRequest chunk.context then
      .request (transactionKey chunk fields) (parkedRequest chunk fields)
    else .response (transactionKey chunk fields)

lemma onStreamChunk_pending [External] (d : ModbusDecoder) (chunk : StreamChunk) :
    (onStreamChunk d chunk).2.pending = Correlator.run d.pending (chunkMessage chunk).toList := by
  unfold onStreamChunk chunkMessage
  cases parse _ _ with
  | none => rfl
  | some fields =>
    dsimp only [Option.map]
    split
    · rfl
    · cases hlookup : d.pending.lookup _ with
      | some request => rfl
      -- the correlator removes the key of every response, here there was none to remove
      | none => exact (Table.erase_of_lookup_eq_none hlookup).symm

lemma isExpired_iff {timestamp : DateTime} {request : PendingModbus} :
    isExpired timestamp request = true ↔ request.lastSeen.nanos < timestamp.nanos + 1000000000 := by
  rw [isExpired, decide_eq_true_iff]
  exact DateTime.numSecondsSince_nonneg_iff

end MarlinspikeDpi.Modbus
