import MarlinspikeDpi.Engine.Decoder
import MarlinspikeDpi.Foundation.Table

/-!
# UMAS inside Modbus/TCP

A chunk on port 502 is read as one Modbus message; those with the function code 0x5A, or 0xDA for an
exception, are UMAS.
-/

namespace MarlinspikeDpi.Umas

open Engine Bytes Text

def fcUmas : UInt8 := 0x5A

def fcUmasExc : UInt8 := 0xDA

/-! ## Sub-functions -/

def subfunctions : List (UInt8 × String) :=
  [(0x01, "umas_init_comm"), (0x02, "umas_read_id"), (0x03, "umas_read_project_info"),
    (0x04, "umas_read_plc_info"),
    (0x06, "umas_read_card_info"), (0x10, "umas_repeat"), (0x11, "umas_take_plc_reservation"),
    (0x12, "umas_release_plc_reservation"), (0x13, "umas_keep_alive"),
      (0x20, "umas_read_memory_block"),
    (0x21, "umas_write_memory_block"), (0x22, "umas_read_variables"),
      (0x23, "umas_write_variables"),
    (0x24, "umas_read_coils_registers"), (0x25, "umas_write_coils_registers"),
      (0x26, "umas_initialize_upload"),
    (0x27, "umas_upload_block"), (0x28, "umas_end_strategy_upload"),
      (0x29, "umas_initialize_download"),
    (0x2A, "umas_download_block"), (0x2B, "umas_end_strategy_download"), (0x40, "umas_start_plc"),
    (0x41, "umas_stop_plc"), (0x50, "umas_monitor_plc"), (0x58, "umas_check_plc"),
      (0x70, "umas_read_io_object"),
    (0x71, "umas_write_io_object"), (0x73, "umas_get_status_module"), (0xFD, "umas_auth_request"),
    (0xFE, "umas_auth_reply")]

def umasOperation (sf : UInt8) : String :=
  (subfunctions.lookup sf).getD ("umas_unknown_subfn_0x" ++ hexPad 2 sf.toNat)

def isKnownSubfn (sf : UInt8) : Bool := (subfunctions.lookup sf).isSome

/-! ## Reading a chunk -/

/-- The Modbus header and the first bytes of the UMAS message. -/
structure UmasPdu where
  (txnId mbapLen : UInt16)
  unitId : UInt8
  isExc : Bool
  (pairId subfn : UInt8)
  excCode : Option UInt8
deriving DecidableEq

def u16At (p : List UInt8) (i : Nat) : UInt16 := UInt16.ofNat (beNat (slice p i 2))

def readPdu (p : List UInt8) : Option UmasPdu :=
  if p.length < 10 then none
  else if u16At p 2 ≠ 0 then none
  else if byteAt p 7 ≠ fcUmas ∧ byteAt p 7 ≠ fcUmasExc then none
  else
    let isExc := byteAt p 7 == fcUmasExc
    some
      { txnId := u16At p 0, mbapLen := u16At p 4, unitId := byteAt p 6, isExc, pairId := byteAt p 8,
        subfn := byteAt p 9,
        excCode := if isExc && decide (10 < p.length) then some (byteAt p 10) else none }

variable (chunk : StreamChunk) (pdu : UmasPdu)

def isRequest : Bool := chunk.context.dstPort == 502 && chunk.context.srcPort != 502 && !pdu.isExc

def pairKey (sessionKey : String) (pairId : UInt8) : String :=
  sessionKey ++ ":" ++ toString pairId.toNat

/-! ## Events -/

def buildEnv : EventEnvelope :=
  buildEnvelope chunk.context chunk.toFrameInfo .tcp (some "umas") chunk.sessionKey

def anomaly (severity reason : String) : BronzeEvent :=
  parseAnomalyEvent chunk.captureId (buildEnv chunk) "umas" severity reason chunk.payload

def assetObs (ip role : String) (vendor : Option String) : BronzeEvent :=
  newEvent chunk.captureId (buildEnv chunk) (.assetObservation
    { assetKey := ip, role := some role, vendor, protocols := ["umas", "modbus"],
      identifiers := OrderedMap.empty.insert "ip" ip })

def umasAttrs (sf pairId : UInt8) (txn : UInt16) (unit : UInt8) (reqLen : UInt16) (exc : Bool) :
    OrderedMap String String :=
  OrderedMap.empty.extend
    [("umas_subfunction", "0x" ++ hexPad 2 sf.toNat), ("pair_id", toString pairId.toNat),
      ("transaction_id", toString txn.toNat), ("unit_id", toString unit.toNat),
      ("request_length", toString reqLen.toNat), ("is_exception", if exc then "true" else "false")]

def emitTx (captureId : String) (env : EventEnvelope) (operation status : String)
    (sf pairId : UInt8)
    (txn : UInt16) (unit : UInt8) (reqLen : UInt16) (isExc : Bool) : BronzeEvent :=
  newEvent captureId env (.protocolTransaction
    { operation, status, attributes := umasAttrs sf pairId txn unit reqLen isExc })

/-- The anomalies of a request that is a danger to the controller, or that is not known. -/
def requestAnomalies (subfn : UInt8) : List BronzeEvent :=
  match subfn with
  | 0x41 => [anomaly chunk "high" "UMAS STOP_PLC — control-disruption capable command observed"]
  | 0x40 => [anomaly chunk "high" "UMAS START_PLC — control-disruption capable command observed"]
  | 0x2A =>
    [anomaly chunk "high" "UMAS DOWNLOAD_BLOCK — program-modification capable command observed"]
  | 0x29 =>
    [anomaly chunk "high"
      "UMAS INITIALIZE_DOWNLOAD — program-modification capable command observed"]
  | 0x2B =>
    [anomaly chunk "high"
      "UMAS END_STRATEGY_DOWNLOAD — program-modification capable command observed"]
  | 0xFD => [anomaly chunk "medium" "UMAS AUTH_REQUEST — authentication flow visible on wire"]
  | sf =>
    if isKnownSubfn sf then []
    else [anomaly chunk "low" ("UMAS unknown sub-function 0x" ++ hexPad 2 sf.toNat ++ " observed")]

def reservationAssets (subfn : UInt8) : List BronzeEvent :=
  if subfn = 0x11 then
    [assetObs chunk chunk.context.srcIp.display "schneider_engineering_workstation" none,
      assetObs chunk chunk.context.dstIp.display "schneider_modicon_plc"
        (some "Schneider Electric")]
  else []

/-! ## The decoder -/

structure PendingUmas where
  captureId : String
  envelope : EventEnvelope
  transactionId : UInt16
  (unitId pairId subfn : UInt8)
  operation : String
  requestLen : UInt16
deriving DecidableEq

structure UmasDecoder where
  pending : Table String PendingUmas

def parked : PendingUmas :=
  { captureId := chunk.captureId, envelope := buildEnv chunk, transactionId := pdu.txnId,
    unitId := pdu.unitId, pairId := pdu.pairId, subfn := pdu.subfn,
    operation := umasOperation pdu.subfn, requestLen := pdu.mbapLen }

def responseStatus : String :=
  if pdu.isExc then "umas_exception_0x" ++ hexPad 2 (pdu.excCode.getD 0).toNat else "ok"

def pairedTx (req : PendingUmas) : BronzeEvent :=
  emitTx req.captureId
    { req.envelope with
      bytesCount := req.envelope.bytesCount + chunk.capturedLen
      packetCount := req.envelope.packetCount + 1 }
    req.operation (responseStatus pdu) req.subfn req.pairId req.transactionId req.unitId
      req.requestLen pdu.isExc

def unpairedTx : BronzeEvent :=
  emitTx chunk.captureId (buildEnv chunk) (umasOperation pdu.subfn)
    (responseStatus pdu) pdu.subfn pdu.pairId pdu.txnId pdu.unitId 0 pdu.isExc

def requestOnlyTx (req : PendingUmas) : BronzeEvent :=
  emitTx req.captureId req.envelope req.operation "request_only" req.subfn req.pairId
    req.transactionId req.unitId req.requestLen false

namespace UmasDecoder

def default : UmasDecoder := ⟨∅⟩

def onStreamChunk (d : UmasDecoder) (chunk : StreamChunk) : List BronzeEvent × UmasDecoder :=
  match readPdu chunk.payload with
  | none => ([], d)
  | some pdu =>
    let key := pairKey chunk.sessionKey pdu.pairId
    if isRequest chunk pdu then
      (requestAnomalies chunk pdu.subfn ++ reservationAssets chunk pdu.subfn,
        ⟨d.pending.insert key (parked chunk pdu)⟩)
    else
      match d.pending.lookup key with
      | some req => ([pairedTx chunk pdu req], ⟨d.pending.erase key⟩)
      | none => ([unpairedTx chunk pdu], d)

def onIdleFlush (d : UmasDecoder) (_timestamp : DateTime) : List BronzeEvent × UmasDecoder :=
  (d.pending.entries.map fun entry => requestOnlyTx entry.2, ⟨∅⟩)

instance : SessionDecoder UmasDecoder where
  name _ := "umas"
  interest _ := [.tcpPort 502]
  onStreamChunk
  onIdleFlush

end UmasDecoder

end MarlinspikeDpi.Umas
