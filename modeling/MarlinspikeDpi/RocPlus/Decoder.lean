import MarlinspikeDpi.Engine.Decoder
import MarlinspikeDpi.Foundation.Table

/-!
# Frames of Emerson ROC Plus

A frame has no mark of its direction: it is a response if a frame with the addresses swapped is
parked.
-/

namespace MarlinspikeDpi.RocPlus

open Engine Bytes

def rocMinFrame : Nat := 8

structure RocFrame where
  (srcUnit srcGroup dstUnit dstGroup opcode dataLength : UInt8)
  truncatedData : Bool
deriving DecidableEq

def parseRocFrame (buf : List UInt8) : Option RocFrame :=
  if buf.length < rocMinFrame then none
  else
    some
      { srcUnit := byteAt buf 0, srcGroup := byteAt buf 1, dstUnit := byteAt buf 2,
        dstGroup := byteAt buf 3, opcode := byteAt buf 4, dataLength := byteAt buf 5,
        truncatedData := decide (buf.length < 6 + (byteAt buf 5).toNat + 2) }

def opcodes : List (UInt8 × String) :=
  [(0, "comm_test"), (6, "general_read"), (7, "general_write"), (10, "read_realtime_clock"),
    (11, "set_realtime_clock"), (17, "login"), (18, "login_response"), (50, "read_history_index"),
    (105, "history_point_read"), (108, "read_alarm_data"), (118, "read_event_data"),
    (119, "read_configurable_opcode_list"), (121, "hourly_history_record_read"),
    (122, "daily_history_record_read"), (126, "read_configurable_opcode_data"),
    (128, "convert_realtime_clock_to_history_index"), (137, "read_auto_acknowledge_alarm"),
    (138, "send_commands")]

def opcodeName (opcode : UInt8) : String :=
  "roc_plus_" ++ (opcodes.lookup opcode).getD ("unknown_opcode_" ++ toString opcode.toNat)

def isKnownOpcode (opcode : UInt8) : Bool := (opcodes.lookup opcode).isSome

def isControlOpcode (opcode : UInt8) : Bool := opcode == 7 || opcode == 11 || opcode == 138

def controlReason : UInt8 → String
  | 7 => "ROC Plus General Write (7) — device configuration write observed"
  | 11 => "ROC Plus Set Real-Time Clock (11) — clock write observed"
  | 138 => "ROC Plus Send Commands (138) — control command observed"
  | n => "ROC Plus opcode " ++ toString n.toNat ++ " — state-mutating command observed"

def rocAttributes (frame : RocFrame) : OrderedMap String String :=
  OrderedMap.empty.extend
    [("opcode", toString frame.opcode.toNat), ("src_unit", toString frame.srcUnit.toNat),
      ("src_group", toString frame.srcGroup.toNat), ("dst_unit", toString frame.dstUnit.toNat),
      ("dst_group", toString frame.dstGroup.toNat),
        ("data_length", toString frame.dataLength.toNat)]

/-! ## Events -/

def envelope (chunk : StreamChunk) : EventEnvelope :=
  buildEnvelope chunk.context chunk.toFrameInfo .tcp (some "roc_plus") chunk.sessionKey

def anomaly (chunk : StreamChunk) (severity reason : String) : BronzeEvent :=
  parseAnomalyEvent chunk.captureId (envelope chunk) "roc_plus" severity reason chunk.payload

def emitTxn (captureId : String) (envelope : EventEnvelope) (frame : RocFrame) (status : String) :
  BronzeEvent := newEvent captureId envelope (.protocolTransaction
    { operation := opcodeName frame.opcode, status, objectRefs :=
      ["roc_plus_opcode:" ++ toString frame.opcode.toNat], attributes := rocAttributes frame })

def assetObservation (chunk : StreamChunk) (ip role : String) (vendor : Option String) :
  BronzeEvent := newEvent chunk.captureId (envelope chunk) (.assetObservation
    { assetKey := ip, role := some role, vendor, protocols := ["roc_plus"],
      identifiers := OrderedMap.empty.insert "ip" ip })

def emitAssetObservations (chunk : StreamChunk) : List BronzeEvent :=
  [assetObservation chunk chunk.context.srcIp.display "roc_plus_host" none,
    assetObservation chunk chunk.context.dstIp.display "roc_plus_rtu" (some "Emerson")]

def notices (chunk : StreamChunk) (frame : RocFrame) : List BronzeEvent :=
  (if frame.truncatedData then
    [anomaly chunk "medium" ("ROC Plus data_length " ++ toString frame.dataLength.toNat
      ++ " exceeds available buffer (" ++ toString (chunk.payload.length - 8) ++
        " bytes after header)")]
  else []) ++
  (if isKnownOpcode frame.opcode then []
  else [anomaly chunk "low" ("ROC Plus unknown opcode " ++ toString frame.opcode.toNat)]) ++
  (if isControlOpcode frame.opcode then [anomaly chunk "high" (controlReason frame.opcode)]
    else []) ++
  if frame.opcode = 17 then emitAssetObservations chunk else []

/-! ## The decoder -/

structure PendingRoc where
  captureId : String
  envelope : EventEnvelope
  frame : RocFrame
deriving DecidableEq

def requestKey (session : String) (f : RocFrame) : String :=
  ":".intercalate (session :: [f.srcUnit, f.srcGroup, f.dstUnit, f.dstGroup, f.opcode].map fun b =>
    toString b.toNat)

def responseKey (session : String) (f : RocFrame) : String :=
  ":".intercalate (session :: [f.dstUnit, f.dstGroup, f.srcUnit, f.srcGroup, f.opcode].map fun b =>
    toString b.toNat)

def merged (request response : EventEnvelope) : EventEnvelope :=
  { request with
    bytesCount := request.bytesCount + response.bytesCount
    packetCount := request.packetCount + 1 }

structure RocPlusDecoder where
  pending : Table String PendingRoc

namespace RocPlusDecoder

def default : RocPlusDecoder := ⟨∅⟩

def pair (d : RocPlusDecoder) (chunk : StreamChunk) (frame : RocFrame) :
    List BronzeEvent × RocPlusDecoder :=
  match d.pending.lookup (responseKey chunk.sessionKey frame) with
  | some p =>
    ([emitTxn p.captureId (merged p.envelope (envelope chunk)) p.frame "ok"],
      ⟨d.pending.erase (responseKey chunk.sessionKey frame)⟩)
  | none =>
    ([emitTxn chunk.captureId (envelope chunk) frame "observed"],
      ⟨d.pending.insert (requestKey chunk.sessionKey frame)
        ⟨chunk.captureId, envelope chunk, frame⟩⟩)

def onStreamChunk (d : RocPlusDecoder) (chunk : StreamChunk) : List BronzeEvent × RocPlusDecoder :=
  match parseRocFrame chunk.payload with
  | none =>
    if chunk.payload = [] then ([], d)
    else ([anomaly chunk "medium"
      ("ROC Plus frame too short (" ++ toString chunk.payload.length ++ " < 8 bytes)")], d)
  | some frame => (notices chunk frame ++ (d.pair chunk frame).1, (d.pair chunk frame).2)

def onIdleFlush (d : RocPlusDecoder) (_timestamp : DateTime) : List BronzeEvent × RocPlusDecoder :=
  (d.pending.entries.map fun entry =>
    emitTxn entry.2.captureId entry.2.envelope entry.2.frame "observed", ⟨∅⟩)

instance : SessionDecoder RocPlusDecoder where
  name _ := "roc_plus"
  interest _ := [.tcpPort 4000]
  onStreamChunk
  onIdleFlush

end RocPlusDecoder
end MarlinspikeDpi.RocPlus
