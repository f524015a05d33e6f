import MarlinspikeDpi.Engine.Decoder
import MarlinspikeDpi.Foundation.Lru
import MarlinspikeDpi.OpcUa.Binary

/-!
# OPC UA messages, and reads paired with their responses

Each chunk is read as one OPC UA message and reported as a transaction.
-/

namespace MarlinspikeDpi.OpcUa

open Text Bytes Engine

/-! ## Pending reads -/

structure PendingConfig where
  ttlUs : UInt64
  maxPending : Nat

def PendingConfig.default : PendingConfig :=
  { ttlUs := 60000000, maxPending := 4096 }

structure PendingKey where
  (secureChannelId requestId : UInt32)
deriving DecidableEq

structure PendingEntry where
  nodes : List DecodedNodeId
  insertedUs : UInt64

structure PendingReads where
  entries : Table PendingKey PendingEntry
  config : PendingConfig

namespace PendingReads

def default : PendingReads :=
  { entries := ∅, config := PendingConfig.default }

def insert (p : PendingReads) (key : PendingKey) (nodes : List DecodedNodeId) (nowUs : UInt64) :
    PendingReads :=
  let entries := Lru.makeRoom (fun e => e.insertedUs.toNat) p.config.maxPending p.entries key
  { p with entries := entries.insert key { nodes, insertedUs := nowUs } }

def take (p : PendingReads) (key : PendingKey) : Option (List DecodedNodeId) × PendingReads :=
  ((p.entries.lookup key).map PendingEntry.nodes, { p with entries := p.entries.erase key })

end PendingReads

/-! ## Services -/

structure OpcUaServiceDecoder where
  pending : PendingReads

def OpcUaServiceDecoder.new : OpcUaServiceDecoder := ⟨PendingReads.default⟩

/-- The node at a position of the request, or else the position itself. -/
def pointIdAt (nodes : List DecodedNodeId) (i : Nat) : PointIdentifier :=
  match nodes[i]? with
  | some node => .opcUaNode node.namespaceIndex node.identifier
  | none => .opcUaNode 0 (.numeric (UInt32.ofNat i))

def readingOf (nodes : List DecodedNodeId) (nowUs : UInt64) (dv : DecodedDataValue)
    (i : Nat) : ProcessReading :=
  { sourceProtocol := "opc_ua", pointId := pointIdAt nodes i, value := dv.value,
    quality := dv.quality, sourceTs := dv.sourceTs, observedTs := nowUs }

def readingEvents (nodes : List DecodedNodeId) (results : List DecodedDataValue)
    (envelope : EventEnvelope) (nowUs : UInt64) (captureId : String) : List BronzeEvent :=
  results.mapIdx fun i dv => newEvent captureId envelope
    (.processReading (readingOf nodes nowUs dv i))

/-- The body of a `MSG` message: read requests and read responses count, all else is passed over. -/
def OpcUaServiceDecoder.handleMsgBody (d : OpcUaServiceDecoder) (body : List UInt8)
    (secureChannelId requestId : UInt32) (envelope : EventEnvelope) (nowUs : UInt64)
    (captureId : String) : List BronzeEvent × OpcUaServiceDecoder :=
  let key : PendingKey := ⟨secureChannelId, requestId⟩
  match readServiceTypeId body with
  | none => ([], d)
  | some (typeId, rest) =>
    if typeId = readRequestTypeId then
      match parseReadRequestBody rest with
      | some (nodes, _) => ([], ⟨d.pending.insert key nodes nowUs⟩)
      | none => ([], d)
    else if typeId = readResponseTypeId then
      match parseReadResponseBody rest with
      | some (response, _) =>
        let (nodes, pending) := d.pending.take key
        (readingEvents (nodes.getD []) response.results envelope nowUs captureId, ⟨pending⟩)
      | none => ([], d)
    else ([], d)

/-! ## Messages -/

def messageTypes : List (List UInt8) := ["HEL", "ACK", "OPN", "CLO", "MSG", "ERR", "RHE"].map utf8

def isOpcUaPort (port : UInt16) : Bool := port == 4840 || port == 12001

structure OpcUaFields where
  messageType : String
  requestId : UInt32
  serviceType : String

namespace OpcUaDissector

def canParse (data : List UInt8) (srcPort dstPort : UInt16) : Bool :=
  (isOpcUaPort srcPort || isOpcUaPort dstPort) && 8 ≤ data.length &&
    messageTypes.contains (slice data 0 3)

def u32At (data : List UInt8) (i : Nat) : UInt32 := UInt32.ofNat (leNat (slice data i 4))

def parse (data : List UInt8) : Option OpcUaFields :=
  if data.length < 8 then none
  else
    let messageType := (utf8Strict (slice data 0 3)).getD "UNK"
    let chunkType := String.singleton (Char.ofNat (byteAt data 3).toNat)
    let (requestId, serviceType) :=
      if messageType = "MSG" then
        if 24 ≤ data.length then (u32At data 20, "MSG chunk=" ++ chunkType)
        else (0, "MSG chunk=" ++ chunkType ++ " (truncated)")
      else if messageType = "OPN" then
        (0, if 12 ≤ data.length then "OpenSecureChannel" else "OpenSecureChannel (truncated)")
      else if messageType = "CLO" then
        (0, if 12 ≤ data.length then "CloseSecureChannel" else "CloseSecureChannel (truncated)")
      else if messageType = "HEL" then (0, "Hello")
      else if messageType = "ACK" then (0, "Acknowledge")
      else if messageType = "ERR" then
        let code := if 12 ≤ data.length then u32At data 8 else 0
        (0, "Error (0x" ++ String.ofList ((hexDigits 8 code.toNat).map Char.toUpper) ++ ")")
      else if messageType = "RHE" then (0, "ReverseHello")
      else (0, "Unknown")
    some { messageType, requestId, serviceType }

end OpcUaDissector

/-- Letters and digits in lower case, and everything between them as one underscore. -/
def normalizeOperationName (label fallback : String) : String :=
  let step : List Char × Bool → Char → List Char × Bool := fun (chars, lastWasSeparator) ch =>
    if ch.isAlphanum then (chars ++ [ch.toLower], false)
    else if lastWasSeparator then (chars, true)
    else (chars ++ ['_'], true)
  let normalized := trimEndMatches (· == '_') (String.ofList (label.toList.foldl step ([], true)).1)
  if normalized = "" then fallback else normalized

/-! ## The decoder -/

structure OpcUaDecoder where
  serviceDecoder : OpcUaServiceDecoder

def OpcUaDecoder.default : OpcUaDecoder := ⟨OpcUaServiceDecoder.new⟩

def chunkEnvelope (chunk : StreamChunk) : EventEnvelope :=
  buildEnvelope chunk.context chunk.toFrameInfo .tcp (some "opc_ua") chunk.sessionKey

def transaction (chunk : StreamChunk) (fields : OpcUaFields) : BronzeEvent :=
  let isRequest := isOpcUaPort chunk.context.dstPort
  let attributes :=
    (OrderedMap.empty.insert "message_type" fields.messageType).insert "service_type"
      fields.serviceType
  newEvent chunk.captureId (chunkEnvelope chunk) (.protocolTransaction
    { operation := normalizeOperationName fields.serviceType "opc_ua_message"
      status :=
        if "Error".toList.isPrefixOf fields.serviceType.toList then "error"
        else if isRequest then "request"
        else "response"
      requestSummary := some (fields.messageType ++ " " ++ fields.serviceType)
      objectRefs :=
        if fields.requestId = 0 then ["opcua_message:" ++ fields.messageType]
        else ["opcua_request:" ++ toString fields.requestId.toNat]
      attributes :=
        if fields.requestId = 0 then attributes
        else attributes.insert "request_id" (toString fields.requestId.toNat) })

def serviceMessage? (chunk : StreamChunk) (fields : OpcUaFields) :
  Option (PendingKey × List UInt8) := if fields.messageType = "MSG" ∧ 24 ≤ chunk.payload.length then
    some (⟨OpcUaDissector.u32At chunk.payload 8, fields.requestId⟩, chunk.payload.drop 24)
  else none

def OpcUaDecoder.onStreamChunk (d : OpcUaDecoder) (chunk : StreamChunk) :
    List BronzeEvent × OpcUaDecoder :=
  if ¬ OpcUaDissector.canParse chunk.payload chunk.context.srcPort chunk.context.dstPort
    then ([], d)
  else
    match OpcUaDissector.parse chunk.payload with
    | some fields =>
      match serviceMessage? chunk fields with
      | some (key, body) =>
        let (events, serviceDecoder) :=
          d.serviceDecoder.handleMsgBody body key.secureChannelId key.requestId
            (chunkEnvelope chunk) (UInt64.ofNat (chunk.context.timestamp / 1000)) chunk.captureId
        (transaction chunk fields :: events, ⟨serviceDecoder⟩)
      | none => ([transaction chunk fields], d)
    | none =>
      ([parseAnomalyEvent chunk.captureId (chunkEnvelope chunk) "opc_ua" "medium"
          "failed to parse opc ua payload" chunk.payload], d)

instance : SessionDecoder OpcUaDecoder where
  name _ := "opc_ua"
  interest _ := [.tcpPort 4840, .tcpPort 12001]
  onStreamChunk := OpcUaDecoder.onStreamChunk

end MarlinspikeDpi.OpcUa
