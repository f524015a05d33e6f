import MarlinspikeDpi.Engine.Decoder

/-!
# The first frame of a DNP3 chunk

The dissector reads the link header, the transport byte and the application header at fixed offsets
and takes everything behind them for the application data.
-/

namespace MarlinspikeDpi.Dnp3

open Engine Bytes Text

/-! ## The dissector -/

structure Dnp3Fields where
  (sourceAddress destinationAddress : UInt16)
  (dllControl transportSeq : UInt8)
  (transportFir transportFin : Bool)
  (functionCode appControl : UInt8)
  iin : Option UInt16
  applicationData : List UInt8
deriving DecidableEq

variable (data : List UInt8)

def u16At (i : Nat) : UInt16 := UInt16.ofNat (leNat (slice data i 2))

/-- The function codes of responses, whose header has two bytes of internal indications. -/
def isResponse (functionCode : UInt8) : Bool := functionCode == 0x81 || functionCode == 0x82

def linkFields : Dnp3Fields :=
  { sourceAddress := u16At data 6, destinationAddress := u16At data 4, dllControl := byteAt data 3,
    transportSeq := 0, transportFir := false, transportFin := false, functionCode := 0,
    appControl := 0, iin := none, applicationData := [] }

def transportFields : Dnp3Fields :=
  let transport := byteAt data 10
  { linkFields data with
    transportSeq := transport &&& 0x3F
    transportFir := transport &&& 0x40 != 0
    transportFin := transport &&& 0x80 != 0 }

/-- What a frame has with an application header. The application data goes up to the end of the
chunk. -/
def messageFields : Dnp3Fields :=
  let functionCode := byteAt data 12
  let response := isResponse functionCode
  { transportFields data with
    functionCode
    appControl := byteAt data 11
    iin := if response ∧ 15 ≤ data.length then some (u16At data 13) else none
    applicationData := data.drop (if response then 15 else 13) }

def parse : Option Dnp3Fields :=
  if data.length < 10 ∨ byteAt data 0 ≠ 0x05 ∨ byteAt data 1 ≠ 0x64 then none
  else if data.length < 11 then some (linkFields data)
  else if data.length < 13 then some (transportFields data)
  else some (messageFields data)

/-! ## Events -/

def dnp3FunctionName (code : UInt8) : String :=
  match code with
  | 0x01 => "read"
  | 0x02 => "write"
  | 0x03 => "select"
  | 0x04 => "operate"
  | 0x05 => "direct_operate"
  | 0x06 => "direct_operate_no_ack"
  | 0x81 => "response"
  | 0x82 => "unsolicited_response"
  | _ => "dnp3_message"

def isDnp3Artifact (code : UInt8) : Bool := 0x02 ≤ code && code ≤ 0x06

def envelope (chunk : StreamChunk) : EventEnvelope :=
  buildEnvelope chunk.context chunk.toFrameInfo .tcp (some "dnp3") chunk.sessionKey

def transaction (chunk : StreamChunk) (fields : Dnp3Fields) : BronzeEvent :=
  let operation := dnp3FunctionName fields.functionCode
  let source := toString fields.sourceAddress.toNat
  let destination := toString fields.destinationAddress.toNat
  newEvent chunk.captureId (envelope chunk) (.protocolTransaction
    { operation
      status := if 0x80 ≤ fields.functionCode then "response" else "request"
      requestSummary := some (operation ++ " " ++ source ++ "->" ++ destination)
      objectRefs := ["dnp3_fc:0x" ++ hexPad 2 fields.functionCode.toNat]
      attributes :=
        (OrderedMap.empty.insert "source_address" source).insert "destination_address" destination
          })

def station (chunk : StreamChunk) (ip : IpAddr) (role : String) (address : UInt16) : BronzeEvent :=
  newEvent chunk.captureId (envelope chunk) (.assetObservation
    { assetKey := ip.display, role := some role, protocols := ["dnp3"],
      identifiers := (OrderedMap.empty.insert "ip" ip.display).insert "dnp3_address"
        (toString address.toNat) })

def dnp3RoleObservations (chunk : StreamChunk) (fields : Dnp3Fields) : List BronzeEvent :=
  let (srcRole, dstRole, observationType) :=
    if 0x80 ≤ fields.functionCode ∨ chunk.context.srcPort = 20000
      then ("outstation", "master", "dnp3_response")
    else ("master", "outstation", "dnp3_request")
  [station chunk chunk.context.srcIp srcRole fields.sourceAddress,
    station chunk chunk.context.dstIp dstRole fields.destinationAddress,
    newEvent chunk.captureId (envelope chunk) (.topologyObservation
      { observationType
        localId := toString fields.sourceAddress.toNat
        remoteId := some (toString fields.destinationAddress.toNat)
        description := some (dnp3FunctionName fields.functionCode)
        capabilities := []
        metadata := (OrderedMap.empty.insert "src_ip" chunk.context.srcIp.display).insert "dst_ip"
          chunk.context.dstIp.display })]

/-! ## The decoder -/

structure Dnp3DecoderWrapper where

section

variable [External]

def artifacts (chunk : StreamChunk) (fields : Dnp3Fields) : List BronzeEvent :=
  if isDnp3Artifact fields.functionCode ∧ fields.applicationData ≠ [] then
    [artifactEvent chunk.captureId (envelope chunk) "dnp3_application_data"
      (chunk.sessionKey ++ ":0x" ++ hexPad 2 fields.functionCode.toNat)
        (some "application/octet-stream")
      (some "DNP3 application payload") fields.applicationData]
  else []

def onStreamChunk (chunk : StreamChunk) : List BronzeEvent :=
  match parse chunk.payload with
  | some fields => transaction chunk fields :: dnp3RoleObservations chunk fields ++
    artifacts chunk fields
  | none =>
    [parseAnomalyEvent chunk.captureId
      (envelope chunk) "dnp3" "medium" "failed to parse dnp3 payload" chunk.payload]

instance : SessionDecoder Dnp3DecoderWrapper where
  name _ := "dnp3"
  interest _ := [.tcpPort 20000]
  onStreamChunk d chunk := (onStreamChunk chunk, d)

end

end MarlinspikeDpi.Dnp3
