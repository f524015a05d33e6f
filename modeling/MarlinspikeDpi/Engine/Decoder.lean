import MarlinspikeDpi.Bronze
import MarlinspikeDpi.External

/-!
# Chunks, interests and the decoder interface

A captured frame is cut down to a `StreamChunk` and offered to every decoder whose declared interest
matches it.
-/

namespace MarlinspikeDpi.Engine

open Text

inductive DpiError where
  | io (message : String)
  | invalidCapture (reason : String)
  | serdeJson (message : String)
deriving DecidableEq, Repr

structure SegmentMeta where
  captureId : String
deriving DecidableEq

/-! ## Captured frames -/

/-- Link-layer framing of the raw bytes of a frame. -/
inductive LinkType where
  | ethernet
  | rawIp
  | linuxSll
  | linuxSll2
deriving DecidableEq, Repr

namespace LinkType

def fromDlt : Nat → Option LinkType
  | 1 => some ethernet
  | 101 => some rawIp
  | 113 => some linuxSll
  | 276 => some linuxSll2
  | _ => none

def dlt : LinkType → Nat
  | ethernet => 1
  | rawIp => 101
  | linuxSll => 113
  | linuxSll2 => 276

@[simp] lemma fromDlt_dlt (l : LinkType) : fromDlt l.dlt = some l := by
  cases l <;> rfl

end LinkType

structure CapturedFrame where
  interfaceId : UInt32
  timestamp : DateTime
  linktype : LinkType
  capturedLen : Nat
  origLen : UInt32
  data : List UInt8
deriving DecidableEq

def rawIpFrame (timestamp : DateTime) (data : List UInt8) : CapturedFrame :=
  { interfaceId := 0
    timestamp
    linktype := .rawIp
    capturedLen := data.length
    origLen := UInt32.ofNat data.length
    data }

/-- The capture readers hand out the same fields, with the bytes owned. -/
abbrev PacketRecord : Type := CapturedFrame

/-! ## Chunks and interests -/

inductive DecoderInterest where
  | etherType (value : UInt16)
  | tcpPort (port : UInt16)
  | udpPort (port : UInt16)
  | ipProto (proto : UInt8)
  | llc (dsap ssap : UInt8)
  | snap (oui : UInt8 × UInt8 × UInt8) (pid : UInt16)
deriving DecidableEq

structure LlcInfo where
  (dsap ssap : UInt8)
  snapOui : Option (UInt8 × UInt8 × UInt8)
  snapPid : Option UInt16
deriving DecidableEq

structure FrameInfo where
  (captureId segmentHash : String)
  interfaceId : UInt32
  frameIndex : Nat
  timestamp : DateTime
  capturedLen : Nat
deriving DecidableEq

structure StreamChunk extends FrameInfo where
  context : PacketContext
  ethertype : UInt16
  ipProto : Option UInt8
  llc : Option LlcInfo
  transport : TransportProtocol
  payload : List UInt8
  sessionKey : String
deriving DecidableEq

def DecoderInterest.covers (chunk : StreamChunk) : DecoderInterest → Bool
  | .etherType value => chunk.ethertype == value
  | .tcpPort port =>
    chunk.transport == .tcp && (chunk.context.srcPort == port || chunk.context.dstPort == port)
  | .udpPort port =>
    chunk.transport == .udp && (chunk.context.srcPort == port || chunk.context.dstPort == port)
  | .ipProto proto => chunk.ipProto == some proto
  | .llc dsap ssap => (chunk.llc.map fun llc => llc.dsap == dsap && llc.ssap == ssap).getD false
  | .snap oui pid => (chunk.llc.map fun llc =>
    llc.snapOui == some oui && llc.snapPid == some pid).getD false

def interestMatches (interests : List DecoderInterest) (chunk : StreamChunk) : Bool :=
  interests.any (DecoderInterest.covers chunk)

/-! ## Envelopes, session keys and the events every component builds -/

def buildEnvelope (context : PacketContext) (info : FrameInfo) (transport : TransportProtocol)
    (protocol : Option String) (sessionKey : String) : EventEnvelope :=
  { timestamp := info.timestamp, interfaceId := info.interfaceId, segmentHash := info.segmentHash,
    frameIndex := info.frameIndex, sessionKey, srcMac := some (formatMac context.srcMac),
    dstMac := some (formatMac context.dstMac), srcIp := ipToString context.srcIp,
    dstIp := ipToString context.dstIp, srcPort := nonZeroU16 context.srcPort,
    dstPort := nonZeroU16 context.dstPort, vlanId := context.vlanId, transport, protocol,
    bytesCount := info.capturedLen, packetCount := 1 }

def emptyEnvelope (info : FrameInfo) : EventEnvelope :=
  { timestamp := info.timestamp, interfaceId := info.interfaceId, segmentHash := info.segmentHash,
    frameIndex := info.frameIndex, sessionKey := "", srcMac := none, dstMac := none, srcIp := none,
    dstIp := none, srcPort := none, dstPort := none, vlanId := none, transport := .unknown,
    protocol := none, bytesCount := 0, packetCount := 0 }

/-- The two peers are sorted, so both directions of a conversation share the key. -/
def makeLayer2SessionKey (srcMac dstMac : MacAddr) (protocolKey : String) : String :=
  let src := formatMac srcMac
  let dst := formatMac dstMac
  if src ≤ dst then "l2:" ++ src ++ ":" ++ dst ++ ":" ++ protocolKey
  else "l2:" ++ dst ++ ":" ++ src ++ ":" ++ protocolKey

def makeIpSessionKey (srcIp dstIp : IpAddr) (srcPort dstPort : UInt16) (transport : String) :
  String := let left := srcIp.display ++ ":" ++ toString srcPort.toNat
  let right := dstIp.display ++ ":" ++ toString dstPort.toNat
  if left ≤ right then transport ++ ":" ++ left ++ ":" ++ right
  else transport ++ ":" ++ right ++ ":" ++ left

/-- A payload from 10.0.0.1 to 10.0.0.2, in the frame with the given number. -/
def hostChunk (frameIndex : Nat) (transport : TransportProtocol) (srcPort dstPort : UInt16)
    (payload : List UInt8) : StreamChunk :=
  { captureId := "capture"
    segmentHash := ""
    interfaceId := 0
    frameIndex
    timestamp := ⟨0⟩
    capturedLen := payload.length
    context :=
      { srcMac := MacAddr.zero, dstMac := MacAddr.zero, srcIp := .v4 ⟨10, 0, 0, 1⟩,
        dstIp := .v4 ⟨10, 0, 0, 2⟩, srcPort, dstPort, vlanId := none, timestamp := 0 }
    ethertype := 0x0800
    ipProto := none
    llc := none
    transport
    payload
    sessionKey := "" }

/-- At most 32 bytes of the offending input are kept. -/
def parseAnomalyEvent (captureId : String) (envelope : EventEnvelope)
    (decoder severity reason : String) (rawExcerpt : List UInt8) : BronzeEvent :=
  newEvent captureId envelope (.parseAnomaly
    { decoder, severity, reason, rawExcerptHex := hexEncode (rawExcerpt.take 32) })

def artifactEvent [External] (captureId : String) (envelope : EventEnvelope)
    (artifactType artifactKey : String) (mimeType description : Option String)
    (bytes : List UInt8) : BronzeEvent :=
  newEvent captureId envelope (.extractedArtifact
    { artifactType
      artifactKey
      sha256 := hexEncode (External.sha256 bytes)
      mimeType
      contentHex := hexEncode bytes
      description })

/-! ## The decoder interface -/

/-- A protocol decoder: what it listens to and how it reacts.  Every reaction returns the events it
appends to the output and the decoder's next state; the defaults do nothing. -/
class SessionDecoder (δ : Type) where
  name : δ → String
  interest : δ → List DecoderInterest
  onDatagram : δ → StreamChunk → List BronzeEvent × δ := fun d _ => ([], d)
  onStreamChunk : δ → StreamChunk → List BronzeEvent × δ := fun d _ => ([], d)
  onIdleFlush : δ → DateTime → List BronzeEvent × δ := fun d _ => ([], d)
  evictIdle : δ → DateTime → List BronzeEvent × δ := fun d _ => ([], d)

/-- An engine holds decoders of many kinds: one of two kinds is again a decoder. -/
instance {α β : Type} [SessionDecoder α] [SessionDecoder β] : SessionDecoder (α ⊕ β) where
  name := Sum.elim SessionDecoder.name SessionDecoder.name
  interest := Sum.elim SessionDecoder.interest SessionDecoder.interest
  onDatagram
    | .inl d, chunk => (SessionDecoder.onDatagram d chunk).map id .inl
    | .inr d, chunk => (SessionDecoder.onDatagram d chunk).map id .inr
  onStreamChunk
    | .inl d, chunk => (SessionDecoder.onStreamChunk d chunk).map id .inl
    | .inr d, chunk => (SessionDecoder.onStreamChunk d chunk).map id .inr
  onIdleFlush
    | .inl d, ts => (SessionDecoder.onIdleFlush d ts).map id .inl
    | .inr d, ts => (SessionDecoder.onIdleFlush d ts).map id .inr
  evictIdle
    | .inl d, ts => (SessionDecoder.evictIdle d ts).map id .inl
    | .inr d, ts => (SessionDecoder.evictIdle d ts).map id .inr

/-- Run one reaction on every decoder in order, collecting the appended events. -/
def sweep {δ ε : Type} (react : δ → List ε × δ) : List δ → List ε × List δ
  | [] => ([], [])
  | d :: ds => ((react d).1 ++ (sweep react ds).1, (react d).2 :: (sweep react ds).2)

lemma sweep_fst {δ ε : Type} (react : δ → List ε × δ) (ds : List δ) :
    (sweep react ds).1 = ds.flatMap fun d => (react d).1 := by
  induction ds with
  | nil => rfl
  | cons d ds ih => simp [sweep, ih]

lemma sweep_snd {δ ε : Type} (react : δ → List ε × δ) (ds : List δ) :
    (sweep react ds).2 = ds.map fun d => (react d).2 := by
  induction ds with
  | nil => rfl
  | cons d ds ih => simp [sweep, ih]

end MarlinspikeDpi.Engine
