import MarlinspikeDpi.Dedup
import MarlinspikeDpi.Engine.Link

/-!
# Dissecting one captured frame

`processPacketRecord` decodes the link layer, runs the frame-level monitors on Ethernet frames,
routes the L3 payload and offers the resulting chunk to the interested decoders.
-/

namespace MarlinspikeDpi.Engine

open Bytes Text SessionDecoder

/-! ## Monitors and the engine -/

/-- What a monitor reports: the common part of a frame finding and a layer-2 alert. -/
structure Finding where
  (decoder severity reason : String)
deriving DecidableEq

/-- The monitors that watch frames beside the decoders: the frame inspector, the stateful layer-2
monitor and the ICMP inspector.  Only the layer-2 monitor has a state. -/
class FrameMonitors (μ : Type) where
  /--
    Frame inspector: raw frame, captured and original length, EtherType, payload, header length. -/
  inspectFrame : μ → List UInt8 → Nat → UInt32 → UInt16 → List UInt8 → Nat → List Finding
  /-- VLAN hopping and MAC anomalies, from the raw frame and its source address. -/
  inspectL2Frame : μ → List UInt8 → MacAddr → List Finding
  /-- Dissect an ARP payload and, if that succeeds, observe it. -/
  observeArp : μ → StreamChunk → List Finding × μ
  /-- Dissect an LLDP payload and, if that succeeds, observe it. -/
  observeLldp : μ → StreamChunk → List Finding × μ
  inspectIcmp : μ → List UInt8 → List Finding
  evictExpired : μ → DateTime → μ

/-- No monitors at all: nothing is reported and there is no state. -/
instance : FrameMonitors Unit where
  inspectFrame _ _ _ _ _ _ _ := []
  inspectL2Frame _ _ _ := []
  observeArp _ _ := ([], ())
  observeLldp _ _ := ([], ())
  inspectIcmp _ _ := []
  evictExpired _ _ := ()

/-- The engine: duplicate filter, decoders, batch size and monitors.  The batch size is never zero:
the default is 256 and `withBatchSize` clamps it. -/
structure DpiEngine (δ μ : Type) where
  dedup : DedupEngine
  decoders : List δ
  batchSize : Nat
  monitors : μ
  batchSize_pos : 1 ≤ batchSize

namespace DpiEngine

variable {δ μ : Type}

/-- A fresh engine: five-second window, one-second buckets, batches of 256. -/
def new (decoders : List δ) (monitors : μ) : DpiEngine δ μ :=
  { dedup := DedupEngine.new 5000000000 1000000000
    decoders
    batchSize := 256
    monitors
    batchSize_pos := by decide }

def withBatchSize (eng : DpiEngine δ μ) (batchSize : Nat) : DpiEngine δ μ :=
  { eng with
    batchSize := max batchSize 1
    batchSize_pos := le_max_right batchSize 1 }

end DpiEngine

/-! ## Routing -/

/-- What becomes of a frame behind the link layer. -/
inductive Dispatch where
  /-- Too short or malformed: one anomaly, no decoder is asked. -/
  | reject (reason : String) (excerpt : List UInt8)
  /-- ARP or LLDP: decoders, then the layer-2 monitor. -/
  | neighbour (chunk : StreamChunk)
  /-- A TCP segment, the only chunk handed to `onStreamChunk`. -/
  | stream (chunk : StreamChunk)
  | datagram (chunk : StreamChunk)
  /-- ICMP: decoders, then the ICMP inspector. -/
  | icmp (chunk : StreamChunk)
  /-- Anything else: an anomaly is reported if no decoder claims it. -/
  | claimable (chunk : StreamChunk) (unclaimed : BronzeEvent)

def Dispatch.chunk? : Dispatch → Option StreamChunk
  | reject _ _ => none
  | neighbour chunk => some chunk
  | stream chunk => some chunk
  | datagram chunk => some chunk
  | icmp chunk => some chunk
  | claimable chunk _ => some chunk

def timestampNs (t : DateTime) : Nat :=
  DateTime.asU64 (t.timestampNanosOpt.getD (t.timestampMicros * 1000))

variable (info : FrameInfo) (link : LinkFrame)

def contextOf (srcIp dstIp : Ipv4Addr) (srcPort dstPort : UInt16) : PacketContext :=
  { srcMac := link.srcMac, dstMac := link.dstMac, srcIp := .v4 srcIp, dstIp := .v4 dstIp, srcPort,
    dstPort, vlanId := link.vlanId, timestamp := timestampNs info.timestamp }

def baseContext : PacketContext := contextOf info link Ipv4Addr.unspecified Ipv4Addr.unspecified 0 0

def unclaimedEvent (transport : TransportProtocol)
    (protocol : Option String) (sessionKey reason : String) (excerpt : List UInt8) : BronzeEvent :=
  parseAnomalyEvent info.captureId
    (buildEnvelope (baseContext info link) info transport protocol sessionKey)
    "engine" "low" reason excerpt

def ipv4HeaderLen (packet : List UInt8) : Nat := (byteAt packet 0 &&& 0x0F).toNat * 4

/-- Data offset in bytes, from the high nibble of byte 12. -/
def tcpDataOffset (segment : List UInt8) : Nat := (byteAt segment 12 >>> 4).toNat * 4

def ipChunk (proto : UInt8) (transport : TransportProtocol)
    (keyName : String) (srcPort dstPort : UInt16) (payload : List UInt8) : StreamChunk :=
  let srcIp := Ipv4Addr.ofBytes link.l2Payload 12
  let dstIp := Ipv4Addr.ofBytes link.l2Payload 16
  { toFrameInfo := info, context := contextOf info link srcIp dstIp srcPort dstPort,
    ethertype := link.ethertype, ipProto := some proto, llc := none, transport, payload,
    sessionKey := makeIpSessionKey (.v4 srcIp) (.v4 dstIp) srcPort dstPort keyName }

def routeTcp (segment : List UInt8) : Dispatch :=
  if segment.length < 20 then
    .reject "tcp header shorter than minimum length" segment
  else
    let srcPort := be16 (byteAt segment 0) (byteAt segment 1)
    let dstPort := be16 (byteAt segment 2) (byteAt segment 3)
    let dataOffset := tcpDataOffset segment
    if dataOffset < 20 ∨ segment.length < dataOffset then
      .reject "invalid tcp data offset" segment
    else
      .stream (ipChunk info link 6 .tcp "tcp" srcPort dstPort (segment.drop dataOffset))

def routeUdp (datagram : List UInt8) : Dispatch :=
  if datagram.length < 8 then
    .reject "udp header shorter than minimum length" datagram
  else
    let srcPort := be16 (byteAt datagram 0) (byteAt datagram 1)
    let dstPort := be16 (byteAt datagram 2) (byteAt datagram 3)
    .datagram (ipChunk info link 17 .udp "udp" srcPort dstPort (datagram.drop 8))

def routeIpv4 : Dispatch :=
  let packet := link.l2Payload
  if packet.length < 20 then
    .reject "ipv4 packet shorter than minimum header" packet
  else
    let ihl := ipv4HeaderLen packet
    if ihl < 20 ∨ packet.length < ihl then
      .reject "invalid ipv4 header length" packet
    else
      -- everything captured behind the header, total length or not
      let ipProto := byteAt packet 9
      let transportPayload := packet.drop ihl
      if ipProto = 6 then
        routeTcp info link transportPayload
      else if ipProto = 17 then
        routeUdp info link transportPayload
      else if ipProto = 1 then
        .icmp (ipChunk info link 1 .icmp "icmp" 0 0 transportPayload)
      else
        let chunk := ipChunk info link ipProto .ipv4 "ip" 0 0 transportPayload
        .claimable chunk (unclaimedEvent info link .ipv4 (some "ip") chunk.sessionKey
          "unsupported ipv4 transport protocol" transportPayload)

def layer2Chunk (llc : Option LlcInfo)
    (transport : TransportProtocol) (payload : List UInt8) (protocolKey : String) : StreamChunk :=
  { toFrameInfo := info, context := baseContext info link, ethertype := link.ethertype,
    ipProto := none, llc, transport, payload,
    sessionKey := makeLayer2SessionKey link.srcMac link.dstMac protocolKey }

def ethertypeKey (ethertype : UInt16) : String := "ethertype:" ++ hexPad 4 ethertype.toNat

/-- 802.3: an LLC header of three bytes, or eight with SNAP. -/
def routeLlc : Dispatch :=
  let frame := link.l2Payload
  if frame.length < 3 then
    .reject "802.3 llc frame shorter than minimum header" frame
  else
    let dsap := byteAt frame 0
    let ssap := byteAt frame 1
    let control := byteAt frame 2
    let chunk :=
      if dsap = 0xAA ∧ ssap = 0xAA ∧ control = 0x03 ∧ 8 ≤ frame.length then
        let oui := (byteAt frame 3, byteAt frame 4, byteAt frame 5)
        let pid := be16 (byteAt frame 6) (byteAt frame 7)
        layer2Chunk info link (some { dsap, ssap, snapOui := some oui, snapPid := some pid })
          .ethernet (frame.drop 8)
          ("snap:" ++ hexEncode [oui.1, oui.2.1, oui.2.2] ++ ":" ++ hexPad 4 pid.toNat)
      else
        layer2Chunk info link (some { dsap, ssap, snapOui := none, snapPid := none })
          .ethernet (frame.drop 3)
          ("llc:" ++ hexPad 2 dsap.toNat ++ ":" ++ hexPad 2 ssap.toNat)
    .claimable chunk
      (unclaimedEvent info link .ethernet none chunk.sessionKey "unsupported 802.3 llc protocol"
        frame)

/-- Route a frame with a non-empty L3 payload by its EtherType. -/
def route : Dispatch :=
  if link.ethertype = 0x0806 ∨ link.ethertype = 0x88CC then
    .neighbour (layer2Chunk info link none
      (if link.ethertype = 0x0806 then .arp else .ethernet) link.l2Payload
      (ethertypeKey link.ethertype))
  else if link.ethertype = 0x0800 then
    routeIpv4 info link
  else if 1500 < link.ethertype then
    let chunk := layer2Chunk info link none .ethernet link.l2Payload (ethertypeKey link.ethertype)
    .claimable chunk
      (unclaimedEvent info link .ethernet none chunk.sessionKey "unsupported ethertype"
        link.l2Payload)
  else
    routeLlc info link

/-! ## Processing one frame -/

def findingEvent (envelope : EventEnvelope) (excerptHex : String) (finding : Finding) :
  BronzeEvent := newEvent info.captureId envelope (.parseAnomaly
    { decoder := finding.decoder, severity := finding.severity, reason :=
      finding.reason, rawExcerptHex := excerptHex })

def stovetopFindingToEvent (chunk : StreamChunk) (finding : Finding) : BronzeEvent :=
  findingEvent chunk.toFrameInfo
    (buildEnvelope chunk.context chunk.toFrameInfo chunk.transport none chunk.sessionKey) "" finding

def stovetopFindingToEventRaw (context : PacketContext) (rawFrame : List UInt8)
    (finding : Finding) : BronzeEvent :=
  findingEvent info (buildEnvelope context info .ethernet none "") (hexEncode (rawFrame.take 32))
    finding

/-- Layer-2 alerts are rendered like findings about the raw frame. -/
def bilgepumpAlertToEvent (context : PacketContext) (rawExcerpt : List UInt8) (alert : Finding) :
  BronzeEvent := stovetopFindingToEventRaw info context rawExcerpt alert

section

variable {δ μ : Type} [SessionDecoder δ] [FrameMonitors μ]

def react (dispatch : Dispatch) (d : δ) : List BronzeEvent × δ :=
  match dispatch with
  | .reject _ _ => ([], d)
  -- TCP is the only transport with a stream entry; everything else comes as a datagram
  | .stream chunk =>
    if interestMatches (interest d) chunk then onStreamChunk d chunk
    else ([], d)
  | .neighbour chunk | .datagram chunk | .icmp chunk | .claimable chunk _ =>
    if interestMatches (interest d) chunk then onDatagram d chunk
    else ([], d)

variable (eng : DpiEngine δ μ)

def followUp (info : FrameInfo) : Dispatch → List BronzeEvent × μ
  | .reject reason excerpt =>
    ([parseAnomalyEvent info.captureId (emptyEnvelope info) "engine" "medium" reason excerpt],
      eng.monitors)
  | .neighbour chunk =>
    let (alerts, monitors) :=
      if chunk.ethertype = 0x0806 then FrameMonitors.observeArp eng.monitors chunk
      else FrameMonitors.observeLldp eng.monitors chunk
    (alerts.map (bilgepumpAlertToEvent info chunk.context chunk.payload), monitors)
  | .stream _ | .datagram _ => ([], eng.monitors)
  | .icmp chunk =>
    ((FrameMonitors.inspectIcmp eng.monitors chunk.payload).map (stovetopFindingToEvent chunk),
      eng.monitors)
  | .claimable chunk unclaimed =>
    -- reported only if no decoder listens to it
    (if eng.decoders.any fun d => interestMatches (interest d) chunk then []
      else [unclaimed],
      eng.monitors)

/-- Frame inspector and layer-2 monitor look at Ethernet frames only. -/
def inspectEthernet (monitors : μ) (info : FrameInfo) (link : LinkFrame) (frame : CapturedFrame) :
  List BronzeEvent := if frame.linktype = .ethernet then
    let context := baseContext info link
    (FrameMonitors.inspectFrame monitors frame.data frame.capturedLen frame.origLen link.ethertype
        link.l2Payload (frame.data.length - link.l2Payload.length)).map
      (stovetopFindingToEventRaw info context frame.data) ++
    (FrameMonitors.inspectL2Frame monitors frame.data link.srcMac).map
      (bilgepumpAlertToEvent info context frame.data)
  else
    []

variable (segment : SegmentMeta) (segmentHash : String) (frameIndex : Nat) (frame : CapturedFrame)

def frameInfo : FrameInfo :=
  { captureId := segment.captureId, segmentHash, interfaceId := frame.interfaceId, frameIndex,
    timestamp := frame.timestamp, capturedLen := frame.capturedLen }

/-- Dissect one frame: the events it gives rise to and the engine afterwards. -/
def processPacketRecord : List BronzeEvent × DpiEngine δ μ :=
  let info := frameInfo segment segmentHash frameIndex frame
  let link := decodeLink frame.linktype frame.data
  -- every link type ends here with an empty payload, so the message speaks of Ethernet for all
  if link.l2Payload = [] then
    ([parseAnomalyEvent info.captureId (emptyEnvelope info) "engine" "medium"
        "ethernet frame shorter than 14 bytes" frame.data], eng)
  else
    let inspected := inspectEthernet eng.monitors info link frame
    let dispatch := route info link
    let (claimed, decoders) := sweep (react dispatch) eng.decoders
    let (followed, monitors) := followUp eng info dispatch
    (inspected ++ claimed ++ followed, { eng with decoders, monitors })

/-- The frame's dispatch, with an empty payload as one more reason to reject. -/
def dispatchOf (info : FrameInfo) (frame : CapturedFrame) : Dispatch :=
  let link := decodeLink frame.linktype frame.data
  if link.l2Payload = [] then .reject "ethernet frame shorter than 14 bytes" frame.data
  else route info link

lemma processPacketRecord_decoders :
    (processPacketRecord eng segment segmentHash frameIndex frame).2.decoders =
      eng.decoders.map fun d =>
        (react (dispatchOf (frameInfo segment segmentHash frameIndex frame) frame) d).2 := by
  by_cases hempty : (decodeLink frame.linktype frame.data).l2Payload = []
  · -- a rejected frame leaves every decoder alone
    simp [processPacketRecord, dispatchOf, hempty, react]
  · simp only [processPacketRecord, dispatchOf, hempty, if_false]
    exact sweep_snd _ _

@[simp] lemma processPacketRecord_dedup :
    (processPacketRecord eng segment segmentHash frameIndex frame).2.dedup = eng.dedup := by
  unfold processPacketRecord
  dsimp only
  split <;> rfl

@[simp] lemma processPacketRecord_batchSize :
    (processPacketRecord eng segment segmentHash frameIndex frame).2.batchSize = eng.batchSize := by
  unfold processPacketRecord
  dsimp only
  split <;> rfl

end

lemma react_inl (dispatch : Dispatch) {α β : Type} [SessionDecoder α] [SessionDecoder β] (d : α) :
    react dispatch (.inl d : α ⊕ β) = (react dispatch d).map id .inl := by
  cases dispatch with
  | reject reason excerpt => rfl
  | stream chunk | neighbour chunk | datagram chunk | icmp chunk | claimable chunk unclaimed =>
    simp only [react]
    by_cases hmatch : interestMatches (interest d) chunk = true
    · rw [if_pos hmatch]
      exact if_pos hmatch
    · rw [if_neg hmatch]
      exact if_neg hmatch

lemma react_inr (dispatch : Dispatch) {α β : Type} [SessionDecoder α] [SessionDecoder β] (d : β) :
    react dispatch (.inr d : α ⊕ β) = (react dispatch d).map id .inr := by
  cases dispatch with
  | reject reason excerpt => rfl
  | stream chunk | neighbour chunk | datagram chunk | icmp chunk | claimable chunk unclaimed =>
    simp only [react]
    by_cases hmatch : interestMatches (interest d) chunk = true
    · rw [if_pos hmatch]
      exact if_pos hmatch
    · rw [if_neg hmatch]
      exact if_neg hmatch

/-! ## A decoder that only listens -/

/-- Records every chunk it is handed and never reports anything. -/
structure Probe where
  interests : List DecoderInterest
  seen : List StreamChunk

instance : SessionDecoder Probe where
  name _ := "probe"
  interest p := p.interests
  onDatagram p chunk := ([], { p with seen := p.seen ++ [chunk] })
  onStreamChunk p chunk := ([], { p with seen := p.seen ++ [chunk] })

section

variable {μ : Type} [FrameMonitors μ]

/-- The chunks that `processPacketRecord` hands to a decoder with the given interests. -/
def handed (monitors : μ) (interests : List DecoderInterest) (segment : SegmentMeta)
    (segmentHash : String) (frameIndex : Nat) (frame : CapturedFrame) : List StreamChunk :=
  let eng := DpiEngine.new [({ interests, seen := [] } : Probe)] monitors
  (processPacketRecord eng segment segmentHash frameIndex frame).2.decoders.flatMap Probe.seen

lemma handed_eq (monitors : μ) (interests : List DecoderInterest) (segment : SegmentMeta)
    (segmentHash : String) (frameIndex : Nat) (frame : CapturedFrame) :
    handed monitors interests segment segmentHash frameIndex frame =
      ((dispatchOf (frameInfo segment segmentHash frameIndex frame) frame).chunk?.toList.filter
        (interestMatches interests)) := by
  have hdecoders :=
    processPacketRecord_decoders (DpiEngine.new [({ interests, seen := [] } : Probe)] monitors)
    segment segmentHash frameIndex frame
  unfold handed
  dsimp only
  rw [hdecoders]
  -- one probe: its recording after the reaction is the offered chunk or nothing
  generalize dispatchOf _ frame = dispatch
  cases dispatch with
  | reject reason excerpt => simp [DpiEngine.new, react, Dispatch.chunk?]
  | stream chunk =>
    by_cases hmatch : interestMatches interests chunk = true <;>
      simp [DpiEngine.new, react, Dispatch.chunk?, interest, onStreamChunk, hmatch]
  | neighbour chunk | datagram chunk | icmp chunk | claimable chunk unclaimed =>
    by_cases hmatch : interestMatches interests chunk = true <;>
      simp [DpiEngine.new, react, Dispatch.chunk?, interest, onDatagram, hmatch]

lemma mem_handed_iff {monitors : μ} {interests : List DecoderInterest} {segment : SegmentMeta}
    {segmentHash : String} {frameIndex : Nat} {frame : CapturedFrame} {chunk : StreamChunk} :
    chunk ∈ handed monitors interests segment segmentHash frameIndex frame ↔
      (dispatchOf (frameInfo segment segmentHash frameIndex frame) frame).chunk? = some chunk ∧
        interestMatches interests chunk = true := by
  rw [handed_eq, List.mem_filter, Option.mem_toList]

end

end MarlinspikeDpi.Engine
