import MarlinspikeDpi.Engine.Packet

/-!
# What a dispatched chunk carries

One inversion lemma for the info routing: a chunk offered to the decoders carries the identity of
its frame, the EtherType, MAC addresses and VLAN of the decoded link layer, and the L3 payload from
a fixed offset on (`route_cutFrom`).

* `ethernet_dispatchedAs`: how an Ethernet frame is dispatched, and to which decoders.
-/

namespace MarlinspikeDpi.Engine

open Bytes List

/-! ## The inversion lemma -/

/-- Where the payload of a chunk starts within the L3 payload of the frame. -/
def payloadStart (link : LinkFrame) : Nat :=
  let packet := link.l2Payload
  if link.ethertype = 0x0800 then
    let ihl := ipv4HeaderLen packet
    if byteAt packet 9 = 6 then ihl + tcpDataOffset (packet.drop ihl)
    else if byteAt packet 9 = 17 then ihl + 8
    else ihl
  else if 1500 < link.ethertype then
    0
  else if byteAt packet 0 = 0xAA ∧ byteAt packet 1 = 0xAA ∧ byteAt packet 2 = 0x03 ∧
    8 ≤ packet.length then 8
  else
    3

/-- The chunk belongs to the frame `info` and is cut out of `link` at `payloadStart`. -/
structure CutFrom (info : FrameInfo) (link : LinkFrame) (chunk : StreamChunk) : Prop where
  frame_eq : chunk.toFrameInfo = info
  ethertype_eq : chunk.ethertype = link.ethertype
  srcMac_eq : chunk.context.srcMac = link.srcMac
  dstMac_eq : chunk.context.dstMac = link.dstMac
  vlanId_eq : chunk.context.vlanId = link.vlanId
  payload_eq : chunk.payload = link.l2Payload.drop (payloadStart link)
  start_le : payloadStart link ≤ link.l2Payload.length

variable {info : FrameInfo} {link : LinkFrame} {chunk : StreamChunk}

lemma ipChunk_cutFrom {payload : List UInt8} {transport : TransportProtocol} {proto : UInt8}
    {keyName : String} {srcPort dstPort : UInt16}
    (hpayload : payload = link.l2Payload.drop (payloadStart link))
    (hstart : payloadStart link ≤ link.l2Payload.length) :
    CutFrom info link (ipChunk info link proto transport keyName srcPort dstPort payload) :=
  ⟨rfl, rfl, rfl, rfl, rfl, hpayload, hstart⟩

lemma layer2Chunk_cutFrom {payload : List UInt8} {transport : TransportProtocol}
    {llc : Option LlcInfo} {protocolKey : String}
    (hpayload : payload = link.l2Payload.drop (payloadStart link))
    (hstart : payloadStart link ≤ link.l2Payload.length) :
    CutFrom info link (layer2Chunk info link llc transport payload protocolKey) :=
  ⟨rfl, rfl, rfl, rfl, rfl, hpayload, hstart⟩

lemma routeTcp_eq_some {segment : List UInt8}
    (h : (routeTcp info link segment).chunk? = some chunk) :
    20 ≤ segment.length ∧ 20 ≤ tcpDataOffset segment ∧ tcpDataOffset segment ≤ segment.length ∧
      chunk = ipChunk info link 6 .tcp "tcp" (be16 (byteAt segment 0) (byteAt segment 1))
        (be16 (byteAt segment 2) (byteAt segment 3)) (segment.drop (tcpDataOffset segment)) := by
  unfold routeTcp at h
  dsimp only at h
  split at h
  · cases h
  · split at h
    · cases h
    · cases h
      exact ⟨by omega, by omega, by omega, rfl⟩

lemma routeUdp_eq_some {datagram : List UInt8}
    (h : (routeUdp info link datagram).chunk? = some chunk) :
    8 ≤ datagram.length ∧ chunk = ipChunk info link 17 .udp "udp"
      (be16 (byteAt datagram 0) (byteAt datagram 1))
        (be16 (byteAt datagram 2) (byteAt datagram 3)) (datagram.drop 8) := by
  unfold routeUdp at h
  split at h
  · cases h
  · cases h
    exact ⟨by omega, rfl⟩

lemma routeIpv4_cutFrom (htype : link.ethertype = 0x0800)
    (h : (routeIpv4 info link).chunk? = some chunk) : CutFrom info link chunk := by
  unfold routeIpv4 at h
  dsimp only at h
  split at h
  · cases h
  · split at h
    · cases h
    · -- the header is complete; the protocol decides how much more is cut off
      rename_i hlen hihl
      split at h
      · rename_i htcp
        have hstart : payloadStart link = ipv4HeaderLen link.l2Payload +
            tcpDataOffset (link.l2Payload.drop (ipv4HeaderLen link.l2Payload)) := by
          simp [payloadStart, htype, htcp]
        rcases routeTcp_eq_some h with ⟨_, _, hoff, rfl⟩
        rw [length_drop] at hoff
        refine ipChunk_cutFrom ?_ (by omega)
        rw [hstart, drop_drop]
      · split at h
        · rename_i htcp hudp
          have hstart : payloadStart link = ipv4HeaderLen link.l2Payload + 8 := by
            simp [payloadStart, htype, hudp]
          rcases routeUdp_eq_some h with ⟨hoff, rfl⟩
          rw [length_drop] at hoff
          refine ipChunk_cutFrom ?_ (by omega)
          rw [hstart, drop_drop]
        · rename_i htcp hudp
          have hstart : payloadStart link = ipv4HeaderLen link.l2Payload := by
            simp [payloadStart, htype, htcp, hudp]
          split at h
          · cases h
            exact ipChunk_cutFrom (by rw [hstart]) (by omega)
          · cases h
            exact ipChunk_cutFrom (by rw [hstart]) (by omega)

lemma routeLlc_cutFrom (hip : link.ethertype ≠ 0x0800) (htype : ¬ 1500 < link.ethertype)
    (h : (routeLlc info link).chunk? = some chunk) : CutFrom info link chunk := by
  unfold routeLlc at h
  dsimp only at h
  split at h
  · cases h
  · cases h
    -- SNAP has five more header bytes
    split
    · rename_i hsnap
      have hstart : payloadStart link = 8 := by simp [payloadStart, hip, htype, hsnap]
      exact layer2Chunk_cutFrom (by rw [hstart]) (by omega)
    · rename_i hsnap
      have hstart : payloadStart link = 3 := by simp [payloadStart, hip, htype, hsnap]
      exact layer2Chunk_cutFrom (by rw [hstart]) (by omega)

lemma payloadStart_eq_zero (hip : link.ethertype ≠ 0x0800) (htype : 1500 < link.ethertype) :
    payloadStart link = 0 := by
  simp [payloadStart, hip, htype]

lemma route_cutFrom (h : (route info link).chunk? = some chunk) : CutFrom info link chunk := by
  unfold route at h
  split at h
  · rename_i hneighbour
    have hstart : payloadStart link = 0 := by
      rcases hneighbour with harp | hlldp
      · exact payloadStart_eq_zero (by rw [harp]; decide) (by rw [harp]; decide)
      · exact payloadStart_eq_zero (by rw [hlldp]; decide) (by rw [hlldp]; decide)
    cases h
    exact layer2Chunk_cutFrom (by rw [hstart, drop_zero]) (by omega)
  · split at h
    · rename_i hip
      exact routeIpv4_cutFrom hip h
    · rename_i hip
      split at h
      · rename_i htype
        have hstart : payloadStart link = 0 := payloadStart_eq_zero hip htype
        cases h
        exact layer2Chunk_cutFrom (by rw [hstart, drop_zero]) (by omega)
      · rename_i htype
        exact routeLlc_cutFrom hip htype h

/-- The IPv4 header of the packet is complete, and so is the TCP or UDP header behind it. -/
def CompleteIpv4 (packet : List UInt8) : Prop :=
  let ihl := ipv4HeaderLen packet
  let transport := packet.drop ihl
  (20 ≤ packet.length ∧ 20 ≤ ihl ∧ ihl ≤ packet.length) ∧
    (byteAt packet 9 = 6 →
      20 ≤ transport.length ∧ 20 ≤ tcpDataOffset transport ∧
        tcpDataOffset transport ≤ transport.length) ∧
    (byteAt packet 9 = 17 → 8 ≤ transport.length)

lemma routeIpv4_offers (info : FrameInfo) (hcomplete : CompleteIpv4 link.l2Payload) :
    ∃ chunk, (routeIpv4 info link).chunk? = some chunk := by
  obtain ⟨⟨hlen, hihl, hheader⟩, htcp, hudp⟩ := hcomplete
  unfold routeIpv4
  dsimp only
  rw [if_neg (by omega), if_neg (by omega)]
  split
  · obtain ⟨hsegment, hoffset, hfits⟩ := htcp ‹_›
    rw [routeTcp, if_neg (by omega), if_neg (by omega)]
    exact ⟨_, rfl⟩
  · split
    · have hdatagram := hudp ‹_›
      rw [routeUdp, if_neg (by omega)]
      exact ⟨_, rfl⟩
    · split <;> exact ⟨_, rfl⟩

lemma route_offers (info : FrameInfo) (htype : 1500 < link.ethertype)
    (hcomplete : link.ethertype = 0x0800 → CompleteIpv4 link.l2Payload) :
    ∃ chunk, (route info link).chunk? = some chunk := by
  unfold route
  split
  · exact ⟨_, rfl⟩
  · split
    · exact routeIpv4_offers info (hcomplete ‹_›)
    · exact ⟨_, rfl⟩

/-! ## Dispatch of Ethernet frames above the 802.3 length range -/

section

variable {μ : Type} [FrameMonitors μ]

lemma CutFrom.interestMatches (hcut : CutFrom info link chunk) {interests : List DecoderInterest}
    (hinterest : DecoderInterest.etherType link.ethertype ∈ interests) :
    Engine.interestMatches interests chunk = true := by
  rw [Engine.interestMatches, any_eq_true]
  exact ⟨_, hinterest, by simp [DecoderInterest.covers, hcut.ethertype_eq]⟩

/-- The frame reaches the decoders as `link`: all they are handed is cut out of it, and there is one
such chunk, for IPv4 if the headers are complete. It goes to the decoders interested in it, among
them all that listen to its EtherType. -/
structure DispatchedAs (monitors : μ) (segment : SegmentMeta) (segmentHash : String)
    (frameIndex : Nat) (frame : CapturedFrame) (link : LinkFrame) : Prop where
  cut : ∀ interests, ∀ chunk ∈ handed monitors interests segment segmentHash frameIndex frame,
    CutFrom (frameInfo segment segmentHash frameIndex frame) link chunk
  offered : (link.ethertype = 0x0800 → CompleteIpv4 link.l2Payload) →
    ∃ chunk, CutFrom (frameInfo segment segmentHash frameIndex frame) link chunk ∧
      (∀ interests, DecoderInterest.etherType link.ethertype ∈ interests →
        interestMatches interests chunk = true) ∧
      ∀ interests, handed monitors interests segment segmentHash frameIndex frame =
        if interestMatches interests chunk then [chunk] else []

lemma dispatchedAs_decodeLink (monitors : μ) (segment : SegmentMeta) (segmentHash : String)
    (frameIndex : Nat) (frame : CapturedFrame)
    (htype : 1500 < (decodeLink frame.linktype frame.data).ethertype)
    (hpayload : (decodeLink frame.linktype frame.data).l2Payload ≠ []) :
    DispatchedAs monitors segment segmentHash frameIndex frame
      (decodeLink frame.linktype frame.data) := by
  set info := frameInfo segment segmentHash frameIndex frame
  have hdispatch : dispatchOf info frame = route info (decodeLink frame.linktype frame.data) := by
    simp [dispatchOf, hpayload]
  constructor
  · intro interests chunk hmem
    rcases mem_handed_iff.1 hmem with ⟨hchunk, _⟩
    rw [hdispatch] at hchunk
    exact route_cutFrom hchunk
  · intro hcomplete
    rcases route_offers info htype hcomplete with ⟨chunk, hchunk⟩
    refine ⟨chunk, route_cutFrom hchunk, fun _ h => (route_cutFrom hchunk).interestMatches h, ?_⟩
    intro interests
    rw [handed_eq, hdispatch, hchunk, Option.toList_some, List.filter_singleton, cond_eq_ite]

/-- A GOOSE message (EtherType `0x88B8`) from a source address that starts with the given byte. -/
def gooseFrame (firstMacByte : UInt8) : CapturedFrame :=
  { interfaceId := 0
    timestamp := ⟨0⟩
    linktype := .ethernet
    capturedLen := 28
    origLen := 28
    data :=
      [0x01, 0x0C, 0xCD, 0x01, 0x00, 0x01, firstMacByte, 0x00, 0x00, 0x00, 0x00, 0x01, 0x88, 0xB8,
        0x00, 0x01, 0x00, 0x0E, 0x00, 0x00, 0x00, 0x00, 0x61, 0x04, 0x80, 0x02, 0x67, 0x31] }

end

end MarlinspikeDpi.Engine
