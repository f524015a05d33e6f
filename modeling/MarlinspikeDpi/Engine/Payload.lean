import MarlinspikeDpi.Engine.Routing

/-!
# Declared lengths and trailing bytes

An IPv4 header, a UDP header and an 802.3 header each declare where their payload ends; on Ethernet
the captured frame may go on behind that end, since short frames are padded to 60 bytes.

* `handed_payload_eq_declared_iff`: when a payload ends where it is declared to end.
-/

namespace MarlinspikeDpi.Engine

open Bytes List

/-! ## The declared payload -/

def ipv4TotalLength (packet : List UInt8) : Nat := (be16 (byteAt packet 2) (byteAt packet 3)).toNat

/-- The length field of the UDP header behind the IPv4 header. -/
def udpLength (packet : List UInt8) : Nat :=
  (be16 (byteAt packet (ipv4HeaderLen packet + 4)) (byteAt packet (ipv4HeaderLen packet + 5))).toNat

/-- The declared end within the L3 payload: the IPv4 total length, for UDP also the UDP length, and
for 802.3 the length field that stands in the place of the EtherType. -/
def declaredEnd (link : LinkFrame) : Nat :=
  let packet := link.l2Payload
  if link.ethertype = 0x0800 then
    if byteAt packet 9 = 17 then
      min (ipv4TotalLength packet) (ipv4HeaderLen packet + udpLength packet)
    else
      ipv4TotalLength packet
  else if link.ethertype ≤ 1500 then
    link.ethertype.toNat
  else
    packet.length

def declaredPayload (link : LinkFrame) : List UInt8 :=
  (link.l2Payload.take (declaredEnd link)).drop (payloadStart link)

lemma drop_take_eq_drop_iff {α : Type} {xs : List α} {start stop : Nat} :
    xs.drop start = (xs.take stop).drop start ↔ xs.length ≤ stop ∨ xs.length ≤ start := by
  constructor
  · intro h
    have hlen := congrArg length h
    simp only [length_drop, length_take] at hlen
    omega
  · rintro (hstop | hstart)
    · rw [take_of_length_le hstop]
    · have htake : (xs.take stop).length ≤ start := by
        rw [length_take]
        omega
      rw [drop_of_length_le hstart, drop_of_length_le htake]

/-! ## What decoders are handed -/

section

variable {μ : Type} [FrameMonitors μ]

/-- The payload of an Ethernet frame that a decoder is handed ends at the declared end if and only
if no captured byte lies behind that end, or the headers already reach to the end of the frame and
the payload is empty. -/
theorem handed_payload_eq_declared_iff (monitors : μ) (interests : List DecoderInterest)
    (segment : SegmentMeta) (segmentHash : String) (frameIndex : Nat) (frame : CapturedFrame)
    (hlink : frame.linktype = .ethernet) (chunk : StreamChunk)
    (hchunk : chunk ∈ handed monitors interests segment segmentHash frameIndex frame) :
    chunk.payload = declaredPayload (decodeEthernet frame.data) ↔
      (decodeEthernet frame.data).l2Payload.length ≤ declaredEnd (decodeEthernet frame.data) ∨
        (decodeEthernet frame.data).l2Payload.length ≤
          payloadStart (decodeEthernet frame.data) := by
  rcases mem_handed_iff.1 hchunk with ⟨hoffered, _⟩
  have hdecode : decodeLink frame.linktype frame.data = decodeEthernet frame.data := by
    rw [hlink]
    rfl
  -- a chunk is only offered when the frame was routed
  have hrouted : (route (frameInfo segment segmentHash frameIndex frame)
      (decodeEthernet frame.data)).chunk? = some chunk := by
    unfold dispatchOf at hoffered
    dsimp only at hoffered
    rw [hdecode] at hoffered
    split at hoffered
    · cases hoffered
    · exact hoffered
  rw [(route_cutFrom hrouted).payload_eq]
  exact drop_take_eq_drop_iff

end

/-- An 8-byte IGMPv2 query in an Ethernet frame, followed by the given padding. -/
def igmpQueryFrame (padding : List UInt8) : CapturedFrame :=
  { interfaceId := 0
    timestamp := ⟨0⟩
    linktype := .ethernet
    capturedLen := 42 + padding.length
    origLen := 60
    data :=
      [0x01, 0x00, 0x5E, 0x00, 0x00, 0x01, 0x00, 0x11, 0x22, 0x33, 0x44, 0x55, 0x08, 0x00,
        0x45, 0x00, 0x00, 0x1C, 0x00, 0x00, 0x00, 0x00, 0x01, 0x02, 0x00, 0x00, 0x0A, 0x00, 0x00,
        0x01, 0xE0, 0x00, 0x00, 0x01,
        0x11, 0x64, 0xEE, 0x9B, 0x00, 0x00, 0x00, 0x00] ++ padding }

/-- Without padding a decoder that listens to IGMP is handed the 8-byte message. -/
theorem igmpQueryFrame_payload :
    ∃ chunk ∈ handed () [.ipProto 2] ⟨"capture"⟩ "" 1 (igmpQueryFrame []),
      chunk.payload = declaredPayload (decodeEthernet (igmpQueryFrame []).data) ∧
        chunk.payload.length = 8 := by
  have hsome : (handed () [.ipProto 2] ⟨"capture"⟩ "" 1 (igmpQueryFrame [])).head?.isSome =
    true := by decide
  rcases Option.isSome_iff_exists.1 hsome with ⟨chunk, hhead⟩
  have hchunk := mem_of_mem_head? hhead
  have hpayload :=
      (handed_payload_eq_declared_iff () _ _ _ _ (igmpQueryFrame []) rfl chunk hchunk).2 (by decide)
  refine ⟨chunk, hchunk, hpayload, ?_⟩
  rw [hpayload]
  decide

/-- In a frame padded to 60 bytes the decoder is handed 26 bytes: the padding reaches it. -/
theorem igmpQueryFrame_padding_handed :
    ¬ ∀ (interests : List DecoderInterest) (segment : SegmentMeta) (segmentHash : String)
        (frameIndex : Nat) (frame : CapturedFrame), frame.linktype = .ethernet →
          ∀ chunk ∈ handed () interests segment segmentHash frameIndex frame,
            chunk.payload = declaredPayload (decodeEthernet frame.data) := by
  set padded := igmpQueryFrame (replicate 18 0)
  intro hclaim
  have hlengths : (handed () [.ipProto 2] ⟨"capture"⟩ "" 1
      padded).map (fun chunk => chunk.payload.length) = [26] := by
    decide
  have hdeclared : ∀ chunk ∈ handed () [.ipProto 2] ⟨"capture"⟩ "" 1
      padded, chunk.payload.length = 8 := by
    intro chunk hchunk
    rw [hclaim _ _ _ _ padded rfl chunk hchunk]
    decide
  have hmem : 26 ∈ (handed () [.ipProto 2] ⟨"capture"⟩ "" 1
      padded).map (fun chunk => chunk.payload.length) := by
    rw [hlengths]
    decide
  rcases mem_map.1 hmem with ⟨chunk, hchunk, hlen⟩
  rw [hdeclared chunk hchunk] at hlen
  cases hlen

end MarlinspikeDpi.Engine
