import MarlinspikeDpi.Engine.Decoder

/-!
# IKE messages on ports 500 and 4500

A message has a header of 28 bytes and a chain of payloads, each of which names the type of the next
one.
-/

namespace MarlinspikeDpi.Ike

open Engine Bytes Text

/-! ## Vendor IDs -/

def vendorIds : List (List UInt8 × String) :=
  [([0x1e, 0x2b, 0x51, 0x69, 0x9d, 0x3c, 0xe8, 0x2d], "MS-Vid-Initial-Contact"),
    ([0x40, 0x48, 0xb7, 0xd5, 0x6e, 0xbc, 0xe8, 0x85, 0x25, 0xe7, 0xde, 0x7f, 0x00, 0xd6, 0xc2,
      0xd3], "MS-NT5-ISAKMPOAKLEY"),
    ([0x12, 0xf5, 0xf2, 0x8c, 0x45, 0x71, 0x68, 0xa9, 0x70, 0x2d, 0x9f, 0xe2, 0x74, 0xcc, 0x02,
      0xd4], "Cisco-Unity"),
    ([0xaf, 0xca, 0xd7, 0x13, 0x68, 0xa1, 0xf1, 0xc9, 0x6b, 0x86, 0x96, 0xfc, 0x77, 0x57, 0x01,
      0x00], "DPD-RFC3706"),
    ([0x4a, 0x13, 0x1c, 0x81, 0x07, 0x03, 0x58, 0x45, 0x5c, 0x57, 0x28, 0xf2, 0x0e, 0x95, 0x45,
      0x2f], "NAT-T-RFC3947"),
    ([0x90, 0xcb, 0x80, 0x91, 0x3e, 0xbb, 0x69, 0x6e, 0x08, 0x63, 0x81, 0xb5, 0xec, 0x42, 0x7b,
      0x1f], "NAT-T-draft-03")]

def matchVendorId (data : List UInt8) : String :=
  match vendorIds.find? fun entry => entry.1.isPrefixOf data with
  | some entry => entry.2
  | none => "unknown:" ++ hexEncode (data.take 16)

/-! ## The header and the chain of payloads -/

structure IkeHeader where
  (initiatorSpi responderSpi : List UInt8)
  (nextPayload versionByte exchangeType flags : UInt8)
  messageId : UInt32

namespace IkeHeader

def major (hdr : IkeHeader) : UInt8 := hdr.versionByte >>> 4

def parse (buf : List UInt8) : Option IkeHeader :=
  if buf.length < 28 then none
  else
    some
      { initiatorSpi := slice buf 0 8, responderSpi := slice buf 8 8, nextPayload := byteAt buf 16,
        versionByte := byteAt buf 17, exchangeType := byteAt buf 18, flags := byteAt buf 19,
        messageId := UInt32.ofNat (beNat (slice buf 20 4)) }

end IkeHeader

/-- The names of the Vendor IDs, and whether the chain is malformed. Each round moves on by four
bytes at least. -/
def walkPayloadsLoop : Nat → List UInt8 → UInt8 → Nat → List String → List String × Bool
  | 0, _, _, _, names => (names, false)
  | rounds + 1, buf, nextPayload, offset, names =>
    if nextPayload = 0 then (names, false)
    else if buf.length < offset + 4 then (names, true)
    else
      let thisNext := byteAt buf offset
      let payloadLen := beNat (slice buf (offset + 2) 2)
      if payloadLen < 4 ∨ buf.length < offset + payloadLen then (names, true)
      else
        let names :=
          if nextPayload = 13 ∧ 4 < payloadLen then
            names ++ [matchVendorId (slice buf (offset + 4) (payloadLen - 4))]
          else names
        walkPayloadsLoop rounds buf thisNext (offset + payloadLen) names

def walkPayloads (buf : List UInt8) (nextPayload : UInt8) (offset : Nat) : List String × Bool :=
  walkPayloadsLoop (buf.length + 1) buf nextPayload offset []

/-! ## Events -/

def operationName (major exchangeType : UInt8) : String :=
  match major, exchangeType with
  | 1, 2 => "ike_v1_main_mode"
  | 1, 4 => "ike_v1_aggressive"
  | 1, 5 => "ike_v1_informational"
  | 1, 32 => "ike_v1_quick_mode"
  | 1, 33 => "ike_v1_new_group_mode"
  | 2, 34 => "ike_v2_sa_init"
  | 2, 35 => "ike_v2_auth"
  | 2, 36 => "ike_v2_create_child_sa"
  | 2, 37 => "ike_v2_informational"
  | _, _ => "ike_unknown_v" ++ toString major.toNat ++ "_xt_" ++ hexPad 2 exchangeType.toNat

/-- IKEv2 has a flag for responses; in IKEv1 a request is known by the responder SPI that is still
zero. -/
def IkeHeader.status (hdr : IkeHeader) : String :=
  if hdr.major = 2 then
    if hdr.flags &&& 0x20 ≠ 0 then "response" else "request"
  else
    let respZero := hdr.responderSpi == List.replicate 8 0
    let initValid := hdr.initiatorSpi != List.replicate 8 0
    if initValid && respZero then "request"
    else if !respZero then "response"
    else "observed"

variable (chunk : StreamChunk)

def envelope : EventEnvelope :=
  buildEnvelope chunk.context chunk.toFrameInfo .udp (some "ike") chunk.sessionKey

def anomaly (severity reason : String) (buf : List UInt8) : BronzeEvent :=
  parseAnomalyEvent chunk.captureId (envelope chunk) "ike" severity reason buf

def vendorText (names : List String) : Option String :=
  if names = [] then none else some (",".intercalate names)

def transaction (hdr : IkeHeader) (names : List String) : BronzeEvent :=
  let operation := operationName hdr.major hdr.exchangeType
  newEvent chunk.captureId (envelope chunk) (.protocolTransaction
    { operation
      status := hdr.status
      requestSummary :=
        some ("IKEv" ++ toString hdr.major.toNat ++ " " ++ operation ++ " spi=" ++
          hexEncode hdr.initiatorSpi)
      attributes := OrderedMap.empty.extend
        ([("version", "v" ++ toString hdr.major.toNat),
          ("exchange_type", toString hdr.exchangeType.toNat),
            ("initiator_spi", hexEncode hdr.initiatorSpi),
              ("responder_spi", hexEncode hdr.responderSpi),
            ("message_id", toString hdr.messageId.toNat)] ++
          (vendorText names).toList.map ("vendor_ids", ·)) })

def initiatorAsset (hdr : IkeHeader) : BronzeEvent :=
  newEvent chunk.captureId (envelope chunk) (.assetObservation
    { assetKey := chunk.context.srcIp.display
      role := some "ipsec_initiator"
      protocols := ["ike"]
      identifiers := OrderedMap.empty.extend
        [("ip", chunk.context.srcIp.display), ("ike_spi", hexEncode hdr.initiatorSpi)] })

/-! ## Datagrams -/

/-- The IKE message in a datagram. On port 4500 it stands behind four zero bytes; anything else
there is ESP and is left alone. -/
def ikeBuf : Option (List UInt8) :=
  let payload := chunk.payload
  if chunk.context.srcPort = 4500 ∨ chunk.context.dstPort = 4500 then
    if payload.length < 4 then none
    else if byteAt payload 0 ≠ 0 then none
    else if payload.take 4 ≠ [0, 0, 0, 0] then none
    else some (payload.drop 4)
  else some payload

structure IkeDecoder where
  seenSpis : List (List UInt8)

namespace IkeDecoder

def default : IkeDecoder := ⟨[]⟩

def onMessage (d : IkeDecoder) (chunk : StreamChunk) (buf : List UInt8) (hdr : IkeHeader) :
    List BronzeEvent × IkeDecoder :=
  let walk := walkPayloads buf hdr.nextPayload 28
  let chainEvents := if walk.2 then [anomaly chunk "low" "malformed ike payload chain" buf] else []
  if hdr.initiatorSpi ∈ d.seenSpis then (chainEvents ++ [transaction chunk hdr walk.1], d)
  else
    (chainEvents ++ [transaction chunk hdr walk.1, initiatorAsset chunk hdr],
      ⟨hdr.initiatorSpi :: d.seenSpis⟩)

def onDatagram (d : IkeDecoder) (chunk : StreamChunk) : List BronzeEvent × IkeDecoder :=
  match ikeBuf chunk with
  | none => ([], d)
  | some buf =>
    match IkeHeader.parse buf with
    | none => ([anomaly chunk "low" "ike header too short" buf], d)
    | some hdr =>
      if hdr.versionByte ≠ 0x10 ∧ hdr.versionByte ≠ 0x20 then
        ([anomaly chunk "medium" ("unknown ike version byte 0x" ++ hexPad 2 hdr.versionByte.toNat)
          buf], d)
      else d.onMessage chunk buf hdr

instance : SessionDecoder IkeDecoder where
  name _ := "ike"
  interest _ := [.udpPort 500, .udpPort 4500]
  onDatagram

end IkeDecoder

end MarlinspikeDpi.Ike
