import MarlinspikeDpi.Engine.Decoder
import MarlinspikeDpi.Foundation.Mealy

/-!
# AMQP 1.0 frames

A plaintext chunk holds the header of the protocol, or frames, or both.
-/

namespace MarlinspikeDpi.Amqp

open Engine Bytes Text List

structure AmqpDecoder where
  openEmitted : Bool

def AmqpDecoder.default : AmqpDecoder := ⟨false⟩

/-! ## Frames -/

structure Frame where
  frameType : UInt8
  (channel frameSize : Nat)
  body : List UInt8

/-- What the loop over the frames of a chunk finds. -/
inductive Found where
  | frame (f : Frame)
  /-- A frame whose body begins behind its end. -/
  | bodiless
  | badDoff (excerpt : List UInt8)

def framesLoop : Nat → List UInt8 → List Found
  | 0, _ => []
  | rounds + 1, data =>
    if data.length < 8 then []
    else
      let frameSize := beNat (slice data 0 4)
      let doff := byteAt data 4
      if doff < 2 then [.badDoff (data.take 8)]
      else if frameSize < 8 ∨ data.length < frameSize then []
      else
        let bodyOffset := doff.toNat * 4
        let found :=
          if bodyOffset ≤ frameSize then
            .frame ⟨byteAt data 5, beNat (slice data 6 2), frameSize,
              (data.take frameSize).drop bodyOffset⟩
          else .bodiless
        found :: framesLoop rounds (data.drop frameSize)

def framesOf (data : List UInt8) : List Found := framesLoop data.length data

def performativeOperation (frameType code : UInt8) : String :=
  match frameType, code with
  | 0, 0x10 => "amqp_open"
  | 0, 0x11 => "amqp_begin"
  | 0, 0x12 => "amqp_attach"
  | 0, 0x13 => "amqp_flow"
  | 0, 0x14 => "amqp_transfer"
  | 0, 0x15 => "amqp_disposition"
  | 0, 0x16 => "amqp_detach"
  | 0, 0x17 => "amqp_end"
  | 0, 0x18 => "amqp_close"
  | 1, 0x40 => "amqp_sasl_mechanisms"
  | 1, 0x41 => "amqp_sasl_init"
  | 1, 0x42 => "amqp_sasl_challenge"
  | 1, 0x43 => "amqp_sasl_response"
  | 1, 0x44 => "amqp_sasl_outcome"
  | _, c => "amqp_unknown_descriptor_0x" ++ hexPad 2 c.toNat

/-! ## Events -/

variable (chunk : StreamChunk)

def envelope : EventEnvelope :=
  buildEnvelope chunk.context chunk.toFrameInfo .tcp (some "amqp") chunk.sessionKey

def anomaly (severity reason : String) (excerpt : List UInt8) : BronzeEvent :=
  parseAnomalyEvent chunk.captureId (envelope chunk) "amqp" severity reason excerpt

def transaction (operation : String) (attributes : List (String × String)) : BronzeEvent :=
  newEvent chunk.captureId (envelope chunk) (.protocolTransaction
    { operation, status := "observed", attributes := OrderedMap.empty.extend attributes })

def tlsSession : BronzeEvent :=
  transaction chunk "amqp_tls_session" [("note", "TLS-encrypted, payload opaque")]

def broker : BronzeEvent :=
  newEvent chunk.captureId (envelope chunk) (.assetObservation
    { assetKey := chunk.context.dstIp.display, role := some "amqp_broker", protocols := ["amqp"],
      identifiers := OrderedMap.empty.insert "ip" chunk.context.dstIp.display })

/-! ## Chunks -/

namespace AmqpDecoder

def isDescribed (f : Frame) : Bool := byteAt f.body 0 == 0x00 && byteAt f.body 1 == 0x53

def isOpen (f : Frame) : Bool :=
  3 ≤ f.body.length && isDescribed f && byteAt f.body 2 == 0x10 && f.frameType == 0

def performative (f : Frame) : BronzeEvent :=
  let descriptorCode := byteAt f.body 2
  transaction chunk (performativeOperation f.frameType descriptorCode)
    ([("frame_type", if f.frameType = 0 then "amqp" else "sasl"),
      ("frame_size", toString f.frameSize),
        ("descriptor_code_hex", "0x" ++ hexPad 2 descriptorCode.toNat)] ++
      if f.frameType = 0 then [("channel", toString f.channel)] else [])

variable (d : AmqpDecoder)

def decodePerformative (f : Frame) : List BronzeEvent × AmqpDecoder :=
  if f.body.length < 3 then ([], d)
  else if ¬ isDescribed f then
    ([anomaly chunk "low" "AMQP frame body missing expected 0x00 0x53 described-type prefix"
      (f.body.take 8)], d)
  else if byteAt f.body 2 = 0x10 ∧ f.frameType = 0 ∧ ¬ d.openEmitted then
    ([performative chunk f, broker chunk], ⟨true⟩)
  else ([performative chunk f], d)

lemma decodePerformative_of_isOpen {f : Frame} (hopen : isOpen f = true) :
      decodePerformative chunk d f = if d.openEmitted then ([performative chunk f], d)
      else ([performative chunk f, broker chunk], ⟨true⟩) := by
  simp only [isOpen, Bool.and_eq_true, decide_eq_true_eq, beq_iff_eq] at hopen
  obtain ⟨⟨⟨hlong, hdescribed⟩, hcode⟩, htype⟩ := hopen
  rw [decodePerformative, if_neg (Nat.not_lt.2 hlong), if_neg (not_not.2 hdescribed)]
  by_cases hemitted : d.openEmitted = true
  · rw [if_pos hemitted, if_neg fun h => h.2.2 hemitted]
  · rw [if_neg hemitted, if_pos ⟨hcode, htype, hemitted⟩]

lemma decodePerformative_of_not_isOpen {f : Frame} (hopen : isOpen f = false) :
    decodePerformative chunk d f ∈
      [([], d),
        ([anomaly chunk "low" "AMQP frame body missing expected 0x00 0x53 described-type prefix"
        (f.body.take 8)], d), ([performative chunk f], d)] := by
  unfold decodePerformative
  split
  · exact mem_cons_self
  rename_i hlong
  split
  · exact mem_cons_of_mem _ mem_cons_self
  rename_i hdescribed
  split
  · -- this would be an OPEN
    rename_i hcode
    have : isOpen f = true := by
      simp [isOpen, Nat.not_lt.1 hlong, not_not.1 hdescribed, hcode.1, hcode.2.1]
    rw [this] at hopen
    cases hopen
  · exact mem_cons_of_mem _ (mem_cons_of_mem _ (mem_singleton_self _))

def decodeFound : Found → List BronzeEvent × AmqpDecoder
  | .frame f => decodePerformative chunk d f
  | .bodiless => ([], d)
  | .badDoff excerpt =>
    ([anomaly chunk "low" "AMQP frame DOFF < 2 (minimum is 2, equals 8-byte header)" excerpt], d)

def decodeFrames (chunk : StreamChunk) (data : List UInt8) : List BronzeEvent × AmqpDecoder :=
  Mealy.run (decodeFound chunk) d (framesOf data)

def isTls (chunk : StreamChunk) : Bool :=
  chunk.context.dstPort == 5671 || chunk.context.srcPort == 5671

def handleTls (chunk : StreamChunk) : List BronzeEvent × AmqpDecoder :=
  if d.openEmitted then ([], d) else ([tlsSession chunk], ⟨true⟩)

def hasProtocolHeader (payload : List UInt8) : Bool :=
  8 ≤ payload.length && payload.take 4 == [0x41, 0x4D, 0x51, 0x50]

def protocolHeader (chunk : StreamChunk) : BronzeEvent :=
  let protoId := byteAt chunk.payload 4
  let protoIdName :=
    match protoId with
    | 0 => "amqp"
    | 2 => "tls"
    | 3 => "sasl"
    | _ => "unknown"
  transaction chunk "amqp_protocol_header"
    [("protocol_id", toString protoId.toNat), ("protocol_id_name", protoIdName),
      ("version", toString (byteAt chunk.payload 5).toNat ++ "." ++ toString
        (byteAt chunk.payload 6).toNat ++ "." ++ toString (byteAt chunk.payload 7).toNat)]

def handlePlaintext (chunk : StreamChunk) : List BronzeEvent × AmqpDecoder :=
  if hasProtocolHeader chunk.payload then
    if byteAt chunk.payload 5 ≠ 1 then
      ([anomaly chunk "medium" "AMQP magic matched but version major byte unexpected"
        (chunk.payload.take 8)], d)
    else
      -- the rest of the chunk may hold frames
      let (events, d) := d.decodeFrames chunk (chunk.payload.drop 8)
      (protocolHeader chunk :: events, d)
  else d.decodeFrames chunk chunk.payload

def onStreamChunk (chunk : StreamChunk) : List BronzeEvent × AmqpDecoder :=
  if chunk.payload = [] then ([], d)
  else if isTls chunk then d.handleTls chunk
  else d.handlePlaintext chunk

end AmqpDecoder

instance : SessionDecoder AmqpDecoder where
  name _ := "amqp"
  interest _ := [.tcpPort 5672, .tcpPort 5671]
  onStreamChunk := AmqpDecoder.onStreamChunk

end MarlinspikeDpi.Amqp
