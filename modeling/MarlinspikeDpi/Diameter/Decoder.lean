import MarlinspikeDpi.Diameter.Message
import MarlinspikeDpi.Engine.Decoder

/-!
# Transactions and assets

Every chunk on a plaintext port is read as one message. A request is remembered under its hop-by-hop
id until an answer with this id comes.

* `withstands_iff`: on which messages the decoder does not panic.
-/

namespace MarlinspikeDpi.Diameter

open Engine Bytes Text

structure DiameterDecoder where
  /-- The operations of the requests that have no answer yet, by hop-by-hop id. -/
  pending : Table UInt32 String
  (tlsSessionEmitted assetEmitted : Bool)

def DiameterDecoder.default : DiameterDecoder := ⟨∅, false, false⟩

/-! ## Events -/

def envelope (chunk : StreamChunk) : EventEnvelope :=
  buildEnvelope chunk.context chunk.toFrameInfo .tcp (some "diameter") chunk.sessionKey

def anomaly (chunk : StreamChunk) (severity reason : String) : BronzeEvent :=
  parseAnomalyEvent chunk.captureId (envelope chunk) "diameter" severity reason chunk.payload

def asset (chunk : StreamChunk) (assetKey : IpAddr) (role : String)
    (identifiers : List (String × String)) : BronzeEvent :=
  newEvent chunk.captureId (envelope chunk) (.assetObservation
    { assetKey := assetKey.display, role := some role, protocols := ["diameter"],
      identifiers := OrderedMap.empty.extend identifiers })

def tlsSession (chunk : StreamChunk) : BronzeEvent :=
  newEvent chunk.captureId (envelope chunk) (.protocolTransaction
    { operation := "diameter_tls_session", status := "observed", attributes := OrderedMap.empty })

def commandOperation (cmd : Nat) (isRequest : Bool) : String :=
  let kind := if isRequest then "request" else "answer"
  match cmd with
  | 257 => "diameter_capabilities_exchange_" ++ kind
  | 280 => "diameter_device_watchdog_" ++ kind
  | 282 => "diameter_disconnect_peer_" ++ kind
  | 258 => "diameter_re_auth_" ++ kind
  | 271 => "diameter_accounting_" ++ kind
  | 274 => "diameter_abort_session_" ++ kind
  | 275 => "diameter_session_termination_" ++ kind
  | 268 => "diameter_eap_" ++ kind
  | n => "diameter_unknown_cmd_" ++ toString n

def optional (name : String) (value : Option String) : List (String × String) :=
  value.toList.map (name, ·)

def messageAttributes (msg : DiameterMessage) : OrderedMap String String :=
  OrderedMap.empty.extend
    ([("command_code", toString msg.commandCode),
      ("application_id", toString msg.applicationId.toNat),
        ("hop_by_hop_id", "0x" ++ hexPad 8 msg.hopByHopId.toNat),
        ("end_to_end_id", "0x" ++ hexPad 8 msg.endToEndId.toNat),
        ("flags_hex", "0x" ++ hexPad 2 msg.commandFlags.toNat),
        ("is_request", if msg.isRequest then "true" else "false"),
        ("is_error", if msg.isError then "true" else "false")] ++
      optional "avp_user_name" msg.avpUserName ++ optional "avp_session_id" msg.avpSessionId ++
      optional "avp_origin_host" msg.avpOriginHost ++
        optional "avp_origin_realm" msg.avpOriginRealm ++
      optional "avp_result_code" (msg.avpResultCode.map fun rc => toString rc.toNat))

def transaction (chunk : StreamChunk) (msg : DiameterMessage) (status : String) : BronzeEvent :=
  newEvent chunk.captureId (envelope chunk) (.protocolTransaction
    { operation := commandOperation msg.commandCode msg.isRequest
      status
      requestSummary := some ("cmd=" ++ toString msg.commandCode ++ " app=" ++
        toString msg.applicationId.toNat ++ " hbh=0x" ++ hexPad 8 msg.hopByHopId.toNat)
      objectRefs := msg.avpSessionId.toList
      attributes := messageAttributes msg })

/-! ## Messages -/

def pair (pending : Table UInt32 String) (msg : DiameterMessage) : String × Table UInt32 String :=
  if msg.isError then ("error", pending)
  else if msg.isRequest then
    ("request_only", pending.insert msg.hopByHopId (commandOperation msg.commandCode msg.isRequest))
  else
    (if (pending.lookup msg.hopByHopId).isSome then "ok" else "request_only",
      pending.erase msg.hopByHopId)

namespace DiameterDecoder

def report (d : DiameterDecoder) (chunk : StreamChunk) (msg : DiameterMessage) :
  List BronzeEvent × DiameterDecoder := let lengthCheck :=
    if chunk.payload.length < msg.messageLength then
      [anomaly chunk "medium" "diameter message_length disagrees with available bytes"]
    else []
  let (status, pending) := pair d.pending msg
  let announces := msg.commandCode == 257 && msg.isRequest && !d.assetEmitted
  let peer :=
    if announces then
      [asset chunk chunk.context.srcIp "diameter_peer"
        (optional "origin_host" msg.avpOriginHost ++ optional "origin_realm" msg.avpOriginRealm)]
    else []
  (lengthCheck ++ [transaction chunk msg status] ++ peer,
    { d with pending, assetEmitted := d.assetEmitted || announces })

def decodePlaintext (d : DiameterDecoder) (chunk : StreamChunk) :
  Checked (List BronzeEvent × DiameterDecoder) := if chunk.payload = [] then .ok ([], d)
  else if byteAt chunk.payload 0 ≠ 1 then
    .ok ([anomaly chunk "low" "diameter version field is not 1"], d)
  else do
    match ← parseDiameter chunk.payload with
    | none =>
      return ([anomaly chunk "medium"
        "truncated diameter message — message_length exceeds available bytes"], d)
    | some msg => return d.report chunk msg

def isTls (chunk : StreamChunk) : Bool :=
  chunk.context.dstPort == 5868 || chunk.context.srcPort == 5868

def handleTls (d : DiameterDecoder) (chunk : StreamChunk) : List BronzeEvent × DiameterDecoder :=
  if d.tlsSessionEmitted then ([], d)
  else
    ([asset chunk chunk.context.dstIp "diameter_server" [], tlsSession chunk],
      { d with tlsSessionEmitted := true })

def onStreamChunk (d : DiameterDecoder) (chunk : StreamChunk) :
    Checked (List BronzeEvent × DiameterDecoder) :=
  if isTls chunk then .ok (d.handleTls chunk) else d.decodePlaintext chunk

def interest : List DecoderInterest := [.tcpPort 3868, .tcpPort 5868]

end DiameterDecoder

/-! ## Chunks that hold a message -/

/-- The payload is long enough for a header, and has the version of the protocol. -/
def HasHeader (payload : List UInt8) : Prop :=
  diameterHeaderLen ≤ payload.length ∧ byteAt payload 0 = 1

instance (payload : List UInt8) : Decidable (HasHeader payload) :=
  inferInstanceAs (Decidable (_ ∧ _))

namespace DiameterDecoder

lemma onStreamChunk_of_hasHeader (d : DiameterDecoder) {chunk : StreamChunk}
    (hplain : isTls chunk = false) (hheader : HasHeader chunk.payload) : d.onStreamChunk chunk = (do
      match ← parseDiameter chunk.payload with
      | none =>
        return ([anomaly chunk "medium"
          "truncated diameter message — message_length exceeds available bytes"], d)
      | some msg => return d.report chunk msg) := by
  obtain ⟨hlen, hversion⟩ := hheader
  have hnonempty : chunk.payload ≠ [] := by
    intro hnil
    rw [hnil] at hlen
    exact absurd hlen (by decide)
  rw [onStreamChunk, hplain, decodePlaintext, if_neg hnonempty, if_neg (not_not.2 hversion)]
  rfl

lemma onStreamChunk_of_le (d : DiameterDecoder) {chunk : StreamChunk} (hplain : isTls chunk = false)
    (hheader : HasHeader chunk.payload)
    (hlength : diameterHeaderLen ≤ messageLength chunk.payload) :
    ∃ msg, parseDiameter chunk.payload = .ok (some msg) ∧
      d.onStreamChunk chunk = .ok (d.report chunk msg) := by
  obtain ⟨avps, -, hparse⟩ := parseDiameter_of_le hheader.1 hlength
  refine ⟨readMessage _ avps, hparse, ?_⟩
  rw [d.onStreamChunk_of_hasHeader hplain hheader, hparse]
  rfl

lemma onStreamChunk_of_lt (d : DiameterDecoder) {chunk : StreamChunk} (hplain : isTls chunk = false)
    (hheader : HasHeader chunk.payload) (hshort : messageLength chunk.payload < diameterHeaderLen) :
    d.onStreamChunk chunk = .error
      (.sliceOrder diameterHeaderLen (messageLength chunk.payload)) := by
  rw [d.onStreamChunk_of_hasHeader hplain hheader, parseDiameter_of_lt hheader.1 hshort]
  rfl

end DiameterDecoder

/-! ## Robustness -/

def isTransactionOrAnomaly (e : BronzeEvent) : Bool :=
  match e.family with
  | .protocolTransaction _ => true
  | .parseAnomaly _ => true
  | _ => false

/-- The decoder returns from a chunk and reports something. -/
structure Withstands (d : DiameterDecoder) (chunk : StreamChunk) : Prop where
  returns : ∃ events d', d.onStreamChunk chunk = .ok (events, d') ∧
    ∃ e ∈ events, isTransactionOrAnomaly e = true
  ends : ∀ rounds, (avpRegion chunk.payload).length ≤ rounds →
    parseAvpsLoop rounds (avpRegion chunk.payload) ∅ = parseAvps (avpRegion chunk.payload)
  within : ∀ payload', chunk.payload.take (messageLength chunk.payload) =
    payload'.take (messageLength chunk.payload) →
      parseDiameter payload' = parseDiameter chunk.payload

/-- The decoder withstands a message exactly if the length in its header covers the header. -/
theorem withstands_iff (d : DiameterDecoder) (chunk : StreamChunk)
    (hplain : DiameterDecoder.isTls chunk = false) (hheader : HasHeader chunk.payload) :
    Withstands d chunk ↔ diameterHeaderLen ≤ messageLength chunk.payload := by
  constructor
  · rintro ⟨⟨events, d', hreturns, -⟩, -, -⟩
    by_contra hshort
    rw [d.onStreamChunk_of_lt hplain hheader (Nat.not_le.1 hshort)] at hreturns
    cases hreturns
  · intro hlength
    obtain ⟨msg, -, hreport⟩ := d.onStreamChunk_of_le hplain hheader hlength
    refine ⟨⟨_, _, hreport, transaction chunk msg (pair d.pending msg).1, ?_, rfl⟩, ?_, ?_⟩
    · exact List.mem_append_left _ (List.mem_append_right _ (List.mem_singleton_self _))
    · exact fun rounds hrounds => parseAvpsLoop_rounds ∅ hrounds
    · exact fun payload' hsame => parseDiameter_eq_of_take_eq hheader.1 hlength hsame

def watchdogBytes : List UInt8 := [1, 0, 0, 20, 0x80, 0, 1, 24, 0, 0, 0, 0, 0, 0, 0, 7, 0, 0, 0, 9]

def watchdogChunk : StreamChunk := hostChunk 0 .tcp 49152 3868 watchdogBytes

theorem watchdog_withstood :
    (DiameterDecoder.isTls watchdogChunk = false ∧ HasHeader watchdogChunk.payload) ∧
      (Withstands DiameterDecoder.default watchdogChunk ↔
        diameterHeaderLen ≤ messageLength watchdogChunk.payload) :=
  ⟨⟨rfl, by decide⟩, withstands_iff DiameterDecoder.default watchdogChunk rfl (by decide)⟩

def lengthlessChunk : StreamChunk :=
  hostChunk 0 .tcp 49152 3868 (1 :: 0 :: 0 :: 0 :: watchdogBytes.drop 4)

theorem lengthless_panics :
    HasHeader lengthlessChunk.payload ∧ DiameterDecoder.isTls lengthlessChunk = false ∧
      DiameterDecoder.default.onStreamChunk lengthlessChunk = .error (.sliceOrder 20 0) := by
  refine ⟨by decide, rfl, ?_⟩
  exact DiameterDecoder.default.onStreamChunk_of_lt rfl (by decide) (by decide)

end MarlinspikeDpi.Diameter
