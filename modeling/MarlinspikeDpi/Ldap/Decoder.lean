import MarlinspikeDpi.Engine.Decoder
import MarlinspikeDpi.Foundation.Mealy
import MarlinspikeDpi.Foundation.Table
import MarlinspikeDpi.Ldap.Ber

/-!
# LDAP sessions

The bytes of a session are collected in a buffer until the SEQUENCE at its front is whole.
-/

namespace MarlinspikeDpi.Ldap

open Engine Bytes Text

/-! ## State -/

structure LdapSession where
  buf : List UInt8
  /-- The message ids of the requests that have no response yet. -/
  pending : Table (BitVec 64) Unit
  serverAssetEmitted : Bool

def LdapSession.default : LdapSession := ⟨[], ∅, false⟩

structure LdapDecoder where
  sessions : Table String LdapSession
  ldapsEmitted : Table String Unit

namespace LdapDecoder

def default : LdapDecoder := ⟨∅, ∅⟩

def session (d : LdapDecoder) (sessionKey : String) : LdapSession :=
  (d.sessions.lookup sessionKey).getD LdapSession.default

end LdapDecoder

/-! ## Taking messages from the buffer -/

inductive DrainResult where
  | message (msg : LdapMessage)
  | malformedBer (bytes : List UInt8)
  | invalidTag (excerpt : List UInt8)
deriving DecidableEq

def parseFrame (msgBytes : List UInt8) : DrainResult :=
  let lb := byteAt msgBytes 1
  let llen := if lb &&& 0x80 = 0 then 1 else 1 + (lb &&& 0x7F).toNat
  match parseLdapMessage (msgBytes.drop (1 + llen)) with
  | some msg => .message msg
  | none => .malformedBer msgBytes

def drainLoop : Nat → List UInt8 → List DrainResult × List UInt8
  | 0, buf => ([], buf)
  | fuel + 1, buf =>
    if buf.length < 2 then ([], buf)
    else if byteAt buf 0 ≠ tagSequence then ([.invalidTag buf], [])
    else
      match outerSequenceTotalLen buf with
      | none => ([], buf)
      | some total =>
        if buf.length < total then ([], buf)
        else
          let (results, rest) := drainLoop fuel (buf.drop total)
          (parseFrame (buf.take total) :: results, rest)

def drainBuffer (buf : List UInt8) : List DrainResult × List UInt8 := drainLoop buf.length buf

/-! ## Events -/

def envelope (chunk : StreamChunk) : EventEnvelope :=
  buildEnvelope chunk.context chunk.toFrameInfo .tcp (some "ldap") chunk.sessionKey

def asset (chunk : StreamChunk) (assetKey : IpAddr) (role protocol : String)
    (identifiers : OrderedMap String String) : BronzeEvent :=
  newEvent chunk.captureId (envelope chunk) (.assetObservation
    { assetKey := assetKey.display
      role := some role
      protocols := [protocol]
      identifiers })

def anomaly (chunk : StreamChunk) (severity reason : String) (excerpt : List UInt8) : BronzeEvent :=
  parseAnomalyEvent chunk.captureId (envelope chunk) "ldap" severity reason excerpt

def optional (name : String) (value : Option String) : List (String × String) :=
  value.toList.map (name, ·)

def messageAttributes (msg : LdapMessage) : OrderedMap String String :=
  let details := msg.details
  OrderedMap.empty.extend
    ([("message_id", toString msg.messageId.toInt),
      ("op_tag_hex", "0x" ++ hexPad 2 msg.opTag.toNat)] ++
      optional "dn" details.dn ++ optional "auth_type" details.authType ++
      optional "sasl_mechanism" details.saslMechanism ++
      optional "result_code" (details.resultCode.map fun rc => toString rc.toNat) ++
      optional "result_code_name" (details.resultCode.map resultCodeName) ++
      optional "matched_dn" details.matchedDn ++ optional "scope" (details.scope.map scopeName) ++
      optional "filter_type" details.filterType ++
      (if details.attributes = [] then []
        else [("attributes", ",".intercalate details.attributes)]) ++
      optional "extended_oid" details.extendedOid ++
      (if details.extendedOid = some starttlsOid then [("starttls", "true")] else []) ++
      optional "object_name" details.objectName)

def requestSummary (msg : LdapMessage) : Option String :=
  let details := msg.details
  let dn := details.dn.getD ""
  match msg.op with
  | some .bindRequest => some ("bind dn=\"" ++ dn ++ "\" auth=" ++ details.authType.getD "?")
  | some .searchRequest =>
    some ("search base=\"" ++ dn ++ "\" scope=" ++ (details.scope.map scopeName).getD "?" ++
      " filter=" ++ details.filterType.getD "?")
  | some .delRequest | some .modifyRequest | some .addRequest | some .modifyDnRequest
  | some .compareRequest => some ("dn=\"" ++ dn ++ "\"")
  | some .extendedRequest => some ("oid=" ++ details.extendedOid.getD "?")
  | some .searchResultEntry => some ("entry=\"" ++ details.objectName.getD "" ++ "\"")
  | _ => none

def responseSummary (msg : LdapMessage) : Option String :=
  if isResponseOp msg.op then
    let rc := msg.details.resultCode.getD 0
    some ("result=" ++ toString rc.toNat ++ " (" ++ resultCodeName rc ++ ")")
  else none

/-! ## Messages -/

def pair (pending : Table (BitVec 64) Unit) (msg : LdapMessage) : String × Table (BitVec 64) Unit :=
  if isPairedRequest msg.op then ("request_only", pending.insert msg.messageId ())
  else if isResponseOp msg.op then
    let rc := msg.details.resultCode.getD 0
    let status :=
      if (pending.lookup msg.messageId).isSome then if rc = 0 then "ok" else "error"
      else if rc = 0 then "response_only" else "error"
    (status, pending.erase msg.messageId)
  else ("ok", pending)

def emitMessage (chunk : StreamChunk) (s : LdapSession) (msg : LdapMessage) :
  List BronzeEvent × LdapSession := let server :=
    if s.serverAssetEmitted then []
    else [asset chunk chunk.context.dstIp "ldap_server" "ldap" OrderedMap.empty]
  let (status, pending) := pair s.pending msg
  let failedBind :=
    if msg.op = some .bindResponse ∧ msg.details.resultCode.getD 0 = 49 then
      [anomaly chunk "medium" "LDAP bind failed: invalidCredentials (49)" []]
    else []
  let starttls :=
    if msg.op = some .extendedRequest ∧ msg.details.extendedOid = some starttlsOid then
      [anomaly chunk "low"
        "StartTLS negotiation detected — session may go opaque after this message" []]
    else []
  let client :=
    if msg.op = some .bindRequest then
      (msg.details.dn.filter fun dn => dn != "").toList.map fun dn =>
        asset chunk chunk.context.srcIp "ldap_client" "ldap"
          (OrderedMap.empty.extend
            (("bind_dn", dn) :: optional "sasl_mechanism" msg.details.saslMechanism))
    else []
  let transaction := newEvent chunk.captureId (envelope chunk) (.protocolTransaction
    { operation := opName msg.op, status, requestSummary := requestSummary msg,
      responseSummary := responseSummary msg, attributes := messageAttributes msg })
  (server ++ failedBind ++ starttls ++ client ++ [transaction],
    { s with pending, serverAssetEmitted := true })

def emitResult (chunk : StreamChunk) (s : LdapSession) : DrainResult →
    List BronzeEvent × LdapSession
  | .message msg => emitMessage chunk s msg
  | .malformedBer msgBytes =>
    ([anomaly chunk "low" "malformed BER in LDAPMessage content" msgBytes], s)
  | .invalidTag excerpt =>
    ([anomaly chunk "low" "expected BER SEQUENCE (0x30) at start of LDAP message" excerpt], s)

/-! ## Chunks -/

namespace LdapDecoder

def handleLdaps (d : LdapDecoder) (chunk : StreamChunk) : List BronzeEvent × LdapDecoder :=
  if (d.ldapsEmitted.lookup chunk.sessionKey).isSome then ([], d)
  else
    ([asset chunk chunk.context.dstIp "ldap_server" "ldaps" OrderedMap.empty,
        newEvent chunk.captureId (envelope chunk) (.protocolTransaction
          { operation := "ldap_tls_session", status := "observed", attributes :=
            OrderedMap.empty })],
      { d with ldapsEmitted := d.ldapsEmitted.insert chunk.sessionKey () })

def drained (d : LdapDecoder) (chunk : StreamChunk) : List DrainResult × List UInt8 :=
  drainBuffer ((d.session chunk.sessionKey).buf ++ chunk.payload)

def handleLdapPlaintext (d : LdapDecoder) (chunk : StreamChunk) : List BronzeEvent × LdapDecoder :=
  let (results, rest) := d.drained chunk
  let (events, s) := Mealy.run (emitResult chunk) { d.session chunk.sessionKey with buf :=
    rest } results
  (events, { d with sessions := d.sessions.insert chunk.sessionKey s })

def isLdaps (chunk : StreamChunk) : Bool :=
  chunk.context.dstPort == 636 || chunk.context.srcPort == 636

def onStreamChunk (d : LdapDecoder) (chunk : StreamChunk) : List BronzeEvent × LdapDecoder :=
  if isLdaps chunk then d.handleLdaps chunk else d.handleLdapPlaintext chunk

end LdapDecoder

instance : SessionDecoder LdapDecoder where
  name _ := "ldap"
  interest _ := [.tcpPort 389, .tcpPort 636]
  onStreamChunk := LdapDecoder.onStreamChunk

/-! ## What a chunk leaves behind -/

lemma buf_emitResult (chunk : StreamChunk) (s : LdapSession) (result : DrainResult) :
    (emitResult chunk s result).2.buf = s.buf := by
  cases result with
  | message msg => rfl
  | malformedBer bytes => rfl
  | invalidTag excerpt => rfl

namespace LdapDecoder

def bufferOf (d : LdapDecoder) (key : String) : List UInt8 := (d.session key).buf

lemma session_handleLdapPlaintext (d : LdapDecoder) (chunk : StreamChunk) :
    (d.handleLdapPlaintext chunk).2.session chunk.sessionKey =
      (Mealy.run (emitResult chunk) { d.session chunk.sessionKey with buf := (d.drained chunk).2 }
        (d.drained chunk).1).2 := by
  simp only [session, handleLdapPlaintext, AList.lookup_insert, Option.getD_some]

lemma bufferOf_handleLdapPlaintext (d : LdapDecoder) (chunk : StreamChunk) :
    (d.handleLdapPlaintext chunk).2.bufferOf chunk.sessionKey = (d.drained chunk).2 := by
  rw [bufferOf, session_handleLdapPlaintext]
  exact Mealy.view_run_eq _ _ (buf_emitResult chunk) _ _

lemma session_onStreamChunk_of_ne (d : LdapDecoder) {chunk : StreamChunk} {key : String}
    (hkey : chunk.sessionKey ≠ key) : (d.onStreamChunk chunk).2.session key = d.session key := by
  unfold onStreamChunk
  split
  · unfold handleLdaps
    split <;> rfl
  · have hlookup : (d.handleLdapPlaintext chunk).2.sessions.lookup key = d.sessions.lookup key :=
      AList.lookup_insert_ne (Ne.symm hkey)
    rw [session, hlookup, session]

end LdapDecoder

end MarlinspikeDpi.Ldap
