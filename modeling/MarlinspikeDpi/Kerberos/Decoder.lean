import MarlinspikeDpi.Engine.Decoder
import MarlinspikeDpi.Kerberos.Messages

/-!
# Kerberos messages on TCP and UDP

On TCP a message follows its length in four bytes; on UDP it is the datagram. Every message is a
transaction of its own.
-/

namespace MarlinspikeDpi.Kerberos

open Engine Bytes Text

/-! ## Framing -/

def isKrbTag (b : UInt8) : Bool :=
  match b with
  | tagAsReq | tagAsRep | tagTgsReq | tagTgsRep | tagApReq | tagApRep | tagKrbError => true
  | _ => false

/-- The message behind the length, or the bytes themselves if they begin with the tag of a
message. -/
def tcpPayload (buf : List UInt8) : Option (List UInt8) :=
  if buf.length < 4 then none
  else if isKrbTag (byteAt buf 0) then some buf
  else
    let msgLen := beNat (buf.take 4)
    if buf.length < 4 + msgLen then none else some (slice buf 4 msgLen)

/-! ## Events -/

def envelope (chunk : StreamChunk) (transport : TransportProtocol) : EventEnvelope :=
  buildEnvelope chunk.context chunk.toFrameInfo transport (some "kerberos") chunk.sessionKey

def anomaly (chunk : StreamChunk) (transport : TransportProtocol) (severity reason : String)
    (excerpt : List UInt8) : BronzeEvent :=
  parseAnomalyEvent chunk.captureId (envelope chunk transport) "kerberos" severity reason excerpt

def asset (chunk : StreamChunk) (transport : TransportProtocol) (assetKey : IpAddr) (role : String)
    (identifiers : List (String × Option String)) : BronzeEvent :=
  newEvent chunk.captureId (envelope chunk transport) (.assetObservation
    { assetKey := assetKey.display, role := some role, protocols := ["kerberos"],
      identifiers :=
        OrderedMap.empty.extend (identifiers.filterMap fun entry => entry.2.map (entry.1, ·)) })

def msgOperation (tag : UInt8) : String :=
  match tag with
  | tagAsReq => "kerberos_as_req"
  | tagAsRep => "kerberos_as_rep"
  | tagTgsReq => "kerberos_tgs_req"
  | tagTgsRep => "kerberos_tgs_rep"
  | tagApReq => "kerberos_ap_req"
  | tagApRep => "kerberos_ap_rep"
  | tagKrbError => "kerberos_error"
  | _ => "kerberos_unknown"

def msgStatus (tag : UInt8) : String :=
  match tag with
  | tagKrbError => "error"
  | tagAsReq | tagTgsReq | tagApReq => "request_only"
  | tagAsRep | tagTgsRep | tagApRep => "response_only"
  | _ => "ok"

def numberOr (value : Option Int) : String := (value.map toString).getD "?"

def buildSummary (m : KrbMsg) (tag : UInt8) : Option String :=
  match tag with
  | tagAsReq | tagTgsReq => some
    (m.cname.getD "?" ++ "@" ++ m.realm.getD "?" ++ " → " ++ m.sname.getD "?")
  | tagAsRep | tagTgsRep =>
    some (m.cname.getD "?" ++ "@" ++ m.realm.getD "?" ++ " ticket=" ++ m.ticketSname.getD "?" ++
      " enc=" ++ numberOr m.encEtype)
  | tagApReq => some ("ticket=" ++ m.ticketSname.getD "?" ++ "@" ++ m.ticketRealm.getD "?")
  | tagKrbError =>
    some ("error=" ++ numberOr m.errorCode ++ " " ++ m.sname.getD "?" ++ "@" ++ m.svcRealm.getD "?")
  | _ => none

/-- At least eight hexadecimal digits of the 64 bits of a number. -/
def nonceText (nonce : Int) : String :=
  "0x" ++ String.ofList ((Nat.toDigits 16 (BitVec.ofInt 64 nonce).toNat).leftpad 8 '0')

def msgAttributes (m : KrbMsg) (tag : UInt8) : OrderedMap String String :=
  let entries : List (String × Option String) :=
    [("msg_tag", some ("0x" ++ hexPad 2 tag.toNat)), ("pvno", m.pvno.map toString),
      ("msg_type", m.msgType.map toString), ("cname", m.cname), ("realm", m.realm),
        ("sname", m.sname),
      ("ticket_realm", m.ticketRealm), ("ticket_sname", m.ticketSname),
      ("options", m.options.map fun v => "0x" ++ hexPad 8 v.toNat), ("etypes", m.etypes),
      ("nonce", m.nonce.map nonceText), ("from", m.fromTime), ("till", m.till), ("rtime", m.rtime),
      ("enc_etype", m.encEtype.map toString), ("error_code", m.errorCode.map toString),
        ("e_text", m.eText),
      ("svc_realm", m.svcRealm)]
  OrderedMap.empty.extend (entries.filterMap fun entry => entry.2.map (entry.1, ·))

/-! ## The decoder -/

def parseMsg (tag : UInt8) (content : List UInt8) : KrbMsg :=
  match tag with
  | tagAsReq | tagTgsReq => parseKdcReq content
  | tagAsRep | tagTgsRep => parseKdcRep content
  | tagApReq => parseApReq content
  | tagApRep => parseApRep content
  | _ => parseKrbError content

def isKdcReq (tag : UInt8) : Bool := tag == tagAsReq || tag == tagTgsReq

structure KerberosDecoder where
  /-- A server and a client have been reported. -/
  assetEmitted : Bool

namespace KerberosDecoder

def default : KerberosDecoder := ⟨false⟩

def transaction (chunk : StreamChunk) (transport : TransportProtocol) (tag : UInt8) (msg : KrbMsg) :
  BronzeEvent := newEvent chunk.captureId (envelope chunk transport) (.protocolTransaction
    { operation := msgOperation tag, status := msgStatus tag,
      requestSummary := buildSummary msg tag, objectRefs := msg.cname.toList ++ msg.realm.toList,
      attributes := msgAttributes msg tag })

def kdcAssets (chunk : StreamChunk) (transport : TransportProtocol) (msg : KrbMsg) :
    List BronzeEvent :=
  [asset chunk transport chunk.context.dstIp "kdc_server" [("realm", msg.realm)],
    asset chunk transport chunk.context.srcIp "kerberos_client"
      [("cname", msg.cname), ("realm", msg.realm)]]

def report (d : KerberosDecoder) (chunk : StreamChunk) (transport : TransportProtocol)
    (asn1 : List UInt8) (tag : UInt8) (msg : KrbMsg) : List BronzeEvent × KerberosDecoder :=
  let failure :=
    if tag = tagKrbError then
      [anomaly chunk transport "medium"
        ("kerberos error: code=" ++ numberOr msg.errorCode ++ " realm=" ++ msg.svcRealm.getD "?" ++
          " sname=" ++ msg.sname.getD "?") asn1]
    else []
  let events := transaction chunk transport tag msg :: failure
  if isKdcReq tag && !d.assetEmitted then (events ++ kdcAssets chunk transport msg, ⟨true⟩)
    else (events, d)

def decodeAsn1 (d : KerberosDecoder) (chunk : StreamChunk) (asn1 : List UInt8)
    (transport : TransportProtocol) : List BronzeEvent × KerberosDecoder :=
  if asn1.length < 2 then ([anomaly chunk transport "low" "kerberos payload too short" asn1], d)
  else
    let appTag := byteAt asn1 0
    if ¬isKrbTag appTag then
      ([anomaly chunk transport "low"
        ("unknown kerberos application tag 0x" ++ hexPad 2 appTag.toNat) asn1], d)
    else
      match berTlv asn1 with
      | none => ([anomaly chunk transport "low" "truncated kerberos asn.1 application tag" asn1], d)
      | some (_, content, _) => d.report chunk transport asn1 appTag (parseMsg appTag content)

def onStreamChunk (d : KerberosDecoder) (chunk : StreamChunk) :
  List BronzeEvent × KerberosDecoder := match tcpPayload chunk.payload with
  | none =>
    (if chunk.payload = [] then []
      else [anomaly chunk .tcp "low" "truncated kerberos tcp framing (4-byte length prefix)"
        chunk.payload], d)
  | some asn1 => d.decodeAsn1 chunk asn1 .tcp

def onDatagram (d : KerberosDecoder) (chunk : StreamChunk) : List BronzeEvent × KerberosDecoder :=
  d.decodeAsn1 chunk chunk.payload .udp

end KerberosDecoder

instance : SessionDecoder KerberosDecoder where
  name _ := "kerberos"
  interest _ := [.tcpPort 88, .udpPort 88, .tcpPort 464, .udpPort 464]
  onDatagram := KerberosDecoder.onDatagram
  onStreamChunk := KerberosDecoder.onStreamChunk

end MarlinspikeDpi.Kerberos
