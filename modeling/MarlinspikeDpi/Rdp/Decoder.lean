import MarlinspikeDpi.Engine.Decoder
import MarlinspikeDpi.Foundation.Staged

/-!
# Connection requests on port 3389

The decoder waits for the request of the client, which it keeps until the confirmation of the server
is there.
-/

namespace MarlinspikeDpi.Rdp

open Engine Bytes Text

def tpktVersion : UInt8 := 3

def tpktHeaderLen : Nat := 4

def x224Cr : UInt8 := 0xE0

def x224Cc : UInt8 := 0xD0

/-! ## Requests and confirmations -/

structure PendingCr where
  mstshash : Option String
  requestedProtocols : Option UInt32
  tpduClass : UInt8

inductive CcPayload where
  | negResponse (selectedProtocol : UInt32)
  | negFailure (failureCode : UInt32)
  | bare

def u16At (data : List UInt8) (i : Nat) : UInt16 := UInt16.ofNat (leNat (slice data i 2))

def u32At (data : List UInt8) (i : Nat) : UInt32 := UInt32.ofNat (leNat (slice data i 4))

def parseNegRequest (data : List UInt8) : Option UInt32 :=
  if data.length < 8 ∨ byteAt data 0 ≠ 1 then none
  else if u16At data 2 ≠ 8 then none
  else some (u32At data 4)

def crlfPosition : List UInt8 → Option Nat
  | 0x0D :: 0x0A :: _ => some 0
  | _ :: rest => (crlfPosition rest).map (· + 1)
  | [] => none

def parseCookie (userData : List UInt8) : Option String × List UInt8 :=
  let start := utf8 "Cookie: mstshash="
  if start.isPrefixOf userData then
    let rest := userData.drop start.length
    match crlfPosition rest with
    | some crlf => (utf8Strict (rest.take crlf), rest.drop (crlf + 2))
    | none => (none, userData)
  else (none, userData)

def parseCr (tpdu : List UInt8) : Option PendingCr :=
  if tpdu.length < 7 then none
  else
    let li := (byteAt tpdu 0).toNat
    if li < 6 ∨ tpdu.length < li + 1 then none
    else
      let (mstshash, negData) := parseCookie (tpdu.drop (li + 1))
      some
        { mstshash, requestedProtocols := parseNegRequest negData, tpduClass :=
          byteAt tpdu 6 >>> 4 }

def parseCc (tpdu : List UInt8) : Option CcPayload :=
  if tpdu.length < 7 then none
  else
    let li := (byteAt tpdu 0).toNat
    if li < 6 ∨ tpdu.length < li + 1 then none
    else
      let userData := tpdu.drop (li + 1)
      if userData.length < 8 then some .bare
      else if u16At userData 2 ≠ 8 then some .bare
      else
        match byteAt userData 0 with
        | 2 => some (.negResponse (u32At userData 4))
        | 3 => some (.negFailure (u32At userData 4))
        | _ => some .bare

/-! ## Events -/

variable (chunk : StreamChunk)

def envelope : EventEnvelope :=
  buildEnvelope chunk.context chunk.toFrameInfo .tcp (some "rdp") chunk.sessionKey

def versionAnomaly (data : List UInt8) : BronzeEvent :=
  parseAnomalyEvent chunk.captureId (envelope chunk) "rdp" "low"
    "unexpected TPKT version byte — not RDP or mid-stream capture" data

def clientAsset (mstshash : String) : BronzeEvent :=
  let srcIp := chunk.context.srcIp.display
  newEvent chunk.captureId (envelope chunk) (.assetObservation
    { assetKey := srcIp, role := some "rdp_client", protocols := ["rdp"],
      identifiers := OrderedMap.empty.extend [("ip", srcIp), ("mstshash_username", mstshash)] })

def hex32 (n : UInt32) : String := "0x" ++ hexPad 8 n.toNat

def CcPayload.status : CcPayload → String
  | negResponse _ => "ok"
  | negFailure _ => "failed"
  | bare => "observed"

def CcPayload.summary : CcPayload → String
  | negResponse selectedProtocol => "CC negotiation_response selected=" ++ hex32 selectedProtocol
  | negFailure failureCode => "CC negotiation_failure code=" ++ hex32 failureCode
  | bare => "CC (no negotiation IE)"

def CcPayload.attributes : CcPayload → List (String × String)
  | negResponse selectedProtocol => [("selected_protocol_hex", hex32 selectedProtocol)]
  | negFailure failureCode => [("negotiation_failure_code", hex32 failureCode)]
  | bare => []

def transaction (cr : PendingCr) (cc : CcPayload) : BronzeEvent :=
  newEvent chunk.captureId (envelope chunk) (.protocolTransaction
    { operation := "rdp_connect"
      status := cc.status
      requestSummary :=
        some (cr.mstshash.elim "CR without cookie" fun user => "CR with cookie " ++ user)
      responseSummary := some cc.summary
      attributes := OrderedMap.empty.extend ([("tpdu_class", toString cr.tpduClass.toNat)] ++
          cr.requestedProtocols.toList.map (fun rp => ("requested_protocols_hex", hex32 rp)) ++
          cr.mstshash.toList.map ("mstshash", ·) ++ cc.attributes) })

/-! ## The decoder -/

inductive State where
  | awaitingCr
  | awaitingCc (cr : PendingCr)
  | done

def State.isDone : State → Bool
  | done => true
  | _ => false

abbrev RdpDecoder : Type := Staged.Progress State UInt8

/-- The length of the TPKT at the front of the buffer, if it is whole, and what is said about a
wrong version. -/
def checkTpkt (data : List UInt8) : List BronzeEvent × Option Nat :=
  if data.length < tpktHeaderLen then ([], none)
  else if byteAt data 0 ≠ tpktVersion then ([versionAnomaly chunk data], none)
  else
    let total := beNat (slice data 2 2)
    if total < tpktHeaderLen ∨ data.length < total then ([], none) else ([], some total)

def onTpdu (state : State) (tpdu rest : List UInt8) : Staged.Move State UInt8 BronzeEvent :=
  match state with
  | .awaitingCr =>
    match if byteAt tpdu 1 = x224Cr then parseCr tpdu else none with
    | some cr => .go (cr.mstshash.toList.map (clientAsset chunk)) (.awaitingCc cr) rest
    | none => .go [] .awaitingCr rest
  | .awaitingCc cr =>
    if byteAt tpdu 1 = x224Cc then .halt
      ((parseCc tpdu).toList.map (transaction chunk cr)) .done rest
    else .go [] (.awaitingCc cr) rest
  | .done => .wait []

def move (state : State) (buf : List UInt8) : Staged.Move State UInt8 BronzeEvent :=
  match checkTpkt chunk buf with
  | (events, none) => .wait events
  | (_, some total) =>
    let tpdu := (buf.take total).drop tpktHeaderLen
    if tpdu.length < 2 then .halt [] state (buf.drop total)
      else onTpdu chunk state tpdu (buf.drop total)

def reader : Staged.Reader StreamChunk State UInt8 BronzeEvent :=
  ⟨StreamChunk.payload, State.isDone, move⟩

namespace RdpDecoder

def default : RdpDecoder := ⟨.awaitingCr, []⟩

def onStreamChunk (d : RdpDecoder) (chunk : StreamChunk) : List BronzeEvent × RdpDecoder :=
  reader.feed d chunk

instance : SessionDecoder RdpDecoder where
  name _ := "rdp"
  interest _ := [.tcpPort 3389]
  onStreamChunk

end RdpDecoder

end MarlinspikeDpi.Rdp
