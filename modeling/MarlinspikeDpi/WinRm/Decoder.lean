import MarlinspikeDpi.Engine.Decoder
import MarlinspikeDpi.Foundation.Table

/-!
# WS-Management over HTTP and over TLS

On port 5985 a chunk is searched for the request line, a few headers and the action of a SOAP
envelope; nothing is parsed.
-/

namespace MarlinspikeDpi.WinRm

open Engine Bytes Text

/-! ## Searching bytes -/

/-- The first position from which on `haystack` agrees with `needle`; an empty needle is never
found. -/
def findWith (same : UInt8 → UInt8 → Bool) (haystack needle : List UInt8) : Option Nat :=
  if needle = [] ∨ haystack.length < needle.length then none
  else
    (List.range (haystack.length - needle.length + 1)).find? fun i =>
      ((haystack.drop i).zip needle).all fun (h, n) => same h n

def asciiLowercase (b : UInt8) : UInt8 := if 0x41 ≤ b ∧ b ≤ 0x5A then b + 32 else b

def findBytesCi : List UInt8 → List UInt8 → Option Nat :=
  findWith fun h n => asciiLowercase h == asciiLowercase n

def findBytes : List UInt8 → List UInt8 → Option Nat := findWith fun h n => h == n

variable (payload : List UInt8)

/-- What stands behind the name of a header, up to the end of the line. -/
def extractHeaderValue (header : String) : Option String := do
  let needle := (utf8 header).map asciiLowercase ++ utf8 ":"
  let pos ← findBytesCi payload needle
  let afterColon := pos + needle.length
  let value := (payload.drop afterColon).dropWhile fun b => b == 0x20 || b == 0x09
  utf8Strict (value.take ((findBytes value (utf8 "\r\n")).getD value.length))

/-- The last `<` in the ten bytes before a position. -/
def tagStart (pos : Nat) : Option Nat :=
  let searchStart := pos - 10
  let before := slice payload searchStart (pos - searchStart)
  (before.reverse.findIdx? (· == 0x3C)).map fun i => searchStart + (before.length - 1 - i)

def elementText (valueStart : Nat) : Option String := do
  let closePos ← findBytes (payload.drop valueStart) (utf8 "</")
  let text ← utf8Strict (slice payload valueStart closePos)
  return trimMatches isWhiteSpace text

def opensTag (ltPos : Nat) : Bool := payload[ltPos + 1]? != some 0x2F

def soapActionFrom : Nat → List UInt8 → Nat → Option String
  | 0, _, _ => none
  | rounds + 1, payload, searchFrom => do
      let rel ← findBytes (payload.drop searchFrom) (utf8 "Action>")
      let found := searchFrom + rel
      if (tagStart payload found).any (opensTag payload) then elementText payload (found + 7)
      else if payload.length ≤ found + 1 then none
      else soapActionFrom rounds payload (found + 1)

def extractSoapAction : Option String := do
  let pos ← findBytes payload (utf8 "Action>")
  -- without a `<` before the first hit there is no further search
  let ltPos ← tagStart payload pos
  if opensTag payload ltPos then elementText payload (pos + 7)
  else soapActionFrom (payload.length + 1) payload 0

def isWsmanPost : Bool :=
  (utf8 "POST /wsman/").isPrefixOf payload || (utf8 "POST /wsman\r\n").isPrefixOf payload ||
    (utf8 "POST /wsman ").isPrefixOf payload

def looksLikeHttp : Bool :=
  ["GET ", "POST ", "PUT ", "DELETE ", "HEAD ", "OPTIONS ", "PATCH ", "HTTP/"].any fun method =>
    (utf8 method).isPrefixOf (payload.take 16)

/-! ## Names -/

def wsmActionName (uri : String) : Option String :=
  match uri with
  | "http://schemas.xmlsoap.org/ws/2004/09/transfer/Get" => some "winrm_get"
  | "http://schemas.xmlsoap.org/ws/2004/09/transfer/Put" => some "winrm_put"
  | "http://schemas.xmlsoap.org/ws/2004/09/transfer/Create" => some "winrm_create"
  | "http://schemas.xmlsoap.org/ws/2004/09/transfer/Delete" => some "winrm_delete"
  | "http://schemas.xmlsoap.org/ws/2004/09/enumeration/Enumerate" => some "winrm_enumerate"
  | "http://schemas.xmlsoap.org/ws/2004/09/enumeration/Pull" => some "winrm_pull"
  | "http://schemas.xmlsoap.org/ws/2004/09/transfer/CommandLine" => some "winrm_command"
  | "http://schemas.microsoft.com/wbem/wsman/1/windows/shell/Command" => some "winrm_shell_command"
  | "http://schemas.microsoft.com/wbem/wsman/1/windows/shell/Receive" => some "winrm_shell_receive"
  | "http://schemas.microsoft.com/wbem/wsman/1/windows/shell/Send" => some "winrm_shell_send"
  | "http://schemas.microsoft.com/wbem/wsman/1/windows/shell/Signal" => some "winrm_shell_signal"
  | _ => none

def operationOf (actionUri : Option String) : String :=
  match actionUri with
  | some uri =>
    if uri = "" then "winrm_request_no_action" else (wsmActionName uri).getD "winrm_unknown_action"
  | none => "winrm_request_no_action"

lemma wsmActionName_ne (uri : String) : wsmActionName uri ≠ some "winrm_https_session" := by
  unfold wsmActionName
  split <;> decide

lemma operationOf_ne (actionUri : Option String) :
    operationOf actionUri ≠ "winrm_https_session" := by
  cases actionUri with
  | none => decide
  | some uri =>
    rw [operationOf]
    split
    · decide
    · cases hname : wsmActionName uri with
      | none => decide
      | some name =>
        intro hsame
        have hname' : name = "winrm_https_session" := hsame
        exact wsmActionName_ne uri (by rw [hname, hname'])

/-! ## Events -/

variable (chunk : StreamChunk)

/-- The port that decides how a chunk is read: the destination's before the source's. -/
def winrmPort : Option UInt16 :=
  if chunk.context.dstPort = 5985 ∨ chunk.context.dstPort = 5986 then some chunk.context.dstPort
  else if chunk.context.srcPort = 5985 ∨ chunk.context.srcPort = 5986
    then some chunk.context.srcPort
  else none

def envelope : EventEnvelope :=
  buildEnvelope chunk.context chunk.toFrameInfo .tcp (some "winrm") chunk.sessionKey

def server (serverIp : String) : BronzeEvent :=
  newEvent chunk.captureId (envelope chunk) (.assetObservation
    { assetKey := serverIp, role := some "winrm_server", protocols := ["winrm"],
      identifiers := OrderedMap.empty.insert "ip" serverIp })

def transaction (operation summary : String) (attributes : List (String × String)) : BronzeEvent :=
  newEvent chunk.captureId (envelope chunk) (.protocolTransaction
    { operation, status := "observed", requestSummary := some summary,
      attributes := OrderedMap.empty.extend attributes })

def httpsSession : BronzeEvent :=
  transaction chunk "winrm_https_session" "WinRM/HTTPS session (5986, payload opaque)"
    [("note", "TLS-encrypted, payload opaque")]

def request : BronzeEvent :=
  let soapActionHeader :=
    (extractHeaderValue chunk.payload "SOAPAction").map (trimMatches (· == '"'))
  -- the action in the body comes before the one in the header
  let actionUri := (extractSoapAction chunk.payload).or soapActionHeader
  let operation := operationOf actionUri
  transaction chunk operation ("POST /wsman Action=" ++ operation)
    ((actionUri.map (Prod.mk "soap_action_uri")).toList ++
      ((extractHeaderValue chunk.payload "Host").map (Prod.mk "host_header")).toList ++
      ((extractHeaderValue chunk.payload "User-Agent").map (Prod.mk "user_agent")).toList)

/-! ## The decoder -/

structure WinRmSession where
  httpsEmitted : Bool

structure WinRmDecoder where
  sessions : Table String WinRmSession

namespace WinRmDecoder

def default : WinRmDecoder := ⟨∅⟩

/-- The events for a chunk on port 5985 beside the server. -/
def plaintextEvents (chunk : StreamChunk) : List BronzeEvent :=
  if chunk.payload = [] then []
  else if isWsmanPost chunk.payload then [request chunk]
  else if looksLikeHttp chunk.payload then []
  else
    [parseAnomalyEvent chunk.captureId (envelope chunk) "winrm" "low"
      "5985 traffic does not match expected HTTP/WS-Management pattern" chunk.payload]

def marked (d : WinRmDecoder) (sessionKey : String) : Bool :=
  (d.sessions.lookup sessionKey).any WinRmSession.httpsEmitted

def onStreamChunk (d : WinRmDecoder) (chunk : StreamChunk) : List BronzeEvent × WinRmDecoder :=
  match winrmPort chunk with
  | none => ([], d)
  | some port =>
    let serverIp :=
      if chunk.context.dstPort = port then chunk.context.dstIp.display
        else chunk.context.srcIp.display
    if port = 5986 then
      if d.marked chunk.sessionKey then ([server chunk serverIp], d)
      else
        ([server chunk serverIp, httpsSession chunk], ⟨d.sessions.insert chunk.sessionKey ⟨true⟩⟩)
    else (server chunk serverIp :: plaintextEvents chunk, d)

def evictIdle (_ : WinRmDecoder) (_ : DateTime) : List BronzeEvent × WinRmDecoder := ([], default)

end WinRmDecoder

instance : SessionDecoder WinRmDecoder where
  name _ := "winrm"
  interest _ := [.tcpPort 5985, .tcpPort 5986]
  onStreamChunk := WinRmDecoder.onStreamChunk
  evictIdle := WinRmDecoder.evictIdle

end MarlinspikeDpi.WinRm
