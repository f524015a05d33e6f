import MarlinspikeDpi.Engine.Decoder
import MarlinspikeDpi.Foundation.Staged

/-!
# RFB handshakes on the ports 5900 to 5910

The decoder waits for the version of the server, for that of the client, and for the security types
that the server offers.
-/

namespace MarlinspikeDpi.Vnc

open Engine Bytes Text

def bannerLen : Nat := 12

def securityTypeName (t : UInt8) : String :=
  match t with
  | 0 => "invalid"
  | 1 => "none"
  | 2 => "vnc_auth"
  | 5 => "ra2"
  | 6 => "ra2ne"
  | 16 => "tight"
  | 17 => "ultra"
  | 18 => "tls"
  | 19 => "vencrypt"
  | 20 => "gtk_vnc_sasl"
  | 21 => "md5_hash_auth"
  | 22 => "colin_dean_xvp"
  | 30 => "apple_remote_desktop"
  | _ => "unknown"

/-! ## Versions -/

def versionNumber (digits : List UInt8) : Option Nat :=
  (utf8Strict digits).bind fun text => parseUnsigned 256 (trimMatches isWhiteSpace text)

def parseBanner (data : List UInt8) : Option (Nat × Nat × String) :=
  if data.length < bannerLen then none
  else if ¬ (utf8 "RFB ").isPrefixOf data then none
  else if byteAt data 7 ≠ 0x2E ∨ byteAt data 11 ≠ 0x0A then none
  else do
    let major ← versionNumber (slice data 4 3)
    let minor ← versionNumber (slice data 8 3)
    return (major, minor, toString major ++ "." ++ toString minor)

def clientVersion (banner : List UInt8) : String :=
  match parseBanner banner with
  | some (_, _, version) => version
  | none => trimEndMatches (· == '\n') (utf8Lossy banner)

/-! ## Events -/

variable (chunk : StreamChunk)

def envelope : EventEnvelope :=
  buildEnvelope chunk.context chunk.toFrameInfo .tcp (some "vnc") chunk.sessionKey

def bannerAnomaly (banner : List UInt8) : BronzeEvent :=
  parseAnomalyEvent chunk.captureId (envelope chunk) "vnc" "low"
    "server banner does not match RFB MMM.mmm\\n shape" banner

structure Handshake where
  (serverVersion clientVersion securityTypesOffered : String)
  chosenSecurityType : Option String
  status : String
  invalidReason : Option String

def connectTransaction (h : Handshake) : BronzeEvent :=
  newEvent chunk.captureId (envelope chunk) (.protocolTransaction
    { operation := "vnc_connect"
      status := h.status
      requestSummary := some ("VNC server RFB " ++ h.serverVersion)
      responseSummary :=
        some (if h.securityTypesOffered = "" then "security_types=none offered status=" ++ h.status
        else "security_types=[" ++ h.securityTypesOffered ++ "] status=" ++ h.status)
      attributes := OrderedMap.empty.extend
        ([("server_protocol_version", h.serverVersion),
          ("client_protocol_version", h.clientVersion)] ++
          (if h.securityTypesOffered = "" then []
            else [("security_types_offered", h.securityTypesOffered)]) ++
          h.chosenSecurityType.toList.map ("chosen_security_type", ·) ++
          h.invalidReason.toList.map ("invalid_reason", ·)) })

def serverAsset (h : Handshake) : BronzeEvent :=
  let serverIp := chunk.context.dstIp.display
  newEvent chunk.captureId (envelope chunk) (.assetObservation
    { assetKey := serverIp, role := some "vnc_server", protocols := ["vnc"],
      identifiers :=
        OrderedMap.empty.extend [("ip", serverIp), ("protocol_version", h.serverVersion)] })

def emitHandshake (h : Handshake) : List BronzeEvent :=
  [connectTransaction chunk h, serverAsset chunk h]

/-! ## The decoder -/

inductive State where
  | awaitingServerBanner
  | awaitingClientBanner (serverVersion : String) (major minor : Nat)
  | awaitingSecurityTypes (serverVersion clientVersion : String) (major minor : Nat)
  | done

def State.isDone : State → Bool
  | done => true
  | _ => false

abbrev VncDecoder : Type := Staged.Progress State UInt8

/-- Version 3.3: the server sends the type that it has chosen. -/
def directHandshake (serverVersion clientVersion : String) (buf : List UInt8) : Handshake :=
  let secType := beNat (slice buf 0 4)
  { serverVersion
    clientVersion
    securityTypesOffered := securityTypeName (UInt8.ofNat secType)
    chosenSecurityType := none
    status := if secType = 0 then "failed" else "ok"
    invalidReason := none }

/-- The reason why the server refuses, if it is there already, and what stands behind it. -/
def invalidReason (buf : List UInt8) : Option String × List UInt8 :=
  if buf.length < 4 then (none, buf)
  else
    let reasonLen := beNat (slice buf 0 4)
    if buf.length < 4 + reasonLen then (none, buf)
    else (utf8Strict (slice buf 4 reasonLen), buf.drop (4 + reasonLen))

/-- Version 3.7 and later: the server sends a list of types, and the client chooses. -/
def offeredHandshake (serverVersion clientVersion : String) (types behind : List UInt8) :
    Handshake × List UInt8 :=
  let (reason, behind) := if types.contains 0 ∧ types.length ≤ 1 then invalidReason behind
    else (none, behind)
  let (chosen, rest) :=
    match behind with
    | choice :: rest => if types = [] then (none, behind)
      else (some (securityTypeName choice), rest)
    | [] => (none, [])
  ({ serverVersion := serverVersion
     clientVersion
     securityTypesOffered := ",".intercalate (types.map securityTypeName)
     chosenSecurityType := chosen
     status := if types.all (· == 0) then "failed" else "ok"
     invalidReason := reason }, rest)

def move (state : State) (buf : List UInt8) : Staged.Move State UInt8 BronzeEvent :=
  match state with
  | .awaitingServerBanner =>
    if buf.length < bannerLen then .wait []
    else
      match parseBanner (buf.take bannerLen) with
      | none => .halt [bannerAnomaly chunk (buf.take bannerLen)] .done buf
      | some (major, minor, version) => .go [] (.awaitingClientBanner version major minor)
        (buf.drop bannerLen)
  | .awaitingClientBanner serverVersion major minor =>
    if buf.length < bannerLen then .wait []
    else
      .go [] (.awaitingSecurityTypes serverVersion (clientVersion (buf.take bannerLen)) major minor)
        (buf.drop bannerLen)
  | .awaitingSecurityTypes serverVersion clientVersion major minor =>
    if major = 3 ∧ minor ≤ 3 then
      if buf.length < 4 then .wait []
      else .halt (emitHandshake chunk (directHandshake serverVersion clientVersion buf)) .done
        (buf.drop 4)
    else
      match buf with
      | [] => .wait []
      | count :: behind =>
        if behind.length < count.toNat then .wait []
        else
          let (handshake, rest) :=
            offeredHandshake serverVersion clientVersion (behind.take count.toNat)
              (behind.drop count.toNat)
          .halt (emitHandshake chunk handshake) .done rest
  | .done => .wait []

def reader : Staged.Reader StreamChunk State UInt8 BronzeEvent :=
  ⟨StreamChunk.payload, State.isDone, move⟩

namespace VncDecoder

def default : VncDecoder := ⟨.awaitingServerBanner, []⟩

def onStreamChunk (d : VncDecoder) (chunk : StreamChunk) : List BronzeEvent × VncDecoder :=
  reader.feed d chunk

/-- The ports 5900 to 5910. -/
instance : SessionDecoder VncDecoder where
  name _ := "vnc"
  interest _ := (List.range 11).map fun i => .tcpPort (5900 + UInt16.ofNat i)
  onStreamChunk

end VncDecoder

end MarlinspikeDpi.Vnc
