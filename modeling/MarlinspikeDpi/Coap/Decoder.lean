import MarlinspikeDpi.Engine.Decoder
import MarlinspikeDpi.Foundation.Checked

/-!
# CoAP datagrams

A datagram on port 5683 has a header of four bytes, a token, and options whose numbers are given as
differences.
-/

namespace MarlinspikeDpi.Coap

open Engine Bytes Text

/-! ## Options -/

/-- The difference or the length that a nibble stands for, and the position behind its further
bytes. The sum for two further bytes is one of 16-bit numbers. -/
def decodeExtended (nibble : UInt8) (buf : List UInt8) (pos : Nat) : Checked (Option (Nat × Nat)) :=
  if nibble ≤ 12 then .ok (some (nibble.toNat, pos))
  else if nibble = 13 then .ok (buf[pos]?.map fun b => (b.toNat + 13, pos + 1))
  else if nibble = 14 then
    match buf[pos]?, buf[pos + 1]? with
    | some hi, some lo => do
        let value ← Checked.addU16 (hi.toNat * 256 + lo.toNat) 269
        return some (value, pos + 2)
    | _, _ => .ok none
  else .ok none

structure ParsedOptions where
  uriHost : Option String
  (uriPath uriQuery : List String)
  contentFormat : Option UInt32

namespace ParsedOptions

def default : ParsedOptions := ⟨none, [], [], none⟩

def record (opts : ParsedOptions) (number : Nat) (value : List UInt8) : ParsedOptions :=
  match number with
  | 3 => { opts with uriHost := some (utf8Lossy value) }
  | 11 => { opts with uriPath := opts.uriPath ++ [utf8Lossy value] }
  | 15 => { opts with uriQuery := opts.uriQuery ++ [utf8Lossy value] }
  | 12 =>
    { opts with
      contentFormat := some (value.foldl (fun a b => (a <<< 8) ||| UInt32.ofNat b.toNat) 0) }
  | _ => opts

end ParsedOptions

def parseOptionsLoop : Nat → List UInt8 → Nat → Nat → ParsedOptions →
    Checked (Option (ParsedOptions × Nat))
  | 0, _, pos, _, opts => .ok (some (opts, pos))
  | rounds + 1, buf, pos, current, opts =>
    match buf[pos]? with
    | none => .ok (some (opts, pos))
    | some nb =>
      -- the marker before the payload
      if nb = 0xFF then .ok (some (opts, pos + 1))
      else if (nb >>> 4) &&& 0x0F = 15 then .ok none
      else do
        match ← decodeExtended ((nb >>> 4) &&& 0x0F) buf (pos + 1) with
        | none => return none
        | some (delta, pos) =>
          match ← decodeExtended (nb &&& 0x0F) buf pos with
          | none => return none
          | some (length, pos) =>
            if buf.length < pos + length then return none
            else if 65535 < current + delta then return none
            else
              parseOptionsLoop rounds buf (pos + length) (current + delta)
                (opts.record (current + delta) (slice buf pos length))

/-- The options from a position on, and the position of the payload. Every round takes at least one
byte. -/
def parseOptions (buf : List UInt8) (pos : Nat) : Checked (Option (ParsedOptions × Nat)) :=
  parseOptionsLoop (buf.length - pos + 1) buf pos 0 ParsedOptions.default

/-! ## Names -/

def coapOperation (code tkl : UInt8) : String :=
  if code = 0x00 ∧ tkl = 0 then "coap_empty"
  else
    match code with
    | 0x01 => "coap_get"
    | 0x02 => "coap_post"
    | 0x03 => "coap_put"
    | 0x04 => "coap_delete"
    | 0x05 => "coap_fetch"
    | 0x06 => "coap_patch"
    | 0x07 => "coap_ipatch"
    | _ => if code >>> 5 = 2 ∨ code >>> 5 = 4 ∨ code >>> 5 = 5 then "coap_response"
      else "coap_unknown"

def twoDigits (n : Nat) : String := if n < 10 then "0" ++ toString n else toString n

def coapStatus (code : UInt8) : String :=
  if code >>> 5 = 2 ∨ code >>> 5 = 4 ∨ code >>> 5 = 5 then
    "coap_" ++ toString (code >>> 5).toNat ++ "." ++ twoDigits (code &&& 0x1F).toNat
  else "observed"

def typeName (t : UInt8) : String :=
  match t with
  | 0 => "CON"
  | 1 => "NON"
  | 2 => "ACK"
  | 3 => "RST"
  | _ => "UNKNOWN"

/-! ## Events -/

variable (chunk : StreamChunk)

def envelope : EventEnvelope :=
  buildEnvelope chunk.context chunk.toFrameInfo .udp (some "coap") chunk.sessionKey

def anomaly (reason : String) : BronzeEvent :=
  parseAnomalyEvent chunk.captureId (envelope chunk) "coap" "low" reason chunk.payload

def transaction (operation status : String) (summary : Option String)
    (attributes : List (String × String)) : BronzeEvent :=
  newEvent chunk.captureId (envelope chunk) (.protocolTransaction
    { operation, status, requestSummary := summary, attributes :=
      OrderedMap.empty.extend attributes })

def dtlsSession : BronzeEvent :=
  transaction chunk "coap_dtls_session" "observed" none [("note", "DTLS-encrypted, payload opaque")]

/-- The message of a datagram whose header, token and options have been read. -/
def message (opts : ParsedOptions) : BronzeEvent :=
  let first := byteAt chunk.payload 0
  let ver := (first >>> 6) &&& 0x03
  let tn := typeName ((first >>> 4) &&& 0x03)
  let tkl := first &&& 0x0F
  let code := byteAt chunk.payload 1
  let messageId := beNat (slice chunk.payload 2 2)
  transaction chunk (coapOperation code tkl) (coapStatus code)
    (some ("CoAP " ++ tn ++ " " ++ toString (code >>> 5).toNat ++ "." ++ twoDigits
      (code &&& 0x1F).toNat ++ " id=" ++ toString messageId))
    ([("version", toString ver.toNat), ("type_name", tn), ("code_hex", "0x" ++ hexPad 2 code.toNat),
        ("message_id", toString messageId),
          ("token_hex", hexEncode (slice chunk.payload 4 tkl.toNat))] ++
      opts.uriHost.toList.map ("uri_host", ·) ++
      (if opts.uriPath = [] then [] else [("uri_path", "/".intercalate opts.uriPath)]) ++
      (if opts.uriQuery = [] then [] else [("uri_query", "&".intercalate opts.uriQuery)]) ++
      opts.contentFormat.toList.map fun cf => ("content_format", toString cf.toNat))

/-! ## Datagrams -/

structure CoapDecoder where
  dtlsEmitted : Bool

namespace CoapDecoder

def default : CoapDecoder := ⟨false⟩

def handleDtls (d : CoapDecoder) (chunk : StreamChunk) : List BronzeEvent × CoapDecoder :=
  if d.dtlsEmitted then ([], d) else ([dtlsSession chunk], ⟨true⟩)

def handleCoap (chunk : StreamChunk) : Checked (List BronzeEvent) :=
  let buf := chunk.payload
  if buf.length < 4 then .ok [anomaly chunk "coap datagram too short (< 4 bytes)"]
  else
    let ver := (byteAt buf 0 >>> 6) &&& 0x03
    let tkl := byteAt buf 0 &&& 0x0F
    if ver ≠ 1 then .ok [anomaly chunk ("coap version " ++ toString ver.toNat ++ " != 1")]
    else if 8 < tkl then .ok [anomaly chunk ("coap TKL " ++ toString tkl.toNat ++ " > 8 (invalid)")]
    else if buf.length < 4 + tkl.toNat then
      .ok [anomaly chunk "coap datagram truncated before token end"]
    else do
      match ← parseOptions buf (4 + tkl.toNat) with
      | none => return [anomaly chunk "coap option parse error (truncated or invalid delta)"]
      | some (opts, _) => return [message chunk opts]

def isDtls (chunk : StreamChunk) : Bool :=
  chunk.context.dstPort == 5684 || chunk.context.srcPort == 5684

def onDatagram (d : CoapDecoder) (chunk : StreamChunk) : Checked (List BronzeEvent × CoapDecoder) :=
  if isDtls chunk then .ok (d.handleDtls chunk)
  else do
    let events ← handleCoap chunk
    return (events, d)

def interest : List DecoderInterest := [.udpPort 5683, .udpPort 5684]

end CoapDecoder

end MarlinspikeDpi.Coap
