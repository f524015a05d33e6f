import MarlinspikeDpi.Engine.Decoder
import MarlinspikeDpi.Foundation.Table
import MarlinspikeDpi.Foundation.Utf8

/-!
# SMTP sessions on the ports 25, 465 and 587

On port 465 a session is encrypted from its first byte, and is reported once. On the other ports the
chunks are read as texts, line by line.
-/

namespace MarlinspikeDpi.Smtp

open Engine Text

structure SmtpSession where
  (tlsActive done awaitingStarttls220 smtpsEmitted : Bool)
deriving DecidableEq

def SmtpSession.default : SmtpSession := ⟨false, false, false, false⟩

def SmtpSession.isQuiet (session : SmtpSession) : Bool := session.tlsActive || session.done

/-! ## Events -/

variable (chunk : StreamChunk)

def smtpEnv : EventEnvelope :=
  buildEnvelope chunk.context chunk.toFrameInfo .tcp (some "smtp") chunk.sessionKey

def txEvent (operation : String) (summary : Option String) (attributes : OrderedMap String String) :
  BronzeEvent := newEvent chunk.captureId (smtpEnv chunk) (.protocolTransaction
    { operation
      status := "observed"
      requestSummary := summary
      attributes })

def emitAnomaly (line : List Char) : BronzeEvent :=
  parseAnomalyEvent chunk.captureId (smtpEnv chunk) "smtp" "low" "unrecognised smtp line"
    (utf8 (String.ofList line))

def nonUtf8Anomaly : BronzeEvent :=
  parseAnomalyEvent chunk.captureId (smtpEnv chunk) "smtp" "low" "non-utf8 bytes on smtp session"
    chunk.payload

def serverAsset (vendor : Option String) (identifiers : List (String × String)) : BronzeEvent :=
  newEvent chunk.captureId (smtpEnv chunk) (.assetObservation
    { assetKey := chunk.context.dstIp.display, role := some "smtp_server", vendor,
      protocols := ["smtp"], identifiers := OrderedMap.empty.extend identifiers })

def smtpsEvents : List BronzeEvent :=
  [txEvent chunk "smtp_tls_session" none
      (OrderedMap.empty.extend [("note", "TLS-encrypted from first byte, payload opaque")]),
    serverAsset chunk none [("port", "465")]]

/-! ## Lines of the server -/

def detectVendor (banner : String) : Option String :=
  let lower := toAsciiLowercase banner
  if contains "postfix" lower then some "Postfix"
  else if contains "exim" lower then some "Exim"
  else if contains "sendmail" lower then some "Sendmail"
  else if contains "microsoft" lower || contains "exchange" lower || contains "iis" lower then
    some "Microsoft Exchange"
  else none

def bannerEvents (rest : String) : List BronzeEvent :=
  let vendor := detectVendor rest
  [newEvent chunk.captureId (smtpEnv chunk) (.protocolTransaction
      { operation := "smtp_banner"
        status := "observed"
        responseSummary := some rest
        attributes :=
          OrderedMap.empty.extend
            ([("banner_text", rest)] ++ vendor.toList.map ("server_software", ·)) }),
    serverAsset chunk vendor [("ip", chunk.context.dstIp.display), ("banner", rest)]]

/-- `line[4..]`, if the line is longer than that. -/
def bannerText (line : List Char) : Checked (List Char) :=
  if 4 < byteLen line then do
    let (_, rest) ← splitText line 4
    return rest
  else .ok []

def onServerLine (session : SmtpSession) (line : List Char) :
    Checked (List BronzeEvent × SmtpSession) :=
  if byteLen line < 3 then .ok ([emitAnomaly chunk line], session)
  else do
    let (digits, behind) ← splitText line 3
    match parseUnsigned 65536 (String.ofList digits) with
    | none => return ([emitAnomaly chunk line], session)
    | some code =>
      -- the byte at offset 3 starts a character, so it is a dash exactly if this character is one
      if behind.head? = some '-' then return ([], session)
      else
        if session.awaitingStarttls220 ∧ code = 220 then
          return ([], { session with awaitingStarttls220 := false, tlsActive := true })
        else
          let session := { session with awaitingStarttls220 := false }
          if code = 220 then
            let rest ← bannerText line
            return (bannerEvents chunk (String.ofList rest), session)
          else return ([], session)

/-! ## Lines of the client -/

def isAsciiWhitespace (c : Char) : Bool :=
  c == ' ' || c == '\t' || c == '\n' || c == '\x0C' || c == '\r'

def splitVerb (line : List Char) : List Char × String :=
  match line.span (!isAsciiWhitespace ·) with
  | (verb, []) => (verb, "")
  | (verb, _ :: rest) => (verb, trimMatches isWhiteSpace (String.ofList rest))

def verbOf (line : List Char) : String := toAsciiUppercase (String.ofList (splitVerb line).1)

/-- What is between the first angle bracket and the next closing one. -/
def extractAngleAddr (s : String) : Option String :=
  match s.toList.dropWhile (· != '<') with
  | [] => none
  | _ :: inside =>
    match inside.span (· != '>') with
    | (_, []) => none
    | (addr, _ :: _) => some (trimMatches isWhiteSpace (String.ofList addr))

/-- The first word of the argument of `AUTH`. -/
def authMechanism (rest : String) : String :=
  String.ofList ((rest.toList.dropWhile isAsciiWhitespace).takeWhile (!isAsciiWhitespace ·))

def knownOperation (verb : String) : Option String :=
  match verb with
  | "HELO" => some "smtp_helo"
  | "EHLO" => some "smtp_ehlo"
  | "MAIL" => some "smtp_mail_from"
  | "RCPT" => some "smtp_rcpt_to"
  | "DATA" => some "smtp_data"
  | "RSET" => some "smtp_rset"
  | "NOOP" => some "smtp_noop"
  | "QUIT" => some "smtp_quit"
  | "STARTTLS" => some "smtp_starttls"
  | "AUTH" => some "smtp_auth"
  | _ => none

def verbAttributes (verb rest : String) : List (String × String) :=
  match verb with
  | "HELO" => [("domain", rest)]
  | "EHLO" => [("domain", rest)]
  | "MAIL" => (extractAngleAddr rest).toList.map ("address", ·)
  | "RCPT" => (extractAngleAddr rest).toList.map ("address", ·)
  | "AUTH" => if authMechanism rest = "" then [] else [("auth_mechanism", authMechanism rest)]
  | _ => []

def SmtpSession.afterVerb (session : SmtpSession) (verb : String) : SmtpSession :=
  match verb with
  | "QUIT" => { session with done := true }
  | "STARTTLS" => { session with awaitingStarttls220 := true }
  | _ => session

def isReplyCode (verb : String) : Bool := byteLen verb.toList == 3 && verb.toList.all Char.isDigit

def onClientLine (session : SmtpSession) (line : List Char) : List BronzeEvent × SmtpSession :=
  let rest := (splitVerb line).2
  let verb := verbOf line
  let attrs := OrderedMap.empty.extend ([("argument", rest)] ++ verbAttributes verb rest)
  match knownOperation verb with
  | some operation => ([txEvent chunk operation (some (String.ofList line)) attrs],
    session.afterVerb verb)
  | none =>
    if isReplyCode verb || 16 < byteLen line then ([emitAnomaly chunk line], session)
    else ([txEvent chunk "smtp_unknown_command" (some (String.ofList line)) attrs], session)

/-! ## Chunks -/

def trimCr (raw : List Char) : List Char := (trimEndMatches (· == '\r') (String.ofList raw)).toList

/-- A line, as it stands between two line feeds. Once the session is quiet the loop over the lines
is left; to pass over the rest of them does the same. -/
def onLine (fromServer : Bool) (session : SmtpSession) (raw : List Char) :
  Checked (List BronzeEvent × SmtpSession) := if session.isQuiet then .ok ([], session)
  else
    let line := trimCr raw
    if line = [] then .ok ([], session)
    else if fromServer then onServerLine chunk session line
    else .ok (onClientLine chunk session line)

def isSmtps : Bool := chunk.context.srcPort == 465 || chunk.context.dstPort == 465

def fromServer : Bool :=
  let smtpPort :=
    if chunk.context.dstPort = 25 ∨ chunk.context.dstPort = 587 then chunk.context.dstPort
    else chunk.context.srcPort
  chunk.context.srcPort == smtpPort

def linesOf (payload : List UInt8) : Option (List (List Char)) :=
  (utf8Strict payload).map fun text => text.toList.splitOn '\n'

def onSession (session : SmtpSession) : Checked (List BronzeEvent × SmtpSession) :=
  if isSmtps chunk then
    if session.smtpsEmitted then .ok ([], session)
    else .ok (smtpsEvents chunk, { session with smtpsEmitted := true })
  else if session.isQuiet then .ok ([], session)
  else
    match linesOf chunk.payload with
    | none => .ok ([nonUtf8Anomaly chunk], session)
    | some lines => Checked.run (onLine chunk (fromServer chunk)) session lines

structure SmtpDecoder where
  sessions : Table String SmtpSession

namespace SmtpDecoder

def default : SmtpDecoder := ⟨∅⟩

def session (d : SmtpDecoder) (key : String) : SmtpSession := (d.sessions.lookup key).getD .default

def onStreamChunk (d : SmtpDecoder) (chunk : StreamChunk) :
  Checked (List BronzeEvent × SmtpDecoder) := if chunk.payload = [] then .ok ([], d)
  else do
    let (events, session) ← onSession chunk (d.session chunk.sessionKey)
    return (events, ⟨d.sessions.insert chunk.sessionKey session⟩)

lemma onStreamChunk_of_onSession {d : SmtpDecoder} {chunk : StreamChunk} {events : List BronzeEvent}
    {session : SmtpSession} (hsome : chunk.payload ≠ [])
    (h : onSession chunk (d.session chunk.sessionKey) = .ok (events, session)) :
    d.onStreamChunk chunk = .ok (events, ⟨d.sessions.insert chunk.sessionKey session⟩) := by
  rw [onStreamChunk, if_neg hsome, h]
  rfl

def interest : List DecoderInterest := [.tcpPort 25, .tcpPort 465, .tcpPort 587]

end SmtpDecoder

end MarlinspikeDpi.Smtp
