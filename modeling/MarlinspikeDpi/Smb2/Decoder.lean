import MarlinspikeDpi.Engine.Decoder
import MarlinspikeDpi.Foundation.Mealy
import MarlinspikeDpi.Foundation.Table
import MarlinspikeDpi.Smb2.Wire

/-!
# SMB2 sessions

The bytes of a connection are collected in one buffer, under the session key that both directions
share. The messages in it are cut into PDUs.
-/

namespace MarlinspikeDpi.Smb2

open Engine Bytes Text

/-! ## State -/

abbrev FileId : Type := List UInt8

/-- The key that `HashMap::keys` lists first. -/
class HashOrder where
  firstKey : Table FileId String → Option FileId
  firstKey_mem : ∀ t k, firstKey t = some k → k ∈ t
  firstKey_eq_none : ∀ t, firstKey t = none → t = ∅

def lastInserted (t : Table FileId String) : Option FileId := t.keys.head?

lemma mem_of_lastInserted (t : Table FileId String) (k : FileId) (h : lastInserted t = some k) :
    k ∈ t := List.mem_of_head? h

lemma eq_empty_of_lastInserted (t : Table FileId String) (h : lastInserted t = none) : t = ∅ := by
  have hkeys : t.entries.map Sigma.fst = [] := List.head?_eq_none_iff.1 h
  exact AList.ext (List.map_eq_nil_iff.1 hkeys)

@[reducible] def HashOrder.sample : HashOrder :=
  ⟨lastInserted, mem_of_lastInserted, eq_empty_of_lastInserted⟩

structure PendingKey where
  sessionKey : String
  messageId : UInt64
deriving DecidableEq

structure PendingRequest where
  fileName : Option String

structure SessionState where
  treePaths : Table UInt32 String
  fileNames : Table FileId String
  dialect : Option UInt16
  assetEmitted : Bool

namespace SessionState

def new : SessionState := ⟨∅, ∅, none, false⟩

def setTreePath (s : SessionState) (treeId : UInt32) (path : String) : SessionState :=
  { s with treePaths := s.treePaths.insert treeId path }

def setFileName [HashOrder] (s : SessionState) (fileId : FileId) (name : String) : SessionState :=
  let fileNames :=
    if 256 ≤ s.fileNames.entries.length then
      match HashOrder.firstKey s.fileNames with
      | some k => s.fileNames.erase k
      | none => s.fileNames
    else s.fileNames
  { s with fileNames := fileNames.insert fileId name }

end SessionState

structure Smb2Decoder where
  pending : Table PendingKey PendingRequest
  sessions : Table String SessionState
  buffers : Table String (List UInt8)

namespace Smb2Decoder

def default : Smb2Decoder := ⟨∅, ∅, ∅⟩

variable (d : Smb2Decoder)

def session (sessionKey : String) : SessionState :=
  (d.sessions.lookup sessionKey).getD SessionState.new

def setSession (sessionKey : String) (s : SessionState) : Smb2Decoder :=
  { d with sessions := d.sessions.insert sessionKey s }

variable (chunk : StreamChunk)

def expect (p : Pdu) (fileName : Option String) : Smb2Decoder :=
  { d with pending := d.pending.insert ⟨chunk.sessionKey, p.messageId⟩ ⟨fileName⟩ }

def answered (p : Pdu) : Option PendingRequest := d.pending.lookup ⟨chunk.sessionKey, p.messageId⟩

def settle (p : Pdu) : Smb2Decoder :=
  { d with pending := d.pending.erase ⟨chunk.sessionKey, p.messageId⟩ }

def treePath (treeId : UInt32) : Option String :=
  (d.sessions.lookup chunk.sessionKey).bind fun s => s.treePaths.lookup treeId

def fileName (fileId : FileId) : Option String :=
  (d.sessions.lookup chunk.sessionKey).bind fun s => s.fileNames.lookup fileId

end Smb2Decoder

/-! ## Events -/

def envelope (chunk : StreamChunk) : EventEnvelope :=
  buildEnvelope chunk.context chunk.toFrameInfo .tcp (some "smb2") chunk.sessionKey

abbrev Attributes : Type := List (String × String)

def tx (chunk : StreamChunk) (operation status : String) (attrs : Attributes) : BronzeEvent :=
  newEvent chunk.captureId (envelope chunk) (.protocolTransaction
    { operation, status, attributes := OrderedMap.empty.extend attrs })

def anomaly (chunk : StreamChunk) (severity reason : String) : BronzeEvent :=
  parseAnomalyEvent chunk.captureId (envelope chunk) "smb2" severity reason chunk.payload

def optional (name : String) (value : Option String) : Attributes := value.toList.map (name, ·)

/-- A text in the body, whose place is counted from the start of the header. -/
def textAt (body : List UInt8) (offset len : Nat) : Option String :=
  let start := offset - smb2HeaderLen
  if start + len ≤ body.length ∧ 0 < len then some (decodeUtf16le (slice body start len)) else none

/-! ## Handlers -/

namespace Smb2Decoder

variable (d : Smb2Decoder) (chunk : StreamChunk) (p : Pdu)

def onNegotiateRequest : List BronzeEvent × Smb2Decoder :=
  let count := (u16At p.body 2).toNat
  let offered :=
    if p.body.length < 4 then []
    else
      ("dialect_count", toString count) ::
        if p.body.length < 28 + count * 2 then []
        else
          [("dialects_offered", ",".intercalate ((List.range count).map fun i =>
            "0x" ++ hexPad 4 (u16At p.body (28 + i * 2)).toNat))]
  ([tx chunk "smb2_negotiate_request" "request_pending"
      ([("command", "negotiate"), ("direction", "request")] ++ offered)],
    d.expect chunk p none)

def onNegotiateResponse : List BronzeEvent × Smb2Decoder :=
  let d := d.settle chunk p
  let negotiated := if p.body.length < 6 then none else some (u16At p.body 4)
  let dialectText := negotiated.map fun dialect => "0x" ++ hexPad 4 dialect.toNat
  let status := ntStatusName p.ntStatus
  let response := tx chunk "smb2_negotiate_response" status
    ([("command", "negotiate"), ("direction", "response")] ++
      optional "negotiated_dialect" dialectText ++ [("nt_status", status)])
  if p.ntStatus = 0 then
    let s := d.session chunk.sessionKey
    let asset := newEvent chunk.captureId (envelope chunk) (.assetObservation
      { assetKey :=
          (if isServerPort chunk.context.srcPort then chunk.context.srcIp
            else chunk.context.dstIp).display
        role := some "smb_server"
        protocols := ["smb2"]
        identifiers := OrderedMap.empty.extend (optional "smb2_dialect" dialectText) })
    (if s.assetEmitted then [response] else [asset, response],
      d.setSession chunk.sessionKey { s with dialect := negotiated.or s.dialect, assetEmitted :=
        true })
  else ([response], d)

def onSessionSetupRequest : List BronzeEvent × Smb2Decoder :=
  let previous := u64At p.body 16
  let details :=
    if p.body.length < 24 then []
    else
      ("security_blob_len", toString (u16At p.body 14).toNat) ::
        if previous = 0 then [] else [("previous_session_id", "0x" ++ hexPad 16 previous.toNat)]
  ([tx chunk "smb2_session_setup_request" "request_pending"
      ([("command", "session_setup"), ("direction", "request")] ++ details)],
    d.expect chunk p none)

def onSessionSetupResponse : List BronzeEvent × Smb2Decoder :=
  let status := ntStatusName p.ntStatus
  let failure :=
    if p.ntStatus = 0xC000006D then
      [anomaly chunk "medium"
        "smb2: SESSION_SETUP STATUS_LOGON_FAILURE — possible credential probing"]
    else []
  (failure ++ [tx chunk "smb2_session_setup_response" status
      [("command", "session_setup"), ("direction", "response"), ("nt_status", status)]],
    d.settle chunk p)

def onTreeConnectRequest : List BronzeEvent × Smb2Decoder :=
  let path :=
    if p.body.length < 8 then none else textAt p.body (u16At p.body 4).toNat (u16At p.body 6).toNat
  ([tx chunk "smb2_tree_connect_request" "request_pending"
      ([("command", "tree_connect"), ("direction", "request")] ++ optional "tree_path" path)],
    d.expect chunk p path)

def onTreeConnectResponse : List BronzeEvent × Smb2Decoder :=
  let request := d.answered chunk p
  let d := d.settle chunk p
  let status := ntStatusName p.ntStatus
  let response (path : Option String) := tx chunk "smb2_tree_connect_response" status
    ([("command", "tree_connect"), ("direction", "response"), ("nt_status", status),
      ("tree_id", hex8 p.treeId)] ++ optional "tree_path" path)
  if p.ntStatus = 0 then
    match request.bind PendingRequest.fileName with
    | some path =>
      ([response (some path)], d.setSession chunk.sessionKey
        ((d.session chunk.sessionKey).setTreePath p.treeId path))
    | none => ([response none], d)
  else ([anomaly chunk "medium" ("smb2: TREE_CONNECT failed: " ++ status), response none], d)

/-- The name in a `CREATE` request. -/
def createName (body : List UInt8) : Option String :=
  if body.length < 48 then none else textAt body (u16At body 44).toNat (u16At body 46).toNat

def onCreateRequest : List BronzeEvent × Smb2Decoder :=
  let details :=
    if p.body.length < 48 then []
    else
      [("desired_access", hex8 (u32At p.body 24)), ("share_access", hex8 (u32At p.body 32)),
        ("disposition", createDispositionName (u32At p.body 36))]
  ([tx chunk "smb2_create_request" "request_pending"
    ([("command", "create"), ("direction", "request")] ++
        optional "tree_path" (d.treePath chunk p.treeId) ++ details ++
        optional "file_name" (createName p.body))],
    d.expect chunk p (createName p.body))

/-- The file id in a `CREATE` response, where the decoder looks for it. -/
def createdFileId (body : List UInt8) : Option FileId :=
  if body.length < 76 then none else some (slice body 60 16)

def onCreateResponse [HashOrder] (d : Smb2Decoder) (chunk : StreamChunk)
  (p : Pdu) : List BronzeEvent × Smb2Decoder := let request := d.answered chunk p
  let d := d.settle chunk p
  let status := ntStatusName p.ntStatus
  let response (details : Attributes) := tx chunk "smb2_create_response" status
    ([("command", "create"), ("direction", "response"), ("nt_status", status)] ++ details)
  if p.ntStatus = 0 then
    match createdFileId p.body with
    | none => ([response []], d)
    | some fileId =>
      match request.bind PendingRequest.fileName with
      | some name =>
        ([response [("file_name", name), ("file_id", hexEncode fileId)]],
          d.setSession chunk.sessionKey ((d.session chunk.sessionKey).setFileName fileId name))
      | none => ([response [("file_id", hexEncode fileId)]], d)
  else ([response []], d)

/-- The file id in a request that carries one, with the least length of its body. -/
def fileIdAt (body : List UInt8) (offset : Nat) : Option FileId :=
  if body.length < offset + 16 then none else some (slice body offset 16)

def fileAttributes (fileId : FileId) : Attributes :=
  ("file_id", hexEncode fileId) :: optional "file_name" (d.fileName chunk fileId)

def onCloseRequest : List BronzeEvent × Smb2Decoder :=
  let details := (fileIdAt p.body 8).elim [] (d.fileAttributes chunk)
  ([tx chunk "smb2_close_request" "request_pending"
    ([("command", "close"), ("direction", "request")] ++ details)], d.expect chunk p none)

/-- `READ` and `WRITE` requests have the same layout. -/
def transferDetails (verb : String) : Attributes := (fileIdAt p.body 16).elim [] fun fileId =>
    [(verb ++ "_length", toString (u32At p.body 4).toNat),
      (verb ++ "_offset", toString (u64At p.body 8).toNat)] ++ d.fileAttributes chunk fileId

def onReadRequest : List BronzeEvent × Smb2Decoder :=
  ([tx chunk "smb2_read_request" "request_pending"
      ([("command", "read"), ("direction", "request")] ++ d.transferDetails chunk p "read")],
    d.expect chunk p none)

def onWriteRequest : List BronzeEvent × Smb2Decoder :=
  ([tx chunk "smb2_write_request" "request_pending"
      ([("command", "write"), ("direction", "request")] ++ d.transferDetails chunk p "write")],
    d.expect chunk p none)

def onIoctlRequest : List BronzeEvent × Smb2Decoder :=
  let ctlCode := if p.body.length < 24 then 0 else u32At p.body 4
  let pipeName := (fileIdAt p.body 8).bind (d.fileName chunk)
  let details :=
    if p.body.length < 24 then []
    else
      [("ctl_code", hex8 ctlCode), ("ctl_code_name", fsctlName ctlCode)] ++
        optional "file_name" pipeName
  let signal :=
    if ctlCode = fsctlPipeTransceive then
      let (severity, reason) := classifyPipeTransceive (pipeName.getD "")
      [anomaly chunk severity reason]
    else []
  (signal ++ [tx chunk "smb2_ioctl_request" "request_pending"
    ([("command", "ioctl"), ("direction", "request")] ++
        optional "tree_path" (d.treePath chunk p.treeId) ++ details)],
    d.expect chunk p none)

def onIoctlResponse : List BronzeEvent × Smb2Decoder :=
  let status := ntStatusName p.ntStatus
  let details :=
    if p.body.length < 8 then []
    else [("ctl_code", hex8 (u32At p.body 4)), ("ctl_code_name", fsctlName (u32At p.body 4))]
  ([tx chunk "smb2_ioctl_response" status
      ([("command", "ioctl"), ("direction", "response"), ("nt_status", status)] ++ details)],
    d.settle chunk p)

/-- The responses to `LOGOFF`, `CLOSE`, `READ` and `WRITE`. -/
def onPlainResponse (command : String) : List BronzeEvent × Smb2Decoder :=
  let status := ntStatusName p.ntStatus
  ([tx chunk ("smb2_" ++ command ++ "_response") status
      [("command", command), ("nt_status", status)]], d.settle chunk p)

def onLogoffRequest : List BronzeEvent × Smb2Decoder :=
  ([tx chunk "smb2_logoff_request" "request_pending" [("command", "logoff")]],
    d.expect chunk p none)

def emitSimple (reqOp respOp : String) : List BronzeEvent × Smb2Decoder :=
  if p.isResponse then
    let status := ntStatusName p.ntStatus
    ([tx chunk respOp status [("nt_status", status)]], d.settle chunk p)
  else ([tx chunk reqOp "request_pending" []], d.expect chunk p none)

/-! ## PDUs, messages and chunks -/

end Smb2Decoder

inductive Command where
  | negotiate
  | sessionSetup
  | logoff
  | treeConnect
  | treeDisconnect
  | create
  | close
  | read
  | write
  | ioctl
deriving DecidableEq

def Command.ofCode (code : UInt16) : Option Command :=
  match code with
  | 0x0000 => some .negotiate
  | 0x0001 => some .sessionSetup
  | 0x0002 => some .logoff
  | 0x0003 => some .treeConnect
  | 0x0004 => some .treeDisconnect
  | 0x0005 => some .create
  | 0x0006 => some .close
  | 0x0008 => some .read
  | 0x0009 => some .write
  | 0x000B => some .ioctl
  | _ => none

def Command.isDataCommand : Command → Bool
  | .treeConnect | .create | .read | .write | .ioctl => true
  | _ => false

namespace Smb2Decoder

variable [HashOrder]

def onCommand (d : Smb2Decoder) (chunk : StreamChunk) (p : Pdu) : Command →
    List BronzeEvent × Smb2Decoder
  | .negotiate => if p.isResponse then d.onNegotiateResponse chunk p
    else d.onNegotiateRequest chunk p
  | .sessionSetup =>
    if p.isResponse then d.onSessionSetupResponse chunk p else d.onSessionSetupRequest chunk p
  | .logoff => if p.isResponse then d.onPlainResponse chunk p "logoff"
    else d.onLogoffRequest chunk p
  | .treeConnect => if p.isResponse then d.onTreeConnectResponse chunk p
    else d.onTreeConnectRequest chunk p
  | .treeDisconnect => d.emitSimple chunk p "smb2_tree_disconnect_request"
    "smb2_tree_disconnect_response"
  | .create => if p.isResponse then d.onCreateResponse chunk p else d.onCreateRequest chunk p
  | .close => if p.isResponse then d.onPlainResponse chunk p "close" else d.onCloseRequest chunk p
  | .read => if p.isResponse then d.onPlainResponse chunk p "read" else d.onReadRequest chunk p
  | .write => if p.isResponse then d.onPlainResponse chunk p "write" else d.onWriteRequest chunk p
  | .ioctl => if p.isResponse then d.onIoctlResponse chunk p else d.onIoctlRequest chunk p

def decodePdu (d : Smb2Decoder) (chunk : StreamChunk) (pdu : List UInt8) :
  List BronzeEvent × Smb2Decoder := let p := readPdu pdu
  match Command.ofCode p.command with
  | none => ([anomaly chunk "low" ("smb2: unknown command 0x" ++ hexPad 4 p.command.toNat)], d)
  | some command =>
    let nullSession :=
      if p.sessionId = 0 ∧ ¬ p.isResponse ∧ command.isDataCommand then
        [anomaly chunk "medium"
          "smb2: NULL session (session_id=0) on data command — possible anonymous access"]
      else []
    let (events, d) := d.onCommand chunk p command
    (nullSession ++ events, d)

end Smb2Decoder

/-- What the walk along the chain of a message finds: a PDU, or a reason to stop. -/
inductive Link where
  | pdu (bytes : List UInt8)
  | broken (reason : String)

def chain : Nat → List UInt8 → List Link
  | 0, _ => []
  | fuel + 1, pdu =>
    if pdu = [] then []
    else if pdu.length < smb2HeaderLen then [.broken "smb2: truncated header (<64 bytes)"]
    else if u16At pdu 4 ≠ 64 then
      [.broken ("smb2: invalid StructureSize " ++ toString (u16At pdu 4).toNat ++ " (expected 64)")]
    else
      let next := (u32At pdu 20).toNat
      if next = 0 then [.pdu pdu]
      else if next < smb2HeaderLen then
        [.pdu pdu, .broken "smb2: invalid NextCommand offset (too small)"]
      else .pdu pdu :: chain fuel (pdu.drop next)

def linksOf (frame : List UInt8) : List Link :=
  if frame.length < 4 then []
  else
    let sig := frame.take 4
    if sig = [0xFD, 0x53, 0x4D, 0x42] then
      [.broken "smb3 encrypted transform PDU — decryption deferred (no session keys)"]
    else if sig = [0xFF, 0x53, 0x4D, 0x42] then []
    else if sig ≠ [0xFE, 0x53, 0x4D, 0x42] then [.broken "smb2: unrecognized frame signature"]
    else chain frame.length frame

namespace Smb2Decoder

variable [HashOrder] (chunk : StreamChunk) (d : Smb2Decoder)

def decodeLink : Link → List BronzeEvent × Smb2Decoder
  | .pdu bytes => d.decodePdu chunk bytes
  | .broken reason => ([anomaly chunk "low" reason], d)

def decodeFrame (frame : List UInt8) : List BronzeEvent × Smb2Decoder :=
  Mealy.run (decodeLink chunk) d (linksOf frame)

omit [HashOrder] in
/-- The messages that are complete with a chunk; the rest stays in the buffer of the session. -/
def receive (chunk : StreamChunk) : List (List UInt8) × Smb2Decoder :=
  let buf := (d.buffers.lookup chunk.sessionKey).getD [] ++ chunk.payload
  let (frames, remaining) := netbios.drain buf
  (frames, { d with buffers := d.buffers.insert chunk.sessionKey remaining })

def onStreamChunk (chunk : StreamChunk) : List BronzeEvent × Smb2Decoder :=
  let (frames, d) := d.receive chunk
  Mealy.run (decodeFrame chunk) d frames

/-! ## What a PDU changes -/

omit [HashOrder] in
def requestName (p : Pdu) : Command → Option String
  | .treeConnect =>
    if p.body.length < 8 then none else textAt p.body (u16At p.body 4).toNat (u16At p.body 6).toNat
  | .create => createName p.body
  | _ => none

/-- The state that a response leaves in its session, if it writes one. -/
def sessionUpdate (chunk : StreamChunk) (p : Pdu) : Command → Option SessionState
  | .negotiate =>
    if p.ntStatus = 0 then
      let s := d.session chunk.sessionKey
      let negotiated := if p.body.length < 6 then none else some (u16At p.body 4)
      some { s with dialect := negotiated.or s.dialect, assetEmitted := true }
    else none
  | .treeConnect =>
    if p.ntStatus = 0 then
      ((d.answered chunk p).bind PendingRequest.fileName).map fun path =>
        (d.session chunk.sessionKey).setTreePath p.treeId path
    else none
  | .create =>
    if p.ntStatus = 0 then
      (createdFileId p.body).bind fun fileId =>
        ((d.answered chunk p).bind PendingRequest.fileName).map fun name =>
          (d.session chunk.sessionKey).setFileName fileId name
    else none
  | _ => none

lemma onCommand_snd (chunk : StreamChunk) (p : Pdu) (command : Command) :
      (d.onCommand chunk p command).2 = if p.isResponse then
        (d.sessionUpdate chunk p command).elim (d.settle chunk p)
          ((d.settle chunk p).setSession chunk.sessionKey)
      else d.expect chunk p (requestName p command) := by
  cases command with
  | negotiate =>
    simp only [onCommand, onNegotiateResponse, sessionUpdate]
    split
    · split <;> rfl
    · rfl
  | treeConnect =>
    simp only [onCommand, onTreeConnectResponse, sessionUpdate]
    split
    · split
      · cases (d.answered chunk p).bind PendingRequest.fileName <;> rfl
      · rfl
    · rfl
  | create =>
    simp only [onCommand, onCreateResponse, sessionUpdate]
    split
    · split
      · cases createdFileId p.body with
        | none => rfl
        | some fileId => cases (d.answered chunk p).bind PendingRequest.fileName <;> rfl
      · rfl
    · rfl
  | treeDisconnect =>
    simp only [onCommand, emitSimple]
    split <;> rfl
  -- the other commands only remember and forget
  | sessionSetup | logoff | close | read | write | ioctl =>
    simp only [onCommand]
    split <;> rfl

lemma decodePdu_snd (chunk : StreamChunk) (pdu : List UInt8) :
    (d.decodePdu chunk pdu).2 = (Command.ofCode (readPdu pdu).command).elim d fun command =>
        (d.onCommand chunk (readPdu pdu) command).2 := by
  unfold decodePdu
  dsimp only
  cases Command.ofCode _ <;> rfl

lemma buffers_decodePdu (chunk : StreamChunk) (pdu : List UInt8) :
    (d.decodePdu chunk pdu).2.buffers = d.buffers := by
  rw [decodePdu_snd]
  cases Command.ofCode _ with
  | none => rfl
  | some command =>
    rw [Option.elim_some, onCommand_snd]
    split
    · cases d.sessionUpdate chunk _ command <;> rfl
    · rfl

lemma buffers_decodeFrame (chunk : StreamChunk) (d : Smb2Decoder) (frame : List UInt8) :
    (decodeFrame chunk d frame).2.buffers = d.buffers := by
  refine Mealy.view_run_eq _ _ ?_ d _
  intro d link
  cases link with
  | pdu bytes => exact buffers_decodePdu d chunk bytes
  | broken reason => rfl

end Smb2Decoder

instance [HashOrder] : SessionDecoder Smb2Decoder where
  name _ := "smb2"
  interest _ := [.tcpPort 445, .tcpPort 139]
  onStreamChunk := Smb2Decoder.onStreamChunk

end MarlinspikeDpi.Smb2
