import MarlinspikeDpi.Smb2.Session

/-!
# Requests for open files

A `CREATE` request with a name and its response open a file.

* `fileRequest_named`: when a request is reported with the name of its file.
-/

namespace MarlinspikeDpi.Smb2

open Engine Bytes Text Smb2Decoder List Command HashOrder Mealy OpenFiles OrderedMap

/-! ## Opening a file -/

/-- A `CREATE` request with a name and a successful response with the same message id, in which the
file id stands at the bytes 64 to 80 (MS-SMB2 2.2.14). -/
structure Opening where
  (request response : Pdu)
  name : String
  fileId : FileId
  asks : request.isResponse = false ∧ createName request.body = some name
  succeeds : response.isResponse = true ∧ response.ntStatus = 0
  returned : 80 ≤ response.body.length ∧ slice response.body 64 16 = fileId
  paired : response.messageId = request.messageId

namespace Opening

variable (x : Opening)

def asking : Message := (.create, x.request)

def answering : Message := (.create, x.response)

/-- The decoder takes the bytes 60 to 76 for the file id: here they are the same. -/
def Legible : Prop := slice x.response.body 60 16 = slice x.response.body 64 16

instance : Decidable x.Legible := inferInstanceAs (Decidable (_ = _))

variable {x} in
lemma Legible.createdFileId (h : x.Legible) : createdFileId x.response.body = some x.fileId := by
  have hlong : ¬ x.response.body.length < 76 := by
    have := x.returned.1
    omega
  rw [Smb2Decoder.createdFileId, if_neg hlong, h, x.returned.2]

lemma isOpen_asking : isOpen x.asking = false := by
  simp [isOpen, asking, x.asks.1]

lemma isOpen_answering : isOpen x.answering = true := by
  simp [isOpen, answering, x.succeeds]

lemma opened_answering {o : OpenFiles} (hlegible : x.Legible)
    (hasked : o.asked x.request.messageId = some x.name) :
    o.opened x.answering = some (x.fileId, x.name) := by
  rw [opened, if_pos x.isOpen_answering, answering, hlegible.createdFileId, x.paired, hasked]
  rfl

variable [HashOrder]

lemma asked_note (o : OpenFiles) : (o.note x.asking).asked x.request.messageId = some x.name := by
  have hname : (if x.request.isResponse then none else requestName x.request .create) =
      some x.name := by
    rw [x.asks.1]
    exact x.asks.2
  change Function.update o.asked x.request.messageId _ x.request.messageId = some x.name
  rw [Function.update_self]
  exact hname

lemma lookup_note {o : OpenFiles} (hlegible : x.Legible)
    (hasked : o.asked x.request.messageId = some x.name) :
    (o.note x.answering).names.lookup x.fileId = some x.name := by
  rw [note, x.opened_answering hlegible hasked]
  exact lookup_record_self _ _ _

/-- From a new session on: the name is known as long as the session has no more than 256 opens and
none of the later ones returns the file id again. -/
theorem lookup_foldl_note {o : OpenFiles} {before between since : List Message} (hnew : o.names = ∅)
    (hlegible : x.Legible)
    (hpaired : ∀ m ∈ between, m.2.messageId ≠ x.request.messageId)
    (hopens : (before ++ between ++ since).countP isOpen < 256)
    (hsince : ∀ m ∈ since, ¬ returns x.fileId m = true) :
    ((before ++ x.asking :: (between ++ x.answering :: since)).foldl note o).names.lookup x.fileId =
      some x.name := by
  have hlist : before ++ x.asking :: (between ++ x.answering :: since) =
      (before ++ x.asking :: (between ++ [x.answering])) ++ since := by simp
  rw [hlist, foldl_append]
  refine OpenFiles.lookup_foldl_note ?_ ?_ hsince
  · rw [foldl_append, foldl_cons, foldl_append]
    apply x.lookup_note hlegible
    rw [asked_foldl_note _ hpaired]
    exact x.asked_note _
  · -- the opens so far are those before and in between, and this one
    have hnames := length_foldl_note_le o (before ++ x.asking :: (between ++ [x.answering]))
    have hnone : o.names.entries.length = 0 := by rw [hnew]; rfl
    simp only [countP_append, countP_cons, countP_nil, x.isOpen_asking,
      x.isOpen_answering, if_true, Bool.false_eq_true, if_false] at hnames hopens
    omega

end Opening

/-! ## Requests for a file -/

inductive FileRequest where
  | close
  | read
  | write
  | ioctl
deriving DecidableEq

open FileRequest

namespace FileRequest

def command : FileRequest → Command
  | close => .close
  | read => .read
  | write => .write
  | ioctl => .ioctl

def operation : FileRequest → String
  | close => "smb2_close_request"
  | read => "smb2_read_request"
  | write => "smb2_write_request"
  | ioctl => "smb2_ioctl_request"

def fileIdOffset : FileRequest → Nat
  | close => 8
  | read => 16
  | write => 16
  | ioctl => 8

end FileRequest

def transactionIn (e : BronzeEvent) : Option (String × Option String) :=
  match e.family with
  | .protocolTransaction t => some (t.operation, t.attributes.get "file_name")
  | _ => none

def severityIn (e : BronzeEvent) : Option String :=
  match e.family with
  | .parseAnomaly a => some a.severity
  | _ => none

def isAdminPipe (name : String) : Bool := ["svcctl", "samr", "atsvc", "drsuapi"].any fun pipe =>
    endsWith pipe (String.ofList (name.toList.map Char.toLower))

lemma severity_of_isAdminPipe {name : String} (h : isAdminPipe name = true) :
    (classifyPipeTransceive name).1 = "high" := by
  simp only [isAdminPipe, any_cons, any_nil, Bool.or_false, Bool.or_eq_true] at h
  unfold classifyPipeTransceive
  dsimp only
  split
  · rfl
  · split
    · rfl
    · split
      · rfl
      · split
        · rfl
        · simp_all

lemma transactionIn_tx (chunk : StreamChunk) (operation status name : String) (attrs : Attributes) :
    transactionIn (tx chunk operation status (attrs ++ [("file_name", name)])) =
      some (operation, some name) := by
  change some (operation, (empty.extend (attrs ++ [("file_name", name)])).get "file_name") = _
  rw [get_extend_concat]

lemma fileName_eq_lookup (d : Smb2Decoder) (chunk : StreamChunk) (fileId : FileId) :
    d.fileName chunk fileId = (openFiles chunk.sessionKey d).names.lookup fileId := by
  unfold fileName openFiles session
  cases d.sessions.lookup _ <;> rfl

lemma mem_decodePdu {d : Smb2Decoder} [HashOrder] {chunk : StreamChunk} {bytes : List UInt8}
    {command : Command} (hcommand : ofCode (readPdu bytes).command = some command)
    {e : BronzeEvent} (he : e ∈ (d.onCommand chunk (readPdu bytes) command).1) :
    e ∈ (d.decodePdu chunk bytes).1 := by
  unfold decodePdu
  dsimp only
  rw [hcommand]
  exact mem_append_right _ he

lemma length_of_fileIdAt {fileId : FileId} {body : List UInt8} {offset : Nat}
    (hcarries : fileIdAt body offset = some fileId) : ¬ body.length < offset + 16 := by
  intro hshort
  rw [fileIdAt, if_pos hshort] at hcarries
  cases hcarries

lemma onIoctlRequest_named {name : String} {d : Smb2Decoder} {fileId : FileId} {chunk : StreamChunk}
    {p : Pdu} (hcarries : fileIdAt p.body 8 = some fileId)
    (hname : d.fileName chunk fileId = some name) :
    (d.onIoctlRequest chunk p).1 = (if u32At p.body 4 = fsctlPipeTransceive then
        [anomaly chunk (classifyPipeTransceive name).1 (classifyPipeTransceive name).2]
      else []) ++
      [tx chunk "smb2_ioctl_request" "request_pending"
        (([("command", "ioctl"), ("direction", "request")] ++
          optional "tree_path" (d.treePath chunk p.treeId) ++
          [("ctl_code", hex8 (u32At p.body 4)), ("ctl_code_name", fsctlName (u32At p.body 4))]) ++
          [("file_name", name)])] := by
  have hlong : ¬ p.body.length < 24 := length_of_fileIdAt hcarries
  have hpipe : (fileIdAt p.body 8).bind (d.fileName chunk) = some name := by
    rw [hcarries, Option.bind_some, hname]
  simp only [onIoctlRequest, if_neg hlong, hpipe, Option.getD_some, append_assoc]
  rfl

structure FileUse (key : String) (fileId : FileId) where
  kind : FileRequest
  chunk : StreamChunk
  bytes : List UInt8
  onSession : chunk.sessionKey = key
  decoded : Command.ofCode (readPdu bytes).command = some kind.command
  request : (readPdu bytes).isResponse = false
  carries : fileIdAt (readPdu bytes).body kind.fileIdOffset = some fileId

namespace FileUse

def act {key : String} {fileId : FileId} (u : FileUse key fileId) : Act :=
  .follow u.chunk (.pdu u.bytes)

/-- An `IOCTL` request that sends to a pipe and waits for the answer. -/
def isPipeTransceive {key : String} {fileId : FileId} (u : FileUse key fileId) : Bool :=
  u.kind == .ioctl && u32At (readPdu u.bytes).body 4 == fsctlPipeTransceive

variable [HashOrder]

lemma exists_tx {key : String} {fileId : FileId} (u : FileUse key fileId) {d : Smb2Decoder}
    {name : String} (hname : d.fileName u.chunk fileId = some name) :
    ∃ attrs, tx u.chunk u.kind.operation "request_pending" (attrs ++ [("file_name", name)]) ∈
      (d.onCommand u.chunk (readPdu u.bytes) u.kind.command).1 := by
  obtain ⟨kind, chunk, bytes, onSession, decoded, request, carries⟩ := u
  have hrequest : ¬ (readPdu bytes).isResponse = true := by simp [request]
  have hattributes : d.fileAttributes chunk fileId = [("file_id", hexEncode fileId)] ++
      [("file_name", name)] := by
    rw [fileAttributes, hname]
    rfl
  cases kind with
  | close =>
    have hcarries : fileIdAt (readPdu bytes).body 8 = some fileId := carries
    simp only [command, onCommand, if_neg hrequest, onCloseRequest,
      hcarries, Option.elim_some, hattributes, ← append_assoc]
    exact ⟨_, mem_singleton_self _⟩
  | read =>
    have hcarries : fileIdAt (readPdu bytes).body 16 = some fileId := carries
    simp only [command, onCommand, if_neg hrequest, onReadRequest,
      transferDetails, hcarries, Option.elim_some, hattributes, ← append_assoc]
    exact ⟨_, mem_singleton_self _⟩
  | write =>
    have hcarries : fileIdAt (readPdu bytes).body 16 = some fileId := carries
    simp only [command, onCommand, if_neg hrequest, onWriteRequest,
      transferDetails, hcarries, Option.elim_some, hattributes, ← append_assoc]
    exact ⟨_, mem_singleton_self _⟩
  | ioctl =>
    simp only [command, onCommand, if_neg hrequest, onIoctlRequest_named carries hname]
    exact ⟨_, mem_append_right _ (mem_singleton_self _)⟩

lemma exists_anomaly {key : String} {fileId : FileId} (u : FileUse key fileId) {d : Smb2Decoder}
    {name : String} (hname : d.fileName u.chunk fileId = some name)
    (hpipe : u.isPipeTransceive = true) (hadmin : isAdminPipe name = true) :
    ∃ reason, anomaly u.chunk "high" reason ∈
      (d.onCommand u.chunk (readPdu u.bytes) u.kind.command).1 := by
  obtain ⟨kind, chunk, bytes, onSession, decoded, request, carries⟩ := u
  obtain ⟨hkind, hcode⟩ := Bool.and_eq_true_iff.1 hpipe
  have hioctl : kind = .ioctl := eq_of_beq hkind
  subst hioctl
  have hrequest : ¬ (readPdu bytes).isResponse = true := by simp [request]
  have hctl : u32At (readPdu bytes).body 4 = fsctlPipeTransceive := eq_of_beq hcode
  simp only [command, onCommand, if_neg hrequest,
    onIoctlRequest_named carries hname, if_pos hctl, severity_of_isAdminPipe hadmin]
  exact ⟨_, mem_append_left _ (mem_singleton_self _)⟩

end FileUse

/-- In every run in which the response of an opening has its file id both where the standard puts it
and where the decoder looks for it, no other message with the message id comes between request and
response, the session has no more than 256 opens and none of the later ones is read with this file
id: a request for the file is reported with its name, and one that sends to an administrative pipe
raises the anomaly. -/
theorem fileRequest_named [HashOrder] (key : String) (chunks : List StreamChunk) (x : Opening)
    (u : FileUse key x.fileId) (performed later : List Act) (before between since : List Message)
    (hacts : actsOf Smb2Decoder.default chunks = performed ++ u.act :: later)
    (hmessages : messagesOf key performed = before ++ x.asking :: (between ++ x.answering :: since))
    (hlegible : x.Legible)
    (hpaired : ∀ m ∈ between, m.2.messageId ≠ x.request.messageId)
    (hopens : (before ++ between ++ since).countP isOpen < 256)
    (hsince : ∀ m ∈ since, ¬ returns x.fileId m = true) :
    ∃ front events back,
      (Mealy.run onStreamChunk Smb2Decoder.default chunks).1 = front ++ events ++ back ∧
      events = (perform (Mealy.run perform Smb2Decoder.default performed).2 u.act).1 ∧
      (∃ e ∈ events, transactionIn e = some (u.kind.operation, some x.name)) ∧
      (u.isPipeTransceive = true → isAdminPipe x.name = true →
        ∃ e ∈ events, severityIn e = some "high") := by
  -- the messages before the request decide what the decoder knows when it comes
  have hlookup := x.lookup_foldl_note (o :=
    openFiles key default) rfl hlegible hpaired hopens hsince
  rw [← hmessages, ← openFiles_run] at hlookup
  set d := (run perform default performed).2 with hd
  have hname : d.fileName u.chunk x.fileId = some x.name := by
    rw [fileName_eq_lookup, u.onSession]
    exact hlookup
  obtain ⟨back, hsplit⟩ := run_split perform default performed u.act later
  refine ⟨(run perform default performed).1, (perform d u.act).1, back, ?_, rfl, ?_, ?_⟩
  · rw [← run_actsOf, hacts, hsplit]
  · obtain ⟨attrs, htx⟩ := u.exists_tx hname
    exact ⟨_, mem_decodePdu u.decoded htx, transactionIn_tx _ _ _ _ _⟩
  · intro hpipe hadmin
    obtain ⟨reason, hanomaly⟩ := u.exists_anomaly hname hpipe hadmin
    exact ⟨_, mem_decodePdu u.decoded hanomaly, rfl⟩

/-! ## Where the file id stands in a response -/

/-- MS-SMB2 2.2.14 puts four reserved bytes at 60 and the file id at 64. The decoder takes the
reserved bytes for the beginning of the file id and loses its end. -/
theorem createdFileId_standardLayout {fixed reserved fileId : List UInt8} (rest : List UInt8)
    (hfixed : fixed.length = 60) (hreserved : reserved.length = 4) (hid : fileId.length = 16) :
    createdFileId (fixed ++ (reserved ++ (fileId ++ rest))) =
      some (reserved ++ fileId.take 12) := by
  have hlong : ¬ (fixed ++ (reserved ++ (fileId ++ rest))).length < 76 := by
    simp only [length_append]
    omega
  have hslice : slice (fixed ++ (reserved ++ (fileId ++ rest))) 60 16 =
      reserved ++ fileId.take 12 := by
    have htwelve : 12 ≤ fileId.length := by omega
    rw [slice_append_right (Nat.le_of_eq hfixed), hfixed, slice, drop_zero,
      take_append, take_of_length_le (by omega), hreserved,
      take_append_of_le_length htwelve]
  rw [createdFileId, if_neg hlong, hslice]

/-! ## Sessions in which each chunk is one PDU -/

structure Single where
  side : Side
  pdu : List UInt8
  fits : pdu.length < 2 ^ 24
  links : linksOf pdu = [.pdu pdu]

open Single

namespace Single

def message (s : Single) : NetbiosMessage := ⟨0, s.pdu, s.fits⟩

variable (c : Connection)

def chunk (s : Single) : StreamChunk := c.chunk s.side s.message.encode

def acts (s : Single) : List Act := [.arrive (s.chunk c), .follow (s.chunk c) (.pdu s.pdu)]

lemma sessionKey_chunk (s : Single) : (s.chunk c).sessionKey = c.sessionKey :=
  Segment.sessionKey_eq (c := c) ⟨s.side, s.chunk c, ⟨rfl, rfl⟩, ⟨rfl, rfl⟩, rfl⟩

lemma drain_encode (s : Single) : netbios.drain s.message.encode = ([s.pdu], []) := by
  have hdrain := netbios.drain_encoded _ _ NetbiosMessage.next_encode [s.message]
  rwa [flatMap_singleton] at hdrain

variable [HashOrder]

lemma actsOf_map (singles : List Single) {d : Smb2Decoder}
    (hbuffer : bufferOf d c.sessionKey = []) :
    actsOf d (singles.map (chunk c)) = singles.flatMap (acts c) := by
  induction singles generalizing d with
  | nil => rfl
  | cons s singles ih =>
    have hdrain : netbios.drain (bufferOf d (s.chunk c).sessionKey ++ (s.chunk c).payload) =
        ([s.pdu], []) := by
      rw [s.sessionKey_chunk, hbuffer]
      exact s.drain_encode
    have hacts : actsOn d (s.chunk c) = s.acts c := by
      rw [actsOn, receive_fst, hdrain, flatMap_singleton, s.links]
      rfl
    have hafter : bufferOf (d.onStreamChunk (s.chunk c)).2 c.sessionKey = [] := by
      rw [← s.sessionKey_chunk c, bufferOf_onStreamChunk_self, hdrain]
    rw [map_cons, actsOf, hacts, ih hafter, flatMap_cons]

omit [HashOrder] in
def sent (s : Single) : Option Message :=
  (Command.ofCode (readPdu s.pdu).command).map fun command => (command, readPdu s.pdu)

omit [HashOrder] in
lemma messagesOf_acts (singles : List Single) : messagesOf c.sessionKey (singles.flatMap (acts c)) =
    singles.filterMap sent := by
  induction singles with
  | nil => rfl
  | cons s singles ih =>
    have hhead : messagesOf c.sessionKey (s.acts c) = s.sent.toList := by
      simp only [messagesOf, acts, filterMap_cons, filterMap_nil, Act.message, s.sessionKey_chunk,
        if_true]
      rw [sent]
      cases ofCode (readPdu s.pdu).command <;> rfl
    rw [flatMap_cons, messagesOf, filterMap_append]
    rw [messagesOf] at hhead ih
    rw [hhead, ih, filterMap_cons]
    cases s.sent <;> rfl

end Single

/-! ## An administrative pipe -/

variable (command flags : UInt8) (status messageId : UInt8 × UInt8) (body : List UInt8)

/-- A PDU of the first session on the first tree; of the status and the message id two bytes are
given. -/
def pduBytes : List UInt8 :=
  [0xFE, 0x53, 0x4D, 0x42, 64, 0, 0, 0, status.1, status.2, 0, 0, command, 0, 0, 0, flags, 0, 0, 0,
    0, 0, 0, 0] ++
    [messageId.1, messageId.2, 0, 0, 0, 0, 0, 0, 0, 0, 0, 0, 1, 0, 0, 0, 1, 0, 0, 0, 0, 0, 0, 0] ++
    List.replicate 16 0 ++ body

lemma linksOf_pduBytes :
    linksOf (pduBytes command flags status messageId body) =
      [.pdu (pduBytes command flags status messageId body)] := by
  have hlength : (pduBytes command flags status messageId body).length =
      (63 + body.length) + 1 := by
    simp [pduBytes]
    omega
  have hsignature : (pduBytes command flags status messageId body).take 4 =
    [0xFE, 0x53, 0x4D, 0x42] := rfl
  have hsize : u16At (pduBytes command flags status messageId body) 4 = 64 := rfl
  have hlast : (u32At (pduBytes command flags status messageId body) 20).toNat = 0 := rfl
  have hfour : ¬ (63 + body.length) + 1 < 4 := by omega
  have hheader : ¬ (63 + body.length) + 1 < smb2HeaderLen := by
    rw [smb2HeaderLen]
    omega
  rw [linksOf, hlength, if_neg hfour, hsignature, chain, hlength, if_neg hheader, hsize, hlast]
  rfl

lemma request_pduBytes : (readPdu (pduBytes command 0 status messageId body)).isResponse =
    false := by
  change (u32At [0, 0, 0, 0] 0 &&& 1 != 0) = false
  decide

lemma response_pduBytes : (readPdu (pduBytes command 1 status messageId body)).isResponse =
    true := by
  change (u32At [1, 0, 0, 0] 0 &&& 1 != 0) = true
  decide

lemma ntStatus_pduBytes : (readPdu (pduBytes command 1 (0, 0) messageId body)).ntStatus = 0 := by
  rw [Pdu.ntStatus, response_pduBytes]
  rfl

def statusPending : UInt8 × UInt8 := (3, 1)

def askBody : List UInt8 :=
  [57, 0] ++ List.replicate 42 0 ++ [120, 0, 12, 0] ++ List.replicate 8 0 ++
    [115, 0, 118, 0, 99, 0, 99, 0, 116, 0, 108, 0]

variable (reserved b : UInt8)

/-- The body of the response: the reserved bytes and the file id are one byte all over. -/
def answerBody : List UInt8 :=
  [89, 0] ++ List.replicate 58 0 ++ List.replicate 4 reserved ++ List.replicate 16 b ++
    List.replicate 8 0

def readBody : List UInt8 :=
  [49, 0, 80, 0, 0, 16, 0, 0] ++ List.replicate 8 0 ++ List.replicate 16 b ++ List.replicate 17 0

def transceiveBody : List UInt8 :=
  [57, 0, 0, 0, 0x17, 0xC0, 0x11, 0] ++ List.replicate 16 b ++ List.replicate 33 0

lemma askBody_fits : (pduBytes 5 0 (0, 0) messageId askBody).length < 2 ^ 24 := by
  change 132 < 2 ^ 24
  decide

lemma answerBody_fits : (pduBytes 5 1 (0, 0) messageId (answerBody reserved b)).length <
    2 ^ 24 := by
  change 152 < 2 ^ 24
  decide

lemma interim_fits : (pduBytes 5 1 statusPending messageId [9, 0, 0, 0, 0, 0, 0, 0, 0]).length <
    2 ^ 24 := by
  change 73 < 2 ^ 24
  decide

lemma readBody_fits : (pduBytes 8 0 (0, 0) (0, 2) (readBody b)).length < 2 ^ 24 := by
  change 113 < 2 ^ 24
  decide

lemma transceiveBody_fits : (pduBytes 11 0 (0, 0) (0, 2) (transceiveBody b)).length < 2 ^ 24 := by
  change 121 < 2 ^ 24
  decide

def askRequest : Single := ⟨.client, _, askBody_fits messageId, linksOf_pduBytes _ _ _ _ _⟩

def answerResponse : Single :=
  ⟨.server, _, answerBody_fits messageId reserved b, linksOf_pduBytes _ _ _ _ _⟩

def interimResponse : Single := ⟨.server, _, interim_fits messageId, linksOf_pduBytes _ _ _ _ _⟩

def readRequest : Single := ⟨.client, _, readBody_fits b, linksOf_pduBytes _ _ _ _ _⟩

def transceiveRequest : Single := ⟨.client, _, transceiveBody_fits b, linksOf_pduBytes _ _ _ _ _⟩

lemma createName_askBody : createName askBody = some "svcctl" := by decide

lemma fileId_answerBody : 80 ≤ (answerBody reserved b).length ∧
  slice (answerBody reserved b) 64 16 = replicate 16 b := ⟨by simp [answerBody], rfl⟩

def svcctl (reserved b : UInt8) : Opening where
  request := readPdu (askRequest (0, 0)).pdu
  response := readPdu (answerResponse (0, 0) reserved b).pdu
  name := "svcctl"
  fileId := List.replicate 16 b
  asks := ⟨request_pduBytes _ _ _ _, createName_askBody⟩
  succeeds := ⟨response_pduBytes _ _ _ _, ntStatus_pduBytes _ _ _⟩
  returned := fileId_answerBody reserved b
  paired := rfl

lemma fileIdAt_transceiveBody : fileIdAt (transceiveBody b) 8 = some (replicate 16 b) := rfl

def svcctlTransceive : FileUse workstation.sessionKey (List.replicate 16 b) where
  kind := .ioctl
  chunk := (transceiveRequest b).chunk workstation
  bytes := (transceiveRequest b).pdu
  onSession := Single.sessionKey_chunk workstation (transceiveRequest b)
  decoded := rfl
  request := request_pduBytes _ _ _ _
  carries := fileIdAt_transceiveBody b

def shortSession : List Single :=
  [askRequest (0, 0), answerResponse (0, 0) 7 7, transceiveRequest 7]

def shortSessionActs : List Act :=
  [askRequest (0, 0), answerResponse (0, 0) 7 7].flatMap (Single.acts workstation) ++
    [.arrive ((transceiveRequest 7).chunk workstation)]

lemma actsOf_shortSession [HashOrder] :
    actsOf default (shortSession.map (chunk workstation)) =
      shortSessionActs ++ (svcctlTransceive 7).act :: [] := by
  rw [actsOf_map workstation shortSession rfl]
  rfl

lemma messagesOf_shortSession : messagesOf workstation.sessionKey shortSessionActs =
      [] ++ (svcctl 7 7).asking :: ([] ++ (svcctl 7 7).answering :: []) := by
  rw [messagesOf, shortSessionActs, filterMap_append]
  change messagesOf _ _ ++ [] = _
  rw [messagesOf_acts]
  rfl

theorem shortSession_named :
    letI : HashOrder := sample
    (actsOf default (shortSession.map (chunk workstation)) =
        shortSessionActs ++ (svcctlTransceive 7).act :: [] ∧
      messagesOf workstation.sessionKey shortSessionActs =
        [] ++ (svcctl 7 7).asking :: ([] ++ (svcctl 7 7).answering :: [])) ∧
    ∃ front events back,
      (run onStreamChunk default
        (shortSession.map (chunk workstation))).1 = front ++ events ++ back ∧
      (∃ e ∈ events, transactionIn e = some ("smb2_ioctl_request", some "svcctl")) ∧
      ∃ e ∈ events, severityIn e = some "high" := by
  let : HashOrder := sample
  have hnone : ∀ m ∈ ([] : List Message), ¬ returns (svcctl 7 7).fileId m = true :=
    fun m hm => absurd hm not_mem_nil
  obtain ⟨front, events, back, hrun, -, hnamed, hhigh⟩ :=
    fileRequest_named workstation.sessionKey (shortSession.map (chunk workstation))
      (svcctl 7 7) (svcctlTransceive 7) shortSessionActs [] [] [] [] actsOf_shortSession
      messagesOf_shortSession rfl (fun m hm => absurd hm not_mem_nil) (by decide) hnone
  exact ⟨⟨actsOf_shortSession, messagesOf_shortSession⟩, front, events, back, hrun, hnamed,
    hhigh (by decide) (by decide)⟩

/-! ## A file id that the decoder does not find -/

section

variable [HashOrder]

lemma read_unnamed {d : Smb2Decoder} {chunk : StreamChunk}
    (hunknown : d.fileName chunk (replicate 16 254) = none) :
    ∃ e, (d.decodePdu chunk (readRequest 254).pdu).1 = [e] ∧
      transactionIn e = some ("smb2_read_request", none) := by
  have hcommand : ofCode (readPdu (readRequest 254).pdu).command = some .read := rfl
  have hrequest : ¬ (readPdu (readRequest 254).pdu).isResponse = true := by
    rw [readRequest, request_pduBytes]
    decide
  have hsession : ¬ (readPdu (readRequest 254).pdu).sessionId = 0 := by decide
  have hcarries : fileIdAt (readPdu (readRequest 254).pdu).body 16 = some (replicate 16 254) := rfl
  have hevents : (d.decodePdu chunk (readRequest 254).pdu).1 =
      (d.onReadRequest chunk (readPdu (readRequest 254).pdu)).1 := by
    simp only [decodePdu, hcommand, hsession, false_and, if_false, nil_append, onCommand,
      if_neg hrequest]
  refine ⟨_, hevents, ?_⟩
  simp only [transferDetails, hcarries, Option.elim_some, fileAttributes, hunknown]
  change some ("smb2_read_request", (empty.extend _).get "file_name") = _
  decide

lemma last_read_unnamed (singles : List Single) (hunknown : ((singles.filterMap sent).foldl note
      (openFiles workstation.sessionKey default)).names.lookup (replicate 16 254) = none) :
    (run onStreamChunk default
      ((singles ++ [readRequest 254]).map (chunk workstation))).1.getLast?.bind transactionIn =
      some ("smb2_read_request", none) := by
  let chunk := (readRequest 254).chunk workstation
  let d := (run perform default (singles.flatMap (acts workstation))).2
  have hnames : (d.receive chunk).2.fileName chunk (replicate 16 254) = none := by
    rw [fileName_eq_lookup, sessionKey_chunk]
    change (openFiles workstation.sessionKey d).names.lookup _ = none
    rw [openFiles_run, messagesOf_acts, hunknown]
  obtain ⟨e, hevents, he⟩ := read_unnamed hnames
  have hlast : (run perform d ((readRequest 254).acts workstation)).1 = [e] := by
    change [] ++ (((d.receive chunk).2.decodePdu chunk (readRequest 254).pdu).1 ++ []) = [e]
    rw [hevents]
    rfl
  rw [← run_actsOf, actsOf_map workstation _ rfl, flatMap_append, run_append, flatMap_singleton,
    hlast, getLast?_concat]
  exact he

end

/-- The pipe is opened with a file id that stands at 64 behind four reserved bytes. A request with
the file id is reported without a name. So is it if an interim response comes before the final
one. -/
theorem standardResponse_unnamed :
    letI : HashOrder := sample
    (slice (svcctl 0 254).response.body 64 16 = replicate 16 254 ∧
      fileIdAt (readPdu (readRequest 254).pdu).body 16 = some (replicate 16 254)) ∧
    (run onStreamChunk default
        (([askRequest (0, 0), answerResponse (0, 0) 0 254] ++ [readRequest 254]).map
          (chunk workstation))).1.getLast?.bind transactionIn =
      some ("smb2_read_request", none) ∧
    (run onStreamChunk default
        (([askRequest (0, 0), interimResponse (0, 0), answerResponse (0, 0) 254 254] ++
          [readRequest 254]).map (chunk workstation))).1.getLast?.bind transactionIn =
      some ("smb2_read_request", none) := by
  let : HashOrder := sample
  refine ⟨⟨rfl, rfl⟩, ?_, ?_⟩
  · apply last_read_unnamed
    rfl
  · apply last_read_unnamed
    rfl

end MarlinspikeDpi.Smb2
