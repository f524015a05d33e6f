import MarlinspikeDpi.Smb2.Reassembly

/-!
# What a session knows of its files

On a sequence of chunks the decoder takes in chunks and follows the links of their messages
(`run_actsOf`).
-/

namespace MarlinspikeDpi.Smb2

open Engine Bytes Text Smb2Decoder List AList Option Nat Mealy PendingKey PendingRequest

/-! ## What the decoder does -/

/-- The decoder takes in a chunk, or follows a link of one of its messages. -/
inductive Act where
  | arrive (chunk : StreamChunk)
  | follow (chunk : StreamChunk) (link : Link)

section

variable [HashOrder]

def perform (d : Smb2Decoder) : Act → List BronzeEvent × Smb2Decoder
  | .arrive chunk => ([], (d.receive chunk).2)
  | .follow chunk link => decodeLink chunk d link

omit [HashOrder] in
def actsOn (d : Smb2Decoder) (chunk : StreamChunk) : List Act :=
  .arrive chunk :: ((d.receive chunk).1.flatMap linksOf).map (.follow chunk)

def actsOf : Smb2Decoder → List StreamChunk → List Act
  | _, [] => []
  | d, chunk :: chunks => actsOn d chunk ++ actsOf (d.onStreamChunk chunk).2 chunks

lemma run_actsOn (d : Smb2Decoder) (chunk : StreamChunk) :
    run perform d (actsOn d chunk) = d.onStreamChunk chunk := by
  rw [actsOn, run_cons, run_map, run_flatMap]
  rfl

lemma run_actsOf (d : Smb2Decoder) (chunks : List StreamChunk) :
    run perform d (actsOf d chunks) = run onStreamChunk d chunks := by
  induction chunks generalizing d with
  | nil => rfl
  | cons chunk chunks ih => rw [actsOf, run_append, run_actsOn, ih, run_cons]

end

/-! ## The messages of a session -/

abbrev Message : Type := Command × Pdu

def Act.message (key : String) : Act → Option Message
  | .follow chunk (.pdu bytes) =>
    if chunk.sessionKey = key then
      (Command.ofCode (readPdu bytes).command).map fun command => (command, readPdu bytes)
    else none
  | _ => none

def messagesOf (key : String) (acts : List Act) : List Message := acts.filterMap (Act.message key)

/-- The response to a `CREATE` request that has succeeded. -/
def isOpen (m : Message) : Bool := m.1 == .create && m.2.isResponse && m.2.ntStatus == 0

/-- The response of an open that the decoder reads with this file id. -/
def returns (fileId : FileId) (m : Message) : Bool :=
  isOpen m && createdFileId m.2.body == some fileId

/-! ## What is known of the files of a session -/

@[ext] structure OpenFiles where
  /-- The names of the requests that have no response yet. -/
  asked : UInt64 → Option String
  names : Table FileId String

def openFiles (key : String) (d : Smb2Decoder) : OpenFiles where
  asked messageId := (d.pending.lookup ⟨key, messageId⟩).bind PendingRequest.fileName
  names := (d.session key).fileNames

section

variable [HashOrder]

/-- Record a name; a full table gives up a key, whichever comes first. -/
def record (names : Table FileId String) (fileId : FileId) (name : String) : Table FileId String :=
  AList.insert fileId name (if 256 ≤ names.entries.length then
      match HashOrder.firstKey names with
      | some k => names.erase k
      | none => names
    else names)

namespace OpenFiles

omit [HashOrder] in
def opened (o : OpenFiles) (m : Message) : Option (FileId × String) :=
  if isOpen m then
    (createdFileId m.2.body).bind fun fileId => (o.asked m.2.messageId).map (fileId, ·)
  else none

def note (o : OpenFiles) (m : Message) : OpenFiles where
  asked := Function.update o.asked m.2.messageId
    (if m.2.isResponse then none else requestName m.2 m.1)
  names := (o.opened m).elim o.names fun file => record o.names file.1 file.2

end OpenFiles

open OpenFiles

/-! ## The decoder keeps them -/

omit [HashOrder] in
lemma asked_eq_update {d d' : Smb2Decoder} {key : String} {id : UInt64} {name : Option String}
    (hself : (d'.pending.lookup ⟨key, id⟩).bind fileName = name)
    (hother : ∀ k ≠ mk key id, d'.pending.lookup k = d.pending.lookup k) :
    (openFiles key d').asked = Function.update (openFiles key d).asked id name := by
  funext messageId
  by_cases hid : messageId = id
  · rw [hid, Function.update_self]
    exact hself
  · have hkey : mk key messageId ≠ ⟨key, id⟩ := fun h => hid (mk.inj h).2
    rw [Function.update_of_ne hid]
    exact congrArg (Option.bind · fileName) (hother _ hkey)

omit [HashOrder] in
lemma asked_expect (d : Smb2Decoder) (chunk : StreamChunk) (p : Pdu) (name : Option String) :
    (openFiles chunk.sessionKey (d.expect chunk p name)).asked =
      Function.update (openFiles chunk.sessionKey d).asked p.messageId name := by
  apply asked_eq_update
  · rw [expect, lookup_insert]
    rfl
  · intro k hk
    exact lookup_insert_ne hk

omit [HashOrder] in
lemma asked_settle (d : Smb2Decoder) (chunk : StreamChunk)
    (p : Pdu) : (openFiles chunk.sessionKey (d.settle chunk p)).asked =
      Function.update (openFiles chunk.sessionKey d).asked p.messageId none := by
  apply asked_eq_update
  · rw [settle, lookup_erase]
    rfl
  · intro k hk
    exact lookup_erase_ne hk

omit [HashOrder] in
lemma names_setSession (d : Smb2Decoder) (key key' : String) (s : SessionState) :
    (openFiles key' (d.setSession key s)).names =
      if key' = key then s.fileNames else (openFiles key' d).names := by
  unfold openFiles session setSession
  dsimp only
  rw [Table.lookup_insert_eq_ite]
  split <;> rfl

lemma fileNames_sessionUpdate (d : Smb2Decoder) (chunk : StreamChunk) (p : Pdu) (command : Command)
    (hresponse : p.isResponse = true) :
    ((d.sessionUpdate chunk p command).getD (d.session chunk.sessionKey)).fileNames =
      (((openFiles chunk.sessionKey d).opened (command, p)).elim
        (d.session chunk.sessionKey).fileNames
        fun file => record (d.session chunk.sessionKey).fileNames file.1 file.2) := by
  cases command with
  | negotiate =>
    simp only [sessionUpdate]
    split <;> rfl
  | treeConnect =>
    simp only [sessionUpdate]
    split
    · cases (d.answered chunk p).bind fileName <;> rfl
    · rfl
  | create =>
    by_cases hstatus : p.ntStatus = 0
    · have hopen : isOpen (.create, p) = true := by simp [isOpen, hresponse, hstatus]
      simp only [sessionUpdate, opened, if_pos hstatus, if_pos hopen]
      cases createdFileId p.body with
      | none => rfl
      | some fileId =>
        have hasked : (openFiles chunk.sessionKey d).asked p.messageId =
          (d.answered chunk p).bind fileName := rfl
        rw [hasked]
        cases (d.answered chunk p).bind fileName <;> rfl
    · have hopen : isOpen (.create, p) = false := by simp [isOpen, hstatus]
      simp [sessionUpdate, opened, hstatus, hopen]
  | sessionSetup | logoff | treeDisconnect | close | read | write | ioctl => rfl

lemma openFiles_onCommand (d : Smb2Decoder) (chunk : StreamChunk) (p : Pdu) (command : Command) :
    openFiles chunk.sessionKey (d.onCommand chunk p command).2 = (openFiles chunk.sessionKey d).note
      (command, p) := by
  rw [onCommand_snd]
  by_cases hresponse : p.isResponse = true
  · -- a response takes its request out of the table, and may write the state of the session
    rw [if_pos hresponse]
    have hnames := fileNames_sessionUpdate d chunk p command hresponse
    have hasked := asked_settle d chunk p
    apply OpenFiles.ext
    · simp only [note, if_pos hresponse]
      rw [← hasked]
      cases d.sessionUpdate chunk p command <;> rfl
    · refine Eq.trans ?_ hnames
      cases d.sessionUpdate chunk p command with
      | none => rfl
      | some s => rw [elim_some, names_setSession, if_pos rfl, getD_some]
  · -- a request only leaves its name, if its command has one
    rw [if_neg hresponse]
    have hopen : isOpen (command, p) = false := by simp [isOpen, hresponse]
    apply OpenFiles.ext
    · simp only [note, if_neg hresponse]
      exact asked_expect d chunk p _
    · simp only [note, opened, hopen]
      rfl

lemma openFiles_onCommand_of_ne (d : Smb2Decoder) {chunk : StreamChunk} {key : String}
    (hkey : chunk.sessionKey ≠ key) (p : Pdu) (command : Command) :
    openFiles key (d.onCommand chunk p command).2 = openFiles key d := by
  have hpending : ∀ messageId, mk key messageId ≠ ⟨chunk.sessionKey, p.messageId⟩ :=
    fun messageId h => hkey (mk.inj h).1.symm
  rw [onCommand_snd]
  by_cases hresponse : p.isResponse = true
  · rw [if_pos hresponse]
    have hsettle : openFiles key (d.settle chunk p) = openFiles key d := by
      apply OpenFiles.ext
      · funext messageId
        simp [openFiles, settle, lookup_erase_ne (hpending messageId)]
      · rfl
    cases d.sessionUpdate chunk p command with
    | none => exact hsettle
    | some s =>
      rw [← hsettle]
      apply OpenFiles.ext
      · rfl
      · rw [elim_some, names_setSession, if_neg (Ne.symm hkey)]
  · rw [if_neg hresponse]
    apply OpenFiles.ext
    · funext messageId
      simp [openFiles, expect, lookup_insert_ne (hpending messageId)]
    · rfl

lemma openFiles_decodePdu (key : String) (d : Smb2Decoder) (chunk : StreamChunk)
    (bytes : List UInt8) : openFiles key (d.decodePdu chunk bytes).2 =
      ((Act.follow chunk (.pdu bytes)).message key).elim (openFiles key d)
        (openFiles key d).note := by
  rw [decodePdu_snd, Act.message]
  cases Command.ofCode _ with
  | none => split <;> rfl
  | some command =>
    by_cases hkey : chunk.sessionKey = key
    · subst hkey
      rw [if_pos rfl]
      exact openFiles_onCommand d chunk _ command
    · rw [if_neg hkey]
      exact openFiles_onCommand_of_ne d hkey _ command

lemma openFiles_perform (key : String) (d : Smb2Decoder)
    (act : Act) : openFiles key (perform d act).2 =
      (act.message key).elim (openFiles key d) (openFiles key d).note := by
  cases act with
  | arrive chunk => rfl
  | follow chunk link =>
    cases link with
    | pdu bytes => exact openFiles_decodePdu key d chunk bytes
    | broken reason => rfl

/-- Whatever the decoder does, what it knows of the files of a session follows from the messages of
the session. -/
theorem openFiles_run (key : String) (d : Smb2Decoder) (acts : List Act) :
      openFiles key (run perform d acts).2 = (messagesOf key acts).foldl note (openFiles key d) :=
  view_run_eq_foldl_filterMap perform _ _ _ (openFiles_perform key) d acts

/-! ## Names stay as long as there is room -/

omit [HashOrder] in
lemma length_insert_le (names : Table FileId String) (fileId : FileId) (name : String) :
    (names.insert fileId name).entries.length ≤ names.entries.length + 1 := by
  rw [entries_insert, length_cons]
  exact succ_le_succ (kerase_sublist fileId names.entries).length_le

lemma length_record_le (names : Table FileId String) (fileId : FileId) (name : String) :
    (record names fileId name).entries.length ≤ names.entries.length + 1 := by
  have hroom : ∀ k, (names.erase k).entries.length ≤ names.entries.length :=
    fun k => (kerase_sublist k names.entries).length_le
  refine (length_insert_le _ _ _).trans (succ_le_succ ?_)
  split
  · split
    · exact hroom _
    · exact le_rfl
  · exact le_rfl

lemma lookup_record_self (names : Table FileId String) (fileId : FileId) (name : String) :
  (record names fileId name).lookup fileId = some name := lookup_insert _

lemma lookup_record_of_ne {fileId other : FileId} {names : Table FileId String}
    (hroom : names.entries.length < 256) (hne : fileId ≠ other) (name : String) :
    (record names other name).lookup fileId = names.lookup fileId := by
  rw [record, if_neg (not_le.2 hroom), lookup_insert_ne hne]

namespace OpenFiles

lemma length_note_le (o : OpenFiles) (m : Message) :
    (o.note m).names.entries.length ≤ o.names.entries.length + if isOpen m then 1 else 0 := by
  by_cases hopen : isOpen m = true
  · rw [if_pos hopen]
    change ((o.opened m).elim o.names fun file => record o.names file.1 file.2).entries.length ≤ _
    cases o.opened m with
    | none => exact le_succ _
    | some file => exact length_record_le o.names file.1 file.2
  · rw [note, opened, if_neg hopen]
    exact le_add_right _ _

lemma length_foldl_note_le (o : OpenFiles) (messages : List Message) :
    (messages.foldl note o).names.entries.length ≤
      o.names.entries.length + messages.countP isOpen := by
  induction messages generalizing o with
  | nil => exact le_rfl
  | cons m messages ih =>
    have hstep := o.length_note_le m
    have hrest := ih (o.note m)
    rw [foldl_cons, countP_cons]
    omega

lemma asked_foldl_note (o : OpenFiles) {messages : List Message} {messageId : UInt64}
    (hother : ∀ m ∈ messages, m.2.messageId ≠ messageId) :
    (messages.foldl note o).asked messageId = o.asked messageId := by
  induction messages generalizing o with
  | nil => rfl
  | cons m messages ih =>
    obtain ⟨hm, hmessages⟩ := forall_mem_cons.1 hother
    rw [foldl_cons, ih _ hmessages]
    exact Function.update_of_ne (Ne.symm hm) _ _

lemma lookup_note {fileId : FileId} {name : String} {o : OpenFiles} {m : Message}
    (hname : o.names.lookup fileId = some name)
    (hroom : isOpen m = true → o.names.entries.length < 256) (hother : ¬ returns fileId m = true) :
    (o.note m).names.lookup fileId = some name := by
  by_cases hopen : isOpen m = true
  · change ((o.opened m).elim o.names fun file => record o.names file.1 file.2).lookup fileId = _
    cases hopened : o.opened m with
    | none => exact hname
    | some file =>
      rw [opened, if_pos hopen] at hopened
      obtain ⟨other, hcreated, hfile⟩ := bind_eq_some_iff.1 hopened
      obtain ⟨asked, -, rfl⟩ := map_eq_some_iff.1 hfile
      have hne : fileId ≠ other := by
        intro hsame
        apply hother
        simp [returns, hopen, hcreated, hsame]
      rw [elim_some, lookup_record_of_ne (hroom hopen) hne, hname]
  · rw [note, opened, if_neg hopen]
    exact hname

lemma lookup_foldl_note {messages : List Message} {fileId : FileId} {name : String} {o : OpenFiles}
    (hname : o.names.lookup fileId = some name)
    (hroom : o.names.entries.length + messages.countP isOpen ≤ 256)
    (hother : ∀ m ∈ messages, ¬ returns fileId m = true) :
    (messages.foldl note o).names.lookup fileId = some name := by
  induction messages generalizing o with
  | nil => exact hname
  | cons m messages ih =>
    obtain ⟨hm, hmessages⟩ := forall_mem_cons.1 hother
    rw [countP_cons] at hroom
    -- an open takes one place of the room, any other message none
    have hstep := o.length_note_le m
    have hnow : isOpen m = true → o.names.entries.length < 256 := by
      intro hopen
      rw [if_pos hopen] at hroom
      omega
    exact ih (lookup_note hname hnow hm) (by omega) hmessages

end OpenFiles

end

end MarlinspikeDpi.Smb2
