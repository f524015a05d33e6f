import MarlinspikeDpi.EthernetIp.Decoder
import MarlinspikeDpi.Foundation.LastWrite

/-!
# Typed reads and their replies

The PCCC decoder pairs a reply with the read that is parked under the address of the client and the
transaction number.

* `reply_readings_iff`: when a reply gives the requested readings.
-/

namespace MarlinspikeDpi.EthernetIp

open Engine List EthernetIpDecoder EthernetIpDissector PcccDecoder

/-! ## PCCC messages -/

inductive PcccMessage where
  | read (p : Pending)
  | reply (sts : UInt8) (body : List UInt8)

/-- The message of a PDU with its transaction number: a typed read, or any reply. -/
def pcccMessage? (isRequest : Bool) (bytes : List UInt8) : Option (UInt16 × PcccMessage) :=
  match skipRequestorId bytes with
  | none => none
  | some (_, bytes) =>
    match readHeader bytes with
    | none => none
    | some (header, body) =>
      if isRequest then
        if header.cmd = 0x0F then (parseTypedRead body).map fun p => (header.tns, .read p.1)
        else none
      else some (header.tns, .reply header.sts body)

def pcccMessageIn? (chunk : StreamChunk) : Option (UInt16 × PcccMessage) :=
  match EthernetIpDissector.parse chunk.payload with
  | none => none
  | some fields =>
    match pcccPdu? fields with
    | none => none
    | some (isRequest, pdu) => pcccMessage? isRequest pdu

def PcccMessage.leaves : PcccMessage → Option Pending
  | .read p => some p
  | .reply _ _ => none

namespace PcccDecoder

def receive (d : PcccDecoder) (host : IpAddr) : UInt16 × PcccMessage → PcccDecoder
  | (tns, .read p) => ⟨d.pending.insert (host, tns) p⟩
  | (tns, .reply _ _) => ⟨d.pending.erase (host, tns)⟩

def report (d : PcccDecoder) (host : IpAddr) : UInt16 × PcccMessage →
    List (PcccAddress × PointValue)
  | (_, .read _) => []
  | (tns, .reply sts body) => if sts ≠ 0 then [] else (d.pending.lookup (host, tns)).elim []
    (·.readings body)

lemma lookup_receive (d : PcccDecoder) (host : IpAddr) (message : UInt16 × PcccMessage)
    (key : IpAddr × UInt16) : (d.receive host message).pending.lookup key =
      if (host, message.1) = key then message.2.leaves else d.pending.lookup key := by
  obtain ⟨tns, message⟩ := message
  cases message with
  | read p =>
    rw [receive, Table.lookup_insert_eq_ite]
    simp only [eq_comm, PcccMessage.leaves]
  | reply sts body =>
    rw [receive]
    by_cases hkey : (host, tns) = key
    · rw [if_pos hkey, ← hkey, AList.lookup_erase]
      rfl
    · rw [if_neg hkey, AList.lookup_erase_ne (Ne.symm hkey)]

lemma handlePdu_eq (d : PcccDecoder) (bytes : List UInt8) (isRequest : Bool) (host : IpAddr)
    (envelope : EventEnvelope) (captureId : String) :
    d.handlePdu bytes isRequest host envelope captureId =
      ((((pcccMessage? isRequest bytes).elim [] (d.report host)).map
        (pcccEvent envelope captureId)),
        (pcccMessage? isRequest bytes).elim d (d.receive host)) := by
  unfold handlePdu pcccMessage?
  cases skipRequestorId bytes with
  | none => rfl
  | some requestor =>
    obtain ⟨-, bytes⟩ := requestor
    dsimp only
    cases readHeader bytes with
    | none => rfl
    | some found =>
      obtain ⟨header, body⟩ := found
      dsimp only
      cases isRequest with
      | true =>
        rw [if_pos rfl, handleRequest]
        split
        · cases parseTypedRead body <;> rfl
        · rfl
      | false =>
        rw [if_neg Bool.false_ne_true, if_neg Bool.false_ne_true, handleResponse]
        simp only [Option.elim_some, report, receive]
        cases hparked : d.pending.lookup (host, header.tns) with
        | none =>
          rw [Table.erase_of_lookup_eq_none hparked]
          simp
        | some p =>
          by_cases hsts : header.sts = 0 <;> simp [hsts]

end PcccDecoder

lemma pcccEvent_injective (envelope : EventEnvelope) (captureId : String) :
    Function.Injective (pcccEvent envelope captureId) := by
  rintro ⟨⟨fileType, fileNumber, element, subElement⟩, value⟩
    ⟨⟨fileType', fileNumber', element', subElement'⟩, value'⟩ hsame
  obtain ⟨⟨rfl, rfl, rfl, rfl⟩, rfl⟩ := hsame
  rfl

def isProcessReading (event : BronzeEvent) : Bool :=
  match event.family with
  | .processReading _ => true
  | _ => false

section

variable [External]

lemma onStreamChunk_readings (d : EthernetIpDecoder) (chunk : StreamChunk) :
    (d.onStreamChunk chunk).1.filter isProcessReading =
      ((pcccMessageIn? chunk).elim [] (d.pcccDecoder.report chunk.context.srcIp)).map
        (pcccEvent (chunkEnvelope chunk) chunk.captureId) := by
  unfold onStreamChunk pcccMessageIn?
  cases parse _ with
  | none => rfl
  | some fields =>
    dsimp only
    have htransaction : isProcessReading (transaction chunk fields) = false := rfl
    have hidentities : ((parseCipIdentityClaims fields.command fields.cipData).map
        (identityObservation chunk)).filter isProcessReading = [] := by
      simp only [filter_map, map_eq_nil_iff, filter_eq_nil_iff]
      intro identity _
      exact Bool.false_ne_true
    have hartifacts : (if carriesCip fields.command = true ∧ fields.cipData ≠ [] then
        [cipArtifact chunk fields] else []).filter isProcessReading = [] := by
      split <;> rfl
    rw [cons_append, cons_append, filter_cons_of_neg (by simp [htransaction]),
      filter_append, filter_append, hidentities, hartifacts, nil_append,
      append_nil]
    cases pcccPdu? fields with
    | none => rfl
    | some found =>
      dsimp only
      rw [handlePdu_eq, filter_eq_self]
      intro event hevent
      obtain ⟨reading, -, rfl⟩ := mem_map.1 hevent
      rfl

lemma onStreamChunk_pcccDecoder (d : EthernetIpDecoder) (chunk : StreamChunk) :
    (d.onStreamChunk chunk).2.pcccDecoder =
      (pcccMessageIn? chunk).elim d.pcccDecoder (d.pcccDecoder.receive chunk.context.srcIp) := by
  unfold onStreamChunk pcccMessageIn?
  cases parse _ with
  | none => rfl
  | some fields =>
    dsimp only
    cases pcccPdu? fields with
    | none => rfl
    | some found =>
      dsimp only
      rw [handlePdu_eq]

/-! ## Histories -/

def feedAll (d : EthernetIpDecoder) (history : List StreamChunk) : EthernetIpDecoder :=
  history.foldl (fun d chunk => (d.onStreamChunk chunk).2) d

/-- What a chunk leaves parked under a host and a number, if it has a message of this host with this
number. -/
def leavesUnder (key : IpAddr × UInt16) (chunk : StreamChunk) : Option (Option Pending) :=
  match pcccMessageIn? chunk with
  | some (tns, message) => if (chunk.context.srcIp, tns) = key then some message.leaves else none
  | none => none

omit [External] in
lemma leavesUnder_read {chunk : StreamChunk} {tns : UInt16} {p : Pending}
    (hread : pcccMessageIn? chunk = some (tns, .read p)) (key : IpAddr × UInt16) :
    leavesUnder key chunk = if (chunk.context.srcIp, tns) = key then some (some p) else none := by
  rw [leavesUnder, hread]
  rfl

/-- The last read that a host has sent with a number, unless the host has sent a reply with it
since. -/
def lastRead (key : IpAddr × UInt16) (history : List StreamChunk) : Option Pending :=
  (lastWrite (leavesUnder key) history).join

lemma lookup_onStreamChunk (d : EthernetIpDecoder) (chunk : StreamChunk) (key : IpAddr × UInt16) :
    some ((d.onStreamChunk chunk).2.pcccDecoder.pending.lookup key) =
      (leavesUnder key chunk).or (some (d.pcccDecoder.pending.lookup key)) := by
  rw [onStreamChunk_pcccDecoder, leavesUnder]
  cases pcccMessageIn? chunk with
  | none => rfl
  | some message =>
    rw [Option.elim_some, lookup_receive]
    dsimp only
    split <;> rfl

lemma lookup_feedAll (history : List StreamChunk) (key : IpAddr × UInt16) :
    (feedAll default history).pcccDecoder.pending.lookup key = lastRead key history := by
  have hrun : some ((feedAll default history).pcccDecoder.pending.lookup key) =
      (lastWrite (leavesUnder key) history).or (some none) :=
    view_run (fun d : EthernetIpDecoder => some (d.pcccDecoder.pending.lookup key))
      (fun d chunk => lookup_onStreamChunk d chunk key) _ history
  rw [lastRead]
  cases hlast : lastWrite _ history with
  | none => exact Option.some.inj (by rw [hrun, hlast]; rfl)
  | some parked => exact Option.some.inj (by rw [hrun, hlast]; rfl)

/-! ## Exchanges -/

/-- A typed read of a client and a successful reply with its transaction number in the reverse
direction. -/
structure Exchange where
  (request reply : StreamChunk)
  tns : UInt16
  read : Pending
  body : List UInt8
  asks : pcccMessageIn? request = some (tns, .read read)
  answers : pcccMessageIn? reply = some (tns, .reply 0 body)
  fromServer : reply.context.srcIp = request.context.dstIp ∧
    reply.context.srcPort = request.context.dstPort
  toClient : reply.context.dstIp = request.context.srcIp ∧
    reply.context.dstPort = request.context.srcPort

namespace Exchange

variable (x : Exchange)

def client : IpAddr := x.request.context.srcIp

def server : IpAddr := x.request.context.dstIp

/-- The readings of the requested elements with the values of the reply. -/
def readings (x : Exchange) : List BronzeEvent :=
  (x.read.readings x.body).map (pcccEvent (chunkEnvelope x.reply) x.reply.captureId)

def reported (history : List StreamChunk) : List BronzeEvent :=
  ((feedAll EthernetIpDecoder.default history).onStreamChunk x.reply).1.filter isProcessReading

/-- No chunk has a read or a reply of the client with the transaction number. -/
def Quiet (between : List StreamChunk) : Prop :=
  ∀ chunk ∈ between, leavesUnder (x.client, x.tns) chunk = none

/-- The server itself has a read with the number open, after the chunks, which would give the same
readings; or it has none, and the reply has no reading to give. -/
def Coincides (history : List StreamChunk) : Prop :=
  (lastRead (x.server, x.tns) history).elim [] (·.readings x.body) = x.read.readings x.body

lemma reported_eq_readings_iff (history : List StreamChunk) : x.reported history = x.readings ↔
    x.Coincides history := by
  have hreported : x.reported history =
    ((lastRead (x.server, x.tns) history).elim [] (·.readings x.body)).map
        (pcccEvent (chunkEnvelope x.reply) x.reply.captureId) := by
    rw [reported, onStreamChunk_readings, x.answers, Option.elim_some, report,
      if_neg (by decide), lookup_feedAll, x.fromServer.1, server]
  rw [hreported, readings]
  exact map_inj_right fun _ _ hsame => pcccEvent_injective _ _ hsame

omit [External] in
/-- The request counts for the server only if it comes from the server's address and nothing of the
client follows it. -/
theorem lastRead_request (x : Exchange) (before between : List StreamChunk) :
    (x.client = x.server ∧ x.Quiet between ∧
      lastRead (x.server, x.tns) (before ++ x.request :: between) = some x.read) ∨
    (¬ (x.client = x.server ∧ x.Quiet between) ∧
      lastRead (x.server, x.tns) (before ++ x.request :: between) =
        lastRead (x.server, x.tns) (before ++ between)) := by
  have hrequest := leavesUnder_read x.asks (x.server, x.tns)
  by_cases hclient : x.client = x.server
  · have hkey : (x.request.context.srcIp, x.tns) = (x.server, x.tns) := congrArg (·, x.tns) hclient
    rw [if_pos hkey] at hrequest
    by_cases hquiet : x.Quiet between
    · refine .inl ⟨hclient, hquiet, ?_⟩
      have hbetween : lastWrite (leavesUnder (x.server, x.tns)) between = none := by
        rw [← hclient]
        exact lastWrite_eq_none_iff.2 hquiet
      rw [lastRead, lastWrite_append, lastWrite_cons, hbetween, hrequest]
      rfl
    · refine .inr ⟨fun h => hquiet h.2, ?_⟩
      -- a later message of the client takes the place of the request
      cases hlast : lastWrite (leavesUnder (x.server, x.tns)) between with
      | none =>
        rw [← hclient] at hlast
        exact absurd (lastWrite_eq_none_iff.1 hlast) hquiet
      | some later =>
        rw [lastRead, lastRead, lastWrite_append, lastWrite_append, lastWrite_cons, hlast]
        rfl
  · have hkey : (x.request.context.srcIp, x.tns) ≠ (x.server, x.tns) :=
      fun h => hclient (congrArg Prod.fst h)
    rw [if_neg hkey] at hrequest
    refine .inr ⟨fun h => hclient h.1, ?_⟩
    rw [lastRead, lastRead, lastWrite_append, lastWrite_append, lastWrite_cons, hrequest,
      Option.or_none]

/-- The reply gives the requested readings exactly if client and server have one address and the
client sends nothing else with the number in between, or if the server has a read of its own open
that fits as well. -/
theorem reply_readings_iff (x : Exchange) (before between : List StreamChunk) :
    x.reported (before ++ x.request :: between) = x.readings ↔
      (x.client = x.server ∧ x.Quiet between) ∨ x.Coincides (before ++ between) := by
  rw [reported_eq_readings_iff]
  rcases x.lastRead_request before between with ⟨hclient, hquiet, hread⟩ | ⟨hnot, hsame⟩
  · have hcoincides : x.Coincides (before ++ x.request :: between) := by
      rw [Coincides, hread]
      rfl
    exact ⟨fun _ => .inl ⟨hclient, hquiet⟩, fun _ => hcoincides⟩
  · rw [Coincides, hsame]
    exact ⟨.inr, fun h => h.resolve_left hnot⟩

end Exchange

end

/-! ## An ordinary exchange -/

/-- A `SendRRData` message with the CIP message in its second item. -/
def cipMessage (message : List UInt8) : List UInt8 :=
  [0x6F, 0, UInt8.ofNat (16 + message.length), 0] ++ List.replicate 20 0 ++
    [0, 0, 0, 0, 0, 0, 2, 0, 0, 0, 0, 0, 0xB2, 0, UInt8.ofNat message.length, 0] ++ message

/-- 10.0.0.1 asks 10.0.0.2 for the integer `N7:0` in the transaction 1. -/
def requestChunk : StreamChunk :=
  hostChunk 1 .tcp 49152 44818
    (cipMessage ([0x4B, 2, 0x20, 0x67, 0x24, 1] ++ [7, 0, 0, 0, 0, 0, 0] ++
    [0x0F, 0, 1, 0] ++ [0x68, 2, 7, 0x89, 0, 0]))

def replyChunk : StreamChunk :=
  let chunk := hostChunk 2 .tcp 44818 49152
    (cipMessage ([0xCB, 0, 0, 0] ++ [7, 0, 0, 0, 0, 0, 0] ++ [0x4F, 0, 1, 0] ++ [5, 0]))
  { chunk with context :=
    { chunk.context with srcIp := .v4 ⟨10, 0, 0, 2⟩, dstIp := .v4 ⟨10, 0, 0, 1⟩ } }

def integerAddress : PcccAddress :=
  { fileType := ftInteger, fileNumber := 7, element := 0, subElement := none }

lemma requestChunk_asks : pcccMessageIn? requestChunk = some (1, .read ⟨1, integerAddress⟩) := by
  rfl

lemma replyChunk_answers : pcccMessageIn? replyChunk = some (1, .reply 0 [5, 0]) := by
  rfl

def plainExchange : Exchange where
  request := requestChunk
  reply := replyChunk
  tns := 1
  read := ⟨1, integerAddress⟩
  body := [5, 0]
  asks := requestChunk_asks
  answers := replyChunk_answers
  fromServer := ⟨rfl, rfl⟩
  toClient := ⟨rfl, rfl⟩

/-- The reply follows its request at once, and its value is not reported. -/
theorem plainExchange_unreported :
    letI : External := External.sample
    plainExchange.read.readings plainExchange.body = [(integerAddress, .int16 5)] ∧
      plainExchange.reported [plainExchange.request] = [] := by
  decide

end MarlinspikeDpi.EthernetIp
