import MarlinspikeDpi.Engine.Decoder
import MarlinspikeDpi.Foundation.Ledger
import MarlinspikeDpi.Modbus.Dissector

/-!
# Modbus over UDP

One frame per datagram. Requests wait for their responses in a table of at most 256 entries; a queue
of the keys says which entry is the oldest.

* `pending_queued`: table and queue agree.
* `datagram_requests_emitted_iff`: when every request is emitted.
* `pairedReadings_distinct`: the addresses of the readings.
-/

namespace MarlinspikeDpi.Modbus
namespace Udp

open Bytes Text Engine Ledger List AList Nat

/-! ## The decoder -/

structure PKey where
  (srcIp dstIp : IpAddr)
  txnId : UInt16
deriving DecidableEq

structure PReq where
  key : PKey
  captureId : String
  envelope : EventEnvelope
  (unitId fc : UInt8)
  operation : String
  (startAddr qty : Option UInt16)
deriving DecidableEq

structure ModbusUdpDecoder where
  order : List PKey
  pending : Table PKey PReq

open ModbusUdpDecoder

namespace ModbusUdpDecoder

def default : ModbusUdpDecoder :=
  { order := [], pending := ∅ }

def maxPending : Nat := 256

def displaced (d : ModbusUdpDecoder) : Option PKey :=
  if maxPending ≤ d.pending.entries.length then d.order.head? else none

def displace (d : ModbusUdpDecoder) : ModbusUdpDecoder :=
  match d.displaced with
  | some key => { order := d.order.tail, pending := d.pending.erase key }
  | none => d

def park (d : ModbusUdpDecoder) (req : PReq) : ModbusUdpDecoder :=
  let d := d.displace
  let order :=
    if (d.pending.lookup req.key).isSome then d.order.filter (· ≠ req.key) else d.order
  { order := order ++ [req.key], pending := d.pending.insert req.key req }

def pop (d : ModbusUdpDecoder) (key : PKey) : Option PReq × ModbusUdpDecoder :=
  match d.pending.lookup key with
  | some req => (some req, { order := d.order.filter (· ≠ key), pending := d.pending.erase key })
  | none => (none, d)

end ModbusUdpDecoder

/-! ## Reading a datagram -/

variable (fc : UInt8)

def reqAddrQty (pdu : List UInt8) : Option UInt16 × Option UInt16 :=
  if (0x01 ≤ fc ∧ fc ≤ 0x04 ∨ fc = 0x0F ∨ fc = 0x10 ∨ fc = 0x17) ∧ 5 ≤ pdu.length then
    (some (wordAt pdu 1), some (wordAt pdu 3))
  else if (fc = 0x05 ∨ fc = 0x06) ∧ 5 ≤ pdu.length then (some (wordAt pdu 1), none)
  else if fc = 0x16 ∧ 3 ≤ pdu.length then (some (wordAt pdu 1), none)
  else (none, none)

def respValues (pdu : List UInt8) : List UInt16 :=
  if (fc = 0x03 ∨ fc = 0x04 ∨ fc = 0x17) ∧ 2 ≤ pdu.length then
    let byteCount := (byteAt pdu 1).toNat
    let data := pdu.drop 2
    if data.length < byteCount ∨ byteCount % 2 ≠ 0 then [] else words (data.take byteCount)
  else
    []

def fcName : String :=
  if fc = 0x01 then "read_coils"
  else if fc = 0x02 then "read_discrete_inputs"
  else if fc = 0x03 then "read_holding_registers"
  else if fc = 0x04 then "read_input_registers"
  else if fc = 0x05 then "write_single_coil"
  else if fc = 0x06 then "write_single_register"
  else if fc = 0x0F then "write_multiple_coils"
  else if fc = 0x10 then "write_multiple_registers"
  else if fc = 0x16 then "mask_write_register"
  else if fc = 0x17 then "read_write_multiple_registers"
  else if fc = 0x2B then "encapsulated_interface_transport"
  else "modbus_unknown_fc_" ++ toString fc.toNat

def isKnownFc : Bool :=
  [0x01, 0x02, 0x03, 0x04, 0x05, 0x06, 0x0F, 0x10, 0x16, 0x17, 0x2B].contains fc

variable (chunk : StreamChunk)

def udpEnv : EventEnvelope :=
  buildEnvelope chunk.context chunk.toFrameInfo .udp (some "modbus_udp") chunk.sessionKey

def anomaly (severity reason : String) : BronzeEvent :=
  parseAnomalyEvent chunk.captureId (udpEnv chunk) "modbus_udp" severity reason chunk.payload

/-- Header fields and PDU of a datagram; the PDU starts with the function code. -/
structure UdpFrame where
  txnId : UInt16
  (unitId fc : UInt8)
  pdu : List UInt8

inductive UdpMessage where
  | exception (frame : UdpFrame)
  | request (frame : UdpFrame)
  | response (frame : UdpFrame)

/-- The anomalies of a datagram, and the message in it if it is one for this decoder. -/
def readDatagram : List BronzeEvent × Option UdpMessage :=
  let p := chunk.payload
  if p.length < 8 then
    ([anomaly chunk "medium" "modbus/udp datagram shorter than minimum MBAP+FC"], none)
  else
    let protoId := wordAt p 2
    if protoId ≠ 0 then
      ([anomaly chunk "medium" ("modbus/udp non-zero protocol_id=0x" ++ hexPad 4 protoId.toNat)],
        none)
    else
      let mbapLen := (wordAt p 4).toNat
      let frame : UdpFrame :=
        { txnId := wordAt p 0, unitId := byteAt p 6, fc := byteAt p 7, pdu := p.drop 7 }
      -- a wrong length is noted, but the datagram is still read
      let noted :=
        if 6 + mbapLen ≠ p.length then
          [anomaly chunk "medium" ("modbus/udp MBAP length=" ++ toString mbapLen ++
            " disagrees with datagram length=" ++ toString (p.length - 6))]
        else []
      -- UMAS and its exceptions belong to another decoder
      if frame.fc = 0x5A ∨ frame.fc = 0xDA then (noted, none)
      else if frame.fc &&& 0x80 ≠ 0 then (noted, some (.exception frame))
      else
        let noted :=
          if isKnownFc frame.fc then noted
          else noted ++ [anomaly chunk "low"
            ("modbus/udp unknown function code 0x" ++ hexPad 2 frame.fc.toNat)]
        if chunk.context.dstPort = 502 ∧ chunk.context.srcPort ≠ 502 then
          (noted, some (.request frame))
        else (noted, some (.response frame))

/-! ## Events -/

def txEvent (captureId : String) (envelope : EventEnvelope) (operation status : String)
    (unitId : UInt8) (txnId : UInt16) (fc : UInt8) (startAddr qty : Option UInt16)
    (values : List UInt16) (exceptionCode : Option UInt8) (direction : String) : BronzeEvent :=
  newEvent captureId envelope (.protocolTransaction
    { operation
      status
      attributes :=
        (((OrderedMap.empty.insert "unit_id" (toString unitId.toNat)).insert
          "transaction_id" (toString txnId.toNat)).insert
          "function_code" ("0x" ++ hexPad 2 fc.toNat)).insert "transport" "udp"
      modbus := some
        { fc := fc &&& 0x7F
          startAddr
          qty
          values
          exceptionCode
          direction } })

def registerKind : Option ModbusRegKind :=
  if fc = 0x03 ∨ fc = 0x17 then some .holdingRegister
  else if fc = 0x04 then some .inputRegister
  else none

def emitReadings (startAddr : Option UInt16) (unitId : UInt8) (values : List UInt16)
    (captureId : String) (envelope : EventEnvelope) (observedTs : UInt64) : List BronzeEvent :=
  match registerKind fc with
  | none => []
  | some kind =>
    values.zipIdx.map fun (value, i) =>
      newEvent captureId envelope (.processReading
        { sourceProtocol := "modbus_udp"
          pointId :=
            .modbusRegister unitId (UInt16.ofNat (min ((startAddr.getD 0).toNat + i % 65536) 65535))
              kind
          value := .uint16 value
          quality := .none
          sourceTs := none
          observedTs })

def merge (req resp : EventEnvelope) : EventEnvelope :=
  { req with
    bytesCount := req.bytesCount + resp.bytesCount
    packetCount := req.packetCount + 1 }

def observedTs : UInt64 := UInt64.ofNat (DateTime.asU64 chunk.timestamp.timestampMicros)

variable (frame : UdpFrame)

def parkedRequest : PReq :=
  { key := ⟨chunk.context.srcIp, chunk.context.dstIp, frame.txnId⟩, captureId := chunk.captureId,
    envelope := udpEnv chunk, unitId := frame.unitId, fc := frame.fc, operation := fcName frame.fc,
    startAddr := (reqAddrQty frame.fc frame.pdu).1, qty := (reqAddrQty frame.fc frame.pdu).2 }

/-- A response is looked up under the key of its request, with the addresses exchanged. -/
def replyKey : PKey := ⟨chunk.context.dstIp, chunk.context.srcIp, frame.txnId⟩

def exceptionCode : UInt8 := (frame.pdu[1]?).getD 0

def exceptionStatus : String := "exception_0x" ++ hexPad 2 (exceptionCode frame).toNat

def exceptionEvents : Option PReq → List BronzeEvent
  | some req =>
    [txEvent req.captureId (merge req.envelope (udpEnv chunk)) req.operation
      (exceptionStatus frame) frame.unitId frame.txnId (frame.fc &&& 0x7F) req.startAddr req.qty []
      (some (exceptionCode frame)) "paired"]
  | none =>
    [txEvent chunk.captureId (udpEnv chunk) (fcName (frame.fc &&& 0x7F)) (exceptionStatus frame)
      frame.unitId frame.txnId (frame.fc &&& 0x7F) none none [] (some (exceptionCode frame))
      "response"]

def responseEvents : Option PReq → List BronzeEvent
  | some req =>
    let values := respValues frame.fc frame.pdu
    emitReadings frame.fc req.startAddr req.unitId values chunk.captureId
        (merge req.envelope (udpEnv chunk)) (observedTs chunk) ++
      [txEvent req.captureId (merge req.envelope (udpEnv chunk)) req.operation "ok" frame.unitId
        frame.txnId frame.fc req.startAddr req.qty values none "paired"]
  | none =>
    let values := respValues frame.fc frame.pdu
    emitReadings frame.fc none frame.unitId values chunk.captureId (udpEnv chunk)
      (observedTs chunk) ++
      [txEvent chunk.captureId (udpEnv chunk) (fcName frame.fc) "response_only" frame.unitId
        frame.txnId frame.fc none none values none "response"]

def requestOnly (req : PReq) : BronzeEvent :=
  txEvent req.captureId req.envelope req.operation "request_only" req.unitId req.key.txnId req.fc
    req.startAddr req.qty [] none "request"

variable (d : ModbusUdpDecoder)

def onDatagram (chunk : StreamChunk) : List BronzeEvent × ModbusUdpDecoder :=
  let (noted, message?) := readDatagram chunk
  match message? with
  | none => (noted, d)
  | some (.exception frame) =>
    let popped := d.pop (replyKey chunk frame)
    (noted ++ exceptionEvents chunk frame popped.1, popped.2)
  | some (.request frame) => (noted, d.park (parkedRequest chunk frame))
  | some (.response frame) =>
    let popped := d.pop (replyKey chunk frame)
    (noted ++ responseEvents chunk frame popped.1, popped.2)

def onIdleFlush (_timestamp : DateTime) : List BronzeEvent × ModbusUdpDecoder :=
  (d.pending.entries.map fun entry => requestOnly entry.2, ModbusUdpDecoder.default)

instance : SessionDecoder ModbusUdpDecoder where
  name _ := "modbus_udp"
  interest _ := [.udpPort 502]
  onDatagram
  onIdleFlush

/-! ## The queue and the table -/

/-- The queue holds the keys of the table, each of them once. -/
structure Consistent (d : ModbusUdpDecoder) : Prop where
  nodup : d.order.Nodup
  mem_iff : ∀ key, key ∈ d.order ↔ key ∈ d.pending

namespace Consistent

variable {d}

lemma default : Consistent default where
  nodup := nodup_nil
  mem_iff := by simp [ModbusUdpDecoder.default, notMem_empty]

lemma length_order (h : Consistent d) : d.order.length = d.pending.entries.length := by
  have hperm : d.order.Perm d.pending.keys :=
    (perm_ext_iff_of_nodup h.nodup d.pending.keys_nodup).2 h.mem_iff
  rw [hperm.length_eq, AList.keys, List.keys, length_map]

lemma displaced_of_full (h : Consistent d) (hfull : maxPending ≤ d.pending.entries.length) :
    ∃ key, d.displaced = some key ∧ key ∈ d.pending := by
  cases horder : d.order with
  | cons key rest =>
    refine ⟨key, ?_, ?_⟩
    · simp [displaced, hfull, horder]
    · rw [← h.mem_iff, horder]
      exact mem_cons_self
  | nil =>
    -- an entry of the full table has its key in the queue
    have hpos : 0 < d.pending.entries.length := lt_of_lt_of_le (by decide) hfull
    obtain ⟨⟨key, req⟩, hentry⟩ := exists_mem_of_length_pos hpos
    have hkey : key ∈ d.order := (h.mem_iff key).2 (mem_keys_of_mem hentry)
    rw [horder] at hkey
    cases hkey

lemma erase (h : Consistent d) (key : PKey) :
    Consistent { order := d.order.filter (· ≠ key), pending := d.pending.erase key } where
  nodup := h.nodup.filter _
  mem_iff := by simp [mem_erase, h.mem_iff, and_comm]

lemma displace (h : Consistent d) : Consistent d.displace := by
  unfold ModbusUdpDecoder.displace
  cases hdisplaced : d.displaced with
  | none => exact h
  | some key =>
    have hhead : d.order.head? = some key := by
      unfold displaced at hdisplaced
      split at hdisplaced
      · exact hdisplaced
      · cases hdisplaced
    obtain ⟨rest, horder⟩ := head?_eq_some_iff.1 hhead
    have hnotin : key ∉ rest := (nodup_cons.1 (horder ▸ h.nodup)).1
    -- no key occurs twice, so the tail is what is left without the head
    have htail : d.order.tail = d.order.filter (· ≠ key) := by
      rw [horder, filter_cons_of_neg (by simp)]
      refine (filter_eq_self.2 ?_).symm
      intro other hother
      exact decide_eq_true (ne_of_mem_of_not_mem hother hnotin)
    simpa only [htail] using h.erase key

lemma order_park (h : Consistent d) (req : PReq) :
    (d.park req).order = d.displace.order.filter (· ≠ req.key) ++ [req.key] := by
  refine congrArg (· ++ [req.key]) ?_
  split
  · rfl
  · rename_i habsent
    refine (filter_eq_self.2 ?_).symm
    intro other hother
    refine decide_eq_true ?_
    rintro rfl
    exact habsent (lookup_isSome.2 ((h.displace.mem_iff _).1 hother))

lemma park (h : Consistent d) (req : PReq) : Consistent (d.park req) := by
  have hroom : Consistent d.displace := h.displace
  constructor
  · rw [h.order_park]
    refine nodup_append.2 ⟨hroom.nodup.filter _, nodup_singleton _, ?_⟩
    intro key hkey other hother
    rw [mem_singleton.1 hother]
    exact of_decide_eq_true (mem_filter.1 hkey).2
  · intro key
    rw [h.order_park, ModbusUdpDecoder.park]
    by_cases hkey : key = req.key
    · simp [hkey, mem_insert]
    · simp [hkey, mem_insert, hroom.mem_iff]

lemma pop (h : Consistent d) (key : PKey) : Consistent (d.pop key).2 := by
  unfold ModbusUdpDecoder.pop
  cases d.pending.lookup key with
  | none => exact h
  | some req => exact h.erase key

end Consistent

namespace ModbusUdpDecoder

lemma pop_fst (key : PKey) : (d.pop key).1 = d.pending.lookup key := by
  unfold pop
  cases d.pending.lookup key <;> rfl

lemma pop_pending (key : PKey) : (d.pop key).2.pending = d.pending.erase key := by
  unfold pop
  cases hlookup : d.pending.lookup key with
  | none => exact (Table.erase_of_lookup_eq_none hlookup).symm
  | some req => rfl

end ModbusUdpDecoder

/-! ## The order of the queue -/

inductive PendingOp where
  | park (req : PReq)
  | pop (key : PKey)
  | flush (timestamp : DateTime)

open PendingOp

namespace PendingOp

def apply (d : ModbusUdpDecoder) : PendingOp → ModbusUdpDecoder
  | .park req => d.park req
  | .pop key => (d.pop key).2
  | .flush timestamp => (onIdleFlush d timestamp).2

def key? : PendingOp → Option PKey
  | .park req => some req.key
  | _ => none

end PendingOp

/-- The queue after the keys `inserted`: those still waiting, each where it was inserted last. -/
structure Queued (d : ModbusUdpDecoder) (inserted : List PKey) : Prop extends Consistent d where
  inOrder : d.order.Sublist inserted.dedup
  bounded : d.order.length ≤ ModbusUdpDecoder.maxPending

lemma dedup_concat (keys : List PKey) (key : PKey) :
    (keys ++ [key]).dedup = keys.dedup.filter (· ≠ key) ++ [key] := by
  induction keys with
  | nil => rfl
  | cons first keys ih =>
    rw [cons_append]
    by_cases hlater : first ∈ keys
    · rw [dedup_cons_of_mem (mem_append_left _ hlater), dedup_cons_of_mem hlater, ih]
    · by_cases hfirst : first = key
      · subst hfirst
        rw [dedup_cons_of_mem (by simp), dedup_cons_of_notMem hlater, filter_cons_of_neg (by simp),
          ih]
      · rw [dedup_cons_of_notMem (by simp [hlater, hfirst]), dedup_cons_of_notMem hlater,
          filter_cons_of_pos (by simp [hfirst]), ih, cons_append]

namespace Queued

variable {d}

lemma room {inserted : List PKey} (h : Queued d inserted) :
    d.displace.order.length < maxPending := by
  have hlength := h.length_order
  have hbounded := h.bounded
  unfold displace
  by_cases hfull : maxPending ≤ d.pending.entries.length
  · -- the oldest request makes room
    obtain ⟨key, hdisplaced, -⟩ := h.displaced_of_full hfull
    have hpos : 0 < maxPending := by decide
    rw [hdisplaced]
    rw [length_tail]
    omega
  · have hnone : d.displaced = none := by simp [displaced, hfull]
    rw [hnone]
    dsimp only
    omega

lemma displace_sublist : d.displace.order.Sublist d.order := by
  unfold displace
  cases d.displaced with
  | none => exact List.Sublist.refl _
  | some key => exact tail_sublist _

lemma park {inserted : List PKey} (h : Queued d inserted)
    (req : PReq) : Queued (d.park req) (inserted ++ [req.key]) where
  toConsistent := h.toConsistent.park req
  inOrder := by
    rw [h.order_park, dedup_concat]
    exact ((displace_sublist.trans h.inOrder).filter _).append (List.Sublist.refl _)
  bounded := by
    rw [h.order_park, length_append]
    exact succ_le_of_lt (lt_of_le_of_lt (length_filter_le _ _) h.room)

lemma pop {inserted : List PKey} (h : Queued d inserted)
    (key : PKey) : Queued (d.pop key).2 inserted := by
  have hsublist : (d.pop key).2.order.Sublist d.order := by
    unfold ModbusUdpDecoder.pop
    cases d.pending.lookup key with
    | none => exact List.Sublist.refl _
    | some req => exact filter_sublist
  exact ⟨h.toConsistent.pop key, hsublist.trans h.inOrder, hsublist.length_le.trans h.bounded⟩

end Queued

/-- After any sequence of operations: the queue holds the keys of the table, each of them once and
in the order in which they were inserted last, and there are at most 256. -/
theorem pending_queued (ops : List PendingOp) :
    let d := ops.foldl apply default
    d.order.Nodup ∧ (∀ key, key ∈ d.order ↔ key ∈ d.pending) ∧
      d.order.Sublist (ops.filterMap key?).dedup ∧ d.pending.entries.length ≤ 256 := by
  have hqueued : Queued (ops.foldl apply default) (ops.filterMap key?) := by
    induction ops using List.reverseRecOn with
    | nil => exact ⟨Consistent.default, nil_sublist _, zero_le _⟩
    | append_singleton ops op ih =>
      rw [foldl_append, filterMap_append]
      cases op with
      | park req => exact ih.park req
      | pop key =>
        have hnothing : [pop key].filterMap key? = [] := rfl
        rw [hnothing, append_nil]
        exact ih.pop key
      | flush timestamp => exact ⟨Consistent.default, nil_sublist _, zero_le _⟩
  exact ⟨hqueued.nodup, hqueued.mem_iff, hqueued.inOrder, hqueued.length_order ▸ hqueued.bounded⟩

/-! ## Datagrams and flushes -/

inductive Action where
  | datagram (chunk : StreamChunk)
  | idleFlush (timestamp : DateTime)

def Action.request? : Action → Option PReq
  | .datagram chunk =>
    match (readDatagram chunk).2 with
    | some (.request frame) => some (parkedRequest chunk frame)
    | _ => none
  | .idleFlush _ => none

def requestsOf (actions : List Action) : List PReq := actions.filterMap Action.request?

def act : Action → List BronzeEvent × ModbusUdpDecoder
  | .datagram chunk => onDatagram d chunk
  | .idleFlush timestamp => onIdleFlush d timestamp

def movements : Action → List (Movement PKey PReq)
  | .datagram chunk =>
    match (readDatagram chunk).2 with
    | some (.exception frame) => [.take (replyKey chunk frame)]
    | some (.request frame) =>
      -- the oldest request goes first, even if the new one replaces another
      d.displaced.toList.map .drop ++
        [.park (parkedRequest chunk frame).key (parkedRequest chunk frame)]
    | some (.response frame) => [.take (replyKey chunk frame)]
    | none => []
  | .idleFlush _ => [.drain fun _ _ => true]

/-- What the decoder says: about a parked request, or about something else. -/
inductive Report where
  | noted (events : List BronzeEvent)
  | exception (chunk : StreamChunk) (frame : UdpFrame) (request : Option PReq)
  | response (chunk : StreamChunk) (frame : UdpFrame) (request : Option PReq)
  | unanswered (request : PReq)

open Udp.Report

namespace Report

def request? : Report → Option PReq
  | .noted _ => none
  | .exception _ _ request => request
  | .response _ _ request => request
  | .unanswered request => some request

def events : Report → List BronzeEvent
  | .noted events => events
  | .exception chunk frame request => exceptionEvents chunk frame request
  | .response chunk frame request => responseEvents chunk frame request
  | .unanswered request => [requestOnly request]

end Report

def reports : Action → List Report
  | .datagram chunk =>
    .noted (readDatagram chunk).1 ::
      match (readDatagram chunk).2 with
      | some (.exception frame) =>
        [.exception chunk frame (d.pending.lookup (replyKey chunk frame))]
      | some (.response frame) => [.response chunk frame (d.pending.lookup (replyKey chunk frame))]
      | some (.request _) => []
      | none => []
  | .idleFlush _ => d.pending.entries.map fun entry => .unanswered entry.2

/-- If the action is a request, the table has room and no entry with its key. -/
def FindsRoom (action : Action) : Prop :=
  ∀ req, action.request? = some req →
    d.pending.entries.length < ModbusUdpDecoder.maxPending ∧ d.pending.lookup req.key = none

/-! ## One action -/

variable (action : Action)

lemma act_events : (act d action).1 = (reports d action).flatMap events := by
  cases action with
  | idleFlush timestamp =>
    simp only [act, onIdleFlush, reports, flatMap_map, events]
    exact map_eq_flatMap
  | datagram chunk =>
    simp only [act, reports, onDatagram]
    cases (readDatagram chunk).2 with
    | none => simp [events]
    | some message =>
      cases message with
      | exception frame => simp [events, pop_fst]
      | request frame => simp [events]
      | response frame => simp [events, pop_fst]

lemma displace_pending : d.displace.pending = run d.pending (d.displaced.toList.map .drop) := by
  unfold displace
  cases d.displaced <;> rfl

lemma act_pending : (act d action).2.pending = run d.pending (movements d action) := by
  cases action with
  | idleFlush timestamp =>
    refine AList.ext ?_
    simp [act, onIdleFlush, movements, run, step, Table.retain, ModbusUdpDecoder.default]
  | datagram chunk =>
    simp only [act, movements, onDatagram]
    cases (readDatagram chunk).2 with
    | none => rfl
    | some message =>
      cases message with
      | exception frame => exact d.pop_pending _
      | response frame => exact d.pop_pending _
      | request frame =>
        rw [run_append, ← displace_pending]
        rfl

lemma act_consistent : Consistent d → Consistent (act d action).2 := by
  intro h
  cases action with
  | idleFlush timestamp => exact Consistent.default
  | datagram chunk =>
    simp only [act, onDatagram]
    cases (readDatagram chunk).2 with
    | none => exact h
    | some message =>
      cases message with
      | exception frame => exact h.pop _
      | request frame => exact h.park _
      | response frame => exact h.pop _

lemma arrived_movements : arrivedAll (movements d action) = ↑action.request?.toList := by
  cases action with
  | idleFlush timestamp => rfl
  | datagram chunk =>
    simp only [movements, Action.request?]
    cases (readDatagram chunk).2 with
    | none => rfl
    | some message =>
      cases message with
      | exception frame => rfl
      | response frame => rfl
      | request frame => cases d.displaced <;> rfl

lemma settled_reports : settledAll d.pending (movements d action) =
    ↑((reports d action).filterMap request?) := by
  cases action with
  | idleFlush timestamp =>
    simp [reports, movements, settledAll, settled, filterMap_map, Function.comp_def, request?]
  | datagram chunk =>
    simp only [reports, movements]
    cases (readDatagram chunk).2 with
    | none => rfl
    | some message =>
      cases message with
      | request frame => cases d.displaced <;> rfl
      | exception frame =>
        dsimp only
        rw [settledAll_take]
        cases d.pending.lookup _ <;> rfl
      | response frame =>
        dsimp only
        rw [settledAll_take]
        cases d.pending.lookup _ <;> rfl

lemma lost_park_iff {d : ModbusUdpDecoder} (h : Consistent d) (req : PReq) :
    lostAll d.pending (d.displaced.toList.map .drop ++ [.park req.key req]) = 0 ↔
      d.pending.entries.length < maxPending ∧ d.pending.lookup req.key = none := by
  by_cases hfull : maxPending ≤ d.pending.entries.length
  · -- the oldest request is lost, whatever the key of the new one
    obtain ⟨key, hdisplaced, hkey⟩ := h.displaced_of_full hfull
    obtain ⟨oldest, holdest⟩ := Option.isSome_iff_exists.1 (lookup_isSome.2 hkey)
    have hlost : lostAll d.pending [.drop key] ≠ 0 := by simp [lostAll, lost, valueAt, holdest]
    rw [lostAll_append_eq_zero, hdisplaced]
    refine iff_of_false ?_ ?_
    · intro hzero
      exact hlost hzero.1
    · intro hroom
      exact not_lt.2 hfull hroom.1
  · have hnone : d.displaced = none := by simp [displaced, hfull]
    simp [hnone, not_le.1 hfull, lostAll, lost, valueAt]

lemma lost_movements_iff (h : Consistent d) : lostAll d.pending (movements d action) = 0 ↔
    FindsRoom d action := by
  unfold FindsRoom
  cases action with
  | idleFlush timestamp => simp [movements, Action.request?, lostAll, lost]
  | datagram chunk =>
    simp only [movements, Action.request?]
    cases (readDatagram chunk).2 with
    | none => simp [lostAll]
    | some message =>
      cases message with
      | exception frame => simp [lostAll, lost]
      | response frame => simp [lostAll, lost]
      | request frame =>
        rw [lost_park_iff h]
        simp

/-! ## Sequences of actions -/

def keeper : Keeper ModbusUdpDecoder Action PKey PReq where
  step d action := (act d action).2
  table := ModbusUdpDecoder.pending
  movements
  table_step := act_pending

lemma collect_requests (actions : List Action) :
    keeper.collect (fun _ action => action.request?.toList) d actions = requestsOf actions := by
  induction actions generalizing d with
  | nil => rfl
  | cons action actions ih =>
    simp only [Keeper.collect, ih, requestsOf, filterMap_cons]
    cases action.request? <;> rfl

lemma pending_flushed (actions : List Action) (timestamp : DateTime) : values (keeper.table
      (keeper.stepAll default (actions ++ [.idleFlush timestamp]))) = 0 := by
  rw [Keeper.stepAll, foldl_append]
  rfl

/-- Any sequence of datagrams and flushes, and a final flush. -/
theorem datagram_requests_emitted_iff (actions : List Action) (timestamp : DateTime) :
    let whole := actions ++ [.idleFlush timestamp]
    let reported : Multiset PReq := ↑((keeper.collect reports default whole).filterMap request?)
    keeper.collect (fun d action => (act d action).1) default whole =
        (keeper.collect reports default whole).flatMap events ∧
      reported ≤ ↑(requestsOf actions) ∧
      (↑(requestsOf actions) ≤ reported ↔ keeper.Along FindsRoom default actions) := by
  intro whole reported
  have hempty : values (keeper.table default) = 0 := rfl
  have hflush : keeper.Along FindsRoom (keeper.stepAll default actions)
      [.idleFlush timestamp] := by
    simp [Keeper.Along, FindsRoom, Action.request?]
  have hrequests : requestsOf whole = requestsOf actions := by
    simp [whole, requestsOf, Action.request?]
  have hle : reported ≤ ↑(requestsOf actions) := by
    have haccount := keeper.account_le arrived_movements settled_reports default whole
    rw [hempty, zero_add, collect_requests, hrequests, pending_flushed, add_zero,
      ← Keeper.filterMap_collect] at haccount
    exact haccount
  have hiff : (↑(requestsOf actions) = reported) ↔ keeper.Along FindsRoom default actions := by
    have haccount := keeper.account_iff Consistent arrived_movements settled_reports act_consistent
      lost_movements_iff Consistent.default whole
    rw [hempty, zero_add, collect_requests, hrequests, pending_flushed, add_zero,
      ← Keeper.filterMap_collect, Keeper.along_append] at haccount
    exact haccount.trans (and_iff_left hflush)
  refine ⟨?_, hle, ?_⟩
  · rw [Keeper.flatMap_collect]
    exact congrArg (fun yield => keeper.collect yield default whole)
      (funext fun d => funext fun action => act_events d action)
  · rw [← hiff]
    constructor
    · intro hge
      exact le_antisymm hge hle
    · intro heq
      exact heq.le

def reusedTransaction : List Action :=
  [.datagram (hostChunk 1 .udp 49152 502 [0, 1, 0, 0, 0, 6, 1, 3, 0, 0, 0, 1]),
    .datagram (hostChunk 2 .udp 49152 502 [0, 1, 0, 0, 0, 6, 1, 3, 0, 9, 0, 1])]

/-- The final flush reports the second of the two requests only. -/
theorem reusedTransaction_vanishes :
    (requestsOf reusedTransaction).map (·.startAddr) = [some 0, some 9] ∧
      ((keeper.collect reports ModbusUdpDecoder.default
        (reusedTransaction ++ [.idleFlush ⟨0⟩])).filterMap Report.request?).map (·.startAddr) =
          [some 9] := by
  decide

/-! ## Readings -/

def readingAddress (e : BronzeEvent) : Option Nat :=
  match e.family with
  | .processReading { pointId := .modbusRegister _ addr _, .. } => some addr.toNat
  | _ => none

lemma registerKind_of_respValues {fc : UInt8} {pdu : List UInt8} (h : respValues fc pdu ≠ []) :
    (registerKind fc).isSome = true := by
  unfold respValues at h
  split at h
  · next hread => rcases hread.1 with rfl | rfl | rfl <;> rfl
  · exact absurd rfl h

lemma readingAddress_emitReadings {fc : UInt8} {a : UInt16} {values : List UInt16} (unitId : UInt8)
    (captureId : String) (envelope : EventEnvelope) (observedTs : UInt64)
    (hkind : values ≠ [] → (registerKind fc).isSome = true)
    (hfits : a.toNat + values.length ≤ 65536) :
    (emitReadings fc (some a) unitId values captureId envelope observedTs).filterMap
      readingAddress = List.range' a.toNat values.length := by
  by_cases hvalues : values = []
  · subst hvalues
    unfold emitReadings
    cases registerKind fc <;> rfl
  obtain ⟨kind, hkind⟩ := Option.isSome_iff_exists.1 (hkind hvalues)
  have hmap : (emitReadings fc (some a) unitId values captureId envelope observedTs).filterMap
    readingAddress =
      values.zipIdx.map fun x => (UInt16.ofNat (min (a.toNat + x.2 % 65536) 65535)).toNat := by
    rw [emitReadings, hkind, filterMap_map]
    exact congrFun filterMap_eq_map' values.zipIdx
  rw [hmap]
  refine ext_getElem (by simp) fun i hi _ => ?_
  have hi : i < values.length := by simpa using hi
  have haddress : min (a.toNat + (0 + i) % 65536) 65535 = a.toNat + i := by omega
  have hlt : a.toNat + i < 65536 := by omega
  rw [getElem_map, getElem_zipIdx, getElem_range', haddress, UInt16.toNat_ofNat_of_lt' hlt, one_mul]

/-- The readings of a response whose request waits: as many as there are values, at consecutive
addresses and none of them twice, if these end within the address space. -/
theorem pairedReadings_distinct (chunk : StreamChunk) (frame : UdpFrame) (req : PReq) (a : UInt16)
    (hstart : req.startAddr = some a)
    (hfits : a.toNat + (respValues frame.fc frame.pdu).length ≤ 65536) :
    (responseEvents chunk frame (some req)).filterMap readingAddress =
        List.range' a.toNat (respValues frame.fc frame.pdu).length ∧
      ((responseEvents chunk frame (some req)).filterMap readingAddress).Nodup := by
  have haddresses : (responseEvents chunk frame (some req)).filterMap readingAddress =
      List.range' a.toNat (respValues frame.fc frame.pdu).length := by
    rw [responseEvents, hstart, filterMap_append,
      readingAddress_emitReadings _ _ _ _ registerKind_of_respValues hfits]
    exact append_nil _
  refine ⟨haddresses, ?_⟩
  rw [haddresses]
  exact nodup_range'

def lastReadings (req : PReq) : List BronzeEvent :=
  responseEvents (hostChunk 2 .udp 502 49152 []) ⟨1, 1, 3, [3, 4, 0, 7, 0, 8]⟩ (some req)

def lastRequest : PReq :=
  parkedRequest (hostChunk 1 .udp 49152 502 []) ⟨1, 1, 3, [3, 0xFF, 0xFE, 0, 2]⟩

/-- The last two registers. -/
theorem lastReadings_distinct :
    (lastReadings lastRequest).filterMap readingAddress = [65534, 65535] ∧
      ((lastReadings lastRequest).filterMap readingAddress).Nodup :=
  pairedReadings_distinct _ ⟨1, 1, 3, [3, 4, 0, 7, 0, 8]⟩ lastRequest 0xFFFE rfl (by decide)

end Udp
end MarlinspikeDpi.Modbus
