import MarlinspikeDpi.Foundation.Correlator
import MarlinspikeDpi.Foundation.Ledger
import MarlinspikeDpi.Foundation.Reindex
import MarlinspikeDpi.Umas.Decoder

/-!
# Responses and the requests they are reported with

A response has the transaction id of its request, so the requests that wait for a response are a
table by session and transaction id (`Outstanding`).

* `requests_paired_iff`: when all responses find their requests.
-/

namespace MarlinspikeDpi.Umas

open Engine Text UmasDecoder List Ledger

/-! ## Keys -/

lemma pairKey_inj {s s' : String} {p p' : UInt8} : pairKey s p = pairKey s' p' ↔
    s = s' ∧ p = p' := by
  rw [pairKey, pairKey, append_colon_inj (colon_not_mem_toString _) (colon_not_mem_toString _)]
  refine and_congr_right fun _ => ⟨fun h => ?_, fun h => by rw [h]⟩
  exact UInt8.toNat_inj.1 (toList_repr_injective (congrArg String.toList h))

/-! ## Requests that wait for their response -/

abbrev Outstanding : Type := Table (String × UInt16) PendingUmas

def exchange (chunk : StreamChunk) (pdu : UmasPdu) : Message (String × UInt16) PendingUmas :=
  if isRequest chunk pdu then .request (chunk.sessionKey, pdu.txnId) (parked chunk pdu)
  else .response (chunk.sessionKey, pdu.txnId)

def settle (waiting : Outstanding) (chunk : StreamChunk) : Outstanding :=
  match readPdu chunk.payload with
  | none => waiting
  | some pdu => Correlator.step waiting (exchange chunk pdu)

/-- The decoder, beside the requests that wait for their response. -/
structure Watched where
  decoder : UmasDecoder
  waiting : Outstanding

open Watched

namespace Watched

def start : Watched := ⟨UmasDecoder.default, ∅⟩

variable (w : Watched)

def next (chunk : StreamChunk) : Watched :=
  ⟨(w.decoder.onStreamChunk chunk).2, settle w.waiting chunk⟩

/-- A request has a transaction id that is not in use, and a response has the transaction id of a
request that waits for it. -/
def Proper (chunk : StreamChunk) : Prop :=
  ∀ pdu, readPdu chunk.payload = some pdu →
    if isRequest chunk pdu then w.waiting.lookup (chunk.sessionKey, pdu.txnId) = none
    else ∃ req, w.waiting.lookup (chunk.sessionKey, pdu.txnId) = some req

/-- A response has the pair id of the request that waits for it. -/
def SamePair (chunk : StreamChunk) : Prop :=
  ∀ pdu, readPdu chunk.payload = some pdu → isRequest chunk pdu = false →
    ∀ req, w.waiting.lookup (chunk.sessionKey, pdu.txnId) = some req → req.pairId = pdu.pairId

/-- No request is sent while another one of its session with its pair id waits. -/
def NoTwin (chunk : StreamChunk) : Prop :=
  ∀ pdu, readPdu chunk.payload = some pdu → isRequest chunk pdu = true →
    ∀ txn req, w.waiting.lookup (chunk.sessionKey, txn) = some req → req.pairId ≠ pdu.pairId

/-- The pair id that a transaction names. -/
def pairIdOf (event : BronzeEvent) : Option String :=
  match event.family with
  | .protocolTransaction tx => tx.attributes.get "pair_id"
  | _ => none

lemma pairIdOf_emitTx (captureId : String) (env : EventEnvelope) (operation status : String)
    (sf pairId : UInt8) (txn : UInt16) (unit : UInt8) (reqLen : UInt16) (isExc : Bool) :
    pairIdOf (emitTx captureId env operation status sf pairId txn unit reqLen isExc) =
      some (toString pairId.toNat) := by
  change (umasAttrs sf pairId txn unit reqLen isExc).get "pair_id" = _
  simp [umasAttrs, OrderedMap.extend, OrderedMap.get_insert_of_ne, OrderedMap.get_insert_self]

/-- A response is reported with the request of its session that has its transaction id. -/
def ReportsOwn (chunk : StreamChunk) : Prop :=
  ∀ pdu, readPdu chunk.payload = some pdu → isRequest chunk pdu = false →
    ∃ req, w.waiting.lookup (chunk.sessionKey, pdu.txnId) = some req ∧
      (w.decoder.onStreamChunk chunk).1 = [pairedTx chunk pdu req]

def FreshRequest (chunk : StreamChunk) : Prop :=
  ∀ pdu, readPdu chunk.payload = some pdu → isRequest chunk pdu = true →
    w.decoder.pending.lookup (pairKey chunk.sessionKey pdu.pairId) = none

/-! ## The two tables -/

/-- The decoder holds the waiting requests, each under its session and pair id. -/
def Mirrors : Prop :=
  Reindexes (fun place req => pairKey place.1 req.pairId) w.decoder.pending w.waiting

lemma Mirrors.start : Mirrors start := Reindexes.empty _

lemma Mirrors.freshRequest_iff {w : Watched} (h : Mirrors w) (chunk : StreamChunk) :
    FreshRequest w chunk ↔ NoTwin w chunk := by
  refine forall₃_congr fun pdu _ _ => ?_
  rw [h.lookup_eq_none_iff]
  constructor
  · intro hfree txn req hreq hpair
    exact hfree _ req hreq (pairKey_inj.2 ⟨rfl, hpair⟩)
  · rintro hnoTwin ⟨session, txn⟩ req hreq hkey
    obtain ⟨rfl, hpair⟩ := pairKey_inj.1 hkey
    exact hnoTwin txn req hreq hpair

variable {w}

lemma Mirrors.lookup_of_response {chunk : StreamChunk} {pdu : UmasPdu} (h : Mirrors w)
    (hproper : Proper w chunk) (hsame : SamePair w chunk) (hpdu : readPdu chunk.payload = some pdu)
    (hresponse : isRequest chunk pdu = false) :
    ∃ req, w.waiting.lookup (chunk.sessionKey, pdu.txnId) = some req ∧ req.pairId = pdu.pairId ∧
      w.decoder.pending.lookup (pairKey chunk.sessionKey pdu.pairId) = some req := by
  have hwaits := hproper pdu hpdu
  rw [hresponse] at hwaits
  obtain ⟨req, hreq⟩ := hwaits
  have hpair := hsame pdu hpdu hresponse req hreq
  refine ⟨req, hreq, hpair, ?_⟩
  exact (h.lookup_iff _ req).2 ⟨(chunk.sessionKey, pdu.txnId), hreq, pairKey_inj.2 ⟨rfl, hpair⟩⟩

/-- Whatever a response is reported with has the pair id of the response. -/
lemma Mirrors.pairIdOf_response {chunk : StreamChunk} {pdu : UmasPdu} (h : Mirrors w)
    (hpdu : readPdu chunk.payload = some pdu) (hresponse : isRequest chunk pdu = false) :
    (w.decoder.onStreamChunk chunk).1.map pairIdOf = [some (toString pdu.pairId.toNat)] := by
  simp only [onStreamChunk, hpdu, hresponse, Bool.false_eq_true, if_false]
  cases hparked : w.decoder.pending.lookup (pairKey chunk.sessionKey pdu.pairId) with
  | none => rw [map_singleton, unpairedTx, pairIdOf_emitTx]
  | some req =>
    obtain ⟨place, -, hkey⟩ := (h.lookup_iff _ req).1 hparked
    obtain ⟨-, hpair⟩ := pairKey_inj.1 hkey
    rw [map_singleton, pairedTx, pairIdOf_emitTx, hpair]

lemma Mirrors.reportsOwn_iff {chunk : StreamChunk} (h : Mirrors w) (hproper : Proper w chunk) :
    ReportsOwn w chunk ↔ SamePair w chunk := by
  constructor
  · intro hown pdu hpdu hresponse req hreq
    obtain ⟨req', hreq', hevents⟩ := hown pdu hpdu hresponse
    rw [hreq] at hreq'
    cases hreq'
    have hpair := h.pairIdOf_response hpdu hresponse
    rw [hevents, map_singleton, pairedTx, pairIdOf_emitTx] at hpair
    have htext := Option.some.inj (cons.inj hpair).1
    exact UInt8.toNat_inj.1 (toList_repr_injective (congrArg String.toList htext))
  · intro hsame pdu hpdu hresponse
    obtain ⟨req, hreq, -, hparked⟩ := h.lookup_of_response hproper hsame hpdu hresponse
    refine ⟨req, hreq, ?_⟩
    simp only [onStreamChunk, hpdu, hresponse, Bool.false_eq_true, if_false, hparked]

lemma Mirrors.next {chunk : StreamChunk} (h : Mirrors w) (hproper : Proper w chunk)
    (hsame : SamePair w chunk) (hfresh : FreshRequest w chunk) :
    Mirrors (w.next chunk) := by
  cases hpdu : readPdu chunk.payload with
  | none =>
    have hnext : w.next chunk = w := by simp only [Watched.next, onStreamChunk, settle, hpdu]
    rw [hnext]
    exact h
  | some pdu =>
    cases hrequest : isRequest chunk pdu with
    | true =>
      have hwaiting := hproper pdu hpdu
      rw [if_pos hrequest] at hwaiting
      have hnext : w.next chunk =
        ⟨⟨w.decoder.pending.insert (pairKey chunk.sessionKey pdu.pairId) (parked chunk pdu)⟩,
            w.waiting.insert (chunk.sessionKey, pdu.txnId) (parked chunk pdu)⟩ := by
        simp only [Watched.next, onStreamChunk, settle, hpdu, exchange, hrequest, if_true,
          Correlator.step]
      have hfree : w.decoder.pending.lookup (pairKey chunk.sessionKey (parked chunk pdu).pairId) =
        none := hfresh pdu hpdu hrequest
      rw [hnext]
      exact Reindexes.insert h (v := parked chunk pdu) hwaiting hfree
    | false =>
      obtain ⟨req, hreq, hpair, hparked⟩ := h.lookup_of_response hproper hsame hpdu hrequest
      have hnext : w.next chunk = ⟨⟨w.decoder.pending.erase (pairKey chunk.sessionKey req.pairId)⟩,
            w.waiting.erase (chunk.sessionKey, pdu.txnId)⟩ := by
        simp only [Watched.next, onStreamChunk, settle, hpdu, exchange, hrequest, hpair, hparked,
          Bool.false_eq_true, if_false, Correlator.step]
      rw [hnext]
      exact Reindexes.erase h hreq

end Watched

/-! ## Reports -/

/-- What the decoder says about a request, or about something else. -/
inductive Report where
  | paired (chunk : StreamChunk) (pdu : UmasPdu) (req : PendingUmas)
  | requestOnly (req : PendingUmas)
  | other (events : List BronzeEvent)

open Report

namespace Report

def request? : Report → Option PendingUmas
  | .paired _ _ req => some req
  | .requestOnly req => some req
  | .other _ => none

def events : Report → List BronzeEvent
  | .paired chunk pdu req => [pairedTx chunk pdu req]
  | .requestOnly req => [requestOnlyTx req]
  | .other events => events

end Report

namespace UmasDecoder

variable (d : UmasDecoder) (chunk : StreamChunk)

def reports : List Report :=
  match readPdu chunk.payload with
  | none => []
  | some pdu =>
    if isRequest chunk pdu then
      [.other (requestAnomalies chunk pdu.subfn ++ reservationAssets chunk pdu.subfn)]
    else
      match d.pending.lookup (pairKey chunk.sessionKey pdu.pairId) with
      | some req => [.paired chunk pdu req]
      | none => [.other [unpairedTx chunk pdu]]

def flushReports : List Report := d.pending.entries.map fun entry => .requestOnly entry.2

lemma events_reports : (d.onStreamChunk chunk).1 = (d.reports chunk).flatMap events := by
  unfold onStreamChunk reports
  cases readPdu _ with
  | none => rfl
  | some pdu =>
    dsimp only
    split
    · simp [events]
    · cases d.pending.lookup (pairKey _ _) with
      | none => rfl
      | some req => rfl

lemma events_flushReports (timestamp : DateTime) :
    (d.onIdleFlush timestamp).1 = d.flushReports.flatMap events := by
  simp only [onIdleFlush, flushReports, flatMap_map, events]
  exact map_eq_flatMap

def movements : List (Movement String PendingUmas) :=
  match readPdu chunk.payload with
  | none => []
  | some pdu =>
    if isRequest chunk pdu then [.park (pairKey chunk.sessionKey pdu.pairId) (parked chunk pdu)]
    else [.take (pairKey chunk.sessionKey pdu.pairId)]

lemma pending_onStreamChunk : (d.onStreamChunk chunk).2.pending =
    run d.pending (movements chunk) := by
  unfold onStreamChunk movements
  cases readPdu _ with
  | none => rfl
  | some pdu =>
    dsimp only
    split
    · rfl
    · cases hlookup : d.pending.lookup (pairKey _ _) with
      | none => exact (Table.erase_of_lookup_eq_none hlookup).symm
      | some req => rfl

lemma settledAll_movements : settledAll d.pending (movements chunk) =
    ↑((d.reports chunk).filterMap request?) := by
  unfold reports movements
  cases readPdu _ with
  | none => rfl
  | some pdu =>
    dsimp only
    split
    · rfl
    · rw [settledAll_take]
      cases d.pending.lookup (pairKey _ _) <;> rfl

end UmasDecoder

def requestOf (chunk : StreamChunk) : Option PendingUmas :=
  (readPdu chunk.payload).bind fun pdu => if isRequest chunk pdu then some (parked chunk pdu)
    else none

lemma arrivedAll_movements (chunk : StreamChunk) :
    Ledger.arrivedAll (movements chunk) = ↑(requestOf chunk).toList := by
  unfold movements requestOf
  cases readPdu _ with
  | none => rfl
  | some pdu =>
    simp only [Option.bind_some]
    split <;> rfl

lemma lostAll_movements_iff (w : Watched) (chunk : StreamChunk) :
    lostAll w.decoder.pending (movements chunk) = 0 ↔ w.FreshRequest chunk := by
  unfold Watched.FreshRequest movements
  cases readPdu _ with
  | none => simp [lostAll]
  | some pdu =>
    cases hrequest : isRequest chunk pdu with
    | true => simp [hrequest, lostAll, lost, valueAt]
    | false => simp [hrequest, lostAll, lost]

/-! ## Runs -/

def keeper : Ledger.Keeper Watched StreamChunk String PendingUmas where
  step := Watched.next
  table w := w.decoder.pending
  movements _ chunk := movements chunk
  table_step w chunk := w.decoder.pending_onStreamChunk chunk

def reportsOf (chunks : List StreamChunk) : List Report :=
  keeper.collect (fun w chunk => w.decoder.reports chunk) Watched.start chunks ++
    (keeper.stepAll Watched.start chunks).decoder.flushReports

lemma collect_requestOf (w : Watched) (chunks : List StreamChunk) :
    keeper.collect (fun _ chunk => (requestOf chunk).toList) w chunks =
      chunks.filterMap requestOf := by
  induction chunks generalizing w with
  | nil => rfl
  | cons chunk chunks ih =>
    simp only [Ledger.Keeper.collect, ih, filterMap_cons]
    cases requestOf chunk <;> rfl

lemma requests_reported_iff (chunks : List StreamChunk) :
    (↑(chunks.filterMap requestOf) : Multiset PendingUmas) =
      ↑((reportsOf chunks).filterMap request?) ↔
      keeper.Along Watched.FreshRequest start chunks := by
  have haccount := keeper.account_iff (s := start) (fun _ => True) (fun _ => arrivedAll_movements)
    (fun w chunk => w.decoder.settledAll_movements chunk) (fun _ _ _ => trivial)
    (fun w chunk _ => lostAll_movements_iff w chunk) trivial chunks
  have hempty : values (keeper.table start) = 0 := rfl
  have hflush : ∀ d : UmasDecoder,
      values d.pending = (↑(d.flushReports.filterMap request?) : Multiset PendingUmas) := by
    simp [values, flushReports, filterMap_map, Function.comp_def, request?]
  rw [hempty, collect_requestOf, ← Ledger.Keeper.filterMap_collect] at haccount
  rw [reportsOf, filterMap_append, ← Multiset.coe_add, ← hflush]
  exact haccount

/-- For chunks of any sessions, in any order, in which every response has the transaction id of a
request that waits for it, and a flush at the end: the events are those of the reports; and every
response is reported with the request of its session that has its transaction id, and every request
exactly once, if and only if every response has the pair id of that request and no request is sent
while another one of its session with its pair id waits. -/
theorem requests_paired_iff (chunks : List StreamChunk) (timestamp : DateTime)
    (hproper : keeper.Along Watched.Proper Watched.start chunks) :
    keeper.collect (fun w chunk => (w.decoder.onStreamChunk chunk).1) Watched.start chunks ++
          ((keeper.stepAll Watched.start chunks).decoder.onIdleFlush timestamp).1 =
        (reportsOf chunks).flatMap Report.events ∧
      (keeper.Along Watched.ReportsOwn Watched.start chunks ∧
          (↑(chunks.filterMap requestOf) : Multiset PendingUmas) =
            ↑((reportsOf chunks).filterMap Report.request?) ↔
        keeper.Along Watched.SamePair Watched.start chunks ∧
          keeper.Along Watched.NoTwin Watched.start chunks) := by
  constructor
  · rw [reportsOf, flatMap_append, Ledger.Keeper.flatMap_collect, ← events_flushReports]
    exact congrArg (fun yield => keeper.collect yield start chunks ++ _)
      (funext fun w => funext fun chunk => w.decoder.events_reports chunk)
  · rw [requests_reported_iff, ← Ledger.Keeper.along_and, ← Ledger.Keeper.along_and]
    -- as long as both hold, the decoder's table mirrors the waiting requests
    refine keeper.along_congr Watched.Mirrors ?_ ?_ Watched.Mirrors.start hproper
    · rintro w chunk hw hproper ⟨hown, hfresh⟩
      exact hw.next hproper ((hw.reportsOwn_iff hproper).1 hown) hfresh
    · intro w chunk hw hproper
      exact and_congr (hw.reportsOwn_iff hproper) (hw.freshRequest_iff chunk)

/-! ## Two requests with the same pair id -/

/-- A message of one session with the pair id 7. -/
def umasChunk (frameIndex : Nat) (srcPort dstPort : UInt16) (txn subfn : UInt8) : StreamChunk :=
  hostChunk frameIndex .tcp srcPort dstPort [0, txn, 0, 0, 0, 4, 1, 0x5A, 7, subfn]

lemma Watched.proper_of_request {chunk : StreamChunk} {pdu : UmasPdu} {w : Watched}
    (hpdu : readPdu chunk.payload = some pdu) (hrequest : isRequest chunk pdu = true)
    (hnone : w.waiting.lookup (chunk.sessionKey, pdu.txnId) = none) : w.Proper chunk := by
  intro pdu' hpdu'
  rw [hpdu] at hpdu'
  cases hpdu'
  rw [if_pos hrequest]
  exact hnone

lemma Watched.proper_of_response {chunk : StreamChunk} {pdu : UmasPdu} {w : Watched}
    {req : PendingUmas}
    (hpdu : readPdu chunk.payload = some pdu) (hresponse : isRequest chunk pdu = false)
    (hreq : w.waiting.lookup (chunk.sessionKey, pdu.txnId) = some req) : w.Proper chunk := by
  intro pdu' hpdu'
  rw [hpdu] at hpdu'
  cases hpdu'
  rw [hresponse]
  exact ⟨req, hreq⟩

def oneAtATime : List StreamChunk :=
  [umasChunk 0 49152 502 1 0x02, umasChunk 1 502 49152 1 0xFE, umasChunk 2 49152 502 2 0x04,
    umasChunk 3 502 49152 2 0xFE]

lemma oneAtATime_proper : keeper.Along Watched.Proper start oneAtATime :=
  ⟨proper_of_request rfl rfl rfl, proper_of_response rfl rfl rfl,
    proper_of_request rfl rfl rfl, proper_of_response rfl rfl rfl, trivial⟩

theorem oneAtATime_paired :
    keeper.Along Watched.Proper Watched.start oneAtATime ∧
      (keeper.Along Watched.ReportsOwn Watched.start oneAtATime ∧
          (↑(oneAtATime.filterMap requestOf) : Multiset PendingUmas) =
            ↑((reportsOf oneAtATime).filterMap Report.request?) ↔
        keeper.Along Watched.SamePair Watched.start oneAtATime ∧
          keeper.Along Watched.NoTwin Watched.start oneAtATime) :=
  ⟨oneAtATime_proper, (requests_paired_iff oneAtATime ⟨0⟩ oneAtATime_proper).2⟩

def pipelined : List StreamChunk :=
  [umasChunk 0 49152 502 1 0x02, umasChunk 1 49152 502 2 0x04, umasChunk 2 502 49152 1 0xFE,
    umasChunk 3 502 49152 2 0xFE]

/-- The transaction id of a response, and that of the request that it is reported with. -/
def Report.txns? : Report → Option (UInt16 × UInt16)
  | .paired _ pdu req => some (pdu.txnId, req.transactionId)
  | _ => none

/-- The first response is reported with the second request, and the first request is not
reported. -/
theorem pipelined_mispaired :
    keeper.Along Watched.Proper Watched.start pipelined ∧
      (reportsOf pipelined).filterMap Report.txns? = [(1, 2)] ∧
      (pipelined.filterMap requestOf).map PendingUmas.transactionId = [1, 2] ∧
      ((reportsOf pipelined).filterMap Report.request?).map PendingUmas.transactionId = [2] := by
  refine ⟨?_, by decide, by decide, by decide⟩
  exact ⟨proper_of_request rfl rfl rfl, proper_of_request rfl rfl rfl,
    proper_of_response rfl rfl rfl, proper_of_response rfl rfl rfl, trivial⟩

end MarlinspikeDpi.Umas
