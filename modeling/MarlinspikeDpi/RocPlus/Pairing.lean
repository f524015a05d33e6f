import MarlinspikeDpi.Foundation.Ledger
import MarlinspikeDpi.Foundation.Mealy
import MarlinspikeDpi.RocPlus.Decoder

/-!
# How often a frame is reported

The packets of the transactions are counted.

* `roc_plus_exactly_once_iff`: no frame is reported exactly once.
-/

namespace MarlinspikeDpi.RocPlus

open Engine RocPlusDecoder List

structure Sent where
  chunk : StreamChunk
  frame : RocFrame
  read : parseRocFrame chunk.payload = some frame

inductive Exchange where
  | answered (request response : Sent)
  | alone (sent : Sent)

namespace Exchange

def frames : Exchange → List Sent
  | answered request response => [request, response]
  | alone sent => [sent]

def transaction : Exchange → BronzeEvent
  | answered request response =>
    emitTxn request.chunk.captureId (merged (envelope request.chunk) (envelope response.chunk))
      request.frame "ok"
  | alone sent => emitTxn sent.chunk.captureId (envelope sent.chunk) sent.frame "observed"

/-- A response comes from the other unit; a frame to the sender itself has none. -/
def Proper : Exchange → Prop
  | answered request response =>
    response.chunk.sessionKey = request.chunk.sessionKey ∧
      response.frame.opcode = request.frame.opcode ∧
      (response.frame.srcUnit, response.frame.srcGroup) =
        (request.frame.dstUnit, request.frame.dstGroup) ∧
      (response.frame.dstUnit, response.frame.dstGroup) =
        (request.frame.srcUnit, request.frame.srcGroup) ∧
      (request.frame.srcUnit, request.frame.srcGroup) ≠
        (request.frame.dstUnit, request.frame.dstGroup)
  | alone _ => True

end Exchange

def isTransaction (event : BronzeEvent) : Bool :=
  match event.family with
  | .protocolTransaction _ => true
  | _ => false

/-- The transactions are those of a partition of the frames into exchanges. -/
def ExactlyOnce (frames : List Sent) (events : List BronzeEvent) : Prop :=
  ∃ exchanges : List Exchange, (∀ exchange ∈ exchanges, exchange.Proper) ∧
    (exchanges.flatMap Exchange.frames).Perm frames ∧
    (events.filter isTransaction).Perm (exchanges.map Exchange.transaction)

def reported (frames : List Sent) (timestamp : DateTime) : List BronzeEvent :=
  let r := Mealy.run onStreamChunk default (frames.map Sent.chunk)
  r.1 ++ (r.2.onIdleFlush timestamp).1

/-! ## Counting packets -/

def packets (events : List BronzeEvent) : Nat :=
  ((events.filter isTransaction).flatMap fun event => List.replicate event.envelope.packetCount
    ()).length

lemma packets_append (events later : List BronzeEvent) :
    packets (events ++ later) = packets events + packets later := by
  simp [packets]

lemma packets_emitTxn (captureId : String) (env : EventEnvelope) (frame : RocFrame)
    (status : String) : packets [emitTxn captureId env frame status] = env.packetCount := by
  rw [packets, filter_cons_of_pos rfl, filter_nil, flatMap_singleton, length_replicate]
  rfl

lemma packets_notices (chunk : StreamChunk) (frame : RocFrame) :
    packets (notices chunk frame) = 0 := by
  have hnone : ∀ event ∈ notices chunk frame, isTransaction event = false := by
    intro event hmem
    simp only [notices, emitAssetObservations, mem_append] at hmem
    rcases hmem with ((hmem | hmem) | hmem) | hmem <;> split at hmem <;> simp at hmem
    all_goals first | (rfl) | (rcases hmem with rfl | rfl <;> rfl)
  rw [packets, filter_eq_nil_iff.2 fun event hmem => by simp [hnone event hmem]]
  rfl

lemma ExactlyOnce.packets_eq {frames : List Sent} {events : List BronzeEvent}
    (h : ExactlyOnce frames events) : packets events = frames.length := by
  obtain ⟨exchanges, -, hframes, htransactions⟩ := h
  rw [packets, (htransactions.flatMap_right _).length_eq, ← hframes.length_eq]
  clear hframes htransactions
  induction exchanges with
  | nil => rfl
  | cons exchange exchanges ih =>
    rw [map_cons, flatMap_cons, flatMap_cons, length_append, length_append, ih]
    cases exchange <;> rfl

/-! ## What a frame adds to the account -/

def Parked (d : RocPlusDecoder) : Prop := ∀ p ∈ Ledger.values d.pending, p.envelope.packetCount = 1

def parkedCount (d : RocPlusDecoder) : Nat := Multiset.card (Ledger.values d.pending)

lemma pair_account {d : RocPlusDecoder} (hparked : Parked d) (chunk : StreamChunk)
    (frame : RocFrame) : Parked (d.pair chunk frame).2 ∧
      max (parkedCount d + 1) 2 ≤ packets (d.pair chunk frame).1 + parkedCount
        (d.pair chunk frame).2 := by
  cases hlookup : d.pending.lookup (responseKey _ frame) with
  | some p =>
    have hpair : d.pair chunk frame =
      ([emitTxn p.captureId (merged p.envelope (envelope chunk)) p.frame "ok"],
        ⟨d.pending.erase (responseKey chunk.sessionKey frame)⟩) := by rw [pair, hlookup]
    have hvalues : Ledger.values d.pending = {p} + Ledger.values
        (d.pair chunk frame).2.pending := by
      rw [hpair, Ledger.values_erase, Ledger.valueAt, hlookup]
      rfl
    have hone : p.envelope.packetCount = 1 := hparked p (by simp [hvalues])
    have hpackets : packets (d.pair chunk frame).1 = 2 := by
      rw [hpair, packets_emitTxn, merged, hone]
    refine ⟨fun q hq => hparked q (by simp [hvalues, hq]), ?_⟩
    rw [parkedCount, parkedCount, hvalues, Multiset.card_add, Multiset.card_singleton]
    omega
  | none =>
    let new : PendingRoc := ⟨chunk.captureId, envelope chunk, frame⟩
    let key := requestKey chunk.sessionKey frame
    have hpair : d.pair chunk frame = ([emitTxn chunk.captureId (envelope chunk) frame "observed"],
        ⟨d.pending.insert key new⟩) := by rw [pair, hlookup]
    have hvalues : Ledger.values (d.pair chunk frame).2.pending = {new} + Ledger.values
        (d.pending.erase key) := by
      rw [hpair]
      rfl
    have hold := Ledger.values_erase d.pending key
    have hlost : Multiset.card (Ledger.valueAt d.pending key) ≤ 1 := by
      cases h : d.pending.lookup key <;> simp [Ledger.valueAt, h]
    constructor
    · intro q hq
      rw [hvalues] at hq
      rcases Multiset.mem_add.1 hq with hnew | hkept
      · rw [Multiset.mem_singleton.1 hnew]
        rfl
      · exact hparked q (by simp [hold, hkept])
    · have hpackets : packets (d.pair chunk frame).1 = 1 := by
        rw [hpair]
        rfl
      rw [parkedCount, parkedCount, hvalues, hold, Multiset.card_add, Multiset.card_add,
        Multiset.card_singleton]
      omega

lemma step_account {d : RocPlusDecoder} (hparked : Parked d) (sent : Sent) :
    Parked (d.onStreamChunk sent.chunk).2 ∧ max (parkedCount d + 1) 2 ≤
      packets (d.onStreamChunk sent.chunk).1 + parkedCount (d.onStreamChunk sent.chunk).2 := by
  rw [onStreamChunk, sent.read]
  rw [packets_append, packets_notices, Nat.zero_add]
  exact pair_account hparked _ _

lemma run_account (frames : List Sent) {d : RocPlusDecoder} (hparked : Parked d) :
    Parked (Mealy.run onStreamChunk d (frames.map Sent.chunk)).2 ∧
      parkedCount d + frames.length ≤ packets
        (Mealy.run onStreamChunk d (frames.map Sent.chunk)).1 +
        parkedCount (Mealy.run onStreamChunk d (frames.map Sent.chunk)).2 := by
  induction frames generalizing d with
  | nil => exact ⟨hparked, by simp [Mealy.run]⟩
  | cons sent frames ih =>
    obtain ⟨hnext, hstep⟩ := step_account hparked sent
    obtain ⟨hlast, hrest⟩ := ih hnext
    refine ⟨hlast, ?_⟩
    simp only [map_cons, Mealy.run_cons, packets_append, length_cons]
    omega

lemma packets_onIdleFlush {d : RocPlusDecoder} (hparked : Parked d) (timestamp : DateTime) :
    packets (d.onIdleFlush timestamp).1 = parkedCount d := by
  rw [parkedCount, Ledger.values, Multiset.coe_card, length_map]
  have hone : ∀ entry ∈ d.pending.entries, entry.2.envelope.packetCount = 1 := fun entry hmem =>
    hparked entry.2 (mem_map_of_mem hmem)
  change packets (d.pending.entries.map _) = _
  revert hone
  generalize d.pending.entries = entries
  intro hone
  induction entries with
  | nil => rfl
  | cons entry entries ih =>
    rw [map_cons, length_cons, ← singleton_append, packets_append, packets_emitTxn,
      hone entry mem_cons_self, ih fun e he => hone e (mem_cons_of_mem _ he), Nat.add_comm]

lemma length_lt_packets_reported {frames : List Sent} (hsome : frames ≠ []) (timestamp : DateTime) :
    frames.length < packets (reported frames timestamp) := by
  obtain ⟨sent, rest, rfl⟩ := exists_cons_of_ne_nil hsome
  have hempty : Parked default := by
    intro p hp
    simp [Ledger.values, RocPlusDecoder.default] at hp
  obtain ⟨hnext, hfirst⟩ := step_account hempty sent
  obtain ⟨hlast, hrest⟩ := run_account rest hnext
  rw [reported, packets_append, packets_onIdleFlush (by exact hlast), map_cons, Mealy.run_cons,
    packets_append, length_cons]
  change _ < _ + parkedCount (Mealy.run onStreamChunk (onStreamChunk default sent.chunk).2
    (rest.map Sent.chunk)).2
  omega

/-- Frames are reported exactly once only if there are none. -/
theorem roc_plus_exactly_once_iff (frames : List Sent) (timestamp : DateTime) :
    ExactlyOnce frames (reported frames timestamp) ↔ frames = [] := by
  refine ⟨fun honce => ?_, ?_⟩
  · by_contra hsome
    exact (length_lt_packets_reported hsome timestamp).ne' honce.packets_eq
  · rintro rfl
    exact ⟨[], by simp, .refl _, .refl _⟩

def selfAddressed : Sent :=
  { chunk := hostChunk 0 .tcp 50000 4000 [1, 2, 1, 2, 6, 0, 0, 0], frame :=
    ⟨1, 2, 1, 2, 6, 0, false⟩, read := rfl }

/-- A frame to the sender itself, sent twice, is reported as an answered request. -/
theorem selfAddressed_twice_answered :
    ¬ ExactlyOnce [selfAddressed, selfAddressed] (reported [selfAddressed, selfAddressed] ⟨0⟩) ∧
      Exchange.transaction (.answered selfAddressed selfAddressed) ∈
        reported [selfAddressed, selfAddressed] ⟨0⟩ := by
  refine ⟨fun honce => ?_, ?_⟩
  · exact (length_lt_packets_reported (cons_ne_nil _ _) ⟨0⟩).ne' honce.packets_eq
  · decide

end MarlinspikeDpi.RocPlus
