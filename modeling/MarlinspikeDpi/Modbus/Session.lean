import MarlinspikeDpi.Engine.Delivery
import MarlinspikeDpi.Modbus.Decoder

/-!
# The Modbus decoder in the engine

The Modbus decoder sits among arbitrary other decoders in the engine.

* `unanswered_requests_drained`: unanswered requests reach the sink.
-/

namespace MarlinspikeDpi.Modbus

open Engine List Correlator External ModbusDecoder Table VecBronzeSink

/-! ## The messages of a segment -/

def dispatchMessage : Dispatch → Option (Message String PendingModbus)
  | .stream chunk => if interestMatches [.tcpPort 502] chunk then chunkMessage chunk else none
  | .reject _ _ | .neighbour _ | .datagram _ | .icmp _ | .claimable _ _ => none

/-- The messages of the frames of a segment, of which `n` came before. -/
def segmentMessages (segment : SegmentMeta) : Nat → List HashedFrame →
    List (Message String PendingModbus)
  | _, [] => []
  | n, input :: inputs =>
    (dispatchMessage (dispatchOf (frameInfo segment input.1 (n + 1) input.2) input.2)).toList ++
      segmentMessages segment (n + 1) inputs

section

variable {δ μ : Type} [SessionDecoder δ] [FrameMonitors μ] [External]

lemma react_pending (dispatch : Dispatch) (d : ModbusDecoder) :
    (react dispatch d).2.pending = run d.pending (dispatchMessage dispatch).toList := by
  cases dispatch with
  | stream chunk =>
    simp only [react, dispatchMessage]
    change (if interestMatches [.tcpPort 502] chunk then onStreamChunk d chunk
      else ([], d)).2.pending = _
    split
    · exact onStreamChunk_pending d chunk
    · rfl
  | reject reason excerpt => rfl
  | neighbour chunk | datagram chunk | icmp chunk | claimable chunk unclaimed =>
    simp only [react]
    split <;> rfl

lemma collectFrame_modbus {core : Core (ModbusDecoder ⊕ δ) μ} {d : ModbusDecoder} {i : Nat}
    (hd : core.engine.decoders[i]? = some (.inl d)) (segment : SegmentMeta) (input : HashedFrame) :
    (collectFrame segment core input).2.engine.decoders[i]? =
      some (.inl ⟨run d.pending (dispatchMessage (dispatchOf (frameInfo segment input.1
        (core.framesProcessed + 1) input.2) input.2)).toList⟩) := by
  rw [collectFrame_decoders, getElem?_map, hd, Option.map_some, react_inl, ← react_pending]
  rfl

lemma collectAll_modbus {core : Core (ModbusDecoder ⊕ δ) μ} {d : ModbusDecoder} {i : Nat}
    (hd : core.engine.decoders[i]? = some (.inl d)) (segment : SegmentMeta)
    (inputs : List HashedFrame) :
    (collectAll segment core inputs).2.engine.decoders[i]? = some (.inl ⟨run d.pending
        (segmentMessages segment core.framesProcessed inputs)⟩) := by
  -- the decoder stays at its place in the list, so its table can be followed frame by frame
  induction inputs generalizing core d with
  | nil => exact hd
  | cons input inputs ih =>
    have hstep := collectFrame_modbus hd segment input
    have hrest := ih hstep
    rw [segmentMessages, run_append]
    exact hrest

lemma drain_modbus {core : Core (ModbusDecoder ⊕ δ) μ} {d : ModbusDecoder} {i : Nat}
    (hd : core.engine.decoders[i]? = some (.inl d)) :
    (drain core).2.engine.decoders[i]? = some (.inl (onIdleFlush d core.lastTimestamp).2) ∧
      ∀ event ∈ (onIdleFlush d core.lastTimestamp).1, event ∈ (drain core).1 := by
  constructor
  · simp only [drain, sweep_snd, getElem?_map, hd, Option.map_some]
    rfl
  · intro event hevent
    simp only [drain, sweep_fst, mem_flatMap]
    refine ⟨.inl d, mem_of_getElem? hd, ?_⟩
    refine mem_append_left _ ?_
    exact hevent

omit [External] in
lemma pending_onIdleFlush_eq_nil_iff (d : ModbusDecoder) (timestamp : DateTime) :
    (onIdleFlush d timestamp).2.pending.entries = [] ↔
      ∀ entry ∈ d.pending.entries, entry.2.lastSeen.nanos < timestamp.nanos + 1000000000 := by
  simp only [onIdleFlush, retain, filter_eq_nil_iff, ← isExpired_iff]
  refine forall₂_congr fun entry _ => ?_
  simp

omit [External] in
lemma partialRequest_mem_onIdleFlush {d : ModbusDecoder} {timestamp : DateTime} {key : String}
    {request : PendingModbus} (hparked : d.pending.lookup key = some request)
    (hdue : request.lastSeen.nanos < timestamp.nanos + 1000000000) :
    partialRequest request ∈ (onIdleFlush d timestamp).1 := by
  have hmem : ⟨key, request⟩ ∈ d.pending.entries := mem_entries_iff.2 hparked
  refine mem_map.2 ⟨⟨key, request⟩, ?_, rfl⟩
  exact mem_filter.2 ⟨hmem, isExpired_iff.2 hdue⟩

variable {σ : Type} [BronzeSink σ]

/-- A segment on an engine with a Modbus decoder among arbitrary others, and a sink that never
fails. -/
theorem unanswered_requests_drained (hsink : NeverFails σ)
    (engine : DpiEngine (ModbusDecoder ⊕ δ) μ) (i : Nat) (d : ModbusDecoder)
    (hd : engine.decoders[i]? = some (.inl d)) (now : DateTime) (sink : σ) (segment : SegmentMeta)
    (inputs : List HashedFrame) (finalHash : String) :
    let messages := segmentMessages segment 0 inputs
    let parked := run d.pending messages
    let before := (recordedFrames engine now sink segment inputs).2
    let done := (recordedSegment engine now sink segment inputs finalHash).2
    let allDue := ∀ entry ∈ parked.entries, entry.2.lastSeen.nanos <
      before.state.lastTimestamp.nanos + 1000000000
    before.engine.decoders[i]? = some (.inl ⟨parked⟩) ∧
      ∃ left : ModbusDecoder, done.engine.decoders[i]? = some (.inl left) ∧
        (left.pending.entries = [] ↔ allDue) ∧
        (Correlator.FreshKeys d.pending messages → allDue →
          ∀ key request, Correlator.Unanswered messages key request →
            partialRequest request ∈ done.sink.accepted.flatMap BronzeBatch.events) := by
  intro messages parked before done allDue
  have hbefore := core_recordedFrames engine now sink segment inputs
  have hparked : before.core.engine.decoders[i]? = some (.inl ⟨parked⟩) := by
    rw [hbefore]
    exact collectAll_modbus hd segment inputs
  have hdone : done.core = (drain before.core).2 := core_finalizeStream segment finalHash before
  rcases drain_modbus hparked with ⟨hleft, hreported⟩
  refine ⟨hparked, (onIdleFlush ⟨parked⟩ before.core.lastTimestamp).2, ?_, ?_, ?_⟩
  · rw [← hdone] at hleft
    exact hleft
  · exact pending_onIdleFlush_eq_nil_iff ⟨parked⟩ before.core.lastTimestamp
  · intro hfresh hdue key request hunanswered
    have hlookup : parked.lookup key = some request := lookup_of_unanswered hfresh hunanswered
    have hevent : partialRequest request ∈ (drain before.core).1 := by
      refine hreported _ (partialRequest_mem_onIdleFlush hlookup ?_)
      exact hdue ⟨key, request⟩ (mem_entries_iff.2 hlookup)
    -- with a sink that never fails everything that is handed over is accepted
    have haccepted : done.sink.accepted.flatMap BronzeBatch.events =
        segmentEvents segment (Core.start engine now) inputs := hsink.accepted
    rw [haccepted, segmentEvents, ← hbefore]
    exact mem_append_right _ hevent

end

def tcpFrame (timestamp : DateTime) (srcHigh srcLow dstHigh dstLow : UInt8) (payload : List UInt8) :
    CapturedFrame :=
  rawIpFrame timestamp ([0x45, 0, 0, UInt8.ofNat (40 + payload.length), 0, 0, 0, 0, 64, 6, 0, 0,
        10, 0, 0, 1, 10, 0, 0, 2] ++
      [srcHigh, srcLow, dstHigh, dstLow, 0, 0, 0, 0, 0, 0, 0, 0, 0x50, 0x18, 0, 0, 0, 0, 0, 0] ++
      payload)

def readRequestFrame (timestamp : DateTime) : CapturedFrame :=
  tcpFrame timestamp 0xC0 0x00 0x01 0xF6 [0, 1, 0, 0, 0, 6, 1, 3, 0, 0, 0, 1]

def readResponseFrame (timestamp : DateTime) (value : UInt8) : CapturedFrame :=
  tcpFrame timestamp 0x01 0xF6 0xC0 0x00 [0, 1, 0, 0, 0, 5, 1, 3, 2, 0, value]

def modbusEngine : DpiEngine (ModbusDecoder ⊕ Probe) Unit :=
  DpiEngine.new [.inl ModbusDecoder.default, .inr ⟨[], []⟩] ()

/-- One unanswered request at the time of the clock. -/
theorem readRequest_drained :
    letI : External := sample
    let done := (recordedSegment modbusEngine ⟨0⟩ (mk []) ⟨"capture"⟩
      [("", readRequestFrame ⟨0⟩)] "").2
    (∃ left : ModbusDecoder, done.engine.decoders[0]? = some (.inl left) ∧
      left.pending.entries = []) ∧
    (segmentMessages ⟨"capture"⟩ 0 [("", readRequestFrame ⟨0⟩)]).length = 1 ∧
    ∀ key request,
      Correlator.Unanswered (segmentMessages ⟨"capture"⟩ 0 [("", readRequestFrame ⟨0⟩)]) key
        request → partialRequest request ∈ done.sink.accepted.flatMap BronzeBatch.events := by
  let _ : External := sample
  rcases unanswered_requests_drained vecBronzeSink_neverFails modbusEngine 0 default
    rfl ⟨0⟩ (mk []) ⟨"capture"⟩ [("", readRequestFrame ⟨0⟩)] "" with
    ⟨_, left, hleft, hempty, hdelivered⟩
  exact ⟨⟨left, hleft, hempty.2 (by decide)⟩, by decide, hdelivered (by decide) (by decide)⟩

/-- A frame with an event stops the clock at its time. A request ten seconds later is not due: it is
still parked after the segment. -/
theorem late_request_still_parked :
    letI : External := sample
    ¬ ∀ inputs : List HashedFrame,
      let done := (recordedSegment (DpiEngine.new [default] ()) ⟨0⟩
        (mk []) ⟨"capture"⟩ inputs "").2
      (∀ d ∈ done.engine.decoders, d.pending.entries = []) ∧
        ∀ key request,
          Correlator.Unanswered (segmentMessages ⟨"capture"⟩ 0 inputs) key request →
            partialRequest request ∈ done.sink.accepted.flatMap BronzeBatch.events := by
  let _ : External := sample
  intro h
  have hempty := (h [("", truncatedIpFrame 0), ("", readRequestFrame ⟨10000000000⟩)]).1
  revert hempty
  decide

/-! ## Transactions and the duplicate filter -/

/-- The same payload: equal operation, status, references, values and attributes of a transaction,
equal point and value of a reading, equal contents otherwise. -/
def samePayload : BronzeEventFamily → BronzeEventFamily → Bool
  | .protocolTransaction a, .protocolTransaction b =>
    a.operation = b.operation ∧ a.status = b.status ∧ a.objectRefs = b.objectRefs ∧
      a.values = b.values ∧ a.attributes = b.attributes
  | .processReading a, .processReading b => a.pointId = b.pointId ∧ a.value = b.value
  | a, b => a = b

def sameContent (a b : BronzeEvent) : Bool :=
  dedupSource a = dedupSource b ∧ dedupDestination a = dedupDestination b ∧
    a.envelope.srcPort = b.envelope.srcPort ∧ a.envelope.dstPort = b.envelope.dstPort ∧
    samePayload a.family b.family

/-- The decisions on two responses of one second with different values. -/
def twoResponsesLog [External] : List Decision :=
  decisionLog ⟨"capture"⟩ (Core.start (DpiEngine.new [ModbusDecoder.default] ()) ⟨0⟩)
    [("", readResponseFrame ⟨0⟩ 42), ("", readResponseFrame ⟨1000000⟩ 43)]

/-- The suppression key of a transaction is its operation: of two responses in one second the second
one is dropped, although it reports another value. -/
theorem other_value_suppressed :
    letI : External := sample
    ¬ ∀ (inputs : List HashedFrame) (before after : List Decision) (event : BronzeEvent),
      decisionLog ⟨"capture"⟩ (Core.start (DpiEngine.new [default] ()) ⟨0⟩) inputs =
          before ++ ⟨event, false⟩ :: after →
        ∃ first, ⟨first, true⟩ ∈ before ∧ sameContent first event = true := by
  let _ : External := sample
  intro h
  have hlog : twoResponsesLog =
      twoResponsesLog.take 1 ++ ⟨(twoResponsesLog.get ⟨1, by decide⟩).event, false⟩ :: [] := by
    decide
  rcases h _ _ _ _ hlog with ⟨first, hfirst, hsame⟩
  have hdiffer : ∀ decision ∈ twoResponsesLog.take 1,
      sameContent decision.event (twoResponsesLog.get ⟨1, by decide⟩).event = false := by
    decide
  have hfalse := hdiffer ⟨first, true⟩ hfirst
  rw [hsame] at hfalse
  cases hfalse

end MarlinspikeDpi.Modbus
