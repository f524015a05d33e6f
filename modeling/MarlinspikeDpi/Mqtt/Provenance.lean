import MarlinspikeDpi.Engine.Delivery
import MarlinspikeDpi.Engine.Trace
import MarlinspikeDpi.Mqtt.Decoder

/-!
# From which frame the events of MQTT traffic come

The MQTT decoder sits among arbitrary other decoders in the engine.

* `placed_of_quietRun`: in a quiet run events carry the frame that was handled.
-/

namespace MarlinspikeDpi.Mqtt

open Engine Sparkplug List Core External SessionDecoder SparkplugProto VecBronzeSink

/-! ## One chunk -/

lemma packetEvents_carries (chunk : StreamChunk) (fields : MqttFields) :
    ∀ event ∈ packetEvents chunk fields, Carries chunk.toFrameInfo event := by
  intro event hevent
  rcases mem_cons.1 hevent with rfl | hclient
  · exact ⟨rfl, rfl, rfl⟩
  · split at hclient
    · rw [mem_singleton.1 hclient]
      exact ⟨rfl, rfl, rfl⟩
    · cases hclient

lemma Sparkplug.Placeless.not_carries {info : FrameInfo} {event : BronzeEvent} (h : Placeless event)
    (hindex : info.frameIndex ≠ 0) : ¬ Carries info event := by
  rintro ⟨_, _, hframe⟩
  exact hindex (hframe.symm.trans h.2.2)

section

variable [External] [SparkplugProto]

/-- No payload decoder makes events of the chunk: it is not a publish, its topic is not one of
Sparkplug, or it is an outdated birth. -/
def quiet (d : MqttDecoder) (chunk : StreamChunk) : Bool :=
  match (parseFields chunk.payload).bind (publish? chunk) with
  | none => true
  | some ctx => d.payloadDecoders.all fun p => unclaimed p ctx

lemma onStreamChunk_carries_iff (d : MqttDecoder) {chunk : StreamChunk}
    (hindex : chunk.frameIndex ≠ 0) :
    (∀ event ∈ (onStreamChunk d chunk).1, Carries chunk.toFrameInfo event) ↔
      quiet d chunk = true := by
  unfold onStreamChunk quiet
  cases parseFields _ with
  | none =>
    refine ⟨fun _ => rfl, fun _ event hevent => ?_⟩
    rw [mem_singleton.1 hevent]
    exact ⟨rfl, rfl, rfl⟩
  | some fields =>
    rw [Option.bind_some]
    dsimp only
    cases publish? chunk fields with
    | none => exact ⟨fun _ => rfl, fun _ => packetEvents_carries chunk fields⟩
    | some ctx =>
      dsimp only
      rw [← fanOut_eq_nil_iff]
      constructor
      · -- an event of a payload decoder would be one that is out of place
        intro hall
        refine eq_nil_iff_forall_not_mem.2 fun event hevent => ?_
        have hplaceless : Placeless event := fanOut_placeless ctx _ event hevent
        exact hplaceless.not_carries hindex (hall event (mem_append_right _ hevent))
      · intro hnone event hevent
        rw [hnone, append_nil] at hevent
        exact packetEvents_carries chunk fields event hevent

/-! ## One frame -/

/-- The decoder is not handed the frame, or no payload decoder makes events of it. -/
def quietDispatch (dispatch : Dispatch) (d : MqttDecoder) : Bool :=
  match dispatch with
  | .stream chunk => !interestMatches (SessionDecoder.interest d) chunk || quiet d chunk
  | .reject _ _ | .neighbour _ | .datagram _ | .icmp _ | .claimable _ _ => true

lemma react_carries_iff {info : FrameInfo} (hindex : info.frameIndex ≠ 0) (frame : CapturedFrame)
    (d : MqttDecoder) : (∀ event ∈ (react (dispatchOf info frame) d).1, Carries info event) ↔
      quietDispatch (dispatchOf info frame) d = true := by
  cases hdispatch : dispatchOf info frame with
  | stream chunk =>
    have hframe : chunk.toFrameInfo = info := dispatchOf_chunk_frame (by rw [hdispatch]; rfl)
    subst hframe
    simp only [react, quietDispatch]
    by_cases hmatch : interestMatches (interest d) chunk = true
    · rw [hmatch]
      exact onStreamChunk_carries_iff d hindex
    · rw [Bool.eq_false_iff.2 hmatch]
      simp
  | reject reason excerpt => simp [react, quietDispatch]
  -- the decoder does not listen to datagrams
  | neighbour chunk | datagram chunk | icmp chunk | claimable chunk unclaimed =>
    simp only [react, quietDispatch]
    split <;> simp [onDatagram]

variable {δ μ : Type} [SessionDecoder δ] [FrameMonitors μ]

def quietFrame (decoders : List (MqttDecoder ⊕ δ)) (info : FrameInfo) (frame : CapturedFrame) :
  Bool := decoders.all (Sum.elim (quietDispatch (dispatchOf info frame)) fun _ => true)

def OwnOrigin (origin : Origin (MqttDecoder ⊕ δ)) : Prop := ∀ d : δ, origin ≠ .decoder (.inr d)

lemma tracedRecord_carries_iff (eng : DpiEngine (MqttDecoder ⊕ δ) μ) (segment : SegmentMeta)
    (segmentHash : String) {frameIndex : Nat} (hindex : frameIndex ≠ 0) (frame : CapturedFrame) :
    (∀ made ∈ tracedRecord eng segment segmentHash frameIndex frame, OwnOrigin made.1 →
        Carries (frameInfo segment segmentHash frameIndex frame) made.2) ↔
      quietFrame eng.decoders (frameInfo segment segmentHash frameIndex frame) frame = true := by
  set info := frameInfo segment segmentHash frameIndex frame
  have hreact : ∀ d : MqttDecoder,
    (∀ event ∈ (react (dispatchOf info frame) d).1, Carries info event) ↔
        quietDispatch (dispatchOf info frame) d = true :=
    react_carries_iff hindex frame
  rw [quietFrame, all_eq_true]
  constructor
  · intro hall d hd
    cases d with
    | inr d => rfl
    | inl d =>
      refine (hreact d).1 fun event hevent => ?_
      refine hall (.decoder _, event) (mem_tracedRecord_decoder.2 ⟨hd, ?_⟩) ?_
      · rw [react_inl]
        exact hevent
      · intro other hother
        cases hother
  · rintro hquiet ⟨origin, event⟩ hmade hown
    rcases tracedRecord_cases hmade with ⟨hcarries, _⟩ | ⟨d, hd, horigin, hevent⟩
    · exact hcarries
    · cases d with
      | inr d => exact absurd horigin (hown d)
      | inl d =>
        rw [react_inl] at hevent
        exact (hreact d).2 (hquiet _ hd) event hevent

/-! ## Runs -/

/-- All frames of the run are quiet. -/
def quietRun (segment : SegmentMeta) : Core (MqttDecoder ⊕ δ) μ → List HashedFrame → Bool
  | _, [] => true
  | core, input :: inputs =>
    quietFrame core.engine.decoders (frameInfo segment input.1 (core.framesProcessed + 1) input.2)
      input.2 && quietRun segment (collectFrame segment core input).2 inputs

lemma traced_carries_iff (segment : SegmentMeta) (core : Core (MqttDecoder ⊕ δ) μ)
    (inputs : List HashedFrame) :
    (∀ entry ∈ traced segment core inputs, OwnOrigin entry.origin →
      Carries entry.frame entry.event) ↔ quietRun segment core inputs = true := by
  induction inputs generalizing core with
  | nil =>
    refine ⟨fun _ => rfl, fun _ entry hentry => ?_⟩
    cases hentry
  | cons input inputs ih =>
    rw [quietRun, Bool.and_eq_true, ← ih, ← tracedRecord_carries_iff _ segment input.1
      (Nat.succ_ne_zero _) input.2]
    -- an entry belongs to this frame or to a later one
    simp only [traced, forall_mem_append, forall_mem_map]

variable {σ : Type} [BronzeSink σ]

/-- In a quiet run of an engine with MQTT decoders among arbitrary others, take an event of a batch
that was pushed to the sink and an entry of the trace for it that is not of another decoder: the
event carries the capture id of the batch, and the hash and the number of the frame that was
handled. -/
theorem placed_of_quietRun (engine : DpiEngine (MqttDecoder ⊕ δ) μ) (now : DateTime) (sink : σ)
    (segment : SegmentMeta) (inputs : List HashedFrame) (finalHash : String)
    (hquiet : quietRun segment (Core.start engine now) inputs = true) :
    ∀ batch ∈ (recordedSegment engine now sink segment inputs finalHash).2.sink.batches,
      ∀ entry ∈ traced segment (Core.start engine now) inputs,
        entry.event ∈ batch.events → OwnOrigin entry.origin →
          ∃ k input, inputs[k]? = some input ∧
            entry.frame = frameInfo segment input.1 (k + 1) input.2 ∧
            entry.event.captureId = batch.captureId ∧
            entry.event.envelope.segmentHash = input.1 ∧
            entry.event.envelope.frameIndex = k + 1 := by
  intro batch hbatch entry hentry _ hown
  have hlabel : batch.captureId = segment.captureId :=
    labelled_recordedSegment engine now sink segment inputs finalHash batch hbatch
  have hcarries : Carries entry.frame entry.event :=
    (traced_carries_iff segment (start engine now) inputs).2 hquiet entry hentry hown
  rcases traced_frame hentry with ⟨k, input, hk, hframe⟩
  have hnumber : (start engine now).framesProcessed + k + 1 = k + 1 := by rw [start, Nat.zero_add]
  rw [hnumber] at hframe
  rw [hframe] at hcarries
  rcases hcarries with ⟨hcapture, hhash, hindex⟩
  exact ⟨k, input, hk, hframe, hcapture.trans hlabel.symm, hhash, hindex⟩

end

/-- A raw IP frame in which a client publishes an empty message of the given topic. -/
def publishFrame (topic : String) : CapturedFrame :=
  let name := Text.utf8 topic
  let packet : List UInt8 :=
    [0x30, UInt8.ofNat (2 + name.length), 0, UInt8.ofNat name.length] ++ name
  rawIpFrame ⟨0⟩ ([0x45, 0, 0, UInt8.ofNat (40 + packet.length), 0, 0, 0, 0, 64, 6, 0, 0, 10, 0, 0,
    1, 10, 0, 0, 2] ++
      [0xC0, 0x00, 0x07, 0x5B, 0, 0, 0, 0, 0, 0, 0, 0, 0x50, 0x18, 0, 0, 0, 0, 0, 0] ++
      packet)

def mqttEngine : DpiEngine (MqttDecoder ⊕ Probe) Unit :=
  DpiEngine.new [.inl MqttDecoder.default, .inr ⟨[], []⟩] ()

/-- What the delivered batches say: their capture, and capture, segment and frame of each event. -/
def deliveredPlaces [External] [SparkplugProto] (inputs : List HashedFrame) :
    List (String × List (String × String × Nat)) :=
  let done := (recordedSegment mqttEngine ⟨0⟩ (VecBronzeSink.mk []) ⟨"capture"⟩ inputs "").2
  done.sink.accepted.map fun batch =>
    (batch.captureId, batch.events.map fun event =>
      (event.captureId, event.envelope.segmentHash, event.envelope.frameIndex))

/-- A publish of a plain topic is quiet, and its event is delivered. -/
theorem plainPublish_placed :
    letI : External := sample
    letI : SparkplugProto := sample
    let inputs : List HashedFrame := [("hash", publishFrame "plant/line")]
    deliveredPlaces inputs = [("capture", [("capture", "hash", 1)])] ∧
      ∀ batch ∈ (recordedSegment mqttEngine ⟨0⟩ (mk []) ⟨"capture"⟩ inputs
          "").2.sink.batches,
        ∀ entry ∈ traced ⟨"capture"⟩ (start mqttEngine ⟨0⟩) inputs,
          entry.event ∈ batch.events → OwnOrigin entry.origin →
            ∃ k input, inputs[k]? = some input ∧
              entry.frame = frameInfo ⟨"capture"⟩ input.1 (k + 1) input.2 ∧
              entry.event.captureId = batch.captureId ∧
              entry.event.envelope.segmentHash = input.1 ∧
              entry.event.envelope.frameIndex = k + 1 := by
  let _ : External := sample
  let _ : SparkplugProto := sample
  exact ⟨by decide, placed_of_quietRun mqttEngine ⟨0⟩ (mk []) ⟨"capture"⟩
    [("hash", publishFrame "plant/line")] "" (by decide)⟩

/-- Of a Sparkplug publish two events are delivered in one batch: the transaction of the MQTT
decoder, and the one of the Sparkplug decoder, which names no capture, no segment and the frame
zero. -/
theorem sparkplugPublish_misplaced :
    letI : External := sample
    letI : SparkplugProto := sample
    deliveredPlaces [("hash", publishFrame "spBv1.0/g/NDATA/e")] =
      [("capture", [("capture", "hash", 1), ("", "", 0)])] := by
  decide

end MarlinspikeDpi.Mqtt
