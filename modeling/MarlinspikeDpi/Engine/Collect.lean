import MarlinspikeDpi.Engine.Emit
import MarlinspikeDpi.Engine.Packet

/-!
# The events of a segment, before batching

The part of the frame loop that does not touch the sink: dissect a frame, filter its events, let the
decoders evict what is idle, and at the end of the segment drain them.

* `dropped_event_suppressed`: what was emitted before an event that is dropped.
-/

namespace MarlinspikeDpi.Engine

/-- The engine within a segment: frames seen so far and the time that drives idle eviction. -/
structure Core (δ μ : Type) where
  engine : DpiEngine δ μ
  framesProcessed : Nat
  lastTimestamp : DateTime

/-- The start of a segment; the clock begins at the wall-clock time of the start. -/
def Core.start {δ μ : Type} (engine : DpiEngine δ μ) (startedAt : DateTime) : Core δ μ :=
  { engine, framesProcessed := 0, lastTimestamp := startedAt }

/-- What one frame yields: the decisions on its events, and the events evicted from idle decoders,
which are not filtered. -/
structure FrameYield where
  decisions : List Decision
  evicted : List BronzeEvent

def FrameYield.events (y : FrameYield) : List BronzeEvent := emittedEvents y.decisions ++ y.evicted

/-- A frame as it is handed to the engine, with the hash its caller holds for the segment. -/
abbrev HashedFrame : Type := String × CapturedFrame

section

variable {δ μ : Type} [SessionDecoder δ] [FrameMonitors μ]

/-- Flush a decoder at the end of a segment, then evict what is idle. -/
def drainDecoder (timestamp : DateTime) (d : δ) : List BronzeEvent × δ :=
  let (flushed, d) := SessionDecoder.onIdleFlush d timestamp
  let (evicted, d) := SessionDecoder.evictIdle d timestamp
  (flushed ++ evicted, d)

def drain (core : Core δ μ) : List BronzeEvent × Core δ μ :=
  let (events, decoders) := sweep (drainDecoder core.lastTimestamp) core.engine.decoders
  let monitors := FrameMonitors.evictExpired core.engine.monitors core.lastTimestamp
  (events, { core with engine := { core.engine with decoders, monitors } })

variable [External] (segment : SegmentMeta)

/-- Everything `ingestFrame` does before it looks at the batch size. -/
def collectFrame (core : Core δ μ) (input : HashedFrame) : FrameYield × Core δ μ :=
  let framesProcessed := core.framesProcessed + 1
  let (frameEvents, engine) :=
    processPacketRecord core.engine segment input.1 framesProcessed input.2
  -- only a frame with events moves the clock
  let lastTimestamp :=
    (frameEvents.head?.map fun event => event.envelope.timestamp).getD core.lastTimestamp
  let (decisions, dedup) := emitAll engine.dedup frameEvents
  -- evicted events do not pass the filter
  let (evicted, decoders) :=
    sweep (fun d => SessionDecoder.evictIdle d lastTimestamp) engine.decoders
  ({ decisions, evicted },
    { engine := { engine with dedup, decoders }
      framesProcessed
      lastTimestamp })

def collectAll (segment : SegmentMeta) (core : Core δ μ) : List HashedFrame →
    List FrameYield × Core δ μ
  | [] => ([], core)
  | input :: inputs =>
    let (y, core) := collectFrame segment core input
    let (ys, core) := collectAll segment core inputs
    (y :: ys, core)

def decisionLog (core : Core δ μ) (inputs : List HashedFrame) : List Decision :=
  (collectAll segment core inputs).1.flatMap FrameYield.decisions

/-- All events of a segment, in order: those of the frames, then those of the final drain. -/
def segmentEvents (core : Core δ μ) (inputs : List HashedFrame) : List BronzeEvent :=
  (collectAll segment core inputs).1.flatMap FrameYield.events ++
    (drain (collectAll segment core inputs).2).1

variable {segment}

@[simp] lemma collectFrame_framesProcessed {core : Core δ μ} (input : HashedFrame) :
    (collectFrame segment core input).2.framesProcessed = core.framesProcessed + 1 := rfl

@[simp] lemma collectFrame_batchSize (segment : SegmentMeta) (core : Core δ μ)
    (input : HashedFrame) :
    (collectFrame segment core input).2.engine.batchSize = core.engine.batchSize := by
  simp [collectFrame]

lemma collectFrame_dedup {core : Core δ μ} (input : HashedFrame) (segment : SegmentMeta) :
    (collectFrame segment core input).2.engine.dedup =
      (emitAll core.engine.dedup (processPacketRecord core.engine segment input.1
        (core.framesProcessed + 1) input.2).1).2 := by
  simp [collectFrame]

lemma collectFrame_decisions {core : Core δ μ} (input : HashedFrame) (segment : SegmentMeta) :
    (collectFrame segment core input).1.decisions =
      (emitAll core.engine.dedup (processPacketRecord core.engine segment input.1
        (core.framesProcessed + 1) input.2).1).1 := by
  simp [collectFrame]

lemma collectFrame_decoders (segment : SegmentMeta) (core : Core δ μ) (input : HashedFrame) :
    (collectFrame segment core input).2.engine.decoders = core.engine.decoders.map fun d =>
        (SessionDecoder.evictIdle (react (dispatchOf (frameInfo segment input.1
          (core.framesProcessed + 1) input.2) input.2) d).2
          (collectFrame segment core input).2.lastTimestamp).2 := by
  simp only [collectFrame, sweep_snd, processPacketRecord_decoders, List.map_map]
  rfl

/-! ## Every drop of a run is explained -/

lemma Explained.collectFrame {core : Core δ μ} {log : List Decision}
    (h : Explained core.engine.dedup log) (segment : SegmentMeta) (input : HashedFrame) :
    Explained (collectFrame segment core input).2.engine.dedup
      (log ++ (collectFrame segment core input).1.decisions) := by
  rw [collectFrame_dedup, collectFrame_decisions]
  exact h.emitAll _

lemma Explained.collectAll {core : Core δ μ} {log : List Decision}
    (h : Explained core.engine.dedup log) (segment : SegmentMeta) (inputs : List HashedFrame) :
    Explained (collectAll segment core inputs).2.engine.dedup
      (log ++ decisionLog segment core inputs) := by
  induction inputs generalizing core log with
  | nil => simpa [decisionLog, Engine.collectAll] using h
  | cons input inputs ih =>
    have hstep := ih (h.collectFrame segment input)
    simpa [decisionLog, Engine.collectAll] using hstep

lemma collectAll_batchSize (segment : SegmentMeta) (core : Core δ μ) (inputs : List HashedFrame) :
    (collectAll segment core inputs).2.engine.batchSize = core.engine.batchSize := by
  induction inputs generalizing core with
  | nil => rfl
  | cons input inputs ih =>
    calc
      (collectAll segment core (input :: inputs)).2.engine.batchSize
          = (collectFrame segment core input).2.engine.batchSize := ih _
      _ = core.engine.batchSize := collectFrame_batchSize segment core input

lemma collectAll_framesProcessed (segment : SegmentMeta) (core : Core δ μ)
    (inputs : List HashedFrame) :
    (collectAll segment core inputs).2.framesProcessed = core.framesProcessed + inputs.length := by
  induction inputs generalizing core with
  | nil => rfl
  | cons input inputs ih =>
    calc
      (collectAll segment core (input :: inputs)).2.framesProcessed
          = (collectFrame segment core input).2.framesProcessed + inputs.length := ih _
      _ = core.framesProcessed + (input :: inputs).length := by
          rw [collectFrame_framesProcessed, List.length_cons]
          omega

lemma collectAll_dedup_window (segment : SegmentMeta) (core : Core δ μ)
    (inputs : List HashedFrame) : (collectAll segment core inputs).2.engine.dedup.window =
      core.engine.dedup.window ∧
      (collectAll segment core inputs).2.engine.dedup.bucketNs = core.engine.dedup.bucketNs := by
  induction inputs generalizing core with
  | nil => exact ⟨rfl, rfl⟩
  | cons input inputs ih =>
    have hstep := @ih (collectFrame segment core input).2
    rw [collectFrame_dedup, emitAll_window_length, emitAll_bucketNs] at hstep
    exact hstep

/-- In every run of a fresh engine, an event is dropped only if an event was emitted before it, no
longer ago than the five-second window, whose hashed bytes are the same or collide with its own
under SHA-256. The same bytes mean the same time bucket, endpoints, ports and family key where the
addresses of the two events are written with as many bytes. -/
theorem dropped_event_suppressed (decoders : List δ) (monitors : μ) (batchSize : Nat)
    (segment : SegmentMeta) (startedAt : DateTime) (inputs : List HashedFrame)
    (before after : List Decision) (event : BronzeEvent)
    (hlog : decisionLog segment
        (Core.start ((DpiEngine.new decoders monitors).withBatchSize batchSize) startedAt) inputs =
      before ++ ⟨event, false⟩ :: after) :
    ∃ first, ⟨first, true⟩ ∈ before ∧ dedupTime event - 5000000000 ≤ dedupTime first ∧
      (eventPreimage 1000000000 first = eventPreimage 1000000000 event ∧
          ((Text.utf8 (dedupSource first)).length = (Text.utf8 (dedupSource event)).length →
            (Text.utf8 (dedupDestination first)).length =
              (Text.utf8 (dedupDestination event)).length →
            (dedupCall first).identity 1000000000 = (dedupCall event).identity 1000000000) ∨
        (eventPreimage 1000000000 first ≠ eventPreimage 1000000000 event ∧
          External.sha256 (eventPreimage 1000000000 first) =
            External.sha256 (eventPreimage 1000000000 event))) := by
  have hstart : Explained (Core.start ((DpiEngine.new decoders monitors).withBatchSize batchSize)
      startedAt).engine.dedup [] := Explained.new 5000000000 1000000000
  have hrun := hstart.collectAll segment inputs
  -- the invariant names the suppressing event by its digest
  rcases hrun.dropped before event after (by simpa using hlog) with
    ⟨first, hmem, hdigest, hwindow⟩
  -- the run never changes window and bucket length
  rcases collectAll_dedup_window segment
    (Core.start ((DpiEngine.new decoders monitors).withBatchSize batchSize) startedAt) inputs with
    ⟨hwin, hbucket⟩
  rw [hbucket] at hdigest
  rw [hwin] at hwindow
  refine ⟨first, hmem, hwindow, ?_⟩
  by_cases hsame : eventPreimage 1000000000 first = eventPreimage 1000000000 event
  · have hcall : (dedupCall first).preimage 1000000000 = (dedupCall event).preimage 1000000000 := by
      rw [dedupCall_preimage, dedupCall_preimage, hsame]
    exact Or.inl ⟨hsame, fun hsrc hdst =>
      DedupEngine.Call.identity_eq_of_preimage_eq hcall hsrc hdst⟩
  · exact Or.inr ⟨hsame, hdigest⟩

end

def twoAnomaliesLog [External] : List Decision :=
  decisionLog ⟨"capture"⟩ (Core.start ((DpiEngine.new ([] : List Probe) ()).withBatchSize 1) ⟨0⟩)
    [("", rawIpFrame ⟨0⟩ [0x45, 0]), ("", rawIpFrame ⟨1000000⟩ [0x45, 1])]

/-- The anomaly of the second frame is suppressed by the one of the first. -/
theorem second_anomaly_suppressed :
    letI : External := External.sample
    ∃ first, ⟨first, true⟩ ∈ twoAnomaliesLog.take 1 ∧
      dedupTime (twoAnomaliesLog.get ⟨1, by decide⟩).event - 5000000000 ≤ dedupTime first := by
  let _ : External := External.sample
  have hlog : twoAnomaliesLog =
      twoAnomaliesLog.take 1 ++ ⟨(twoAnomaliesLog.get ⟨1, by decide⟩).event, false⟩ :: [] := by
    decide
  rcases dropped_event_suppressed [] () 1 ⟨"capture"⟩ ⟨0⟩ _ _ _ _ hlog with
    ⟨first, hfirst, hwindow, _⟩
  exact ⟨first, hfirst, hwindow⟩

end MarlinspikeDpi.Engine
