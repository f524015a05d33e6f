import MarlinspikeDpi.Engine.Collect

/-!
# The frame loop with its sink

`ingestFrame` collects the events of a frame into the pending buffer and flushes the buffer as one
batch as soon as it has reached the batch size; `finalizeStream` drains the decoders, flushes what
is left and reports the checkpoint.

* `processFrames_eq_runSegment`: the frame loop is a segment run.
-/

namespace MarlinspikeDpi.Engine

open Text CapturedFrame List

/-- Where batches go.  The batch is handed over by value. -/
class BronzeSink (σ : Type) where
  pushBatch : σ → BronzeBatch → Except DpiError Unit × σ

structure StreamState where
  pendingEvents : List BronzeEvent
  (framesProcessed eventsEmitted : Nat)
  lastTimestamp : DateTime

def StreamState.new (now : DateTime) : StreamState :=
  { pendingEvents := [], framesProcessed := 0, eventsEmitted := 0, lastTimestamp := now }

/-- The three things `ingestFrame` and `finalizeStream` change. -/
structure Stream (δ μ σ : Type) where
  engine : DpiEngine δ μ
  state : StreamState
  sink : σ

namespace Stream

variable {δ μ σ : Type}

def start (engine : DpiEngine δ μ) (now : DateTime) (sink : σ) : Stream δ μ σ :=
  { engine
    state := StreamState.new now
    sink }

def core (s : Stream δ μ σ) : Core δ μ :=
  { engine := s.engine, framesProcessed := s.state.framesProcessed, lastTimestamp :=
    s.state.lastTimestamp }

/-- Continue with another core and append events to the pending buffer. -/
def absorb (s : Stream δ μ σ) (events : List BronzeEvent) (core : Core δ μ) : Stream δ μ σ :=
  { engine := core.engine
    state :=
      { s.state with
        pendingEvents := s.state.pendingEvents ++ events
        framesProcessed := core.framesProcessed
        lastTimestamp := core.lastTimestamp }
    sink := s.sink }

@[simp] lemma core_start (engine : DpiEngine δ μ) (now : DateTime) (sink : σ) :
    (start engine now sink).core = Core.start engine now := rfl

@[simp] lemma core_absorb (s : Stream δ μ σ) (events : List BronzeEvent) (core : Core δ μ) :
    (s.absorb events core).core = core := rfl

end Stream

/-! ## Flushing -/

def makeBatch (captureId segmentHash : String) (pendingEvents : List BronzeEvent)
    (framesProcessed : Nat) : BronzeBatch :=
  { captureId
    schemaVersion := bronzeSchemaVersion
    segmentHash
    events := pendingEvents
    checkpoint :=
      { captureId, schemaVersion := bronzeSchemaVersion, segmentHash, framesProcessed,
        eventsEmitted := pendingEvents.length } }

section

variable {δ μ σ : Type} [BronzeSink σ]

/-- Push the pending events as one batch: the result, the buffer afterwards and the sink. -/
def flushBatch (captureId segmentHash : String) (pendingEvents : List BronzeEvent)
    (framesProcessed : Nat) (sink : σ) : Except DpiError Nat × List BronzeEvent × σ :=
  if pendingEvents.isEmpty then
    (.ok 0, pendingEvents, sink)
  else
    -- the events move into the batch: the buffer is empty whatever the sink answers
    match BronzeSink.pushBatch sink
        (makeBatch captureId segmentHash pendingEvents framesProcessed) with
    | (.ok _, sink) => (.ok pendingEvents.length, [], sink)
    | (.error e, sink) => (.error e, [], sink)

def Stream.flush (segment : SegmentMeta) (segmentHash : String) (s : Stream δ μ σ) :
    Except DpiError Unit × Stream δ μ σ :=
  match flushBatch segment.captureId segmentHash s.state.pendingEvents s.state.framesProcessed
      s.sink with
  | (.ok count, pending, sink) =>
    (.ok (),
      { s with
        state :=
          { s.state with
            pendingEvents := pending
            eventsEmitted := s.state.eventsEmitted + count }
        sink })
  | (.error e, pending, sink) =>
    (.error e,
      { s with
        state := { s.state with pendingEvents := pending }
        sink })

@[simp] lemma Stream.core_flush (segment : SegmentMeta) (segmentHash : String) (s : Stream δ μ σ) :
    (s.flush segment segmentHash).2.core = s.core := by
  unfold Stream.flush
  rcases flushBatch _ segmentHash _ _
    s.sink with ⟨result, pending, sink⟩
  cases result with
  | ok count => rfl
  | error e => rfl

lemma Stream.flush_of_empty (segment : SegmentMeta) (segmentHash : String) {s : Stream δ μ σ}
    (hempty : s.state.pendingEvents = []) : s.flush segment segmentHash = (.ok (), s) := by
  rcases s with ⟨engine, ⟨pending, framesProcessed, eventsEmitted, lastTimestamp⟩, sink⟩
  cases (show pending = [] from hempty)
  rfl

end

/-! ## The frame loop -/

section

variable {δ μ σ : Type} [SessionDecoder δ] [FrameMonitors μ] [BronzeSink σ] [External]

variable (segment : SegmentMeta)

def ingestFrame (s : Stream δ μ σ) (input : HashedFrame) : Except DpiError Unit × Stream δ μ σ :=
  let (y, core) := collectFrame segment s.core input
  let s := s.absorb y.events core
  if s.engine.batchSize ≤ s.state.pendingEvents.length then s.flush segment input.1
  else (.ok (), s)

def finalizeStream (segmentHash : String) (s : Stream δ μ σ) :
  Except DpiError SegmentCheckpoint × Stream δ μ σ := let (drained, core) := drain s.core
  let s := s.absorb drained core
  let finalPending := s.state.pendingEvents.length
  let (result, s) :=
    if s.state.pendingEvents.isEmpty then (.ok (), s) else s.flush segment segmentHash
  match result with
  | .error e => (.error e, s)
  | .ok () =>
    (.ok
      { captureId := segment.captureId, schemaVersion := bronzeSchemaVersion, segmentHash,
        framesProcessed := s.state.framesProcessed,
        eventsEmitted := max s.state.eventsEmitted finalPending }, s)

lemma core_ingestFrame (s : Stream δ μ σ) (input : HashedFrame) :
    (ingestFrame segment s input).2.core = (collectFrame segment s.core input).2 := by
  simp only [ingestFrame]
  split
  · rw [Stream.core_flush, Stream.core_absorb]
  · rw [Stream.core_absorb]

/-- The checkpoint of a finished segment, from the counters and the size of the last buffer. -/
def segmentCheckpoint (segmentHash : String) (state : StreamState) (finalPending : Nat) :
    SegmentCheckpoint :=
  { captureId := segment.captureId, schemaVersion := bronzeSchemaVersion, segmentHash,
    framesProcessed := state.framesProcessed,
    eventsEmitted := max state.eventsEmitted finalPending }

omit [External] in
/-- The guard against an empty buffer in `finalizeStream` is one that `flush` has itself: finishing
is draining, flushing, and making a checkpoint of a flush that succeeded. -/
theorem finalizeStream_eq (segment : SegmentMeta) (segmentHash : String) (s : Stream δ μ σ) :
    let drained := s.absorb (drain s.core).1 (drain s.core).2
    let flushed := drained.flush segment segmentHash
    finalizeStream segment segmentHash s = (flushed.1.map fun _ =>
        segmentCheckpoint segment segmentHash flushed.2.state drained.state.pendingEvents.length,
      flushed.2) := by
  intro drained flushed
  have hguard : (if drained.state.pendingEvents.isEmpty then (.ok (), drained)
      else drained.flush segment segmentHash) = flushed := by
    by_cases hempty : drained.state.pendingEvents = []
    · rw [if_pos (isEmpty_iff.2 hempty)]
      exact (Stream.flush_of_empty segment segmentHash hempty).symm
    · rw [if_neg (by rwa [List.isEmpty_iff])]
  unfold finalizeStream
  simp only
  rw [hguard]
  rcases flushed with ⟨result, stream⟩
  cases result with
  | error e => rfl
  | ok _ => rfl

omit [External] in
lemma core_finalizeStream (segment : SegmentMeta) (segmentHash : String) (s : Stream δ μ σ) :
    (finalizeStream segment segmentHash s).2.core = (drain s.core).2 := by
  rw [finalizeStream_eq, Stream.core_flush, Stream.core_absorb]

/-- Ingest frame after frame, going on after a failure; the answers are collected. -/
def ingestAll (segment : SegmentMeta) (s : Stream δ μ σ) : List HashedFrame →
    List (Except DpiError Unit) × Stream δ μ σ
  | [] => ([], s)
  | input :: inputs =>
    let (result, s) := ingestFrame segment s input
    let (results, s) := ingestAll segment s inputs
    (result :: results, s)

lemma core_ingestAll (s : Stream δ μ σ) (inputs : List HashedFrame) :
    (ingestAll segment s inputs).2.core = (collectAll segment s.core inputs).2 := by
  induction inputs generalizing s with
  | nil => rfl
  | cons input inputs ih =>
    have hstep := ih (ingestFrame segment s input).2
    rw [core_ingestFrame] at hstep
    exact hstep

def ingestUntilError (segment : SegmentMeta) (s : Stream δ μ σ) : List HashedFrame →
    Except DpiError Unit × Stream δ μ σ
  | [] => (.ok (), s)
  | input :: inputs =>
    match ingestFrame segment s input with
    | (.error e, s) => (.error e, s)
    | (.ok _, s) => ingestUntilError segment s inputs

/-- A complete segment: its frames, how their source ends (a capture file may turn out to be broken)
and the hash reported at the end. -/
structure Segment where
  info : SegmentMeta
  inputs : List HashedFrame
  sourceEnd : Except DpiError Unit
  finalHash : String

def runSegment (engine : DpiEngine δ μ) (now : DateTime) (sink : σ) (segment : Segment) :
    Except DpiError SegmentCheckpoint × Stream δ μ σ :=
  match ingestUntilError segment.info (Stream.start engine now sink) segment.inputs with
  | (.error e, s) => (.error e, s)
  | (.ok _, s) =>
    match segment.sourceEnd with
    | .error e => (.error e, s)
    | .ok _ => finalizeStream segment.info segment.finalHash s

end

/-! ## Live sessions -/

/-- A live session: the stream, the segment it belongs to and the bytes hashed so far. -/
structure LiveSession (δ μ σ : Type) where
  info : SegmentMeta
  stream : Stream δ μ σ
  hashed : List UInt8

section

variable {δ μ σ : Type} [SessionDecoder δ] [FrameMonitors μ] [BronzeSink σ] [External]

def hashText (bytes : List UInt8) : String := hexEncode (External.sha256 bytes)

def rollingHashes (hashed : List UInt8) : List CapturedFrame → List HashedFrame
  | [] => []
  | frame :: frames => (hashText (hashed ++ frame.data), frame) :: rollingHashes
    (hashed ++ frame.data) frames

namespace LiveSession

def start (engine : DpiEngine δ μ) (now : DateTime) (info : SegmentMeta)
  (sink : σ) : LiveSession δ μ σ := { info, stream := Stream.start engine now sink, hashed := [] }

def push (session : LiveSession δ μ σ) (frame : CapturedFrame) :
  Except DpiError Unit × LiveSession δ μ σ := let hashed := session.hashed ++ frame.data
  let (result, stream) := ingestFrame session.info session.stream (hashText hashed, frame)
  (result, { session with stream, hashed })

def pushAll (session : LiveSession δ μ σ) : List CapturedFrame →
    List (Except DpiError Unit) × LiveSession δ μ σ
  | [] => ([], session)
  | frame :: frames =>
    let (result, session) := session.push frame
    let (results, session) := pushAll session frames
    (result :: results, session)

def finish (session : LiveSession δ μ σ) : Except DpiError SegmentCheckpoint × Stream δ μ σ :=
  finalizeStream session.info (hashText session.hashed) session.stream

lemma pushAll_stream (session : LiveSession δ μ σ) (frames : List CapturedFrame) :
    (session.pushAll frames).1 =
        (ingestAll session.info session.stream (rollingHashes session.hashed frames)).1 ∧
      (session.pushAll frames).2 =
        { info := session.info
          stream := (ingestAll session.info session.stream (rollingHashes session.hashed frames)).2
          hashed := session.hashed ++ frames.flatMap data } := by
  induction frames generalizing session with
  | nil => simp [pushAll, rollingHashes, ingestAll]
  | cons frame frames ih =>
    rcases ih (session.push frame).2 with ⟨hresults, hsession⟩
    refine ⟨?_, ?_⟩
    · simp only [pushAll, rollingHashes, ingestAll, hresults]
      rfl
    · calc
        (session.pushAll (frame :: frames)).2
            = ((session.push frame).2.pushAll frames).2 := rfl
        _ = _ := hsession
        _ = _ := by simp only [push, rollingHashes, ingestAll, flatMap_cons, append_assoc]

def pushUntilError (session : LiveSession δ μ σ) : List CapturedFrame →
    Except DpiError Unit × LiveSession δ μ σ
  | [] => (.ok (), session)
  | frame :: frames =>
    match session.push frame with
    | (.error e, session) => (.error e, session)
    | (.ok _, session) => pushUntilError session frames

end LiveSession

variable (engine : DpiEngine δ μ) (now : DateTime) (info : SegmentMeta)

def processFrames (frames : List CapturedFrame)
    (sink : σ) : Except DpiError SegmentCheckpoint × Stream δ μ σ :=
  match (LiveSession.start engine now info sink).pushUntilError frames with
  | (.error e, session) => (.error e, session.stream)
  | (.ok _, session) => session.finish

def processFrame (frame : CapturedFrame) (sink : σ) :
    Except DpiError SegmentCheckpoint × Stream δ μ σ :=
  match (LiveSession.start engine now info sink).push frame with
  | (.error e, session) => (.error e, session.stream)
  | (.ok _, session) => session.finish

def liveSegment (frames : List CapturedFrame) : Segment :=
  { info, inputs := rollingHashes [] frames, sourceEnd := .ok (),
    finalHash := hashText (frames.flatMap CapturedFrame.data) }

lemma LiveSession.pushUntilError_eq (session : LiveSession δ μ σ) (frames : List CapturedFrame) :
    (match session.pushUntilError frames with
      | (.error e, session) => (Except.error e, session.stream)
      | (.ok _, session) => session.finish) =
    (match ingestUntilError session.info session.stream (rollingHashes session.hashed frames) with
      | (.error e, s) => (Except.error e, s)
      | (.ok _, s) => finalizeStream session.info
          (hashText (session.hashed ++ frames.flatMap data)) s) := by
  induction frames generalizing session with
  | nil => simp [pushUntilError, rollingHashes, ingestUntilError, finish]
  | cons frame frames ih =>
    simp only [pushUntilError, rollingHashes, ingestUntilError, push]
    -- both sides look at the answer of the same `ingestFrame`
    rcases ingestFrame _ _ (hashText _, frame) with ⟨result, stream⟩
    cases result with
    | error e => rfl
    | ok _ =>
      have hrest := ih
        { session with stream, hashed := session.hashed ++ frame.data }
      simpa [append_assoc] using hrest

theorem processFrames_eq_runSegment (frames : List CapturedFrame)
    (sink : σ) : processFrames engine now info frames sink =
      runSegment engine now sink (liveSegment info frames) := by
  have h := (LiveSession.start engine now info sink).pushUntilError_eq frames
  simpa [processFrames, runSegment, liveSegment, LiveSession.start] using h

lemma processFrame_eq_processFrames (frame : CapturedFrame) (sink : σ) :
    processFrame engine now info frame sink = processFrames engine now info [frame] sink := by
  simp only [processFrame, processFrames, LiveSession.pushUntilError]
  split <;> rfl

end

end MarlinspikeDpi.Engine
