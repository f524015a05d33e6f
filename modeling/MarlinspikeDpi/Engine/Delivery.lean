import MarlinspikeDpi.Engine.Stream
import MarlinspikeDpi.Foundation.Batcher

/-!
# What reaches the sink

Seen from the sink, a stream is a `Batcher`: the pending events are its buffer and the pushed
batches are its offers.

* `reliable_segment_delivered`: a segment on a sink that never fails.
* `live_events_offered_once`: a live session on any sink.
-/

namespace MarlinspikeDpi.Engine

open BronzeBatch List

/-! ## A sink that keeps a record -/

/-- Any sink, together with the batches pushed so far and whether each was accepted. -/
structure Recorded (σ : Type) where
  inner : σ
  log : List (BronzeBatch × Bool)

open Recorded

namespace Recorded

variable {σ : Type}

def new (inner : σ) : Recorded σ :=
  { inner, log := [] }

variable (s : Recorded σ)

def batches : List BronzeBatch := s.log.map Prod.fst

def accepted : List BronzeBatch := (s.log.filter Prod.snd).map Prod.fst

def rejected : List BronzeBatch := (s.log.filter fun entry => !entry.2).map Prod.fst

instance [BronzeSink σ] : BronzeSink (Recorded σ) where
  pushBatch s batch :=
    let (result, inner) := BronzeSink.pushBatch s.inner batch
    (result, { inner, log := s.log ++ [(batch, result.isOk)] })

end Recorded

/-! ## The stream as a batcher -/

section

variable {δ μ σ : Type}

def Stream.batcher (s : Stream δ μ (Recorded σ)) : Batcher BronzeEvent :=
  { threshold := s.engine.batchSize, pending := s.state.pendingEvents,
    attempts := s.sink.log.map fun entry => ⟨entry.1.events, entry.2⟩ }

variable (s : Stream δ μ (Recorded σ))

lemma Stream.handed_batcher : s.batcher.handed = s.sink.batches.flatMap events := by
  simp [Stream.batcher, Batcher.handed, batches, flatMap_map]

lemma Stream.delivered_batcher : s.batcher.delivered = s.sink.accepted.flatMap events := by
  simp [Stream.batcher, Batcher.delivered, accepted, filter_map, flatMap_map, Function.comp_def]

lemma Stream.rejections_batcher : s.batcher.rejections = s.sink.rejected.length := by
  simp [Stream.batcher, Batcher.rejections, rejected, countP_eq_length_filter, filter_map,
    Function.comp_def]

lemma Stream.batcher_absorb (events : List BronzeEvent) {core : Core δ μ}
    (h : core.engine.batchSize = s.engine.batchSize) :
    (s.absorb events core).batcher = s.batcher.add events := by
  simp [Stream.batcher, Stream.absorb, Batcher.add, h]

variable {s}

/-- The bookkeeping of a stream is right: it counts the accepted events, and so does every batch. -/
structure Stream.Counted (s : Stream δ μ (Recorded σ)) : Prop where
  emitted : s.state.eventsEmitted = s.batcher.delivered.length
  checkpoints : ∀ batch ∈ s.sink.batches, batch.checkpoint.eventsEmitted = batch.events.length

lemma Stream.Counted.absorb (h : s.Counted) (events : List BronzeEvent) (core : Core δ μ) :
    (s.absorb events core).Counted :=
  ⟨h.emitted, h.checkpoints⟩

def Stream.Labelled (segment : SegmentMeta) (s : Stream δ μ (Recorded σ)) : Prop :=
  ∀ batch ∈ s.sink.batches, batch.captureId = segment.captureId

section

variable [BronzeSink σ] (segment : SegmentMeta) (segmentHash : String)
    (hne : s.state.pendingEvents ≠ [])

include hne

lemma Stream.flush_eq : ∃ inner, (s.flush segment segmentHash).2 =
      { engine := s.engine
        state :=
          { s.state with
            pendingEvents := []
            eventsEmitted := s.state.eventsEmitted +
              if (s.flush segment segmentHash).1.isOk then s.state.pendingEvents.length else 0 }
        sink :=
          { inner
            log := s.sink.log ++ [(makeBatch segment.captureId segmentHash s.state.pendingEvents
                s.state.framesProcessed, (s.flush segment segmentHash).1.isOk)] } } := by
  have hpending : s.state.pendingEvents.isEmpty = false := by simpa using hne
  cases hpush : BronzeSink.pushBatch s.sink.inner
      (makeBatch segment.captureId segmentHash s.state.pendingEvents s.state.framesProcessed) with
  | mk result inner =>
    cases result with
    | ok _ => simp [Stream.flush, flushBatch, hpending, BronzeSink.pushBatch, hpush, Except.isOk,
      Except.toBool]
    | error e => simp [Stream.flush, flushBatch, hpending, BronzeSink.pushBatch, hpush, Except.isOk,
      Except.toBool]

lemma Stream.batcher_flush :
    (s.flush segment segmentHash).2.batcher =
      s.batcher.flush (s.flush segment segmentHash).1.isOk := by
  rcases Stream.flush_eq segment segmentHash hne with ⟨inner, hflush⟩
  rw [hflush]
  simp [Stream.batcher, Batcher.flush, makeBatch]

lemma Stream.batches_flush : (s.flush segment segmentHash).2.sink.batches = s.sink.batches ++
      [makeBatch segment.captureId segmentHash s.state.pendingEvents s.state.framesProcessed] := by
  rcases Stream.flush_eq segment segmentHash hne with ⟨inner, hflush⟩
  rw [hflush]
  simp [batches]

lemma Stream.Counted.flush (h : s.Counted) : (s.flush segment segmentHash).2.Counted := by
  refine ⟨?_, ?_⟩
  · rcases Stream.flush_eq segment segmentHash hne with ⟨inner, hflush⟩
    rw [Stream.batcher_flush segment segmentHash hne, hflush]
    -- both sides grow by the buffer exactly when the batch was accepted
    cases (s.flush segment segmentHash).1.isOk with
    | true => simp [h.emitted, Stream.batcher]
    | false => simp [h.emitted]
  · rw [Stream.batches_flush segment segmentHash hne]
    exact forall_mem_append.2 ⟨h.checkpoints, forall_mem_singleton.2 rfl⟩

lemma Stream.Labelled.flush (h : s.Labelled segment) :
    (s.flush segment segmentHash).2.Labelled segment := by
  rw [Stream.Labelled, Stream.batches_flush segment segmentHash hne]
  exact forall_mem_append.2 ⟨h, forall_mem_singleton.2 rfl⟩

end

variable [BronzeSink σ]

/-! ## The end of the segment -/

section

variable [SessionDecoder δ] [FrameMonitors μ]

def drained (s : Stream δ μ (Recorded σ)) : Stream δ μ (Recorded σ) :=
  s.absorb (drain s.core).1 (drain s.core).2

omit [BronzeSink σ] in
lemma batcher_drained (s : Stream δ μ (Recorded σ)) :
  (drained s).batcher = s.batcher.add (drain s.core).1 := s.batcher_absorb _ rfl

variable (segment : SegmentMeta) (segmentHash : String) (s : Stream δ μ (Recorded σ))

lemma finalizeStream_cases : ((drained s).state.pendingEvents = [] ∧
        (finalizeStream segment segmentHash s).1.isOk = true ∧
        (finalizeStream segment segmentHash s).2 = drained s) ∨
      ((drained s).state.pendingEvents ≠ [] ∧
        (finalizeStream segment segmentHash s).1.isOk =
          ((drained s).flush segment segmentHash).1.isOk ∧
        (finalizeStream segment segmentHash s).2 = ((drained s).flush segment segmentHash).2) := by
  have hanswer : (finalizeStream segment segmentHash s).1.isOk =
      ((drained s).flush segment segmentHash).1.isOk := by
    rw [finalizeStream_eq]
    unfold drained
    cases ((s.absorb _ _).flush segment segmentHash).1 with
    | error e => rfl
    | ok _ => rfl
  have hstream : (finalizeStream segment segmentHash s).2 =
      ((drained s).flush segment segmentHash).2 := by
    rw [finalizeStream_eq]
    rfl
  by_cases hnil : (drained s).state.pendingEvents = []
  · rw [Stream.flush_of_empty segment segmentHash hnil] at hanswer hstream
    exact Or.inl ⟨hnil, hanswer, hstream⟩
  · exact Or.inr ⟨hnil, hanswer, hstream⟩

lemma batcher_finalizeStream : (finalizeStream segment segmentHash s).2.batcher =
      s.batcher.close (drain s.core).1 (finalizeStream segment segmentHash s).1.isOk := by
  rcases finalizeStream_cases segment segmentHash s with ⟨hnil, _, hkeep⟩ | ⟨hne, hok, hflush⟩
  · rw [hkeep, batcher_drained, Batcher.close, if_pos]
    exact hnil
  · rw [hflush, hok, Stream.batcher_flush _ _ hne, batcher_drained, Batcher.close, if_neg]
    exact hne

lemma rejections_finalizeStream : (finalizeStream segment segmentHash s).2.batcher.rejections =
      s.batcher.rejections + if (finalizeStream segment segmentHash s).1.isOk then 0 else 1 := by
  rcases finalizeStream_cases segment segmentHash s with ⟨_, hok, hkeep⟩ | ⟨hne, hok, hflush⟩
  · rw [hkeep, hok]
    rfl
  · rw [hflush, hok, Stream.batcher_flush _ _ hne, Batcher.rejections_flush]
    rfl

variable {s}

lemma Stream.Counted.finalizeStream (h : s.Counted) :
    (finalizeStream segment segmentHash s).2.Counted := by
  rcases finalizeStream_cases segment segmentHash s with ⟨_, _, hkeep⟩ | ⟨hne, _, hflush⟩
  · rw [hkeep]
    exact h.absorb _ _
  · rw [hflush]
    exact Stream.Counted.flush segment segmentHash hne (h.absorb _ _)

lemma Stream.Labelled.finalizeStream (h : s.Labelled segment) :
    (finalizeStream segment segmentHash s).2.Labelled segment := by
  rcases finalizeStream_cases segment segmentHash s with ⟨_, _, hkeep⟩ | ⟨hne, _, hflush⟩
  · rw [hkeep]
    exact h
  · rw [hflush]
    exact Stream.Labelled.flush segment segmentHash hne h

variable (s)

lemma batches_finalizeStream : ∃ last, (finalizeStream segment segmentHash s).2.sink.batches =
      s.sink.batches ++ last ∧ last.length ≤ 1 ∧ ∀ batch ∈ last, batch.events ≠ [] := by
  rcases finalizeStream_cases segment segmentHash s with ⟨_, _, hkeep⟩ | ⟨hne, _, hflush⟩
  · refine ⟨[], ?_, by simp, by simp⟩
    rw [hkeep, append_nil]
    rfl
  · rw [hflush]
    exact ⟨_, Stream.batches_flush segment segmentHash hne, le_refl 1, forall_mem_singleton.2 hne⟩

lemma pendingEvents_finalizeStream : (finalizeStream segment segmentHash s).2.state.pendingEvents =
    [] := by
  rcases finalizeStream_cases segment segmentHash s with ⟨hnil, _, hkeep⟩ | ⟨hne, _, hflush⟩
  · rw [hkeep, hnil]
  · rcases Stream.flush_eq segment segmentHash hne with ⟨inner, heq⟩
    rw [hflush, heq]

/-- A successful end reports the frame counter and the larger of the event counter and the size of
the last batch. -/
theorem finalizeStream_checkpoint {checkpoint : SegmentCheckpoint}
    (h : (finalizeStream segment segmentHash s).1 = .ok checkpoint) :
    checkpoint.framesProcessed = s.state.framesProcessed ∧ checkpoint.eventsEmitted =
        max (finalizeStream segment segmentHash s).2.state.eventsEmitted
          (drained s).batcher.pending.length := by
  have hframes := congrArg Core.framesProcessed ((drained s).core_flush segment segmentHash)
  rw [finalizeStream_eq] at h ⊢
  -- the answer of the flush decides between checkpoint and error
  cases hflush : ((drained s).flush segment segmentHash).1 with
  | error e =>
    unfold drained at hflush
    rw [hflush] at h
    cases h
  | ok _ =>
    unfold drained at hflush hframes
    rw [hflush] at h
    cases h
    exact ⟨hframes, rfl⟩

end

/-! ## One frame -/

section

variable [SessionDecoder δ] [FrameMonitors μ] [External]

variable (segment : SegmentMeta) (s : Stream δ μ (Recorded σ)) (input : HashedFrame)

/-- The stream after the events of a frame were appended to the buffer. -/
def grown : Stream δ μ (Recorded σ) :=
  s.absorb (collectFrame segment s.core input).1.events (collectFrame segment s.core input).2

omit [BronzeSink σ] in
lemma batcher_grown : (grown segment s input).batcher =
    s.batcher.add (collectFrame segment s.core input).1.events :=
  s.batcher_absorb _ (collectFrame_batchSize segment s.core input)

lemma ingestFrame_cases : ((grown segment s input).batcher.pending.length < s.batcher.threshold ∧
        ingestFrame segment s input = (.ok (), grown segment s input)) ∨
      (s.batcher.threshold ≤ (grown segment s input).batcher.pending.length ∧
        (grown segment s input).state.pendingEvents ≠ [] ∧
        ingestFrame segment s input = (grown segment s input).flush segment input.1) := by
  have hsize := collectFrame_batchSize segment s.core input
  have hpos : 1 ≤ s.engine.batchSize := s.engine.batchSize_pos
  by_cases hfull : s.engine.batchSize ≤ (grown segment s input).state.pendingEvents.length
  · refine Or.inr ⟨hfull, ?_, ?_⟩
    · intro hnil
      rw [hnil, length_nil] at hfull
      omega
    · exact if_pos (hsize.le.trans hfull)
  · refine Or.inl ⟨Nat.lt_of_not_le hfull, ?_⟩
    exact if_neg fun h => hfull (hsize.ge.trans h)

lemma batcher_ingestFrame : (ingestFrame segment s input).2.batcher =
      s.batcher.offer (collectFrame segment s.core input).1.events
        (ingestFrame segment s input).1.isOk := by
  rcases ingestFrame_cases segment s input with ⟨hshort, hkeep⟩ | ⟨hfull, hne, hflush⟩
  · rw [batcher_grown] at hshort
    rw [hkeep, Batcher.offer, if_neg (Nat.not_le_of_lt hshort), batcher_grown]
  · rw [batcher_grown] at hfull
    rw [hflush, Batcher.offer, if_pos hfull, Stream.batcher_flush _ _ hne, batcher_grown]

lemma rejections_ingestFrame : (ingestFrame segment s input).2.batcher.rejections =
      s.batcher.rejections + if (ingestFrame segment s input).1.isOk then 0 else 1 := by
  rcases ingestFrame_cases segment s input with ⟨_, hkeep⟩ | ⟨_, hne, hflush⟩
  · rw [hkeep]
    rfl
  · rw [hflush, Stream.batcher_flush _ _ hne, Batcher.rejections_flush]
    rfl

variable {s}

lemma Stream.Counted.ingestFrame (h : s.Counted) : (ingestFrame segment s input).2.Counted := by
  rcases ingestFrame_cases segment s input with ⟨_, hkeep⟩ | ⟨_, hne, hflush⟩
  · rw [hkeep]
    exact h.absorb _ _
  · rw [hflush]
    exact Stream.Counted.flush segment input.1 hne (h.absorb _ _)

lemma Stream.Labelled.ingestFrame (h : s.Labelled segment) :
    (ingestFrame segment s input).2.Labelled segment := by
  rcases ingestFrame_cases segment s input with ⟨_, hkeep⟩ | ⟨_, hne, hflush⟩
  · rw [hkeep]
    exact h
  · rw [hflush]
    exact Stream.Labelled.flush segment input.1 hne h

lemma pendingEvents_ingestFrame {input : HashedFrame}
    (hfail : (Engine.ingestFrame segment s input).1.isOk = false) :
    (Engine.ingestFrame segment s input).2.state.pendingEvents = [] := by
  rcases ingestFrame_cases segment s input with ⟨_, hkeep⟩ | ⟨_, hne, hflush⟩
  · -- without a flush there is nothing to fail
    rw [hkeep] at hfail
    cases hfail
  · rcases Stream.flush_eq segment input.1 hne with ⟨inner, heq⟩
    rw [hflush, heq]

/-! ## Runs of frames -/

variable (inputs : List HashedFrame)

lemma conserves_ingestAll {fed : List BronzeEvent} (h : s.batcher.Conserves fed) :
    (ingestAll segment s inputs).2.batcher.Conserves
      (fed ++ (collectAll segment s.core inputs).1.flatMap FrameYield.events) := by
  -- each frame is one offer to the batcher
  induction inputs generalizing s fed with
  | nil => simpa [ingestAll, collectAll] using h
  | cons input inputs ih =>
    have hframe : (ingestFrame segment s input).2.batcher.Conserves
        (fed ++ (collectFrame segment s.core input).1.events) := by
      rw [batcher_ingestFrame]
      exact h.offer _ _
    have hrest := ih hframe
    rw [core_ingestFrame] at hrest
    simpa [ingestAll, collectAll] using hrest

lemma Stream.Counted.ingestAll (h : s.Counted) : (ingestAll segment s inputs).2.Counted := by
  induction inputs generalizing s with
  | nil => exact h
  | cons input inputs ih => exact ih (h.ingestFrame segment input)

lemma Stream.Labelled.ingestAll (h : s.Labelled segment) :
    (ingestAll segment s inputs).2.Labelled segment := by
  induction inputs generalizing s with
  | nil => exact h
  | cons input inputs ih => exact ih (h.ingestFrame segment input)

lemma rejections_ingestAll (s : Stream δ μ (Recorded σ)) :
    (ingestAll segment s inputs).2.batcher.rejections =
      s.batcher.rejections + (ingestAll segment s inputs).1.countP fun result => !result.isOk := by
  induction inputs generalizing s with
  | nil => simp [ingestAll]
  | cons input inputs ih =>
    calc
      (ingestAll segment s (input :: inputs)).2.batcher.rejections
          = (ingestFrame segment s input).2.batcher.rejections +
              (ingestAll segment (ingestFrame segment s input).2 inputs).1.countP
                (fun result => !result.isOk) := ih _
      _ = s.batcher.rejections +
            ((ingestAll segment (ingestFrame segment s input).2 inputs).1.countP
              (fun result => !result.isOk) +
              if (ingestFrame segment s input).1.isOk then 0 else 1) := by
            rw [rejections_ingestFrame]
            omega
      _ = _ := by
            simp only [ingestAll, countP_cons]
            cases (ingestFrame segment s input).1.isOk <;> rfl

end

/-! ## Whole segments, on any sink -/

section

omit [BronzeSink σ] in
lemma conserves_start (engine : DpiEngine δ μ) (now : DateTime) (sink : σ) :
    (Stream.start engine now (new sink)).batcher.Conserves [] where
  split := rfl
  full := by
    intro attempt hmem
    cases hmem

omit [BronzeSink σ] in
lemma counted_start (engine : DpiEngine δ μ) (now : DateTime) (sink : σ) :
    (Stream.start engine now (new sink)).Counted where
  emitted := rfl
  checkpoints := by
    intro batch hmem
    cases hmem

variable [SessionDecoder δ] [FrameMonitors μ] [External] (engine : DpiEngine δ μ)

/-- The frames of a segment on a recorded sink, going on after failures. -/
def recordedFrames (now : DateTime) (sink : σ) (segment : SegmentMeta)
    (inputs : List HashedFrame) : List (Except DpiError Unit) × Stream δ μ (Recorded σ) :=
  ingestAll segment (Stream.start engine now (Recorded.new sink)) inputs

def recordedSegment (now : DateTime) (sink : σ) (segment : SegmentMeta)
    (inputs : List HashedFrame) (finalHash : String) :
    Except DpiError SegmentCheckpoint × Stream δ μ (Recorded σ) :=
  finalizeStream segment finalHash (recordedFrames engine now sink segment inputs).2

variable (now : DateTime) (sink : σ) (segment : SegmentMeta) (inputs : List HashedFrame)
    (finalHash : String)

lemma conserves_recordedFrames : (recordedFrames engine now sink segment inputs).2.batcher.Conserves
      ((collectAll segment (Core.start engine now) inputs).1.flatMap FrameYield.events) := by
  have h := conserves_ingestAll segment inputs (conserves_start engine now sink)
  rwa [nil_append] at h

lemma core_recordedFrames :
    (recordedFrames engine now sink segment inputs).2.core =
      (collectAll segment (Core.start engine now) inputs).2 :=
  core_ingestAll segment _ inputs

lemma threshold_recordedFrames :
    (recordedFrames engine now sink segment inputs).2.batcher.threshold = engine.batchSize := by
  have h := congrArg (fun core => core.engine.batchSize)
    (core_recordedFrames engine now sink segment inputs)
  rw [collectAll_batchSize] at h
  exact h

lemma framesProcessed_recordedFrames :
    (recordedFrames engine now sink segment inputs).2.state.framesProcessed = inputs.length := by
  have h := congrArg Core.framesProcessed (core_recordedFrames engine now sink segment inputs)
  rw [collectAll_framesProcessed] at h
  calc
    (recordedFrames engine now sink segment inputs).2.state.framesProcessed
        = (Core.start engine now).framesProcessed + inputs.length := h
    _ = inputs.length := Nat.zero_add _

lemma labelled_recordedSegment :
    (recordedSegment engine now sink segment inputs finalHash).2.Labelled segment := by
  have hstart : (Stream.start engine now (new sink)).Labelled segment := by
    intro batch hbatch
    cases hbatch
  exact (hstart.ingestAll segment inputs).finalizeStream segment finalHash

variable {engine now sink segment inputs finalHash}

lemma batches_recordedSegment :
        (recordedSegment engine now sink segment inputs finalHash).2.sink.batches.flatMap events =
      segmentEvents segment (Core.start engine now) inputs := by
  have hconserves := conserves_recordedFrames engine now sink segment inputs
  calc
    (recordedSegment engine now sink segment inputs finalHash).2.sink.batches.flatMap
        events
        = (recordedSegment engine now sink segment inputs finalHash).2.batcher.handed := by
          rw [Stream.handed_batcher]
    _ = ((recordedFrames engine now sink segment inputs).2.batcher.close
          (drain (recordedFrames engine now sink segment inputs).2.core).1
          (recordedSegment engine now sink segment inputs finalHash).1.isOk).handed := by
          rw [recordedSegment, batcher_finalizeStream]
    _ = (collectAll segment (Core.start engine now) inputs).1.flatMap FrameYield.events ++
          (drain (recordedFrames engine now sink segment inputs).2.core).1 :=
          hconserves.handed_close _ _
    _ = segmentEvents segment (Core.start engine now) inputs := by
          rw [core_recordedFrames]
          rfl

lemma full_recordedFrames :
    ∀ batch ∈ (recordedFrames engine now sink segment inputs).2.sink.batches,
      engine.batchSize ≤ batch.events.length := by
  intro batch hmem
  rcases mem_map.1 hmem with ⟨entry, hentry, rfl⟩
  have hfull := (conserves_recordedFrames engine now sink segment inputs).full
    ⟨entry.1.events, entry.2⟩ (mem_map_of_mem hentry)
  rwa [threshold_recordedFrames] at hfull

lemma nonempty_recordedSegment :
    ∀ batch ∈ (recordedSegment engine now sink segment inputs finalHash).2.sink.batches,
      batch.events ≠ [] := by
  rcases batches_finalizeStream segment finalHash
    (recordedFrames engine now sink segment inputs).2 with ⟨last, hlast, _, hnonempty⟩
  intro batch hmem
  rw [recordedSegment, hlast] at hmem
  rcases mem_append.1 hmem with hold | hnew
  · intro hnil
    have hsize := full_recordedFrames batch hold
    have hpos : 1 ≤ engine.batchSize := engine.batchSize_pos
    rw [hnil, length_nil] at hsize
    omega
  · exact hnonempty batch hnew

lemma counted_recordedSegment :
    (recordedSegment engine now sink segment inputs finalHash).2.Counted :=
  ((counted_start engine now sink).ingestAll segment inputs).finalizeStream segment finalHash

lemma rejections_recordedSegment :
    (recordedSegment engine now sink segment inputs finalHash).2.batcher.rejections =
      (recordedFrames engine now sink segment inputs).1.countP (fun result => !result.isOk) +
        if (recordedSegment engine now sink segment inputs finalHash).1.isOk then 0 else 1 := by
  have hframes := rejections_ingestAll segment inputs (Stream.start engine now (new sink))
  have hstart : (Stream.start engine now (new sink)).batcher.rejections = 0 := rfl
  rw [hstart, Nat.zero_add] at hframes
  rw [recordedSegment, rejections_finalizeStream, recordedFrames, hframes]

end

/-! ## A sink that never fails -/

/-- A sink that accepts every batch. -/
def NeverFails (σ : Type) [BronzeSink σ] : Prop :=
  ∀ (sink : σ) (batch : BronzeBatch), (BronzeSink.pushBatch sink batch).1 = .ok ()

section

variable (h : NeverFails σ) (segment : SegmentMeta) (segmentHash : String)
    (s : Stream δ μ (Recorded σ))

include h

lemma NeverFails.flush : (s.flush segment segmentHash).1 = .ok () := by
  unfold Stream.flush flushBatch
  by_cases hempty : s.state.pendingEvents.isEmpty = true
  · simp [hempty]
  · have hok := h s.sink.inner
      (makeBatch segment.captureId segmentHash s.state.pendingEvents s.state.framesProcessed)
    simp [hempty, BronzeSink.pushBatch, hok]

variable [SessionDecoder δ] [FrameMonitors μ]

lemma NeverFails.finalizeStream : (finalizeStream segment segmentHash s).1.isOk = true := by
  rcases finalizeStream_cases segment segmentHash s with ⟨_, hok, _⟩ | ⟨_, hok, _⟩
  · exact hok
  · rw [hok, h.flush]
    rfl

/-- The last buffer is among the events counted at the end: the maximum that the checkpoint takes of
the two is the counter. -/
theorem NeverFails.finalPending_le {s : Stream δ μ (Recorded σ)} (hcounted : s.Counted) :
    (drained s).batcher.pending.length ≤
      (Engine.finalizeStream segment segmentHash s).2.state.eventsEmitted := by
  have hclose : (Engine.finalizeStream segment segmentHash s).2.batcher =
      s.batcher.close (drain s.core).1 true := by
    rw [batcher_finalizeStream, h.finalizeStream]
  rw [(hcounted.finalizeStream segment segmentHash).emitted, hclose, Batcher.delivered_close,
    length_append]
  exact Nat.le_add_left _ _

variable [External]

lemma NeverFails.ingestFrame (input : HashedFrame) : (ingestFrame segment s input).1 = .ok () := by
  rcases ingestFrame_cases segment s input with ⟨_, hkeep⟩ | ⟨_, _, hflush⟩
  · rw [hkeep]
  · rw [hflush]
    exact h.flush segment input.1 _

variable (inputs : List HashedFrame)

lemma NeverFails.ingestAll : ∀ result ∈ (ingestAll segment s inputs).1, result = .ok () := by
  induction inputs generalizing s with
  | nil =>
    intro result hmem
    cases hmem
  | cons input inputs ih =>
    intro result hmem
    rcases mem_cons.1 hmem with rfl | hrest
    · exact h.ingestFrame segment s input
    · exact ih _ result hrest

variable {segment : SegmentMeta} {inputs : List HashedFrame} {engine : DpiEngine δ μ}
  {now : DateTime} {sink : σ} {finalHash : String}

lemma NeverFails.rejections :
    (recordedSegment engine now sink segment inputs finalHash).2.batcher.rejections = 0 := by
  have hframes : (recordedFrames engine now sink segment inputs).1.countP
      (fun result => !result.isOk) = 0 := by
    rw [countP_eq_zero]
    intro result hmem
    rw [h.ingestAll segment _ inputs result hmem]
    simp [Except.isOk, Except.toBool]
  have hlast : (recordedSegment engine now sink segment inputs finalHash).1.isOk = true :=
    h.finalizeStream segment finalHash _
  rw [rejections_recordedSegment, hframes, hlast]
  rfl

lemma NeverFails.delivered :
    let done := (recordedSegment engine now sink segment inputs finalHash).2
    done.batcher.delivered = done.sink.batches.flatMap events := by
  intro done
  rw [Batcher.delivered_eq_handed (h.rejections), Stream.handed_batcher]

lemma NeverFails.accepted :
    (recordedSegment engine now sink segment inputs finalHash).2.sink.accepted.flatMap events =
      segmentEvents segment (Core.start engine now) inputs := by
  rw [← Stream.delivered_batcher, h.delivered]
  exact batches_recordedSegment

lemma NeverFails.eventsEmitted :
    let done := (recordedSegment engine now sink segment inputs finalHash).2
    done.state.eventsEmitted = (done.sink.batches.flatMap events).length := by
  intro done
  have hcounted : done.Counted := counted_recordedSegment
  rw [hcounted.emitted, h.delivered]

end

/-- A segment on a sink that never fails.  No call fails. -/
theorem reliable_segment_delivered [SessionDecoder δ] [FrameMonitors μ] [External]
    (hsink : NeverFails σ) (engine : DpiEngine δ μ) (now : DateTime) (sink : σ)
    (segment : SegmentMeta)
    (inputs : List HashedFrame) (finalHash : String) :
    let pushed := recordedFrames engine now sink segment inputs
    let done := recordedSegment engine now sink segment inputs finalHash
    let batches := done.2.sink.batches
    (∀ result ∈ pushed.1, result = .ok ()) ∧
      ∃ checkpoint, done.1 = .ok checkpoint ∧
        batches.flatMap events = segmentEvents segment (Core.start engine now) inputs ∧
        (∀ batch ∈ batches, batch.events ≠ []) ∧
        (∃ last, batches = pushed.2.sink.batches ++ last ∧ last.length ≤ 1 ∧
          ∀ batch ∈ pushed.2.sink.batches, engine.batchSize ≤ batch.events.length) ∧
        checkpoint.framesProcessed = inputs.length ∧
        checkpoint.eventsEmitted = (batches.flatMap events).length ∧
        checkpoint.eventsEmitted =
          (batches.map fun batch => batch.checkpoint.eventsEmitted).sum := by
  intro pushed done batches
  rcases batches_finalizeStream segment finalHash pushed.2 with ⟨last, hlast, hone, _⟩
  have hcounted : done.2.Counted := counted_recordedSegment
  have hok : done.1.isOk = true := hsink.finalizeStream segment finalHash pushed.2
  have hlastPending := hsink.finalPending_le segment finalHash
      ((counted_start engine now sink).ingestAll segment inputs)
  cases hdone : done.1 with
  | error e =>
    rw [hdone] at hok
    cases hok
  | ok checkpoint =>
    rcases finalizeStream_checkpoint segment finalHash pushed.2 hdone with ⟨hframes, hevents⟩
    have hemitted : checkpoint.eventsEmitted = (batches.flatMap events).length := by
      calc
        checkpoint.eventsEmitted
            = max done.2.state.eventsEmitted (drained pushed.2).batcher.pending.length := hevents
        _ = done.2.state.eventsEmitted := max_eq_left hlastPending
        _ = (batches.flatMap events).length := hsink.eventsEmitted
    refine ⟨hsink.ingestAll segment _ inputs, checkpoint, rfl,
      batches_recordedSegment, nonempty_recordedSegment,
      ⟨last, hlast, hone, full_recordedFrames⟩, ?_, hemitted, ?_⟩
    · rw [hframes]
      exact framesProcessed_recordedFrames engine now sink segment inputs
    · -- every batch counts its own events
      rw [hemitted, length_flatMap]
      congr 1
      apply map_congr_left
      intro batch hmem
      exact (hcounted.checkpoints batch hmem).symm

end

/-- The sink behind `process_segment_to_vec`: it collects the events. -/
structure VecBronzeSink where
  events : List BronzeEvent

instance : BronzeSink VecBronzeSink where
  pushBatch sink batch := (.ok (), { events := sink.events ++ batch.events })

lemma vecBronzeSink_neverFails : NeverFails VecBronzeSink := by
  intro sink batch
  rfl

/-- A raw IP frame that ends inside the IPv4 header; the engine reports it as an anomaly. -/
def truncatedIpFrame (lastByte : UInt8) : CapturedFrame := rawIpFrame ⟨0⟩ [0x45, lastByte]

/-- Two truncated frames of one second: one event is delivered, the other one is suppressed. -/
theorem truncatedIpFrames_delivered :
    letI : External := External.sample
    ∃ checkpoint,
      (recordedSegment ((DpiEngine.new ([] : List Probe) ()).withBatchSize 1) ⟨0⟩
        (VecBronzeSink.mk []) ⟨"capture"⟩
        [("", truncatedIpFrame 0), ("", truncatedIpFrame 1)] "").1 = .ok checkpoint ∧
      checkpoint.framesProcessed = 2 ∧ checkpoint.eventsEmitted = 1 := by
  let _ : External := External.sample
  rcases (reliable_segment_delivered vecBronzeSink_neverFails
    ((DpiEngine.new ([] : List Probe) ()).withBatchSize 1) ⟨0⟩ (VecBronzeSink.mk []) ⟨"capture"⟩
    [("", truncatedIpFrame 0), ("", truncatedIpFrame 1)] "").2 with
    ⟨checkpoint, hok, hevents, _, _, hframes, hcount, _⟩
  refine ⟨checkpoint, hok, hframes, ?_⟩
  rw [hcount, hevents]
  decide

/-! ## A sink that may fail -/

section

variable {δ μ σ : Type} [SessionDecoder δ] [FrameMonitors μ] [BronzeSink σ] [External]

/-- Every live session, on every sink, when the caller goes on after failures. -/
theorem live_events_offered_once (engine : DpiEngine δ μ) (now : DateTime) (sink : σ)
    (info : SegmentMeta) (frames : List CapturedFrame) :
    let pushed := (LiveSession.start engine now info (new sink)).pushAll frames
    let done := pushed.2.finish
    done.2.sink.batches.flatMap events =
        segmentEvents info (Core.start engine now) (rollingHashes [] frames) ∧
      done.2.state.pendingEvents = [] ∧
      done.2.sink.rejected.length = pushed.1.countP (fun result => !result.isOk) +
        (if done.1.isOk then 0 else 1) ∧
      ∀ (session : LiveSession δ μ (Recorded σ)) (frame : CapturedFrame),
        (session.push frame).1.isOk = false →
          (session.push frame).2.stream.state.pendingEvents = [] := by
  intro pushed done
  have hpushed := (LiveSession.start engine now info (new sink)).pushAll_stream frames
  -- a live session is the frame loop on the frames with their rolling hashes
  have hanswers := hpushed.1
  have hdone : done = recordedSegment engine now sink info (rollingHashes [] frames)
      (hashText (frames.flatMap CapturedFrame.data)) := by
    calc
      done = ((LiveSession.start engine now info (new sink)).pushAll frames).2.finish := rfl
      _ = _ := by
        rw [hpushed.2]
        rfl
  refine ⟨?_, ?_, ?_, ?_⟩
  · rw [hdone]
    exact batches_recordedSegment
  · rw [hdone]
    exact pendingEvents_finalizeStream info _ _
  · rw [hdone, hanswers, ← Stream.rejections_batcher]
    exact rejections_recordedSegment
  · intro session frame hfail
    exact pendingEvents_ingestFrame session.info hfail

end

/-- A sink that rejects its first batches and stores the later ones. -/
structure RefusingSink where
  refusals : Nat
  stored : List BronzeBatch

instance : BronzeSink RefusingSink where
  pushBatch sink batch :=
    match sink.refusals with
    | 0 => (.ok (), { sink with stored := sink.stored ++ [batch] })
    | n + 1 => (.error (.io "sink unavailable"), { sink with refusals := n })

/-- One truncated frame, batch size one, and a sink that rejects one batch: the push fails, the
session can be finished, and the event of the frame is in the rejected batch. -/
theorem truncatedIpFrame_rejected :
    letI : External := External.sample
    let pushed := (LiveSession.start ((DpiEngine.new ([] : List Probe) ()).withBatchSize 1) ⟨0⟩
      ⟨"capture"⟩ (new (RefusingSink.mk 1 []))).pushAll [truncatedIpFrame 0]
    pushed.2.finish.2.sink.rejected.length = 1 ∧ pushed.2.finish.1.isOk = true := by
  let _ : External := External.sample
  refine ⟨?_, by decide⟩
  rw [(live_events_offered_once ((DpiEngine.new ([] : List Probe) ()).withBatchSize 1) ⟨0⟩
    (RefusingSink.mk 1 []) ⟨"capture"⟩ [truncatedIpFrame 0]).2.2.1]
  decide

/-- Events pending at a failed flush are not delivered later, although the sink accepts all later
batches. -/
theorem rejected_events_not_redelivered :
    ¬ ∀ (_ : External) (batchSize refusals : Nat) (frames : List CapturedFrame),
      let engine := (DpiEngine.new ([] : List Probe) ()).withBatchSize batchSize
      let pushed := (LiveSession.start engine ⟨0⟩ ⟨"capture"⟩
        (new (RefusingSink.mk refusals []))).pushAll frames
      let done := pushed.2.finish
      done.1.isOk = true →
        ∀ event ∈ segmentEvents ⟨"capture"⟩ (Core.start engine ⟨0⟩) (rollingHashes [] frames),
          event ∈ done.2.sink.accepted.flatMap events := by
  intro hclaim
  have hlost := hclaim External.sample 1 1 [truncatedIpFrame 0] (by decide)
  revert hlost
  decide

end MarlinspikeDpi.Engine
