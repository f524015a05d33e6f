import MarlinspikeDpi.Engine.Delivery

/-!
# What a segment sees of earlier segments

An engine keeps its duplicate filter, its decoders and its monitors from one segment to the next, so
a segment can depend on what was processed before.

* `segment_isolated`: what a segment depends on.
-/

namespace MarlinspikeDpi.Engine

open List External VecBronzeSink

/-- Equal up to the duplicate filter, and with filters that agree on the keys in `K`. -/
structure Alike {δ μ : Type} (K : Set (List UInt8)) (left right : DpiEngine δ μ) : Prop where
  decoders_eq : left.decoders = right.decoders
  monitors_eq : left.monitors = right.monitors
  batchSize_eq : left.batchSize = right.batchSize
  bucketNs_eq : left.dedup.bucketNs = right.dedup.bucketNs
  agree : SlidingWindow.AgreeOn K left.dedup.toSlidingWindow right.dedup.toSlidingWindow

variable {K : Set (List UInt8)}

/-! ## The emission loop -/

section

variable [External]

lemma shouldEmit_agree {left right : DedupEngine} (hbucket : left.bucketNs = right.bucketNs)
    (hagree : SlidingWindow.AgreeOn K left.toSlidingWindow right.toSlidingWindow)
    {event : BronzeEvent} (hkey : eventDigest left.bucketNs event ∈ K) :
    (shouldEmit left event).1 = (shouldEmit right event).1 ∧
      SlidingWindow.AgreeOn K (shouldEmit left event).2.toSlidingWindow
        (shouldEmit right event).2.toSlidingWindow := by
  constructor
  · rw [shouldEmit_fst, shouldEmit_fst, ← hbucket, hagree.answer_eq hkey]
  · rw [shouldEmit_window, shouldEmit_window, ← hbucket]
    exact hagree.observe hkey _

lemma emitAll_agree {left right : DedupEngine} (hbucket : left.bucketNs = right.bucketNs)
    (hagree : SlidingWindow.AgreeOn K left.toSlidingWindow right.toSlidingWindow)
    {events : List BronzeEvent} (hkeys : ∀ event ∈ events, eventDigest left.bucketNs event ∈ K) :
    (emitAll left events).1 = (emitAll right events).1 ∧
      SlidingWindow.AgreeOn K (emitAll left events).2.toSlidingWindow
        (emitAll right events).2.toSlidingWindow := by
  induction events generalizing left right with
  | nil => exact ⟨rfl, hagree⟩
  | cons event events ih =>
    rcases shouldEmit_agree hbucket hagree (hkeys event mem_cons_self) with ⟨hfirst, hnext⟩
    have hrest := @ih (shouldEmit left event).2 (shouldEmit right event).2
      hbucket hnext (fun e he => hkeys e (mem_cons_of_mem _ he))
    refine ⟨?_, hrest.2⟩
    simp only [emitAll, hfirst, hrest.1]

end

/-! ## One frame -/

section

variable {δ μ : Type} [SessionDecoder δ] [FrameMonitors μ]

lemma Alike.processPacketRecord {left right : DpiEngine δ μ} (h : Alike K left right)
    (segment : SegmentMeta) (segmentHash : String) (frameIndex : Nat) (frame : CapturedFrame) :
    (processPacketRecord left segment segmentHash frameIndex frame).1 =
        (processPacketRecord right segment segmentHash frameIndex frame).1 ∧
      Alike K (processPacketRecord left segment segmentHash frameIndex frame).2
        (processPacketRecord right segment segmentHash frameIndex frame).2 := by
  cases left with
  | mk leftDedup decoders batchSize monitors hpos =>
    cases right with
    | mk rightDedup decoders' batchSize' monitors' hpos' =>
      cases h.decoders_eq
      cases h.monitors_eq
      cases h.batchSize_eq
      simp only [Engine.processPacketRecord]
      split
      · exact ⟨rfl, h⟩
      · exact ⟨rfl, ⟨rfl, rfl, rfl, h.bucketNs_eq, h.agree⟩⟩

/-- Two engines in the same place of the same segment. -/
structure Core.Alike (K : Set (List UInt8)) (left right : Core δ μ) : Prop where
  engine : Engine.Alike K left.engine right.engine
  framesProcessed_eq : left.framesProcessed = right.framesProcessed
  lastTimestamp_eq : left.lastTimestamp = right.lastTimestamp

lemma Core.Alike.drain {left right : Core δ μ} (h : left.Alike K right) :
    (drain left).1 = (drain right).1 ∧ (drain left).2.Alike K (drain right).2 := by
  rcases h.engine with ⟨hdecoders, hmonitors, hbatch, hbucket, hagree⟩
  have hsweep : sweep (drainDecoder left.lastTimestamp) left.engine.decoders =
      sweep (drainDecoder right.lastTimestamp) right.engine.decoders := by
    rw [hdecoders, h.lastTimestamp_eq]
  refine ⟨?_, ⟨?_, ?_, hbatch, hbucket, hagree⟩, h.framesProcessed_eq, h.lastTimestamp_eq⟩
  · simp only [Engine.drain, hsweep]
  · simp only [Engine.drain, hsweep]
  · simp only [Engine.drain, hmonitors, h.lastTimestamp_eq]

variable [External]

lemma Core.Alike.collectFrame {left right : Core δ μ} (h : left.Alike K right)
    (segment : SegmentMeta) (input : HashedFrame)
    (hkeys : ∀ decision ∈ (collectFrame segment left input).1.decisions,
      eventDigest left.engine.dedup.bucketNs decision.event ∈ K) :
    (collectFrame segment left input).1 = (collectFrame segment right input).1 ∧
      (collectFrame segment left input).2.Alike K (collectFrame segment right input).2 := by
  have hframe := h.engine.processPacketRecord segment input.1 (left.framesProcessed + 1) input.2
  rw [collectFrame_decisions] at hkeys
  simp only [Engine.collectFrame]
  rw [← h.framesProcessed_eq, ← h.lastTimestamp_eq]
  -- from here on only the dissected frame matters
  have hbucket := processPacketRecord_dedup left.engine segment input.1 (left.framesProcessed + 1)
    input.2
  rw [← hbucket] at hkeys
  generalize processPacketRecord left.engine segment input.1 _ input.2 =
    dissectedLeft at hframe hkeys ⊢
  generalize processPacketRecord right.engine segment input.1 _ input.2 = dissectedRight at hframe ⊢
  rcases dissectedLeft with ⟨events, leftEngine⟩
  rcases dissectedRight with ⟨events', rightEngine⟩
  rcases hframe with ⟨rfl, hengine⟩
  have hmem : ∀ event ∈ events, eventDigest leftEngine.dedup.bucketNs event ∈ K := by
    intro event hevent
    rw [← emitAll_events _ events, mem_map] at hevent
    rcases hevent with ⟨decision, hdecision, rfl⟩
    exact hkeys decision hdecision
  rcases emitAll_agree hengine.bucketNs_eq hengine.agree hmem with ⟨hlog, hagree⟩
  have hdecoders : leftEngine.decoders = rightEngine.decoders := hengine.decoders_eq
  refine ⟨?_, ⟨?_, hengine.monitors_eq, hengine.batchSize_eq, ?_, hagree⟩, rfl, rfl⟩
  · simp only [hlog, hdecoders]
  · simp only [hdecoders]
  · simpa using hengine.bucketNs_eq

end

/-! ## The segment -/

section

variable {δ μ σ : Type} [BronzeSink σ]

/-- Two streams that differ in the engines' filters only. -/
structure Stream.Alike (K : Set (List UInt8)) (left right : Stream δ μ σ) : Prop where
  engine : Engine.Alike K left.engine right.engine
  state_eq : left.state = right.state
  sink_eq : left.sink = right.sink

variable {left right : Stream δ μ σ}

omit [BronzeSink σ] in
lemma Stream.Alike.core (h : left.Alike K right) : left.core.Alike K right.core := by
  refine ⟨h.engine, ?_, ?_⟩
  · exact congrArg StreamState.framesProcessed h.state_eq
  · exact congrArg StreamState.lastTimestamp h.state_eq

omit [BronzeSink σ] in
lemma Stream.Alike.absorb (h : left.Alike K right) (events : List BronzeEvent)
    {leftCore rightCore : Core δ μ} (hcore : leftCore.Alike K rightCore) :
    (left.absorb events leftCore).Alike K (right.absorb events rightCore) := by
  refine ⟨hcore.engine, ?_, h.sink_eq⟩
  simp only [Stream.absorb, h.state_eq, hcore.framesProcessed_eq, hcore.lastTimestamp_eq]

lemma Stream.Alike.flush (h : left.Alike K right) (segment : SegmentMeta) (segmentHash : String) :
    (left.flush segment segmentHash).1 = (right.flush segment segmentHash).1 ∧
      (left.flush segment segmentHash).2.Alike K (right.flush segment segmentHash).2 := by
  rcases h with ⟨hengine, hstate, hsink⟩
  simp only [Stream.flush, hstate, hsink]
  rcases flushBatch _ segmentHash _
    _ _ with ⟨result, pending, sink⟩
  cases result with
  | ok count => exact ⟨rfl, ⟨hengine, rfl, rfl⟩⟩
  | error e => exact ⟨rfl, ⟨hengine, rfl, rfl⟩⟩

variable [SessionDecoder δ] [FrameMonitors μ]

lemma Stream.Alike.finalizeStream (h : left.Alike K right) (segment : SegmentMeta)
    (segmentHash : String) :
    (finalizeStream segment segmentHash left).1 = (finalizeStream segment segmentHash right).1 ∧
      (finalizeStream segment segmentHash left).2.Alike K
        (finalizeStream segment segmentHash right).2 := by
  rcases h.core.drain with ⟨hevents, hcore⟩
  have hdrained := h.absorb (drain left.core).1 hcore
  rw [finalizeStream_eq, finalizeStream_eq, ← hevents]
  rcases hdrained.flush segment segmentHash with ⟨hresult, hflushed⟩
  -- the checkpoint is made of counters on which both sides agree
  refine ⟨?_, hflushed⟩
  rw [hresult, hflushed.state_eq, hdrained.state_eq]

variable [External]

lemma Stream.Alike.ingestFrame (h : left.Alike K right) (segment : SegmentMeta)
    (input : HashedFrame) (hkeys : ∀ decision ∈ (collectFrame segment left.core input).1.decisions,
      eventDigest left.engine.dedup.bucketNs decision.event ∈ K) :
    (ingestFrame segment left input).1 = (ingestFrame segment right input).1 ∧
      (ingestFrame segment left input).2.Alike K (ingestFrame segment right input).2 := by
  rcases h.core.collectFrame segment input hkeys with ⟨hyield, hcore⟩
  have hgrown := h.absorb (collectFrame segment left.core input).1.events hcore
  rw [hyield] at hgrown
  have hflush := hgrown.flush segment input.1
  simp only [Engine.ingestFrame, hyield]
  generalize left.absorb _ (collectFrame segment _ input).2 = l at hgrown hflush ⊢
  generalize right.absorb _ (collectFrame segment _ input).2 = r at hgrown hflush ⊢
  rw [hgrown.state_eq, hgrown.engine.batchSize_eq]
  split
  · exact hflush
  · exact ⟨rfl, hgrown⟩

lemma Stream.Alike.ingestUntilError (h : left.Alike K right) (segment : SegmentMeta)
    (inputs : List HashedFrame) (hkeys : ∀ decision ∈ decisionLog segment left.core inputs,
      eventDigest left.engine.dedup.bucketNs decision.event ∈ K) :
    (ingestUntilError segment left inputs).1 = (ingestUntilError segment right inputs).1 ∧
      (ingestUntilError segment left inputs).2.Alike K
        (ingestUntilError segment right inputs).2 := by
  induction inputs generalizing left right with
  | nil => exact ⟨rfl, h⟩
  | cons input inputs ih =>
    have hfirst : ∀ decision ∈ (collectFrame segment left.core input).1.decisions,
        eventDigest left.engine.dedup.bucketNs decision.event ∈ K := by
      intro decision hdecision
      refine hkeys decision ?_
      simp only [decisionLog, collectAll, flatMap_cons, mem_append]
      exact Or.inl hdecision
    rcases h.ingestFrame segment input hfirst with ⟨hresult, hnext⟩
    -- the rest of the log is the log of the stream after this frame
    have hcore := core_ingestFrame segment left input
    have hbucket : (Engine.ingestFrame segment left input).2.engine.dedup.bucketNs =
        left.engine.dedup.bucketNs := by
      have hdedup := congrArg (fun core => core.engine.dedup.bucketNs) hcore
      simp only [collectFrame_dedup, emitAll_bucketNs] at hdedup
      exact hdedup
    have hrest : ∀ decision ∈ decisionLog segment (Engine.ingestFrame segment left input).2.core
        inputs, eventDigest (Engine.ingestFrame segment left input).2.engine.dedup.bucketNs
          decision.event ∈ K := by
      intro decision hdecision
      rw [hcore] at hdecision
      rw [hbucket]
      refine hkeys decision ?_
      simp only [decisionLog, collectAll, flatMap_cons, mem_append]
      exact Or.inr hdecision
    have htail := ih hnext hrest
    simp only [Engine.ingestUntilError]
    generalize Engine.ingestFrame segment left input = ingestedLeft at hresult hnext htail ⊢
    generalize Engine.ingestFrame segment right input = ingestedRight at hresult hnext htail ⊢
    rcases ingestedLeft with ⟨result, l⟩
    rcases ingestedRight with ⟨result', r⟩
    cases (show result = result' from hresult)
    cases result with
    | error e => exact ⟨rfl, hnext⟩
    | ok _ => exact htail

lemma Alike.runSegment {left right : DpiEngine δ μ} (h : Alike K left right) (now : DateTime)
    (sink : σ) (segment : Segment)
    (hkeys : ∀ decision ∈ decisionLog segment.info (Core.start left now) segment.inputs,
      eventDigest left.dedup.bucketNs decision.event ∈ K) :
    (runSegment left now sink segment).1 = (runSegment right now sink segment).1 ∧
      (runSegment left now sink segment).2.Alike K (runSegment right now sink segment).2 := by
  have hstart : (Stream.start left now sink).Alike K (Stream.start right now sink) := ⟨h, rfl, rfl⟩
  have hloop := hstart.ingestUntilError _ _ hkeys
  simp only [Engine.runSegment]
  generalize ingestUntilError _ (Stream.start left now sink) _ = loopLeft at hloop ⊢
  generalize ingestUntilError _ (Stream.start right now sink) _ = loopRight at hloop ⊢
  rcases loopLeft with ⟨result, l⟩
  rcases loopRight with ⟨result', r⟩
  rcases hloop with ⟨hresult, hstream⟩
  cases (show result = result' from hresult)
  cases result with
  | error e => exact ⟨rfl, hstream⟩
  | ok _ =>
    cases segment.sourceEnd with
    | error e => exact ⟨rfl, hstream⟩
    | ok _ => exact hstream.finalizeStream _ _

/-! ## Histories -/

/-- What no segment changes: batch size, window and bucket length. -/
structure SameSettings (left right : DpiEngine δ μ) : Prop where
  batchSize_eq : left.batchSize = right.batchSize
  window_eq : left.dedup.window = right.dedup.window
  bucketNs_eq : left.dedup.bucketNs = right.dedup.bucketNs

omit [SessionDecoder δ] [FrameMonitors μ] [External] in
lemma SameSettings.trans {first second third : DpiEngine δ μ} (h : SameSettings first second)
    (h' : SameSettings second third) : SameSettings first third :=
  ⟨h.batchSize_eq.trans h'.batchSize_eq, h.window_eq.trans h'.window_eq,
    h.bucketNs_eq.trans h'.bucketNs_eq⟩

lemma sameSettings_ingestFrame (segment : SegmentMeta) (s : Stream δ μ σ) (input : HashedFrame) :
    SameSettings (ingestFrame segment s input).2.engine s.engine := by
  have hcore : (ingestFrame segment s input).2.engine =
    (collectFrame segment s.core input).2.engine :=
    congrArg Core.engine (core_ingestFrame segment s input)
  rw [hcore]
  refine ⟨collectFrame_batchSize segment s.core input, ?_, ?_⟩
  · rw [collectFrame_dedup, emitAll_window_length]
    rfl
  · rw [collectFrame_dedup, emitAll_bucketNs]
    rfl

lemma sameSettings_ingestUntilError (segment : SegmentMeta) (s : Stream δ μ σ)
    (inputs : List HashedFrame) :
    SameSettings (ingestUntilError segment s inputs).2.engine s.engine := by
  induction inputs generalizing s with
  | nil => exact ⟨rfl, rfl, rfl⟩
  | cons input inputs ih =>
    have hstep := sameSettings_ingestFrame segment s input
    simp only [ingestUntilError]
    generalize ingestFrame segment s input = ingested at hstep ⊢
    rcases ingested with ⟨result, s'⟩
    cases result with
    | error e => exact hstep
    | ok _ => exact (ih s').trans hstep

lemma sameSettings_runSegment (engine : DpiEngine δ μ) (now : DateTime) (sink : σ)
    (segment : Segment) : SameSettings (runSegment engine now sink segment).2.engine engine := by
  have hloop := sameSettings_ingestUntilError segment.info (Stream.start engine now sink)
    segment.inputs
  simp only [runSegment]
  generalize ingestUntilError _ (Stream.start engine now sink) _ = loop at hloop ⊢
  rcases loop with ⟨result, s⟩
  cases result with
  | error e => exact hloop
  | ok _ =>
    cases segment.sourceEnd with
    | error e => exact hloop
    | ok _ =>
      have hcore : (finalizeStream segment.info segment.finalHash s).2.engine =
        (drain s.core).2.engine := congrArg Core.engine (core_finalizeStream _ _ s)
      have hdrain : SameSettings (drain s.core).2.engine s.engine := ⟨rfl, rfl, rfl⟩
      exact hcore ▸ hdrain.trans hloop

/-- A segment of the past: when it was started, into which sink it went, and its frames. -/
structure PastSegment (σ : Type) where
  now : DateTime
  sink : σ
  segment : Segment

def afterHistory (engine : DpiEngine δ μ) (history : List (PastSegment σ)) : DpiEngine δ μ :=
  history.foldl (fun engine past => (runSegment engine past.now past.sink past.segment).2.engine)
    engine

lemma sameSettings_afterHistory (engine : DpiEngine δ μ) (history : List (PastSegment σ)) :
    SameSettings (afterHistory engine history) engine := by
  induction history generalizing engine with
  | nil => exact ⟨rfl, rfl, rfl⟩
  | cons past history ih => exact (ih _).trans (sameSettings_runSegment engine _ _ _)

/-- A segment depends on the segments before it only through the state they left in the decoders and
the monitors and through the filter's entries for the suppression keys of its own events: after two
histories that agree on these it has the same result and leaves the same sink, whatever the sink
does with the batches. -/
theorem segment_isolated (engine : DpiEngine δ μ) (past past' : List (PastSegment σ))
    (now : DateTime) (sink : σ) (segment : Segment)
    (hdecoders : (afterHistory engine past).decoders = (afterHistory engine past').decoders)
    (hmonitors : (afterHistory engine past).monitors = (afterHistory engine past').monitors)
    (hfilter : ∀ decision ∈ decisionLog segment.info
        (Core.start (afterHistory engine past) now) segment.inputs,
      (afterHistory engine past).dedup.seen.lookup
          (eventDigest engine.dedup.bucketNs decision.event) =
        (afterHistory engine past').dedup.seen.lookup
          (eventDigest engine.dedup.bucketNs decision.event)) :
    (runSegment (afterHistory engine past) now sink segment).1 =
        (runSegment (afterHistory engine past') now sink segment).1 ∧
      (runSegment (afterHistory engine past) now sink segment).2.sink =
        (runSegment (afterHistory engine past') now sink segment).2.sink := by
  have hleft := sameSettings_afterHistory engine past
  have hright := sameSettings_afterHistory engine past'
  have halike : Alike
      {key | ∃ decision ∈ decisionLog segment.info (Core.start (afterHistory engine past) now)
        segment.inputs, key = eventDigest engine.dedup.bucketNs decision.event}
      (afterHistory engine past) (afterHistory engine past') := by
    refine ⟨hdecoders, hmonitors, ?_, ?_, ?_, ?_⟩
    · exact hleft.batchSize_eq.trans hright.batchSize_eq.symm
    · exact hleft.bucketNs_eq.trans hright.bucketNs_eq.symm
    · exact hleft.window_eq.trans hright.window_eq.symm
    · rintro key ⟨decision, hdecision, rfl⟩
      exact hfilter decision hdecision
  have hrun := halike.runSegment now sink segment (by
    intro decision hdecision
    rw [hleft.bucketNs_eq]
    exact ⟨decision, hdecision, rfl⟩)
  exact ⟨hrun.1, hrun.2.sink_eq⟩

end

def bareEngine : DpiEngine Probe Unit := DpiEngine.new [] ()

/-- A live segment of one frame that ends inside the IPv4 header. -/
def truncatedIpSegment [External] (timestamp : DateTime) : Segment :=
  liveSegment ⟨"capture"⟩ [rawIpFrame timestamp [0x45]]

def seenTruncatedIp [External] : List (PastSegment VecBronzeSink) :=
  [⟨⟨0⟩, VecBronzeSink.mk [], truncatedIpSegment ⟨0⟩⟩]

/-- The filter forgets: the segment is not affected by the same frame seen ten seconds before. -/
theorem truncatedIpSegment_isolated :
    letI : External := sample
    (runSegment (afterHistory bareEngine seenTruncatedIp) ⟨0⟩ (mk [])
        (truncatedIpSegment ⟨10000000000⟩)).2.sink =
      (runSegment (afterHistory bareEngine ([] : List (PastSegment VecBronzeSink))) ⟨0⟩
        (mk []) (truncatedIpSegment ⟨10000000000⟩)).2.sink := by
  have hfilter : letI : External := sample
      ∀ decision ∈ decisionLog (truncatedIpSegment ⟨10000000000⟩).info
        (Core.start (afterHistory bareEngine seenTruncatedIp) ⟨0⟩)
        (truncatedIpSegment ⟨10000000000⟩).inputs,
      (afterHistory bareEngine seenTruncatedIp).dedup.seen.lookup
          (eventDigest bareEngine.dedup.bucketNs decision.event) =
        (afterHistory bareEngine ([] : List (PastSegment VecBronzeSink))).dedup.seen.lookup
          (eventDigest bareEngine.dedup.bucketNs decision.event) := by
    decide
  exact (@segment_isolated Probe Unit VecBronzeSink _ _ _ sample bareEngine
    (@seenTruncatedIp sample) [] ⟨0⟩ (mk [])
    (@truncatedIpSegment sample ⟨10000000000⟩) rfl rfl hfilter).2

/-- The filter belongs to the engine: a segment that is run a second time delivers nothing, because
the filter remembers the events of the first run. -/
theorem repeated_segment_suppressed :
    letI : External := sample
    ¬ ∀ segment : Segment,
      (runSegment bareEngine ⟨0⟩ (mk []) segment).1.isOk = true →
        (runSegment (afterHistory bareEngine [⟨⟨0⟩, mk [], segment⟩]) ⟨0⟩
            (mk []) segment).2.sink.events =
          (runSegment bareEngine ⟨0⟩ (mk []) segment).2.sink.events := by
  let _ : External := sample
  intro h
  have hsame := h (truncatedIpSegment ⟨0⟩) (by decide)
  revert hsame
  decide

end MarlinspikeDpi.Engine
