import MarlinspikeDpi.Dedup.Runs
import MarlinspikeDpi.Engine.Trace

/-!
# How many events of a kind leave the engine

The events of all frames of a segment pass one duplicate filter, and what the decoders evict passes
none.
-/

namespace MarlinspikeDpi.Engine

open Bytes Text List DedupEngine DedupEngine.Call SlidingWindow

/-! ## The filter of a run -/

section

variable [External]

lemma emitAll_append (dedup : DedupEngine) (events more : List BronzeEvent) :
    (emitAll dedup (events ++ more)).1 = (emitAll dedup events).1 ++
      (emitAll (emitAll dedup events).2 more).1 := by
  induction events generalizing dedup with
  | nil => rfl
  | cons event events ih => simp only [cons_append, emitAll, ih]

lemma emittedEvents_emitAll (dedup : DedupEngine) (events : List BronzeEvent) :
    emittedEvents (emitAll dedup events).1 =
      admitted dedupTime (eventDigest dedup.bucketNs) dedup.toSlidingWindow events := by
  induction events generalizing dedup with
  | nil => rfl
  | cons event events ih =>
    have hrest := ih (shouldEmit dedup event).2
    rw [shouldEmit_window] at hrest
    simp only [emittedEvents, emitAll, admitted, filter_cons, shouldEmit_fst] at hrest ⊢
    cases (dedup.observe _ (eventDigest _ event)).1 with
    | true => simpa using hrest
    | false => simpa using hrest

/-- Time does not run backwards, and a suppression key of an event of the kind `p` is one of this
kind only. -/
structure Apart (p : BronzeEvent → Bool) (events : List BronzeEvent) : Prop where
  times : events.Pairwise fun a b => dedupTime a ≤ dedupTime b
  own : ∀ a ∈ events, ∀ b ∈ events, p b = true →
    eventDigest 1000000000 a = eventDigest 1000000000 b →
      p a = true ∧ eventPreimage 1000000000 a = eventPreimage 1000000000 b

lemma Apart.length_filter_emitted {p : BronzeEvent → Bool} {events : List BronzeEvent}
    (h : Apart p events) :
    ((emittedEvents (emitAll (new 5000000000 1000000000) events).1).filter p).length =
      ((events.filter p).map (eventPreimage 1000000000)).toFinset.card := by
  have hown : ∀ a ∈ events, ∀ b ∈ events, p b = true →
      eventDigest 1000000000 a = eventDigest 1000000000 b →
        p a = true ∧ dedupTime b - 5000000000 ≤ dedupTime a := by
    intro a ha b hb hp hdigest
    obtain ⟨hpa, hpreimage⟩ := h.own a ha b hb hp hdigest
    refine ⟨hpa, ?_⟩
    -- events of one bucket are no further apart than a second
    rw [← dedupCall_preimage, ← dedupCall_preimage] at hpreimage
    have hbucket := (preimage_eq_iff.1 hpreimage).1
    have hwindow : 1000000000 ≤ 5000000000 := by decide
    have hclose := sub_le_of_bucket_eq (by decide) hwindow hbucket
    rwa [dedupCall_timestampNs, dedupCall_timestampNs] at hclose
  have hcount : ((emittedEvents (emitAll (new 5000000000 1000000000) events).1).filter p).length =
      ((events.filter p).map (eventDigest 1000000000)).toFinset.card := by
    rw [emittedEvents_emitAll]
    exact length_filter_admitted p h.times hown
  rw [hcount]
  refine card_keys_eq fun a ha b hb =>
    ⟨fun hdigest => ?_, fun hpreimage => congrArg External.sha256 hpreimage⟩
  rcases mem_filter.1 ha with ⟨ha, -⟩
  rcases mem_filter.1 hb with ⟨hb, hp⟩
  exact (h.own a ha b hb hp hdigest).2

end

/-! ## Events that only the decoders make -/

def NoAnomaly (p : BronzeEvent → Bool) : Prop :=
  ∀ event anomaly, event.family = .parseAnomaly anomaly → p event = false

/-- No decoder of this sort makes an event of the kind. -/
structure Mute (δ : Type) [SessionDecoder δ] (p : BronzeEvent → Bool) : Prop where
  onDatagram : ∀ (d : δ) chunk, ∀ event ∈ (SessionDecoder.onDatagram d chunk).1, p event = false
  onStreamChunk : ∀ (d : δ) chunk, ∀ event ∈ (SessionDecoder.onStreamChunk d chunk).1,
    p event = false
  onIdleFlush : ∀ (d : δ) timestamp, ∀ event ∈ (SessionDecoder.onIdleFlush d timestamp).1,
    p event = false
  evictIdle : ∀ (d : δ) timestamp, ∀ event ∈ (SessionDecoder.evictIdle d timestamp).1,
    p event = false

lemma filter_eq_nil_of_false {p : BronzeEvent → Bool} {events : List BronzeEvent}
    (h : ∀ event ∈ events, p event = false) : events.filter p = [] := by
  rw [filter_eq_nil_iff]
  intro event hevent
  simp [h event hevent]

lemma Mute.react {p : BronzeEvent → Bool} {δ : Type} [SessionDecoder δ] (h : Mute δ p)
    (dispatch : Dispatch) (d : δ) : (react dispatch d).1.filter p = [] := by
  cases dispatch with
  | reject reason excerpt => rfl
  | stream chunk =>
    simp only [Engine.react]
    split
    · exact filter_eq_nil_of_false (h.onStreamChunk d chunk)
    · rfl
  | neighbour chunk | datagram chunk | icmp chunk | claimable chunk unclaimed =>
    simp only [Engine.react]
    split
    · exact filter_eq_nil_of_false (h.onDatagram d chunk)
    · rfl

lemma Mute.flatMap_react {p : BronzeEvent → Bool} {α β : Type} [SessionDecoder α] [SessionDecoder β]
    (h : Mute β p) (dispatch : Dispatch) (decoders : List (α ⊕ β)) :
    (decoders.flatMap fun d => (Engine.react dispatch d).1.filter p) =
      (decoders.filterMap Sum.getLeft?).flatMap fun d => (Engine.react dispatch d).1.filter p := by
  induction decoders with
  | nil => rfl
  | cons d decoders ih =>
    rw [flatMap_cons, ih]
    cases d with
    | inl d =>
      rw [react_inl]
      rfl
    | inr d =>
      rw [react_inr, Prod.map_fst, id_eq, h.react]
      rfl

section

variable {δ μ : Type} [SessionDecoder δ] [FrameMonitors μ]

lemma filter_inspectEthernet {p : BronzeEvent → Bool} (hp : NoAnomaly p) (monitors : μ)
    (info : FrameInfo) (link : LinkFrame)
    (frame : CapturedFrame) : (inspectEthernet monitors info link frame).filter p = [] := by
  refine filter_eq_nil_of_false fun event hevent => ?_
  rw [← tracedInspection_events (δ := Unit)] at hevent
  obtain ⟨entry, hentry, rfl⟩ := mem_map.1 hevent
  obtain ⟨⟨_, anomaly, hfamily⟩, _⟩ := tracedInspection_isAnomaly hentry
  exact hp _ anomaly hfamily

lemma filter_followUp {p : BronzeEvent → Bool} (hp : NoAnomaly p) (eng : DpiEngine δ μ)
    (info : FrameInfo) (frame : CapturedFrame) :
    (followUp eng info (dispatchOf info frame)).1.filter p = [] := by
  refine filter_eq_nil_of_false fun event hevent => ?_
  obtain ⟨_, anomaly, hfamily⟩ := followUp_isAnomaly eng info frame event hevent
  exact hp _ anomaly hfamily

lemma filter_processPacketRecord {p : BronzeEvent → Bool} (hp : NoAnomaly p) (eng : DpiEngine δ μ)
    (segment : SegmentMeta) (segmentHash : String) (frameIndex : Nat) (frame : CapturedFrame) :
    (processPacketRecord eng segment segmentHash frameIndex frame).1.filter p =
      eng.decoders.flatMap fun d =>
        (react (dispatchOf (frameInfo segment segmentHash frameIndex frame) frame) d).1.filter
          p := by
  by_cases hempty : (decodeLink frame.linktype frame.data).l2Payload = []
  · -- a frame without a payload is an anomaly, and no decoder gets it
    simp [processPacketRecord, dispatchOf, hempty, Engine.react,
      hp (parseAnomalyEvent _ _ _ _ _ _) _ rfl]
  · have hfollowed := filter_followUp hp eng (frameInfo segment segmentHash frameIndex frame) frame
    simp only [dispatchOf, hempty, if_false] at hfollowed
    simp only [processPacketRecord, dispatchOf, hempty, if_false, filter_append,
      filter_inspectEthernet hp, hfollowed, sweep_fst, filter_flatMap, nil_append, append_nil]

variable [External]

lemma decisionLog_eq (segment : SegmentMeta) (core : Core δ μ) (inputs : List HashedFrame) :
    decisionLog segment core inputs =
      (emitAll core.engine.dedup ((decisionLog segment core inputs).map Decision.event)).1 := by
  induction inputs generalizing core with
  | nil => rfl
  | cons input inputs ih =>
    have hrest := ih (collectFrame segment core input).2
    have hlog : decisionLog segment core (input :: inputs) =
      (collectFrame segment core input).1.decisions ++
          decisionLog segment (collectFrame segment core input).2 inputs := by
      simp only [decisionLog, collectAll, flatMap_cons]
    rw [hlog, map_append, emitAll_append, collectFrame_decisions, emitAll_events,
      ← collectFrame_dedup, ← hrest]

/-- The decoders do not make events of the kind while they are flushed or evict what is idle. -/
def QuietWhenIdle (δ : Type) [SessionDecoder δ] (p : BronzeEvent → Bool) : Prop :=
  ∀ (d : δ) timestamp, (SessionDecoder.onIdleFlush d timestamp).1.filter p = [] ∧
    (SessionDecoder.evictIdle d timestamp).1.filter p = []

lemma filter_segmentEvents {p : BronzeEvent → Bool} (hquiet : QuietWhenIdle δ p)
    (segment : SegmentMeta) (core : Core δ μ) (inputs : List HashedFrame) :
    (segmentEvents segment core inputs).filter p =
      (emittedEvents (decisionLog segment core inputs)).filter p := by
  have hdrain : ∀ core : Core δ μ, (drain core).1.filter p = [] := by
    intro core
    simp only [drain, sweep_fst, filter_flatMap]
    refine flatMap_eq_nil_iff.2 fun d _ => ?_
    simp only [drainDecoder, filter_append, (hquiet _ _).1, (hquiet _ _).2, append_nil]
  have hframes : ∀ core : Core δ μ,
    ((collectAll segment core inputs).1.flatMap FrameYield.events).filter p =
        (emittedEvents (decisionLog segment core inputs)).filter p := by
    intro core
    induction inputs generalizing core with
    | nil => rfl
    | cons input inputs ih =>
      have hevicted : (collectFrame segment core input).1.evicted.filter p = [] := by
        simp only [collectFrame, sweep_fst, filter_flatMap]
        exact flatMap_eq_nil_iff.2 fun d _ => (hquiet d _).2
      have hrest := ih (collectFrame segment core input).2
      simp only [decisionLog, emittedEvents] at hrest ⊢
      simp only [collectAll, flatMap_cons, filter_append, map_append, FrameYield.events,
        hevicted, append_nil, hrest, emittedEvents]
  rw [segmentEvents, filter_append, hdrain, append_nil, hframes]

lemma length_filter_segmentEvents {p : BronzeEvent → Bool} (hquiet : QuietWhenIdle δ p)
    (decoders : List δ) (monitors : μ)
    (batchSize : Nat) (segment : SegmentMeta) (now : DateTime) (inputs : List HashedFrame) :
    let core := Core.start ((DpiEngine.new decoders monitors).withBatchSize batchSize) now
    let events := (decisionLog segment core inputs).map Decision.event
    Apart p events → ((segmentEvents segment core inputs).filter p).length =
        ((events.filter p).map (eventPreimage 1000000000)).toFinset.card := by
  intro core events hapart
  rw [filter_segmentEvents hquiet, decisionLog_eq]
  exact hapart.length_filter_emitted

end

end MarlinspikeDpi.Engine
