import MarlinspikeDpi.Engine.Collect
import MarlinspikeDpi.Engine.Routing

/-!
# Who made which event

A run of the engine again, with a note on each event: the frame that was being handled and who made
the event.
-/

namespace MarlinspikeDpi.Engine

open List

/-- Who made an event; a decoder in the state in which it got the frame. -/
inductive Origin (δ : Type) where
  | engine
  | inspector
  | layer2Monitor
  | decoder (d : δ)

structure TracedEvent (δ : Type) where
  frame : FrameInfo
  origin : Origin δ
  event : BronzeEvent

variable (info : FrameInfo)

/-- The event names the capture, the segment and the number of the frame. -/
def Carries (event : BronzeEvent) : Prop :=
  event.captureId = info.captureId ∧ event.envelope.segmentHash = info.segmentHash ∧
    event.envelope.frameIndex = info.frameIndex

def IsAnomaly (event : BronzeEvent) : Prop :=
  Carries info event ∧ ∃ anomaly, event.family = .parseAnomaly anomaly

section

variable {δ μ : Type} [SessionDecoder δ] [FrameMonitors μ]

/-! ## One frame -/

/-- The events of `inspectEthernet`, with their makers. -/
def tracedInspection (monitors : μ) (info : FrameInfo) (link : LinkFrame) (frame : CapturedFrame) :
    List (Origin δ × BronzeEvent) :=
  if frame.linktype = .ethernet then
    let context := baseContext info link
    (FrameMonitors.inspectFrame monitors frame.data frame.capturedLen frame.origLen link.ethertype
        link.l2Payload (frame.data.length - link.l2Payload.length)).map
      (fun finding => (.inspector, stovetopFindingToEventRaw info context frame.data finding)) ++
    (FrameMonitors.inspectL2Frame monitors frame.data link.srcMac).map
      (fun alert => (.layer2Monitor, bilgepumpAlertToEvent info context frame.data alert))
  else []

def followUpOrigin : Dispatch → Origin δ
  | .neighbour _ => .layer2Monitor
  | .icmp _ => .inspector
  | .reject _ _ | .stream _ | .datagram _ | .claimable _ _ => .engine

variable (eng : DpiEngine δ μ) (segment : SegmentMeta) (segmentHash : String) (frameIndex : Nat)

variable (frame : CapturedFrame)

/-- The events of `processPacketRecord`, with their makers. -/
def tracedRecord : List (Origin δ × BronzeEvent) :=
  let info := frameInfo segment segmentHash frameIndex frame
  let link := decodeLink frame.linktype frame.data
  let dispatch := dispatchOf info frame
  (if link.l2Payload = [] then [] else tracedInspection eng.monitors info link frame) ++
    (eng.decoders.flatMap fun d => (react dispatch d).1.map (Prod.mk (.decoder d))) ++
    (followUp eng info dispatch).1.map (Prod.mk (followUpOrigin dispatch))

lemma map_snd_mk {α β : Type} (a : α) (bs : List β) : (bs.map (Prod.mk a)).map Prod.snd = bs := by
  rw [map_map]
  exact map_id bs

omit [SessionDecoder δ] in
lemma tracedInspection_events (monitors : μ) (info : FrameInfo) (link : LinkFrame)
    (frame : CapturedFrame) :
    (tracedInspection (δ := δ) monitors info link frame).map Prod.snd =
      inspectEthernet monitors info link frame := by
  unfold tracedInspection inspectEthernet
  split
  · simp only [map_append, map_map]
    rfl
  · rfl

lemma tracedRecord_events : (tracedRecord eng segment segmentHash frameIndex frame).map Prod.snd =
      (processPacketRecord eng segment segmentHash frameIndex frame).1 := by
  have hclaimed : ∀ dispatch,
    (eng.decoders.flatMap fun d => (react dispatch d).1.map (Prod.mk (Origin.decoder d))).map
          Prod.snd =
        (sweep (react dispatch) eng.decoders).1 := by
    intro dispatch
    rw [sweep_fst, map_flatMap]
    exact congrArg eng.decoders.flatMap (funext fun d => map_snd_mk _ _)
  by_cases hempty : (decodeLink frame.linktype frame.data).l2Payload = []
  · -- nothing is inspected, and no decoder answers to a rejected frame
    simp [tracedRecord, processPacketRecord, dispatchOf, hempty, react, followUp]
  · simp only [tracedRecord, processPacketRecord, dispatchOf, hempty, if_false, map_append,
      tracedInspection_events, hclaimed, map_snd_mk]

/-! ## Events that are not made by decoders -/

section

variable {info} {link : LinkFrame} {chunk : StreamChunk} {unclaimed : BronzeEvent}

lemma routeTcp_ne_claimable (segment : List UInt8) :
    routeTcp info link segment ≠ .claimable chunk unclaimed := by
  intro h
  simp only [routeTcp] at h
  split at h
  · cases h
  · split at h <;> cases h

lemma routeUdp_ne_claimable (datagram : List UInt8) :
    routeUdp info link datagram ≠ .claimable chunk unclaimed := by
  intro h
  simp only [routeUdp] at h
  split at h <;> cases h

def IsUnclaimed (info : FrameInfo) (event : BronzeEvent) : Prop :=
  ∃ link transport protocol sessionKey reason excerpt,
    event = unclaimedEvent info link transport protocol sessionKey reason excerpt

lemma IsUnclaimed.isAnomaly {event : BronzeEvent} (h : IsUnclaimed info event) :
    IsAnomaly info event := by
  rcases h with ⟨link, transport, protocol, sessionKey, reason, excerpt, rfl⟩
  exact ⟨⟨rfl, rfl, rfl⟩, _, rfl⟩

lemma routeIpv4_unclaimed (h : routeIpv4 info link = .claimable chunk unclaimed) :
    IsUnclaimed info unclaimed := by
  simp only [routeIpv4] at h
  split at h
  · cases h
  · split at h
    · cases h
    · -- by transport protocol: TCP, UDP, ICMP and the rest
      split at h
      · exact absurd h (routeTcp_ne_claimable _)
      · split at h
        · exact absurd h (routeUdp_ne_claimable _)
        · split at h
          · cases h
          · cases h
            exact ⟨_, _, _, _, _, _, rfl⟩

lemma routeLlc_unclaimed (h : routeLlc info link = .claimable chunk unclaimed) :
    IsUnclaimed info unclaimed := by
  simp only [routeLlc] at h
  split at h
  · cases h
  · cases h
    exact ⟨_, _, _, _, _, _, rfl⟩

lemma dispatchOf_unclaimed {frame : CapturedFrame}
    (h : dispatchOf info frame = .claimable chunk unclaimed) : IsUnclaimed info unclaimed := by
  simp only [dispatchOf] at h
  split at h
  · cases h
  · unfold route at h
    split at h
    · cases h
    · split at h
      · exact routeIpv4_unclaimed h
      · split at h
        · cases h
          exact ⟨_, _, _, _, _, _, rfl⟩
        · exact routeLlc_unclaimed h

end

variable {frame}

lemma dispatchOf_chunk_frame {info : FrameInfo} {chunk : StreamChunk}
    (h : (dispatchOf info frame).chunk? = some chunk) : chunk.toFrameInfo = info := by
  unfold dispatchOf at h
  dsimp only at h
  split at h
  · cases h
  · exact (route_cutFrom h).frame_eq

lemma followUp_isAnomaly (eng : DpiEngine δ μ) (info : FrameInfo) (frame : CapturedFrame) :
    ∀ event ∈ (followUp eng info (dispatchOf info frame)).1, IsAnomaly info event := by
  intro event hevent
  generalize hdispatch : dispatchOf info frame = dispatch at hevent
  cases dispatch with
  | reject reason excerpt =>
    rw [mem_singleton.1 hevent]
    exact ⟨⟨rfl, rfl, rfl⟩, _, rfl⟩
  | neighbour chunk =>
    rcases mem_map.1 hevent with ⟨alert, _, rfl⟩
    exact ⟨⟨rfl, rfl, rfl⟩, _, rfl⟩
  | stream chunk | datagram chunk => cases hevent
  | icmp chunk =>
    rcases mem_map.1 hevent with ⟨finding, _, rfl⟩
    have hframe : chunk.toFrameInfo = info := dispatchOf_chunk_frame (by rw [hdispatch]; rfl)
    rw [← hframe]
    exact ⟨⟨rfl, rfl, rfl⟩, _, rfl⟩
  | claimable chunk unclaimed =>
    simp only [followUp] at hevent
    split at hevent
    · cases hevent
    · rw [mem_singleton.1 hevent]
      exact (dispatchOf_unclaimed hdispatch).isAnomaly

omit [SessionDecoder δ] in
lemma tracedInspection_isAnomaly {info : FrameInfo} {monitors : μ} {link : LinkFrame}
    {entry : Origin δ × BronzeEvent} (h : entry ∈ tracedInspection monitors info link frame) :
    IsAnomaly info entry.2 ∧ ∀ d, entry.1 ≠ .decoder d := by
  unfold tracedInspection at h
  split at h
  · rcases mem_append.1 h with h | h
    · rcases mem_map.1 h with ⟨finding, _, rfl⟩
      exact ⟨⟨⟨rfl, rfl, rfl⟩, _, rfl⟩, fun d hd => by cases hd⟩
    · rcases mem_map.1 h with ⟨alert, _, rfl⟩
      exact ⟨⟨⟨rfl, rfl, rfl⟩, _, rfl⟩, fun d hd => by cases hd⟩
  · cases h

variable {eng}

lemma tracedRecord_cases {segment : SegmentMeta} {segmentHash : String} {frameIndex : Nat}
    {frame : CapturedFrame} {event : BronzeEvent} {origin : Origin δ}
    (h : (origin, event) ∈ tracedRecord eng segment segmentHash frameIndex frame) :
    (Carries (frameInfo segment segmentHash frameIndex frame) event ∧ ∀ d, origin ≠ .decoder d) ∨
      ∃ d ∈ eng.decoders, origin = .decoder d ∧
        event ∈
          (react (dispatchOf (frameInfo segment segmentHash frameIndex frame) frame) d).1 := by
  simp only [tracedRecord, mem_append] at h
  rcases h with (hinspected | hclaimed) | hfollowed
  · split at hinspected
    · cases hinspected
    · obtain ⟨hanomaly, hmaker⟩ := tracedInspection_isAnomaly hinspected
      exact Or.inl ⟨hanomaly.1, hmaker⟩
  · rcases mem_flatMap.1 hclaimed with ⟨d, hd, hmade⟩
    rcases mem_map.1 hmade with ⟨made, hevent, heq⟩
    cases heq
    exact Or.inr ⟨d, hd, rfl, hevent⟩
  · rcases mem_map.1 hfollowed with ⟨made, hevent, heq⟩
    cases heq
    refine Or.inl ⟨(followUp_isAnomaly eng _ frame event hevent).1, ?_⟩
    intro d hd
    cases hdispatch : dispatchOf (frameInfo segment segmentHash frameIndex frame) frame <;>
      simp [followUpOrigin, hdispatch] at hd

lemma mem_tracedRecord_decoder {segment : SegmentMeta} {segmentHash : String} {frameIndex : Nat}
    {frame : CapturedFrame} {event : BronzeEvent} {d : δ} :
    (Origin.decoder d, event) ∈ tracedRecord eng segment segmentHash frameIndex frame ↔
      d ∈ eng.decoders ∧
        event ∈
          (react (dispatchOf (frameInfo segment segmentHash frameIndex frame) frame) d).1 := by
  constructor
  · intro h
    rcases tracedRecord_cases h with ⟨_, hnone⟩ | ⟨d', hd', heq, hevent⟩
    · exact absurd rfl (hnone d)
    · cases heq
      exact ⟨hd', hevent⟩
  · rintro ⟨hd, hevent⟩
    refine mem_append_left _ (mem_append_right _ ?_)
    exact mem_flatMap.2 ⟨d, hd, mem_map.2 ⟨event, hevent, rfl⟩⟩

end

/-! ## Runs -/

section

variable {δ μ : Type} [SessionDecoder δ] [FrameMonitors μ] [External]

/-- The events of a run before the duplicate filter, with their frames and makers. -/
def traced (segment : SegmentMeta) : Core δ μ → List HashedFrame → List (TracedEvent δ)
  | _, [] => []
  | core, input :: inputs =>
    (tracedRecord core.engine segment input.1 (core.framesProcessed + 1) input.2).map
      (fun (origin, event) =>
          { frame := frameInfo segment input.1 (core.framesProcessed + 1) input.2
            origin
            event }) ++
      traced segment (collectFrame segment core input).2 inputs

lemma traced_events (segment : SegmentMeta) (core : Core δ μ) (inputs : List HashedFrame) :
    (traced segment core inputs).map TracedEvent.event =
      (decisionLog segment core inputs).map Decision.event := by
  induction inputs generalizing core with
  | nil => rfl
  | cons input inputs ih =>
    have htail := ih (collectFrame segment core input).2
    have hhead := tracedRecord_events core.engine segment input.1 (core.framesProcessed + 1) input.2
    simp only [traced, map_append, map_map, htail, decisionLog, collectAll,
      flatMap_cons, collectFrame_decisions, emitAll_events, ← hhead]
    rfl

lemma traced_frame {segment : SegmentMeta} {core : Core δ μ} {inputs : List HashedFrame}
    {entry : TracedEvent δ} (h : entry ∈ traced segment core inputs) :
    ∃ k input, inputs[k]? = some input ∧
      entry.frame = frameInfo segment input.1 (core.framesProcessed + k + 1) input.2 := by
  induction inputs generalizing core with
  | nil => cases h
  | cons input inputs ih =>
    rcases mem_append.1 h with hhere | hlater
    · rcases mem_map.1 hhere with ⟨made, _, rfl⟩
      exact ⟨0, input, rfl, rfl⟩
    · rcases ih hlater with ⟨k, later, hk, hframe⟩
      refine ⟨k + 1, later, hk, ?_⟩
      rw [hframe, collectFrame_framesProcessed, Nat.add_right_comm _ 1 k]
      rfl

end

end MarlinspikeDpi.Engine
