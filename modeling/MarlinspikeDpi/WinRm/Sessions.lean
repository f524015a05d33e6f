import MarlinspikeDpi.Engine.Admitted
import MarlinspikeDpi.Engine.Delivery
import MarlinspikeDpi.Markers
import MarlinspikeDpi.WinRm.Decoder

/-!
# The marker of an encrypted session in the engine

The engine lets its decoders evict what is idle after every frame, and this decoder then forgets
every session.

* `httpsSession_once_iff`: when exactly one marker of a session is delivered.
-/

namespace MarlinspikeDpi.WinRm

open Engine Bytes Text List BronzeBatch Core Decision DedupEngine.Call External
  SessionDecoder WinRmDecoder

/-! ## The markers of a decoder -/

variable (sessionKey : String)

def isMarker (event : BronzeEvent) : Bool := markerOf "winrm_https_session" event == some sessionKey

/-- The chunk of the session on port 5986 that a frame brings. -/
def tlsChunk : Dispatch → Option StreamChunk
  | .stream chunk =>
    if chunk.transport = .tcp ∧ winrmPort chunk = some 5986 ∧
      chunk.sessionKey = sessionKey then some chunk
    else none
  | .reject _ _ | .neighbour _ | .datagram _ | .icmp _ | .claimable _ _ => none

/-- The chunks of the session on port 5986 in a segment, of which `n` frames came before. -/
def tlsChunks (segment : SegmentMeta) (sessionKey : String) : Nat → List HashedFrame →
    List StreamChunk
  | _, [] => []
  | n, input :: inputs =>
    (tlsChunk sessionKey (dispatchOf (frameInfo segment input.1 (n + 1) input.2) input.2)).toList ++
      tlsChunks segment sessionKey (n + 1) inputs

lemma noAnomaly_isMarker : NoAnomaly (isMarker sessionKey) := by
  intro event anomaly hfamily
  simp [isMarker, markerOf, hfamily]

variable (chunk : StreamChunk)

lemma isMarker_httpsSession : isMarker sessionKey (httpsSession chunk) =
    (chunk.sessionKey == sessionKey) := rfl

lemma isMarker_request : isMarker sessionKey (request chunk) = false := by
  have hnone : markerOf "winrm_https_session" (request chunk) = none := if_neg (operationOf_ne _)
  simp [isMarker, hnone]

lemma filter_plaintextEvents : (plaintextEvents chunk).filter (isMarker sessionKey) = [] := by
  unfold plaintextEvents
  split
  · rfl
  split
  · exact filter_cons_of_neg (by simp [isMarker_request])
  split <;> rfl

lemma filter_onStreamChunk : (default.onStreamChunk chunk).1.filter (isMarker sessionKey) =
      if winrmPort chunk = some 5986 ∧ chunk.sessionKey = sessionKey then [httpsSession chunk]
        else [] := by
  have hserver : ∀ ip, isMarker sessionKey (server chunk ip) = false := fun ip => rfl
  unfold WinRmDecoder.onStreamChunk
  cases hport : winrmPort chunk with
  | none => rfl
  | some port =>
    by_cases htls : port = 5986
    · have hunmarked : ∀ key, default.marked key = false := fun key => rfl
      subst htls
      by_cases hkey : chunk.sessionKey =
        sessionKey <;> simp [hunmarked, hserver, isMarker_httpsSession, hkey]
    · simp [htls, hserver, filter_plaintextEvents]

lemma filter_react (dispatch : Dispatch) : (react dispatch default).1.filter (isMarker sessionKey) =
      (tlsChunk sessionKey dispatch).toList.map httpsSession := by
  cases dispatch with
  | reject reason excerpt => rfl
  | neighbour chunk | datagram chunk | icmp chunk | claimable chunk unclaimed =>
    simp only [react]
    split <;> rfl
  | stream chunk =>
    have hinterest : interestMatches (interest default) chunk = true ↔
        chunk.transport = .tcp ∧ winrmPort chunk ≠ none := by
      have hports : interest default = [.tcpPort 5985, .tcpPort 5986] := rfl
      unfold winrmPort
      simp only [hports, interestMatches, any_cons, any_nil, DecoderInterest.covers]
      grind
    simp only [react, tlsChunk]
    by_cases hmatch : interestMatches (interest default) chunk = true
    · have htcp := (hinterest.1 hmatch).1
      rw [if_pos hmatch]
      refine (filter_onStreamChunk sessionKey chunk).trans ?_
      by_cases hmarker : winrmPort chunk = some 5986 ∧ chunk.sessionKey = sessionKey
      · rw [if_pos hmarker, if_pos ⟨htcp, hmarker⟩]
        rfl
      · rw [if_neg hmarker, if_neg fun h => hmarker h.2]
        rfl
    · have hother : ¬ (chunk.transport = .tcp ∧ winrmPort chunk = some 5986 ∧
          chunk.sessionKey = sessionKey) := by
        rintro ⟨htcp, hport, -⟩
        exact hmatch (hinterest.2 ⟨htcp, by simp [hport]⟩)
      rw [if_neg hmatch, if_neg hother]
      rfl

/-! ## The markers of a run -/

section

variable {δ μ : Type} [SessionDecoder δ] [FrameMonitors μ] [External] {sessionKey : String}

lemma collectFrame_default {core : Core (WinRmDecoder ⊕ δ) μ}
    (h : core.engine.decoders.filterMap Sum.getLeft? = [default]) (segment : SegmentMeta)
    (input : HashedFrame) :
    (collectFrame segment core input).2.engine.decoders.filterMap Sum.getLeft? = [default] := by
  have hmap : ∀ (dispatch : Dispatch) (timestamp : DateTime) (decoders : List (WinRmDecoder ⊕ δ)),
      (decoders.map fun d => (SessionDecoder.evictIdle (react dispatch d).2 timestamp).2).filterMap
          Sum.getLeft? =
        (decoders.filterMap Sum.getLeft?).map fun _ => default := by
    intro dispatch timestamp decoders
    rw [filterMap_map, map_filterMap]
    refine filterMap_congr fun d _ => ?_
    cases d with
    | inl d =>
      rw [Function.comp_apply, react_inl]
      rfl
    | inr d =>
      rw [Function.comp_apply, react_inr]
      rfl
  rw [collectFrame_decoders, hmap, h]
  rfl

lemma filter_decisionLog {core : Core (WinRmDecoder ⊕ δ) μ} (hmute : Mute δ (isMarker sessionKey))
    (segment : SegmentMeta)
    (h : core.engine.decoders.filterMap Sum.getLeft? = [default]) (inputs : List HashedFrame) :
    ((decisionLog segment core inputs).map event).filter (isMarker sessionKey) =
      (tlsChunks segment sessionKey core.framesProcessed inputs).map httpsSession := by
  induction inputs generalizing core with
  | nil => rfl
  | cons input inputs ih =>
    have hrest := ih (collectFrame_default h segment input)
    have hframe : ((collectFrame segment core input).1.decisions.map event).filter
      (isMarker sessionKey) =
        (tlsChunk sessionKey
          (dispatchOf (frameInfo segment input.1 (core.framesProcessed + 1) input.2)
          input.2)).toList.map httpsSession := by
      rw [collectFrame_decisions, emitAll_events,
        filter_processPacketRecord (noAnomaly_isMarker sessionKey),
        hmute.flatMap_react, h, flatMap_singleton, filter_react]
    simp only [decisionLog, collectAll, flatMap_cons, map_append, filter_append, tlsChunks]
    rw [hframe]
    exact congrArg _ hrest

omit [External] in
lemma quietWhenIdle (hmute : Mute δ (isMarker sessionKey)) :
    QuietWhenIdle (WinRmDecoder ⊕ δ) (isMarker sessionKey) := by
  intro d timestamp
  cases d with
  | inl d => exact ⟨rfl, rfl⟩
  | inr d =>
    exact ⟨filter_eq_nil_of_false (hmute.onIdleFlush d timestamp),
      filter_eq_nil_of_false (hmute.evictIdle d timestamp)⟩

/-! ## The markers that are delivered -/

/-- The second in which a chunk is captured, as the duplicate filter counts. -/
def second : Nat := dedupTime (httpsSession chunk) / 1000000000

/-- The endpoints of a chunk as the duplicate filter writes them, source before destination. -/
def endpoints : List UInt8 :=
  utf8 (dedupSource (httpsSession chunk)) ++ utf8 (dedupDestination (httpsSession chunk)) ++
    toBe 2 chunk.context.srcPort.toNat ++ toBe 2 chunk.context.dstPort.toNat

omit [External] in
lemma getD_nonZeroU16 (port : UInt16) : (nonZeroU16 port).getD 0 = port := by
  unfold nonZeroU16
  split
  · rename_i hzero
    simpa using hzero.symm
  · rfl

lemma eventPreimage_httpsSession_iff {chunk other : StreamChunk} :
    eventPreimage 1000000000 (httpsSession other) = eventPreimage 1000000000 (httpsSession chunk) ↔
      second other = second chunk ∧ endpoints other = endpoints chunk := by
  have hbucket : ∀ c, (dedupCall (httpsSession c)).bucket 1000000000 = second c := by
    intro c
    rw [bucket, dedupCall_timestampNs]
    rfl
  have hkey : ∀ c, (dedupCall (httpsSession c)).keyBytes =
      endpoints c ++ utf8 "protocol_transaction:winrm:winrm_https_session" := by
    intro c
    have hsrc : (dedupCall (httpsSession c)).srcPort = c.context.srcPort := getD_nonZeroU16 _
    have hdst : (dedupCall (httpsSession c)).dstPort = c.context.dstPort := getD_nonZeroU16 _
    rw [keyBytes, hsrc, hdst]
    rfl
  rw [← dedupCall_preimage, ← dedupCall_preimage, preimage_eq_iff, hbucket, hbucket, hkey, hkey,
    append_left_inj]

variable {σ : Type} [BronzeSink σ]

/-- The number of markers delivered for a session is the number of pairs of a second and a direction
in which the session has a chunk. -/
theorem length_delivered_markers (hmute : Mute δ (isMarker sessionKey)) (hsink : NeverFails σ)
    {decoders : List (WinRmDecoder ⊕ δ)} (hdecoders : decoders.filterMap Sum.getLeft? = [default])
    (monitors : μ) (batchSize : Nat) (now : DateTime) (sink : σ) (segment : SegmentMeta)
    (inputs : List HashedFrame) (finalHash : String) :
    let engine := (DpiEngine.new decoders monitors).withBatchSize batchSize
    let done := (recordedSegment engine now sink segment inputs finalHash).2
    Apart (isMarker sessionKey) ((decisionLog segment (start engine now) inputs).map event) →
      ((done.sink.accepted.flatMap events).filter (isMarker sessionKey)).length =
        ((tlsChunks segment sessionKey 0 inputs).map fun c =>
          (second c, endpoints c)).toFinset.card := by
  intro engine done hapart
  have hchunks : ((decisionLog segment (start engine now) inputs).map event).filter
      (isMarker sessionKey) = (tlsChunks segment sessionKey 0 inputs).map httpsSession :=
    filter_decisionLog hmute segment hdecoders inputs
  rw [hsink.accepted,
    length_filter_segmentEvents (quietWhenIdle hmute) decoders monitors batchSize segment now inputs
      hapart,
    hchunks, map_map]
  -- the suppression key of a marker is its second and direction
  refine card_keys_eq fun chunk _ other _ => ?_
  exact eventPreimage_httpsSession_iff.trans Prod.mk_inj.symm

/-- On an engine with a decoder for WinRM among others that never make its marker, exactly one
marker of a session is delivered if and only if the session has a chunk on port 5986, and all of
them are captured in one second and go in one direction. -/
theorem httpsSession_once_iff (hmute : Mute δ (isMarker sessionKey)) (hsink : NeverFails σ)
    (decoders : List (WinRmDecoder ⊕ δ))
    (hdecoders : decoders.filterMap Sum.getLeft? = [WinRmDecoder.default])
    (monitors : μ) (batchSize : Nat) (now : DateTime) (sink : σ) (segment : SegmentMeta)
    (inputs : List HashedFrame) (finalHash : String) :
    let engine := (DpiEngine.new decoders monitors).withBatchSize batchSize
    let done := (recordedSegment engine now sink segment inputs finalHash).2
    let chunks := tlsChunks segment sessionKey 0 inputs
    Apart (isMarker sessionKey)
        ((decisionLog segment (start engine now) inputs).map event) →
      (((done.sink.accepted.flatMap events).filter (isMarker sessionKey)).length = 1 ↔
        ∃ chunk ∈ chunks, ∀ other ∈ chunks, second other = second chunk ∧
          endpoints other = endpoints chunk) := by
  intro engine done chunks hapart
  rw [length_delivered_markers hmute hsink hdecoders monitors batchSize now sink segment inputs
    finalHash hapart, Finset.card_eq_one]
  constructor
  · rintro ⟨slot, hslot⟩
    have hmem : ∀ chunk ∈ chunks, (second chunk, endpoints chunk) = slot := by
      intro chunk hchunk
      rw [← Finset.mem_singleton, ← hslot, mem_toFinset]
      exact mem_map_of_mem hchunk
    have hne : slot ∈ (chunks.map fun c => (second c, endpoints c)).toFinset := by
      rw [hslot]
      exact Finset.mem_singleton_self slot
    obtain ⟨chunk, hchunk, -⟩ := mem_map.1 (mem_toFinset.1 hne)
    refine ⟨chunk, hchunk, fun other hother => ?_⟩
    exact Prod.mk_inj.1 ((hmem other hother).trans (hmem chunk hchunk).symm)
  · rintro ⟨chunk, hchunk, hsame⟩
    refine ⟨(second chunk, endpoints chunk), ?_⟩
    ext slot
    rw [mem_toFinset, mem_map, Finset.mem_singleton]
    constructor
    · rintro ⟨other, hother, rfl⟩
      exact Prod.mk_inj.2 (hsame other hother)
    · rintro rfl
      exact ⟨chunk, hchunk, rfl⟩

end

/-! ## A session of two chunks -/

/-- A TCP segment of 10.0.0.1:49152 for port 5986 of 10.0.0.2. -/
def tlsFrame (timestamp : DateTime) : CapturedFrame :=
  rawIpFrame timestamp
    [0x45, 0, 0, 41, 0, 0, 0, 0, 64, 6, 0, 0, 10, 0, 0, 1, 10, 0, 0, 2,
      0xC0, 0x00, 0x17, 0x62, 0, 0, 0, 0, 0, 0, 0, 0, 0x50, 0x18, 0, 0, 0, 0, 0, 0, 0x17]

def tlsSessionKey : String := "tcp:10.0.0.1:49152:10.0.0.2:5986"

def winrmDecoders : List (WinRmDecoder ⊕ Probe) := [.inl WinRmDecoder.default, .inr ⟨[], []⟩]

def winrmEngine : DpiEngine (WinRmDecoder ⊕ Probe) Unit :=
  (DpiEngine.new winrmDecoders ()).withBatchSize 1

def twoChunks (later : DateTime) : List HashedFrame := [("", tlsFrame ⟨0⟩), ("", tlsFrame later)]

def deliveredOf [External] (later : DateTime) : List BronzeEvent :=
  (recordedSegment winrmEngine ⟨0⟩ (VecBronzeSink.mk []) ⟨"capture"⟩
    (twoChunks later) "").2.sink.accepted.flatMap BronzeBatch.events

lemma mute_probe (p : BronzeEvent → Bool) : Mute Probe p where
  onDatagram := by
    intro d chunk event hevent
    cases hevent
  onStreamChunk := by
    intro d chunk event hevent
    cases hevent
  onIdleFlush := by
    intro d timestamp event hevent
    cases hevent
  evictIdle := by
    intro d timestamp event hevent
    cases hevent

/-- Two chunks of one second have one marker. -/
theorem sameSecond_once :
    letI : External := sample
    Apart (isMarker tlsSessionKey) ((decisionLog ⟨"capture"⟩ (start winrmEngine ⟨0⟩)
        (twoChunks ⟨1000000⟩)).map event) ∧
      winrmDecoders.filterMap Sum.getLeft? = [default] ∧
      (tlsChunks ⟨"capture"⟩ tlsSessionKey 0 (twoChunks ⟨1000000⟩)).length = 2 ∧
      ((deliveredOf ⟨1000000⟩).filter (isMarker tlsSessionKey)).length = 1 := by
  have hapart : @Apart sample (isMarker tlsSessionKey)
      ((@decisionLog _ _ _ _ sample ⟨"capture"⟩ (start winrmEngine ⟨0⟩)
        (twoChunks ⟨1000000⟩)).map event) :=
    @Apart.mk sample _ _ (by decide) (by decide)
  have hiff := @httpsSession_once_iff Probe Unit _ _ sample tlsSessionKey VecBronzeSink _
    (mute_probe _)
    vecBronzeSink_neverFails winrmDecoders rfl () 1 ⟨0⟩ (VecBronzeSink.mk []) ⟨"capture"⟩
      (twoChunks ⟨1000000⟩) ""
    hapart
  exact ⟨hapart, rfl, by decide, hiff.2 (by decide)⟩

/-- Two chunks with two seconds between them have two markers. -/
theorem laterSecond_twice :
    letI : External := sample
    winrmDecoders.filterMap Sum.getLeft? = [default] ∧
      (tlsChunks ⟨"capture"⟩ tlsSessionKey 0 (twoChunks ⟨2000000000⟩)).length = 2 ∧
      ((deliveredOf ⟨2000000000⟩).filter (isMarker tlsSessionKey)).length = 2 := by
  let _ : External := sample
  exact ⟨rfl, by decide, by decide⟩

end MarlinspikeDpi.WinRm
