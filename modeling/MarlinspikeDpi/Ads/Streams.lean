import MarlinspikeDpi.Ads.Decoder

/-!
# Frames of several connections

All connections share one buffer.

* `streams_separated`: the frames are told apart if the directions take turns.
-/

namespace MarlinspikeDpi.Ads

open Engine Bytes List Mealy

/-! ## What is processed -/

abbrev Flow : Type := String × IpAddr × UInt16

def flowOf (chunk : StreamChunk) : Flow :=
  (chunk.sessionKey, chunk.context.srcIp, chunk.context.srcPort)

def sentBy (flow : Flow) (chunks : List StreamChunk) : List UInt8 :=
  (chunks.filter fun chunk => flowOf chunk = flow).flatMap fun chunk => chunk.payload

/-- The frames that are processed, each with the chunk it is processed for. -/
def processed : AdsDecoder → List StreamChunk → List (StreamChunk × List UInt8)
  | _, [] => []
  | d, chunk :: chunks => (d.drained chunk).1.map (chunk, ·) ++ processed
    (d.onStreamChunk chunk).2 chunks

namespace AdsDecoder

lemma process_buf (d : AdsDecoder) (buf : List UInt8) (chunk : StreamChunk) (frame : List UInt8) :
    ({ d with buf } : AdsDecoder).process chunk frame =
      ((d.process chunk frame).1, { (d.process chunk frame).2 with buf }) := by
  have hmeet : ∀ h, ({ d with buf } : AdsDecoder).meet chunk h =
      ((d.meet chunk h).1, { (d.meet chunk h).2 with buf }) := by
    intro h
    simp only [meet]
    split <;> rfl
  have hresponse : ∀ (d : AdsDecoder) h, ({ d with buf } : AdsDecoder).onResponse chunk h =
      ((d.onResponse chunk h).1, { (d.onResponse chunk h).2 with buf }) := by
    intro d h
    simp only [onResponse]
    split <;> rfl
  have hpacket : ∀ h, ({ d with buf } : AdsDecoder).onPacket chunk frame h =
      ((d.onPacket chunk frame h).1, { (d.onPacket chunk frame h).2 with buf }) := by
    intro h
    simp only [onPacket, hmeet, hresponse]
    split <;> rfl
  simp only [process, hpacket]
  split
  · rfl
  · split <;> rfl

lemma buf_process (d : AdsDecoder) (chunk : StreamChunk) (frame : List UInt8) :
    (d.process chunk frame).2.buf = d.buf := by
  have hsame := d.process_buf d.buf chunk frame
  exact congrArg (fun result => result.2.buf) hsame

lemma buf_onStreamChunk (d : AdsDecoder) (chunk : StreamChunk) :
    (d.onStreamChunk chunk).2.buf = (d.drained chunk).2 :=
  view_run_eq _ _ (fun d frame => d.buf_process chunk frame) _ _

end AdsDecoder

/-! ## Taking turns -/

/-- Whenever one of the chunks brings bytes, no other direction is in the middle of a frame. -/
def TurnsAfter : List StreamChunk → List StreamChunk → Prop
  | _, [] => True
  | before, chunk :: chunks =>
    (chunk.payload = [] ∨ ∀ flow ≠ flowOf chunk, (frames.drain (sentBy flow before)).2 = []) ∧
      TurnsAfter (before ++ [chunk]) chunks

/-- Nobody sends bytes while another direction is in the middle of a frame. -/
def Turns (chunks : List StreamChunk) : Prop := TurnsAfter [] chunks

/-- One direction may be in the middle of a frame; the buffer has the beginning of this frame. -/
def Holds (d : AdsDecoder) (before : List StreamChunk) : Prop :=
  ∃ speaker, (∀ flow ≠ speaker, (frames.drain (sentBy flow before)).2 = []) ∧
    d.buf = (frames.drain (sentBy speaker before)).2

variable (flow : Flow)

lemma sentBy_concat (before : List StreamChunk) (chunk : StreamChunk) :
    sentBy flow (before ++ [chunk]) = sentBy flow before ++ if flowOf chunk = flow
      then chunk.payload else [] := by
  rw [sentBy, filter_append, flatMap_append]
  by_cases hflow : flowOf chunk = flow
  · rw [if_pos hflow, filter_cons_of_pos (by simpa using hflow)]
    simp [sentBy]
  · rw [if_neg hflow, filter_cons_of_neg (by simpa using hflow)]
    rfl

variable {before : List StreamChunk} {chunk : StreamChunk} {d : AdsDecoder}

lemma Holds.buf_eq (hholds : Holds d before)
    (hothers : ∀ other ≠ flow, (frames.drain (sentBy other before)).2 = []) :
    d.buf = (frames.drain (sentBy flow before)).2 := by
  obtain ⟨speaker, hquiet, hbuf⟩ := hholds
  by_cases hspeaker : speaker = flow
  · rw [hbuf, hspeaker]
  · rw [hbuf, hothers speaker hspeaker, hquiet flow (Ne.symm hspeaker)]

lemma sentBy_concat_of_payload_eq_nil (hempty : chunk.payload = []) :
    sentBy flow (before ++ [chunk]) = sentBy flow before := by
  rw [sentBy_concat, hempty, ite_self, append_nil]

/-- A chunk without bytes finds no frame, and leaves the buffer as it is. -/
lemma Holds.drained_of_payload_eq_nil (hholds : Holds d before) (hempty : chunk.payload = []) :
    d.drained chunk = ([], d.buf) := by
  obtain ⟨speaker, -, hbuf⟩ := hholds
  rw [AdsDecoder.drained, hempty, append_nil, hbuf]
  exact frames.drain_drain_snd _

lemma Holds.drained_eq (hholds : Holds d before)
    (hothers : ∀ flow ≠ flowOf chunk, (frames.drain (sentBy flow before)).2 = []) :
    frames.drain (sentBy (flowOf chunk) (before ++ [chunk])) =
      ((frames.drain (sentBy (flowOf chunk) before)).1 ++ (d.drained chunk).1,
        (d.drained chunk).2) := by
  rw [AdsDecoder.drained, hholds.buf_eq _ hothers, sentBy_concat, if_pos rfl, frames.drain_append]

lemma Holds.drained_fst (hholds : Holds d before)
    (hturn : chunk.payload = [] ∨ ∀ flow ≠ flowOf chunk, (frames.drain (sentBy flow before)).2 =
      []) :
    (frames.drain (sentBy (flowOf chunk) (before ++ [chunk]))).1 =
      (frames.drain (sentBy (flowOf chunk) before)).1 ++ (d.drained chunk).1 := by
  rcases hturn with hempty | hothers
  · rw [hholds.drained_of_payload_eq_nil hempty, sentBy_concat_of_payload_eq_nil _ hempty,
      append_nil]
  · rw [hholds.drained_eq hothers]

lemma Holds.onStreamChunk (hholds : Holds d before)
    (hturn : chunk.payload = [] ∨ ∀ flow ≠ flowOf chunk, (frames.drain (sentBy flow before)).2 =
      []) :
    Holds (d.onStreamChunk chunk).2 (before ++ [chunk]) := by
  rw [Holds, AdsDecoder.buf_onStreamChunk]
  rcases hturn with hempty | hothers
  · simp only [hholds.drained_of_payload_eq_nil hempty, sentBy_concat_of_payload_eq_nil _ hempty]
    exact hholds
  · refine ⟨flowOf chunk, ?_, by rw [hholds.drained_eq hothers]⟩
    intro flow hflow
    rw [sentBy_concat, if_neg (Ne.symm hflow), append_nil, hothers flow hflow]

def framesOf (items : List (StreamChunk × List UInt8)) : List (List UInt8) :=
  (items.filter fun item => flowOf item.1 = flow).map Prod.snd

lemma framesOf_append (items items' : List (StreamChunk × List UInt8)) :
    framesOf flow (items ++ items') = framesOf flow items ++ framesOf flow items' := by
  rw [framesOf, filter_append, map_append]
  rfl

lemma framesOf_map (chunk : StreamChunk) (found : List (List UInt8)) :
    framesOf flow (found.map (chunk, ·)) = if flowOf chunk = flow then found else [] := by
  induction found with
  | nil => simp [framesOf]
  | cons frame found ih =>
    rw [map_cons, ← singleton_append, framesOf_append, ih]
    by_cases hflow : flowOf chunk = flow <;> simp [framesOf, hflow]

lemma drain_append_framesOf (chunks before : List StreamChunk) (d : AdsDecoder)
    (hholds : Holds d before) (hturns : TurnsAfter before chunks) :
    (frames.drain (sentBy flow before)).1 ++ framesOf flow (processed d chunks) =
      (frames.drain (sentBy flow (before ++ chunks))).1 := by
  induction chunks generalizing before d with
  | nil =>
    rw [append_nil]
    exact append_nil _
  | cons chunk chunks ih =>
    obtain ⟨hturn, hlater⟩ := hturns
    have hstep := ih _ _ (hholds.onStreamChunk hturn) hlater
    rw [append_assoc, singleton_append] at hstep
    rw [processed, framesOf_append, framesOf_map, ← hstep, ← append_assoc]
    by_cases hflow : flowOf chunk = flow
    · rw [if_pos hflow, ← hflow, hholds.drained_fst hturn]
    · rw [if_neg hflow, sentBy_concat, if_neg hflow, append_nil, append_nil]

/-! ## Streams of frames -/

/-- A frame on the wire, with a body of 32 bytes or more. -/
structure AmsFrame where
  reserved : UInt16
  packet : List UInt8
  long : amsPktHdr ≤ packet.length
  fits : packet.length < 2 ^ 32

namespace AmsFrame

def encode (f : AmsFrame) : List UInt8 :=
  toLe 2 f.reserved.toNat ++ toLe 4 f.packet.length ++ f.packet

lemma length_encode (f : AmsFrame) : f.encode.length = amsTcpHdr + f.packet.length := by
  simp only [encode, length_append, length_toLe]
  rfl

lemma next_encode (f : AmsFrame) (rest : List UInt8) :
    frames.next (f.encode ++ rest) = some (f.encode, rest) := by
  have htotal : totalLen (f.encode ++ rest) = f.encode.length := by
    have hbytes : slice (f.encode ++ rest) 2 4 = toLe 4 f.packet.length := rfl
    rw [totalLen, u32At, hbytes, leNat_toLe f.fits, UInt32.toNat_ofNat', Nat.mod_eq_of_lt f.fits,
      f.length_encode]
  have hmin : adsMinFrame ≤ f.encode.length := by
    rw [f.length_encode]
    exact Nat.add_le_add_left f.long _
  refine nextFrame_eq_some.2 ?_
  rw [htotal, length_append, take_left, drop_left]
  exact ⟨Nat.le_add_right_of_le hmin, Nat.le_add_right _ _, rfl, rfl⟩

end AmsFrame

/-- In each direction the frames that were sent have been processed, in order and each once. -/
def Separated (d : AdsDecoder) (chunks : List StreamChunk) (sent : Flow → List AmsFrame) : Prop :=
  ∀ flow, framesOf flow (processed d chunks) = (sent flow).map AmsFrame.encode

/-- If every direction sends frames, cut in any way, and nobody sends bytes while another direction
is in the middle of a frame, then the frames are processed as they were sent, each with its own
connection. -/
theorem streams_separated (d : AdsDecoder) (hfresh : d.buf = []) (chunks : List StreamChunk)
    (sent : Flow → List AmsFrame)
    (hsent : ∀ flow, sentBy flow chunks = (sent flow).flatMap AmsFrame.encode)
    (hturns : Turns chunks) : Separated d chunks sent := by
  intro flow
  have hnone : ∀ other, sentBy other [] = [] := fun _ => rfl
  have hholds : Holds d [] := by
    refine ⟨flow, fun other _ => ?_, ?_⟩
    · rw [hnone, frames.drain_nil]
    · rw [hfresh, hnone, frames.drain_nil]
  have hframes := drain_append_framesOf flow chunks [] d hholds hturns
  rw [hnone, frames.drain_nil, nil_append, nil_append, hsent flow,
    frames.drain_encoded AmsFrame.encode AmsFrame.encode AmsFrame.next_encode] at hframes
  exact hframes

/-! ## Two connections -/

def smallFrame (b : UInt8) : AmsFrame :=
  ⟨0, List.replicate 32 b, length_replicate.ge, (by decide : 32 < 2 ^ 32)⟩

def adsChunk (sessionKey : String) (payload : List UInt8) : StreamChunk :=
  { hostChunk 0 .tcp 50000 48898 payload with sessionKey }

def oneEach (flow : Flow) : List AmsFrame :=
  if flow = flowOf (adsChunk "a" []) then [smallFrame 1]
  else if flow = flowOf (adsChunk "b" []) then [smallFrame 2]
  else []

/-- The first connection finishes its frame before the second one starts. -/
def inTurn : List StreamChunk :=
  [adsChunk "a" ((smallFrame 1).encode.take 20), adsChunk "a" ((smallFrame 1).encode.drop 20),
    adsChunk "b" (smallFrame 2).encode]

/-- The second connection sends while the first one is in the middle of its frame. -/
def crossing : List StreamChunk :=
  [adsChunk "a" ((smallFrame 1).encode.take 20), adsChunk "b" (smallFrame 2).encode,
    adsChunk "a" ((smallFrame 1).encode.drop 20)]

def flowA : Flow := flowOf (adsChunk "a" [])

def flowB : Flow := flowOf (adsChunk "b" [])

lemma sentBy_of_ne {chunks : List StreamChunk} {flow : Flow} (ha : flow ≠ flowA) (hb : flow ≠ flowB)
    (hchunks : ∀ chunk ∈ chunks, flowOf chunk = flowA ∨ flowOf chunk = flowB) :
      sentBy flow chunks = [] := by
  have hnone : chunks.filter (fun chunk => flowOf chunk = flow) = [] := by
    rw [filter_eq_nil_iff]
    intro chunk hchunk hflow
    rw [decide_eq_true_eq] at hflow
    rcases hchunks chunk hchunk with h | h
    · exact ha (hflow.symm.trans h)
    · exact hb (hflow.symm.trans h)
  rw [sentBy, hnone]
  rfl

lemma sent_of_two {chunks : List StreamChunk}
    (hchunks : ∀ chunk ∈ chunks, flowOf chunk = flowA ∨ flowOf chunk = flowB)
    (ha : sentBy flowA chunks = (smallFrame 1).encode)
    (hb : sentBy flowB chunks = (smallFrame 2).encode) :
    ∀ flow, sentBy flow chunks = (oneEach flow).flatMap AmsFrame.encode := by
  intro flow
  by_cases hflowA : flow = flowA
  · rw [hflowA, ha]
    rfl
  · by_cases hflowB : flow = flowB
    · rw [hflowB, hb]
      rfl
    · have hnone : oneEach flow = [] := (if_neg hflowA).trans (if_neg hflowB)
      rw [sentBy_of_ne hflowA hflowB hchunks, hnone]
      rfl

theorem inTurn_separated : Separated .default inTurn oneEach := by
  have hflows : ∀ chunk ∈ inTurn, flowOf chunk = flowA ∨ flowOf chunk = flowB := by decide
  apply streams_separated .default rfl inTurn oneEach (sent_of_two hflows (by decide) (by decide))
  refine ⟨Or.inr fun _ _ => rfl, Or.inr ?_, Or.inr ?_, trivial⟩
  · intro flow hflow
    have hnone : sentBy flow (inTurn.take 1) = [] :=
      (sentBy_concat flow [] _).trans (if_neg (Ne.symm hflow))
    exact congrArg (fun bytes => (frames.drain bytes).2) hnone
  · intro flow hflow
    by_cases hflowA : flow = flowA
    · rw [hflowA]
      decide
    · have hnone : sentBy flow (inTurn.take 2) = [] :=
        sentBy_of_ne hflowA hflow fun chunk hchunk => hflows chunk (mem_of_mem_take hchunk)
      exact congrArg (fun bytes => (frames.drain bytes).2) hnone

/-- The bytes of the second connection are taken for the rest of the frame of the first. -/
theorem crossing_mixed :
    (∀ flow, sentBy flow crossing = (oneEach flow).flatMap AmsFrame.encode) ∧
      ¬ Separated .default crossing oneEach := by
  have hflows : ∀ chunk ∈ crossing, flowOf chunk = flowA ∨ flowOf chunk = flowB := by decide
  refine ⟨sent_of_two hflows (by decide) (by decide), ?_⟩
  intro hseparated
  exact absurd (hseparated flowA) (by decide)

end MarlinspikeDpi.Ads
