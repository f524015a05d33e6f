import MarlinspikeDpi.Engine.Delivery

/-!
# Resuming behind a batch

* `batches_resumable`: a consumer can resume behind every batch.
-/

namespace MarlinspikeDpi.Engine

open BronzeBatch List Recorded

variable {δ μ σ : Type} [SessionDecoder δ] [FrameMonitors μ] [BronzeSink σ] [External]

lemma ingestAll_concat (segment : SegmentMeta) (s : Stream δ μ σ) (inputs : List HashedFrame)
    (input : HashedFrame) :
    (ingestAll segment s (inputs ++ [input])).2 =
      (ingestFrame segment (ingestAll segment s inputs).2 input).2 := by
  induction inputs generalizing s with
  | nil => rfl
  | cons first inputs ih => exact ih _

/-- Each batch was handed over after exactly the frames that its checkpoint counts, and the batches
up to it hold the events of these frames and no others. -/
def Resumable (engine : DpiEngine δ μ) (now : DateTime) (sink : σ) (segment : SegmentMeta)
    (inputs : List HashedFrame) : Prop :=
  ∀ before batch after, (recordedFrames engine now sink segment inputs).2.sink.batches =
    before ++ batch :: after → let seen := inputs.take batch.checkpoint.framesProcessed
    batch.checkpoint.framesProcessed ≤ inputs.length ∧
      (recordedFrames engine now sink segment seen).2.sink.batches = before ++ [batch] ∧
      (before ++ [batch]).flatMap events =
        (collectAll segment (Core.start engine now) seen).1.flatMap FrameYield.events

/-- A batch was there before the last frame, or it is the last one and nothing is pending behind
it. -/
lemma batches_concat (engine : DpiEngine δ μ) (now : DateTime) (sink : σ) (segment : SegmentMeta)
    (inputs : List HashedFrame) {before after : List BronzeBatch} {batch : BronzeBatch}
    (input : HashedFrame)
    (hsplit : (recordedFrames engine now sink segment (inputs ++ [input])).2.sink.batches =
      before ++ batch :: after) :
    (∃ after, (recordedFrames engine now sink segment inputs).2.sink.batches =
      before ++ batch :: after) ∨
      after = [] ∧ batch.checkpoint.framesProcessed = inputs.length + 1 ∧
        (recordedFrames engine now sink segment (inputs ++ [input])).2.batcher.pending = [] := by
  have hcount := framesProcessed_recordedFrames engine now sink segment inputs
  simp only [recordedFrames, ingestAll_concat] at hcount hsplit ⊢
  rcases ingestFrame_cases segment (ingestAll segment (Stream.start engine now (new sink)) inputs).2
    input with
    ⟨_, hkeep⟩ | ⟨_, hne, hflush⟩
  · rw [hkeep] at hsplit
    exact .inl ⟨after, hsplit⟩
  · rw [hflush, Stream.batches_flush segment input.1 hne] at hsplit
    rw [hflush, Stream.batcher_flush segment input.1 hne]
    rcases eq_nil_or_concat after with rfl | ⟨after, last, rfl⟩
    · obtain ⟨-, hbatch⟩ := append_inj' hsplit rfl
      cases hbatch
      exact .inr ⟨rfl, congrArg Nat.succ hcount, rfl⟩
    · rw [concat_eq_append, ← cons_append, ← append_assoc] at hsplit
      exact .inl ⟨after, (append_inj' hsplit rfl).1⟩

/-- Whatever the sink answers, a consumer can resume behind every batch. -/
theorem batches_resumable (engine : DpiEngine δ μ) (now : DateTime) (sink : σ)
    (segment : SegmentMeta) (inputs : List HashedFrame) :
      Resumable engine now sink segment inputs := by
  induction inputs using reverseRecOn with
  | nil =>
    intro before batch after hsplit
    cases before <;> cases hsplit
  | append_singleton inputs input ih =>
    intro before batch after hsplit seen
    rcases batches_concat engine now sink segment inputs input hsplit with ⟨after, hold⟩ | ⟨rfl,
      hcount, hpending⟩
    · obtain ⟨hle, hseen⟩ := ih before batch after hold
      have hsame : seen = inputs.take batch.checkpoint.framesProcessed :=
        take_append_of_le_length hle
      rw [hsame, length_append]
      exact ⟨Nat.le_succ_of_le hle, hseen⟩
    · have hsame : seen = inputs ++ [input] := take_of_length_le (by simp [hcount])
      have hall := (conserves_recordedFrames engine now sink segment (inputs ++ [input])).split
      rw [Stream.handed_batcher, hpending, append_nil, hsplit] at hall
      rw [hsame, length_append, hcount]
      exact ⟨le_rfl, hsplit, hall⟩

end MarlinspikeDpi.Engine
