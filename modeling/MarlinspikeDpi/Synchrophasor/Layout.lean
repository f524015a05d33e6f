import MarlinspikeDpi.Foundation.LastWrite
import MarlinspikeDpi.Synchrophasor.Decoder

/-!
# Which configuration frame a data frame is read with

A CFG-2 frame describes the data frames that follow. A CFG-1 frame describes what the source could
send, and a CFG-3 frame is laid out differently.

* `data_read_with_cfg2`: a data frame is read with the last CFG-2 frame.
-/

namespace MarlinspikeDpi.Synchrophasor

open Engine SynchrophasorDecoderWrapper

/-! ## Frames in chunks -/

def frameIn? (chunk : StreamChunk) : Option (CommonHeader × List UInt8) :=
  if looksLikeSynchrophasor chunk.payload then readCommonHeader chunk.payload else none

def sessionOf (chunk : StreamChunk) (header : CommonHeader) : SessionKey :=
  ⟨chunk.context.srcIp, header.idcode⟩

/-- The layout in a frame of the session, if it is of one of the kinds and the parser accepts it. -/
def layoutIn (kinds : List FrameType) (key : SessionKey) (chunk : StreamChunk) :
  Option ConfigFrame := match frameIn? chunk with
  | none => none
  | some (header, body) =>
    if header.frameType ∈ kinds ∧ sessionOf chunk header = key then
      (parseConfigFrame body).map Prod.fst
    else none

abbrev cfg2 : SessionKey → StreamChunk → Option ConfigFrame := layoutIn [.config2]

abbrev cfg1Or3 : SessionKey → StreamChunk → Option ConfigFrame := layoutIn [.config1, .config3]

abbrev anyCfg : SessionKey → StreamChunk → Option ConfigFrame :=
  layoutIn [.config1, .config2, .config3]

lemma anyCfg_eq (key : SessionKey) (chunk : StreamChunk) :
    anyCfg key chunk = (cfg2 key chunk).or (cfg1Or3 key chunk) := by
  unfold anyCfg cfg2 cfg1Or3 layoutIn
  cases frameIn? chunk with
  | none => rfl
  | some found =>
    obtain ⟨header, body⟩ := found
    dsimp only
    cases header.frameType <;> simp

/-! ## Histories -/

def feedAll (d : SynchrophasorDecoderWrapper) (history : List StreamChunk) :
  SynchrophasorDecoderWrapper := history.foldl (fun d chunk => (d.handle chunk).2) d

def layoutOf (d : SynchrophasorDecoderWrapper) (key : SessionKey) : Option ConfigFrame :=
  d.decoder.configs.lookup key

lemma handle_eq (chunk : StreamChunk) (d : SynchrophasorDecoderWrapper) : d.handle chunk =
      match frameIn? chunk with
      | none => ([], d)
      | some (header, body) =>
        (if header.frameType = .data then
            (layoutOf d (sessionOf chunk header)).elim [] fun cfg =>
              dataReadings cfg header body (chunkEnvelope chunk) chunk.captureId
          else [],
          match anyCfg (sessionOf chunk header) chunk with
          | some cfg => ⟨⟨d.decoder.configs.insert (sessionOf chunk header) cfg⟩⟩
          | none => d) := by
  unfold handle SynchrophasorDecoder.handleFrame anyCfg layoutIn
  by_cases hlooks : looksLikeSynchrophasor chunk.payload = true
  · have hframe : frameIn? chunk = readCommonHeader chunk.payload := if_pos hlooks
    rw [if_neg (not_not.2 hlooks), hframe]
    cases readCommonHeader _ with
    | none => rfl
    | some found =>
      obtain ⟨header, body⟩ := found
      obtain ⟨frameType, version, framesize, idcode, soc, fracsec, timeQuality⟩ := header
      dsimp only [sessionOf, layoutOf]
      cases frameType with
      | data => cases d.decoder.configs.lookup ⟨chunk.context.srcIp, idcode⟩ <;> simp
      | header => simp
      | command => simp
      | config1 => cases parseConfigFrame body <;> simp
      | config2 => cases parseConfigFrame body <;> simp
      | config3 => cases parseConfigFrame body <;> simp
  · have hframe : frameIn? chunk = none := if_neg hlooks
    rw [if_pos hlooks, hframe]

lemma layoutOf_handle (chunk : StreamChunk) (d : SynchrophasorDecoderWrapper) (key : SessionKey) :
    layoutOf (d.handle chunk).2 key = (anyCfg key chunk).or (layoutOf d key) := by
  rw [handle_eq]
  cases hframe : frameIn? chunk with
  | none => simp [anyCfg, layoutIn, hframe]
  | some found =>
    obtain ⟨header, body⟩ := found
    dsimp only
    by_cases hkey : sessionOf chunk header = key
    · subst hkey
      cases anyCfg _ chunk with
      | none => rfl
      | some cfg => exact AList.lookup_insert _
    · have hother : anyCfg key chunk = none := by simp [anyCfg, layoutIn, hframe, hkey]
      rw [hother]
      cases anyCfg _ chunk with
      | none => rfl
      | some cfg => exact AList.lookup_insert_ne (Ne.symm hkey)

/-- The layout of the most recent CFG-2 frame of a session. -/
def latestCfg2 (key : SessionKey) (history : List StreamChunk) : Option ConfigFrame :=
  lastWrite (cfg2 key) history

/-- Every CFG-1 and CFG-3 frame of the session is rejected by the parser, or says the same as the
most recent CFG-2 frame before it; `latest` is the one before the history. -/
def undisturbed (key : SessionKey) : Option ConfigFrame → List StreamChunk → Bool
  | _, [] => true
  | latest, chunk :: history =>
    (cfg1Or3 key chunk).all (fun cfg => latest == some cfg) &&
      undisturbed key ((cfg2 key chunk).or latest) history

lemma layoutOf_feedAll (key : SessionKey) (history : List StreamChunk)
    (d : SynchrophasorDecoderWrapper)
    (hundisturbed : undisturbed key (layoutOf d key) history = true) :
    layoutOf (feedAll d history) key = (latestCfg2 key history).or (layoutOf d key) := by
  induction history generalizing d with
  | nil => rfl
  | cons chunk history ih =>
    obtain ⟨hchunk, hhistory⟩ := Bool.and_eq_true_iff.1 hundisturbed
    have hstep : layoutOf (d.handle chunk).2 key = (cfg2 key chunk).or (layoutOf d key) := by
      rw [layoutOf_handle, anyCfg_eq, Option.or_assoc]
      cases hforeign : cfg1Or3 key chunk with
      | none => rw [Option.none_or]
      | some cfg =>
        rw [hforeign, Option.all_some, beq_iff_eq] at hchunk
        rw [hchunk, Option.some_or]
    calc
      layoutOf (feedAll d (chunk :: history)) key
          = layoutOf (feedAll (d.handle chunk).2 history) key := rfl
      _ = (latestCfg2 key history).or (layoutOf (d.handle chunk).2 key) := by
            apply ih
            rw [hstep]
            exact hhistory
      _ = ((latestCfg2 key history).or (cfg2 key chunk)).or (layoutOf d key) := by
        rw [hstep, Option.or_assoc]
      _ = (latestCfg2 key (chunk :: history)).or (layoutOf d key) := by
            rw [latestCfg2, latestCfg2, lastWrite_cons]

/-- In every history whose CFG-1 and CFG-3 frames of a session do not disturb it, a data frame of
the session is reported as read with the layout of the most recent CFG-2 frame, and not at all
without one. -/
theorem data_read_with_cfg2 (history : List StreamChunk) (chunk : StreamChunk)
    (header : CommonHeader) (body : List UInt8) (hframe : frameIn? chunk = some (header, body))
    (hdata : header.frameType = .data)
    (hundisturbed : undisturbed (sessionOf chunk header) none history = true) :
    ((feedAll SynchrophasorDecoderWrapper.default history).handle chunk).1 =
      (latestCfg2 (sessionOf chunk header) history).elim [] fun cfg =>
        dataReadings cfg header body (chunkEnvelope chunk) chunk.captureId := by
  have hlayout : layoutOf (feedAll default history) (sessionOf chunk header) =
      latestCfg2 (sessionOf chunk header) history := by
    rw [layoutOf_feedAll _ _ _ hundisturbed]
    exact Option.or_none
  rw [handle_eq, hframe]
  dsimp only
  rw [if_pos hdata, hlayout]

/-! ## A source with one unit -/

/-- A frame of the source 10.0.0.1 with the id code 7. -/
def frameChunk (kind : UInt8) (body : List UInt8) : StreamChunk :=
  hostChunk 1 .udp 4713 4713 ([0xAA, kind * 16 + 1, 0, 0, 0, 7] ++ List.replicate 8 0 ++ body)

/-- A layout with one unit that has so many analogs in integer format and nothing else. -/
def configBody (analogs : UInt8) : List UInt8 :=
  [0, 0, 0, 1, 0, 1] ++ List.replicate 16 0x20 ++ [0, 7, 0, 0, 0, 0, 0, analogs, 0, 0] ++
    List.replicate (16 * analogs.toNat) 0x20 ++ List.replicate (4 * analogs.toNat) 0 ++
    [0, 0, 0, 0, 0, 30]

def dataChunk : StreamChunk := frameChunk 0 [0, 0, 0, 1, 0, 2, 0, 3]

def dataHeader : CommonHeader :=
  { frameType := .data, version := 1, framesize := 0, idcode := 7, soc := 0, fracsec :=
    0, timeQuality := 0 }

lemma frameIn_dataChunk : frameIn? dataChunk = some (dataHeader, [0, 0, 0, 1, 0, 2, 0, 3]) := by
  rfl

/-- Two CFG-2 frames and a CFG-1 frame with the layout of the second: the second one counts. -/
theorem repeatedLayout_read_with_cfg2 :
    let history :=
      [frameChunk 3 (configBody 0), frameChunk 3 (configBody 1), frameChunk 2 (configBody 1)]
    undisturbed ⟨.v4 ⟨10, 0, 0, 1⟩, 7⟩ none history = true ∧
      ((feedAll default history).handle dataChunk).1 =
        (latestCfg2 ⟨.v4 ⟨10, 0, 0, 1⟩, 7⟩ history).elim [] fun cfg =>
          dataReadings cfg dataHeader [0, 0, 0, 1, 0, 2, 0, 3] (chunkEnvelope dataChunk)
            dataChunk.captureId := by
  have hundisturbed : undisturbed ⟨.v4 ⟨10, 0, 0, 1⟩, 7⟩ none
      [frameChunk 3 (configBody 0), frameChunk 3 (configBody 1), frameChunk 2 (configBody 1)] =
        true := by
    decide
  exact ⟨hundisturbed,
    data_read_with_cfg2 _ dataChunk dataHeader _ frameIn_dataChunk rfl hundisturbed⟩

/-- A CFG-1 frame with an analog after the CFG-2 frame: the data frame is reported with three
channels, where the layout of the CFG-2 frame has two. -/
theorem cfg1_replaces_cfg2 :
    let history := [frameChunk 3 (configBody 0), frameChunk 2 (configBody 1)]
    ((feedAll default history).handle dataChunk).1.length = 3 ∧
      ((latestCfg2 ⟨.v4 ⟨10, 0, 0, 1⟩, 7⟩ history).elim [] fun cfg =>
        dataReadings cfg dataHeader [0, 0, 0, 1, 0, 2, 0, 3] (chunkEnvelope dataChunk)
          dataChunk.captureId).length = 2 := by
  decide

end MarlinspikeDpi.Synchrophasor
