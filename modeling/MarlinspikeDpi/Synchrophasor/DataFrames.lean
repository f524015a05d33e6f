import MarlinspikeDpi.Synchrophasor.Decoder

/-!
# How long a data frame is, and what is reported of it

The layout of each unit fixes the number of bytes and the number of readings.

* `parseDataFrame_exact`: which frames are parsed, and what is reported of them.
-/

namespace MarlinspikeDpi.Synchrophasor

open Cursor List PmuFormat

/-! ## Sizes -/

namespace PmuFormat

def phasorSize (fmt : PmuFormat) : Nat := if fmt.phasorIsFloat then 8 else 4

def analogSize (fmt : PmuFormat) : Nat := if fmt.analogIsFloat then 4 else 2

def freqSize (fmt : PmuFormat) : Nat := if fmt.freqIsFloat then 4 else 2

end PmuFormat

namespace PmuConfig

def digitalWords (pmu : PmuConfig) : Nat := pmu.digitalNames.length / 16

def dataSize (pmu : PmuConfig) : Nat :=
  2 + pmu.phasorNames.length * pmu.format.phasorSize + 2 * pmu.format.freqSize +
    pmu.analogNames.length * pmu.format.analogSize + 2 * pmu.digitalWords

/-- Two readings for each phasor, the frequency and its change, and one reading for each other
value. -/
def readingCount (pmu : PmuConfig) : Nat :=
  2 * pmu.phasorNames.length + 2 + pmu.analogNames.length + pmu.digitalWords

structure Describes (pmu : PmuConfig) (data : PmuData) : Prop where
  phasors : data.phasors.length = pmu.phasorNames.length
  analogs : data.analogs.length = pmu.analogNames.length
  digitals : data.digitals.length = pmu.digitalWords

end PmuConfig

def frameSize : List PmuConfig → Nat
  | [] => 0
  | pmu :: pmus => pmu.dataSize + frameSize pmus

section

lemma takes_f32 : Takes f32 4 fun _ => True := takes_u32be.bind fun _ _ => takes_pure trivial

lemma takes_i16 : Takes i16 2 fun _ => True := takes_u16be.bind fun _ _ => takes_pure trivial

lemma takes_readPhasor (fmt : PmuFormat) : Takes (readPhasor fmt) fmt.phasorSize fun _ => True := by
  unfold readPhasor phasorSize
  cases fmt.phasorIsPolar <;> cases fmt.phasorIsFloat
  · exact takes_i16.bind fun _ _ => takes_i16.bind fun _ _ => takes_pure trivial
  · exact takes_f32.bind fun _ _ => takes_f32.bind fun _ _ => takes_pure trivial
  · exact takes_u16be.bind fun _ _ => takes_i16.bind fun _ _ => takes_pure trivial
  · exact takes_f32.bind fun _ _ => takes_f32.bind fun _ _ => takes_pure trivial

lemma takes_readFreq (fmt : PmuFormat) (isFreq : Bool) :
    Takes (readFreq fmt isFreq) fmt.freqSize fun _ => True := by
  unfold readFreq freqSize
  cases fmt.freqIsFloat
  · exact takes_i16.bind fun _ _ => takes_pure trivial
  · exact takes_f32

lemma takes_readAnalog (fmt : PmuFormat) : Takes (readAnalog fmt) fmt.analogSize fun _ => True := by
  unfold readAnalog analogSize
  cases fmt.analogIsFloat
  · exact takes_i16
  · exact takes_f32

end

lemma takes_readPmuData (pmu : PmuConfig) : Takes (readPmuData pmu) pmu.dataSize pmu.Describes := by
  have htakes : Takes (readPmuData pmu) _ pmu.Describes := takes_u16be.bind fun _ _ =>
    ((takes_readPhasor pmu.format).times pmu.phasorNames.length).bind fun _ hphasors =>
    (takes_readFreq pmu.format true).bind fun _ _ =>
      (takes_readFreq pmu.format false).bind fun _ _ =>
    ((takes_readAnalog pmu.format).times pmu.analogNames.length).bind fun _ hanalogs =>
    (takes_u16be.times pmu.digitalWords).bind fun _ hdigitals =>
      takes_pure ⟨hphasors, hanalogs, hdigitals⟩
  convert htakes using 1
  rw [PmuConfig.dataSize]
  omega

lemma takes_parseDataFrame (pmus : List PmuConfig) :
    Takes (parseDataFrame pmus) (frameSize pmus) (Forall₂ PmuConfig.Describes pmus) := by
  induction pmus with
  | nil => exact takes_pure Forall₂.nil
  | cons pmu pmus ih =>
    exact (takes_readPmuData pmu).bind fun data hdata => ih.bind fun rest hrest =>
      takes_pure (.cons hdata hrest)

/-! ## Readings -/

def channelIndex (event : BronzeEvent) : Option UInt16 :=
  match event.family with
  | .processReading { pointId := .synchrophasorChannel _ _ index _ _, .. } => some index
  | _ => none

lemma length_pmuChannels {pmu : PmuConfig} {data : PmuData} (h : pmu.Describes data) :
    (pmuChannels pmu data).length = pmu.readingCount := by
  have hpairs : ∀ (f : Nat → PhasorReading → List Channel), (∀ i phasor, (f i phasor).length = 2) →
      (data.phasors.mapIdx f).flatten.length = 2 * data.phasors.length := by
    intro f hf
    induction data.phasors using reverseRecOn with
    | nil => rfl
    | append_singleton phasors phasor ih => simp [mapIdx_concat, ih, hf, Nat.mul_add]
  simp only [pmuChannels, length_append, length_mapIdx, length_cons, length_nil,
    PmuConfig.readingCount, h.analogs, h.digitals, ← h.phasors]
  rw [hpairs _ fun _ _ => rfl]

section

lemma channelIndex_emitPmuReadings (pmu : PmuConfig) (data : PmuData) (envelope : EventEnvelope)
    (captureId : String) (sourceTs : Option UInt64) (observedTs : UInt64) :
    (emitPmuReadings pmu data envelope captureId sourceTs observedTs).map channelIndex =
      (range (pmuChannels pmu data).length).map fun i => some (UInt16.ofNat i) := by
  refine ext_getElem (by simp [emitPmuReadings]) fun i _ _ => ?_
  simp [emitPmuReadings, channelIndex, newEvent]

lemma nodup_channelIndex (pmu : PmuConfig) (data : PmuData) (envelope : EventEnvelope)
    (captureId : String) (sourceTs : Option UInt64) (observedTs : UInt64)
    (h : (pmuChannels pmu data).length < UInt16.size) :
    ((emitPmuReadings pmu data envelope captureId sourceTs observedTs).map channelIndex).Nodup := by
  rw [channelIndex_emitPmuReadings]
  refine nodup_range.map_on fun i hi j hj hsame => ?_
  have hsize : UInt16.size = 65536 := rfl
  have hnat := congrArg UInt16.toNat (Option.some.inj hsame)
  rw [mem_range] at hi hj
  simp only [UInt16.toNat_ofNat'] at hnat
  omega

end

/-- A data frame is parsed exactly if it has the bytes that the layout asks for, and just these are
consumed. Each unit is reported with the readings that its layout counts, under indices of their
own. -/
theorem parseDataFrame_exact (pmus : List PmuConfig) (body : List UInt8) :
    ((parseDataFrame pmus body).isSome ↔ frameSize pmus ≤ body.length) ∧
      ∀ data rest, parseDataFrame pmus body = some (data, rest) →
        rest = body.drop (frameSize pmus) ∧
        Forall₂ (fun pmu pdata => ∀ envelope captureId sourceTs observedTs,
          let events := emitPmuReadings pmu pdata envelope captureId sourceTs observedTs
          events.length = pmu.readingCount ∧
            (pmu.readingCount < UInt16.size → (events.map channelIndex).Nodup)) pmus data := by
  have htakes := takes_parseDataFrame pmus body
  split at htakes
  · rw [htakes]
    refine ⟨by simpa using ‹body.length < frameSize pmus›, fun data rest hparsed => ?_⟩
    cases hparsed
  · obtain ⟨parsed, hdescribes, hparsed⟩ := htakes
    rw [hparsed]
    refine ⟨by simpa using ‹¬ body.length < frameSize pmus›, fun data rest hsame => ?_⟩
    cases hsame
    refine ⟨rfl, hdescribes.imp fun pmu pdata hdata envelope captureId sourceTs observedTs => ?_⟩
    have hcount := length_pmuChannels hdata
    exact ⟨length_mapIdx.trans hcount, fun hfew => nodup_channelIndex _ _ _ _ _ _ (hcount ▸ hfew)⟩

end MarlinspikeDpi.Synchrophasor
