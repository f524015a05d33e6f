import MarlinspikeDpi.Dedup.Runs
import MarlinspikeDpi.Engine.Decoder

/-!
# Which events leave the engine

Events of the decoders pass `shouldEmit`, which asks the duplicate filter about a key built from the
event's endpoints and from a few fields of its payload, chosen per family (`familyKey`).
-/

namespace MarlinspikeDpi.Engine

open Text List

/-! ## The suppression key -/

def ModbusRegKind.debug : ModbusRegKind → String
  | .coil => "Coil"
  | .discreteInput => "DiscreteInput"
  | .holdingRegister => "HoldingRegister"
  | .inputRegister => "InputRegister"

def SynchrophasorChannelType.debug : SynchrophasorChannelType → String
  | .phasorMagnitude => "PhasorMagnitude"
  | .phasorAngle => "PhasorAngle"
  | .frequency => "Frequency"
  | .frequencyDerivative => "FrequencyDerivative"
  | .analog => "Analog"
  | .digital => "Digital"

section

variable [External]

def OpcUaNodeId.debug : OpcUaNodeId → String
  | .numeric value => "Numeric(" ++ toString value.toNat ++ ")"
  | .string value => "String(" ++ External.debugText value ++ ")"
  | .stringRaw value => "StringRaw(" ++ debugBytes value ++ ")"
  | .guid value => "Guid(" ++ debugBytes value ++ ")"
  | .opaqueBytes value => "Opaque(" ++ debugBytes value ++ ")"

def pidKey : PointIdentifier → String
  | .modbusRegister unitId addr registerType =>
    "modbus_register:" ++ toString unitId.toNat ++ ":" ++ toString addr.toNat ++ ":" ++
      ModbusRegKind.debug registerType
  | .opcUaNode namespaceIndex identifier =>
    "opc_ua_node:" ++ toString namespaceIndex.toNat ++ ":" ++ OpcUaNodeId.debug identifier
  | .cipSymbol symbol _ => "cip_symbol:" ++ symbol
  | .cipPath classId instanceId attributeId =>
    "cip_path:" ++ toString classId.toNat ++ ":" ++ toString instanceId.toNat ++ ":" ++
      debugOption (attributeId.map UInt16.toNat)
  | .dnpPoint group variation index =>
    "dnp_point:" ++ toString group.toNat ++ ":" ++ toString variation.toNat ++ ":" ++
      toString index.toNat
  | .iec104Ioa commonAddr ioa typeId =>
    "iec104_ioa:" ++ toString commonAddr.toNat ++ ":" ++ toString ioa.toNat ++ ":" ++
      toString typeId.toNat
  | .iec61850Reference reference _ => "iec61850_ref:" ++ reference
  | .sparkplugMetric groupId edgeNodeId deviceId metricName _ aliasId =>
    "sparkplug:" ++ groupId ++ ":" ++ edgeNodeId ++ ":" ++ deviceId.getD "-" ++ ":" ++
      metricName.getD "-" ++ ":" ++ (aliasId.map fun a => toString a.toNat).getD "-"
  | .hartCommand command slot =>
    "hart_cmd:" ++ toString command.toNat ++ ":" ++ debugOption (slot.map UInt8.toNat)
  | .pcccAddress fileType fileNumber element subElement =>
    "pccc:0x" ++ hexPad 2 fileType.toNat ++ ":" ++ toString fileNumber.toNat ++ ":" ++
      toString element.toNat ++ ":" ++ debugOption (subElement.map UInt8.toNat)
  | .synchrophasorChannel idcode _ channelIndex _ channelType =>
    "synphasor:" ++ toString idcode.toNat ++ ":" ++ toString channelIndex.toNat ++ ":" ++
      SynchrophasorChannelType.debug channelType

def familyKey (event : BronzeEvent) : String :=
  let protocol := event.envelope.protocol.getD "unknown"
  match event.family with
  -- status, values and attributes of a transaction are not part of its key
  | .protocolTransaction tx => "protocol_transaction:" ++ protocol ++ ":" ++ tx.operation
  | .assetObservation obs => "asset_observation:" ++ protocol ++ ":" ++ obs.assetKey
  | .topologyObservation obs =>
    "topology_observation:" ++ protocol ++ ":" ++ obs.observationType ++ ":" ++ obs.localId ++
      ":" ++ obs.remoteId.getD "none"
  | .parseAnomaly anomaly => "parse_anomaly:" ++ anomaly.decoder ++ ":" ++ anomaly.reason
  | .extractedArtifact artifact =>
    "extracted_artifact:" ++ artifact.artifactType ++ ":" ++ artifact.artifactKey
  -- nor is the value of a reading
  | .processReading reading => "process_reading:" ++ reading.sourceProtocol ++ ":" ++
    pidKey reading.pointId

def dedupTime (event : BronzeEvent) : Nat :=
  DateTime.asU64 (event.envelope.timestamp.timestampNanosOpt.getD 0)

def dedupSource (event : BronzeEvent) : String :=
  (event.envelope.srcIp.or event.envelope.srcMac).getD "unknown"

def dedupDestination (event : BronzeEvent) : String :=
  (event.envelope.dstIp.or event.envelope.dstMac).getD "unknown"

def eventPreimage (bucketNs : Nat) (event : BronzeEvent) : List UInt8 :=
  DedupEngine.preimage bucketNs (dedupTime event) (dedupSource event) (dedupDestination event)
    (event.envelope.srcPort.getD 0) (event.envelope.dstPort.getD 0) (familyKey event)

/-- The call the engine makes for an event. -/
def dedupCall (event : BronzeEvent) : DedupEngine.Call :=
  { timestampNs := UInt64.ofNat (dedupTime event), srcIp := dedupSource event,
    dstIp := dedupDestination event, srcPort := event.envelope.srcPort.getD 0,
    dstPort := event.envelope.dstPort.getD 0, protocol := familyKey event }

lemma dedupCall_timestampNs (event : BronzeEvent) :
    (dedupCall event).timestampNs.toNat = dedupTime event := by
  have hlt : dedupTime event < 2 ^ 64 := by
    unfold dedupTime DateTime.asU64
    omega
  exact UInt64.toNat_ofNat_of_lt hlt

lemma dedupCall_preimage (bucketNs : Nat) (event : BronzeEvent) :
    (dedupCall event).preimage bucketNs = eventPreimage bucketNs event := by
  unfold DedupEngine.Call.preimage eventPreimage
  rw [dedupCall_timestampNs]
  rfl

/-- Ask the filter; `true` means the event leaves the engine. -/
def shouldEmit (dedup : DedupEngine) (event : BronzeEvent) : Bool × DedupEngine :=
  let (duplicate, dedup) :=
    dedup.isDuplicate (dedupTime event) (dedupSource event) (dedupDestination event)
      (event.envelope.srcPort.getD 0) (event.envelope.dstPort.getD 0) (familyKey event)
  -- the filter has stored the event by now if it was new
  (!duplicate, dedup)

/-! ## The emission loop -/

structure Decision where
  event : BronzeEvent
  emitted : Bool
deriving DecidableEq

def emittedEvents (log : List Decision) : List BronzeEvent :=
  (log.filter Decision.emitted).map Decision.event

def emitAll (dedup : DedupEngine) : List BronzeEvent → List Decision × DedupEngine
  | [] => ([], dedup)
  | event :: events =>
    let (emitted, dedup) := shouldEmit dedup event
    let (log, dedup) := emitAll dedup events
    (⟨event, emitted⟩ :: log, dedup)

variable (dedup : DedupEngine)

lemma emitAll_events (events : List BronzeEvent) :
    (emitAll dedup events).1.map Decision.event = events := by
  induction events generalizing dedup with
  | nil => rfl
  | cons event events ih => simp only [emitAll, map_cons, ih]

def eventDigest (bucketNs : Nat) (event : BronzeEvent) : List UInt8 :=
  External.sha256 (eventPreimage bucketNs event)

def Decision.observation (bucketNs : Nat) (decision : Decision) : Observation (List UInt8) :=
  { time := dedupTime decision.event, key := eventDigest bucketNs decision.event, duplicate :=
    !decision.emitted }

lemma shouldEmit_fst (event : BronzeEvent) :
    (shouldEmit dedup event).1 =
      !(dedup.observe (dedupTime event) (eventDigest dedup.bucketNs event)).1 := rfl

lemma shouldEmit_window (event : BronzeEvent) : (shouldEmit dedup event).2.toSlidingWindow =
      (dedup.observe (dedupTime event) (eventDigest dedup.bucketNs event)).2 := rfl

@[simp] lemma shouldEmit_bucketNs (event : BronzeEvent) :
    (shouldEmit dedup event).2.bucketNs = dedup.bucketNs := rfl

@[simp] lemma shouldEmit_window_length (event : BronzeEvent) :
    (shouldEmit dedup event).2.window = dedup.window := by
  rw [shouldEmit_window, SlidingWindow.observe_window]

@[simp] lemma emitAll_bucketNs (events : List BronzeEvent) :
    (emitAll dedup events).2.bucketNs = dedup.bucketNs := by
  induction events generalizing dedup with
  | nil => rfl
  | cons event events ih =>
    have hstep := ih (shouldEmit dedup event).2
    exact hstep

@[simp] lemma emitAll_window_length (events : List BronzeEvent) :
    (emitAll dedup events).2.window = dedup.window := by
  induction events generalizing dedup with
  | nil => rfl
  | cons event events ih =>
    have hstep := ih (shouldEmit dedup event).2
    rw [shouldEmit_window_length] at hstep
    exact hstep

/-! ## Every drop is explained -/

/-- An earlier emitted event that the filter cannot tell from `event`: same digest, and first seen
no longer ago than the window. -/
def Suppresses (bucketNs window : Nat) (first event : BronzeEvent) : Prop :=
  eventDigest bucketNs first = eventDigest bucketNs event ∧
    dedupTime event - window ≤ dedupTime first

/-- The filter and the log fit together: the entries of the filter are emitted events of the log,
and every dropped event of the log is suppressed by an event emitted before it. -/
structure Explained (dedup : DedupEngine) (log : List Decision) : Prop where
  justified : dedup.Justified (log.map (Decision.observation dedup.bucketNs))
  dropped : ∀ before event after, log = before ++ ⟨event, false⟩ :: after →
    ∃ first, ⟨first, true⟩ ∈ before ∧ Suppresses dedup.bucketNs dedup.window first event

lemma Explained.new (windowNs bucketNs : Nat) :
    Explained (DedupEngine.new windowNs bucketNs) [] where
  justified := SlidingWindow.Justified.empty windowNs
  dropped := by
    intro before event after h
    cases before <;> cases h

variable {dedup}

lemma Explained.of_dropped {log : List Decision} (h : Explained dedup log) {event : BronzeEvent}
    (hdrop : (shouldEmit dedup event).1 = false) :
    ∃ first, ⟨first, true⟩ ∈ log ∧ Suppresses dedup.bucketNs dedup.window first event := by
  have hdup : (dedup.observe (dedupTime event) (eventDigest dedup.bucketNs event)).1 = true := by
    rw [shouldEmit_fst] at hdrop
    simpa using hdrop
  rcases h.justified.of_duplicate hdup with ⟨t, hmem, hwindow⟩
  rcases mem_map.1 hmem with ⟨⟨first, emitted⟩, hfirst, hobs⟩
  -- the logged observation behind the entry is the decision to emit `first`
  simp only [Decision.observation, Observation.mk.injEq] at hobs
  rcases hobs with ⟨rfl, hkey, hemitted⟩
  have htrue : emitted = true := by simpa using hemitted
  subst htrue
  exact ⟨first, hfirst, hkey, hwindow⟩

lemma Explained.shouldEmit {log : List Decision} (h : Explained dedup log) (event : BronzeEvent) :
    Explained (shouldEmit dedup event).2 (log ++ [⟨event, (shouldEmit dedup event).1⟩]) where
  justified := by
    have hstep := h.justified.observe (dedupTime event) (eventDigest dedup.bucketNs event)
    simpa [shouldEmit_window, Decision.observation, shouldEmit_fst] using hstep
  dropped := by
    intro before dropped after hlog
    simp only [shouldEmit_bucketNs, shouldEmit_window_length]
    rcases eq_nil_or_concat after with rfl | ⟨after', last, rfl⟩
    · -- the dropped event is the new one
      rcases append_inj' hlog rfl with ⟨rfl, hlast⟩
      have hdecision : (⟨event, (Engine.shouldEmit dedup event).1⟩ : Decision) =
          ⟨dropped, false⟩ := by
        simpa using hlast
      have hevent : event = dropped := congrArg Decision.event hdecision
      have hdrop : (Engine.shouldEmit dedup event).1 = false := congrArg Decision.emitted hdecision
      rw [← hevent]
      exact h.of_dropped hdrop
    · -- the dropped event is an old one
      have hold : log = before ++ ⟨dropped, false⟩ :: after' := by
        have hsplit : log ++ [⟨event, (Engine.shouldEmit dedup event).1⟩] =
            (before ++ ⟨dropped, false⟩ :: after') ++ [last] := by
          simpa using hlog
        exact (append_inj' hsplit rfl).1
      exact h.dropped before dropped after' hold

lemma Explained.emitAll {log : List Decision} (h : Explained dedup log)
    (events : List BronzeEvent) :
    Explained (emitAll dedup events).2 (log ++ (emitAll dedup events).1) := by
  -- the log grows to the right while the list of events is consumed
  induction events generalizing dedup log with
  | nil => simpa [Engine.emitAll] using h
  | cons event events ih =>
    have hstep := ih (h.shouldEmit event)
    simpa [Engine.emitAll] using hstep

end

end MarlinspikeDpi.Engine
