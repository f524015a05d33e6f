import MarlinspikeDpi.Engine.Decoder
import MarlinspikeDpi.Foundation.Lru

/-!
# Sparkplug B in the payloads of MQTT publishes

The topic says whether a publish is a Sparkplug message and which one.
-/

namespace MarlinspikeDpi.Mqtt
namespace Sparkplug

open Text Engine List

/-! ## Payloads -/

/-- A property as far as the quality is read from it. -/
inductive PropertyValue where
  | intValue (value : UInt32)
  | longValue (value : UInt64)
  | other

structure PropertySet where
  keys : List String
  values : List (Option PropertyValue)

/-- A metric's value; floating-point numbers as their bit patterns, composite ones without
content. -/
inductive MetricValue where
  | intValue (value : UInt32)
  | longValue (value : UInt64)
  | floatValue (bits : UInt32)
  | doubleValue (bits : UInt64)
  | booleanValue (value : Bool)
  | stringValue (value : String)
  | bytesValue (value : List UInt8)
  | datasetValue
  | templateValue
  | extensionValue

structure Metric where
  name : Option String
  (aliasId timestamp : Option UInt64)
  datatype : Option UInt32
  (isHistorical isTransient isNull : Option Bool)
  properties : Option PropertySet
  value : Option MetricValue

structure Payload where
  timestamp : Option UInt64
  metrics : List Metric
  seq : Option UInt64

/-- `Payload::decode` of the generated code; an error is known by its text. -/
class SparkplugProto where
  decode : List UInt8 → Except String Payload

/-- A stand-in for evaluation: empty data is an empty message, as it is in protobuf. -/
@[reducible] def SparkplugProto.sample : SparkplugProto where
  decode
    | [] => .ok { timestamp := none, metrics := [], seq := none }
    | _ => .error "not modelled"

/-! ## Topics -/

inductive MessageType where
  | nBirth
  | nDeath
  | nData
  | nCmd
  | dBirth
  | dDeath
  | dData
  | dCmd
  | state
deriving DecidableEq

open MessageType

namespace MessageType

def name : MessageType → String
  | nBirth => "NBIRTH"
  | nDeath => "NDEATH"
  | nData => "NDATA"
  | nCmd => "NCMD"
  | dBirth => "DBIRTH"
  | dDeath => "DDEATH"
  | dData => "DDATA"
  | dCmd => "DCMD"
  | state => "STATE"

def parse (s : String) : Option MessageType :=
  [nBirth, nDeath, nData, nCmd, dBirth, dDeath, dData, dCmd, state].find? fun t => t.name == s

def isBirth (t : MessageType) : Bool := t == nBirth || t == dBirth

end MessageType

structure SparkplugTopic where
  groupId : String
  messageType : MessageType
  edgeNodeId : String
  deviceId : Option String

/-- Four or five segments; a device may come with any type of message. -/
def parseTopic (topic : String) : Option SparkplugTopic := do
  let segments := (topic.toList.splitOn '/').map String.ofList
  let (groupId, msgType, edgeNodeId, deviceId) ←
    match segments with
    | ["spBv1.0", groupId, msgType, edgeNodeId] => some (groupId, msgType, edgeNodeId, none)
    | ["spBv1.0", groupId, msgType, edgeNodeId, deviceId] =>
      some (groupId, msgType, edgeNodeId, some deviceId)
    | _ => none
  let messageType ← MessageType.parse msgType
  if groupId = "" ∨ edgeNodeId = "" ∨ deviceId = some "" then none
  else
    some
      { groupId
        messageType
        edgeNodeId
        deviceId }

/-! ## Publishes -/

structure SocketAddr where
  ip : IpAddr
  port : UInt16
deriving DecidableEq

def SocketAddr.display (addr : SocketAddr) : String :=
  match addr.ip with
  | .v4 ip => ip.display ++ ":" ++ toString addr.port.toNat
  | .v6 ip => "[" ++ ip.display ++ "]:" ++ toString addr.port.toNat

structure FlowFiveTuple where
  (src dst : SocketAddr)
  transport : UInt8

/-- What the MQTT decoder tells about a publish. -/
structure MqttPublishContext where
  brokerEndpoint : SocketAddr
  flow5Tuple : FlowFiveTuple
  clientId : Option String
  topic : String
  payload : List UInt8
  retain : Bool
  qos : UInt8
  packetTsUs : UInt64
  vlanId : Option UInt16
  publisherMac : MacAddr

/-! ## Sessions -/

structure SessionKey where
  brokerEndpoint : SocketAddr
  (groupId edgeNodeId : String)
  deviceId : Option String
deriving DecidableEq

structure SessionState where
  aliases : Table UInt64 String
  bdSeq : Option UInt64
  gapAnomalyEmitted : Bool
  lastTouchedUs : UInt64

namespace SessionState

def default : SessionState :=
  { aliases := ∅, bdSeq := none, gapAnomalyEmitted := false, lastTouchedUs := 0 }

def resolve (s : SessionState) (aliasId : UInt64) : Option String := s.aliases.lookup aliasId

def bind (s : SessionState) (aliasId : UInt64) (name : String) : SessionState :=
  { s with aliases := s.aliases.insert aliasId name }

def supersededBy (s : SessionState) (bdSeq : Option UInt64) : Bool :=
  match s.bdSeq, bdSeq with
  | some previous, some new => previous ≤ new
  | _, _ => true

end SessionState

structure EvictionConfig where
  ttlUs : UInt64
  maxSessions : Nat

structure SessionStore where
  sessions : Table SessionKey SessionState
  config : EvictionConfig
  publishesSinceSweep : Nat

namespace SessionStore

def default : SessionStore :=
  { sessions := ∅, config := { ttlUs := 86400000000, maxSessions := 4096 }, publishesSinceSweep :=
    0 }

def sweepEveryNPublishes : Nat := 1024

def evictExpired (store : SessionStore) (nowUs : UInt64) : SessionStore :=
  { store with
    sessions := store.sessions.retain fun _ s =>
      nowUs.toNat - s.lastTouchedUs.toNat < store.config.ttlUs.toNat }

/-- Count a publish; every so often the sessions that have gone stale are removed. -/
def countPublish (store : SessionStore) (nowUs : UInt64) : SessionStore :=
  let count := store.publishesSinceSweep + 1
  if sweepEveryNPublishes ≤ count then
    evictExpired { store with publishesSinceSweep := 0 } nowUs
  else { store with publishesSinceSweep := count }

/-- Get or create a session and touch it; the least recently touched one makes room. -/
def entry (store : SessionStore) (key : SessionKey) (nowUs : UInt64) :
    SessionState × SessionStore :=
  -- only a new session needs room
  let sessions :=
    Lru.makeRoom (fun s => s.lastTouchedUs.toNat) store.config.maxSessions store.sessions key
  let state := { (sessions.lookup key).getD SessionState.default with lastTouchedUs := nowUs }
  (state, { store with sessions := sessions.insert key state })

def put (store : SessionStore) (key : SessionKey) (state : SessionState) : SessionStore :=
  { store with sessions := store.sessions.insert key state }

end SessionStore

structure SparkplugBDecoder where
  sessions : SessionStore

def SparkplugBDecoder.new : SparkplugBDecoder := ⟨SessionStore.default⟩

def sessionKey (ctx : MqttPublishContext) (topic : SparkplugTopic) : SessionKey :=
  { brokerEndpoint := ctx.brokerEndpoint, groupId := topic.groupId, edgeNodeId := topic.edgeNodeId,
    deviceId := topic.deviceId }

def extractBdSeq (payload : Payload) : Option UInt64 := payload.metrics.findSome? fun m =>
    if m.name = some "bdSeq" then
      match m.value with
      | some (.longValue v) => some v
      | some (.intValue v) => some v.toUInt64
      | _ => none
    else none

/-! ## Values -/

inductive DataType where
  | int8
  | int16
  | int32
  | int64
  | uint8
  | uint16
  | uint32
  | uint64
  | dateTime
  | other

def DataType.ofCode (code : Option UInt32) : DataType :=
  match (code.getD 0).toNat with
  | 1 => int8
  | 2 => int16
  | 3 => int32
  | 4 => int64
  | 5 => uint8
  | 6 => uint16
  | 7 => uint32
  | 8 => uint64
  | 13 => dateTime
  | _ => other

/-- Whole numbers come as 32 or 64 bits and are cut down to their declared type. -/
def metricToPointValue (metric : Metric) : PointValue :=
  if metric.isNull.getD false then .null
  else
    match metric.value, DataType.ofCode metric.datatype with
    | some (.intValue v), .int8 => .int8 (Int8.ofNat v.toNat)
    | some (.intValue v), .int16 => .int16 (Int16.ofNat v.toNat)
    | some (.intValue v), .uint8 => .uint8 v.toUInt8
    | some (.intValue v), .uint16 => .uint16 v.toUInt16
    | some (.intValue v), .uint32 => .uint32 v
    -- also what `Int32` declares: anything else of 32 bits is taken as one
    | some (.intValue v), _ => .int32 (Int32.ofNat v.toNat)
    | some (.longValue v), .uint64 => .uint64 v
    | some (.longValue v), .dateTime => .dateTime v
    -- likewise with 64 bits
    | some (.longValue v), _ => .int64 (Int64.ofNat v.toNat)
    | some (.floatValue bits), _ => .float bits
    | some (.doubleValue bits), _ => .double bits
    | some (.booleanValue v), _ => .bool v
    | some (.stringValue v), _ => .text v
    | some (.bytesValue v), _ => .bytes v
    -- composite values are not read
    | some .datasetValue, _ | some .templateValue, _ | some .extensionValue, _ => .null
    | none, _ => .null

def extractQualityProperty (props : PropertySet) : Option UInt32 := do
  let i ← props.keys.findIdx? (· == "Quality")
  match ← props.values[i]? with
  | some (.intValue v) => some v
  | some (.longValue v) => some v.toUInt32
  | _ => none

def metricToRawQuality (metric : Metric) : RawQuality :=
  .sparkplugQuality (metric.properties.bind extractQualityProperty)
    (metric.isHistorical.getD false) (metric.isTransient.getD false) (metric.isNull.getD false)

/-! ## Events -/

section

variable [External]

def timestampUsToChrono (us : UInt64) : DateTime :=
  (External.timestampOpt (us.toNat / 1000000 : Nat) (us.toNat % 1000000 * 1000)).getD ⟨0⟩

def buildEnvelope (ctx : MqttPublishContext) : EventEnvelope :=
  { timestamp := timestampUsToChrono ctx.packetTsUs, interfaceId := 0, segmentHash := "",
    frameIndex := 0, sessionKey := ctx.flow5Tuple.src.display ++ "|" ++ ctx.flow5Tuple.dst.display,
    srcMac := some (formatMac ctx.publisherMac), dstMac := none,
    srcIp := some ctx.flow5Tuple.src.ip.display, dstIp := some ctx.flow5Tuple.dst.ip.display,
    srcPort := some ctx.flow5Tuple.src.port, dstPort := some ctx.flow5Tuple.dst.port,
    vlanId := ctx.vlanId, transport := .tcp, protocol := some "sparkplug_b",
    bytesCount := ctx.payload.length, packetCount := 1 }

def makeEvent (ctx : MqttPublishContext) (family : BronzeEventFamily) : BronzeEvent :=
  newEvent "" (buildEnvelope ctx) family

def insertSome (attributes : OrderedMap String String) (key : String) (value : Option String) :
    OrderedMap String String :=
  match value with
  | some value => attributes.insert key value
  | none => attributes

def buildObjectRefs (topic : SparkplugTopic) : List String :=
  let nodeRef := "sparkplug/" ++ topic.groupId ++ "/" ++ topic.edgeNodeId
  match topic.deviceId with
  | some d => [nodeRef, nodeRef ++ "/" ++ d]
  | none => [nodeRef]

def sparkplugSummary (topic : SparkplugTopic) (metricCount : UInt32) : String :=
  let device :=
    match topic.deviceId with
    | some d => "/" ++ d
    | none => ""
  topic.messageType.name ++ " " ++ topic.groupId ++ "/" ++ topic.edgeNodeId ++ device ++
    " metrics=" ++ toString metricCount.toNat

def sessionTxEvent (ctx : MqttPublishContext) (topic : SparkplugTopic) (payload : Payload)
    (bdSeq : Option UInt64) (metricCount : UInt32) (aliasResolutionState : String) : BronzeEvent :=
  let attributes :=
    ((OrderedMap.empty.insert "message_type" topic.messageType.name).insert
      "group_id" topic.groupId).insert "edge_node_id" topic.edgeNodeId
  let attributes := insertSome attributes "device_id" topic.deviceId
  let attributes := insertSome attributes "bdseq" (bdSeq.map fun n => toString n.toNat)
  let attributes := insertSome attributes "seq" (payload.seq.map fun n => toString n.toNat)
  let attributes :=
    insertSome attributes "payload_timestamp" (payload.timestamp.map fun n => toString n.toNat)
  makeEvent ctx (.protocolTransaction
    { operation := topic.messageType.name
      status := "ok"
      requestSummary := some (sparkplugSummary topic metricCount)
      objectRefs := buildObjectRefs topic
      attributes := (attributes.insert "metric_count" (toString metricCount.toNat)).insert
        "alias_resolution_state" aliasResolutionState })

def gapAnomalyEvent (ctx : MqttPublishContext) (topic : SparkplugTopic) : BronzeEvent :=
  makeEvent ctx (.parseAnomaly
    { decoder := "sparkplug_b"
      severity := "medium"
      reason := "sparkplug DATA arrived before BIRTH for group=" ++ topic.groupId ++ " edge=" ++
        topic.edgeNodeId ++ " device=" ++ topic.deviceId.getD "-" ++
        " — request a Rebirth to resolve aliases"
      rawExcerptHex := "" })

def decodeFailureEvent (ctx : MqttPublishContext) (error : String) : BronzeEvent :=
  makeEvent ctx (.parseAnomaly
    { decoder := "sparkplug_b", severity := "high", reason := "protobuf decode failed: " ++ error,
      rawExcerptHex := hexEncode (ctx.payload.take 64) })

/-! ## Metrics -/

def isAsciiClean (s : String) : Bool := (utf8 s).all fun b => (0x20 ≤ b && b ≤ 0x7E) || b == 0x09

variable (store : SessionStore)

/-- The name of a metric, and the store afterwards: a name with an alias is learned, an alias alone
is looked up. -/
def resolveMetric (ctx : MqttPublishContext) (topic : SparkplugTopic)
    (metric : Metric) : Option String × SessionStore :=
  let key := sessionKey ctx topic
  match metric.name, metric.aliasId with
  | some name, some aliasId =>
    let (session, store) := store.entry key ctx.packetTsUs
    (some name, store.put key (session.bind aliasId name))
  | some name, none => (some name, store)
  | none, some aliasId => ((store.sessions.lookup key).bind fun s => s.resolve aliasId, store)
  | none, none => (none, store)

def buildReading (ctx : MqttPublishContext) (topic : SparkplugTopic) (payload : Payload)
    (metric : Metric) (metricName : Option String) : ProcessReading :=
  { sourceProtocol := "sparkplug_b"
    pointId := .sparkplugMetric topic.groupId topic.edgeNodeId topic.deviceId metricName
      ((metricName.filter fun s => !isAsciiClean s).map utf8) metric.aliasId
    value := metricToPointValue metric
    quality := metricToRawQuality metric
    -- milliseconds to microseconds, as far as they fit
    sourceTs := (metric.timestamp.or payload.timestamp).map fun ms =>
      UInt64.ofNat (min (ms.toNat * 1000) (2 ^ 64 - 1))
    observedTs := ctx.packetTsUs }

def emitMetrics (store : SessionStore) (ctx : MqttPublishContext) (topic : SparkplugTopic)
    (payload : Payload) : List Metric → List BronzeEvent × SessionStore
  | [] => ([], store)
  | metric :: metrics =>
    let (metricName, store) := resolveMetric store ctx topic metric
    let (events, store) := emitMetrics store ctx topic payload metrics
    (makeEvent ctx (.processReading (buildReading ctx topic payload metric metricName)) :: events,
      store)

/-! ## Messages -/

def metricCount (payload : Payload) : UInt32 := UInt32.ofNat payload.metrics.length

def handleBirth (ctx : MqttPublishContext) (topic : SparkplugTopic)
    (payload : Payload) : List BronzeEvent × SessionStore :=
  let key := sessionKey ctx topic
  let (session, store) := store.entry key ctx.packetTsUs
  let bdSeq := extractBdSeq payload
  -- an outdated birth only touches the session
  if ¬ session.supersededBy bdSeq then ([], store)
  else
    let fresh :=
      { session with bdSeq, gapAnomalyEmitted := false, aliases := ∅ }
    let bound := payload.metrics.foldl (fun s m =>
      match m.name, m.aliasId with
      | some name, some aliasId => s.bind aliasId name
      | _, _ => s) fresh
    let (readings, store) := emitMetrics (store.put key bound) ctx topic payload payload.metrics
    (sessionTxEvent ctx topic payload bdSeq (metricCount payload) "n/a" :: readings, store)

def handleData (ctx : MqttPublishContext) (topic : SparkplugTopic)
    (payload : Payload) : List BronzeEvent × SessionStore :=
  let key := sessionKey ctx topic
  let (session, store) := store.entry key ctx.packetTsUs
  let anyUnresolvable := payload.metrics.any fun m =>
    m.name.isNone && (m.aliasId.map fun aliasId => (session.resolve aliasId).isNone).getD false
  -- the gap is reported once, until a birth closes it
  let fire := anyUnresolvable && !session.gapAnomalyEmitted
  let store :=
    if anyUnresolvable then store.put key { session with gapAnomalyEmitted := true } else store
  let (readings, store) := emitMetrics store ctx topic payload payload.metrics
  ((if fire then [gapAnomalyEvent ctx topic] else []) ++ sessionTxEvent ctx topic payload none
    (metricCount payload)
        (if anyUnresolvable then "unresolved_no_birth" else "resolved") :: readings,
    store)

def handleDeath (ctx : MqttPublishContext) (topic : SparkplugTopic)
    (payload : Payload) : List BronzeEvent × SessionStore :=
  let key := sessionKey ctx topic
  let (session, store) := store.entry key ctx.packetTsUs
  -- the sequence number stays, so that a later birth is still compared with it
  ([sessionTxEvent ctx topic payload (extractBdSeq payload) 0 "n/a"],
    store.put key { session with aliases := ∅ })

def handleCmd (ctx : MqttPublishContext) (topic : SparkplugTopic)
    (payload : Payload) : List BronzeEvent × SessionStore :=
  ([sessionTxEvent ctx topic payload none (metricCount payload) "n/a"], store)

def handleState (ctx : MqttPublishContext) (topic : SparkplugTopic)
    (payload : Payload) : List BronzeEvent × SessionStore :=
  ([sessionTxEvent ctx topic payload none 0 "n/a"], store)

def handle (ctx : MqttPublishContext) (topic : SparkplugTopic) (payload : Payload) :
  List BronzeEvent × SessionStore := match topic.messageType with
  | .nBirth | .dBirth => handleBirth store ctx topic payload
  | .nData | .dData => handleData store ctx topic payload
  | .nDeath | .dDeath => handleDeath store ctx topic payload
  | .nCmd | .dCmd => handleCmd store ctx topic payload
  | .state => handleState store ctx topic payload

variable [SparkplugProto]

def tryDecode (d : SparkplugBDecoder) (ctx : MqttPublishContext) :
  List BronzeEvent × SparkplugBDecoder := match parseTopic ctx.topic with
  | none => ([], d)
  | some topic =>
    -- every Sparkplug publish counts towards the next sweep, readable or not
    let store := d.sessions.countPublish ctx.packetTsUs
    match SparkplugProto.decode ctx.payload with
    | .error e => ([decodeFailureEvent ctx e], ⟨store⟩)
    | .ok payload =>
      let (events, store) := handle store ctx topic payload
      (events, ⟨store⟩)

/-! ## Events without a place -/

def Placeless (event : BronzeEvent) : Prop :=
  event.captureId = "" ∧ event.envelope.segmentHash = "" ∧ event.envelope.frameIndex = 0

section

omit [SparkplugProto]

lemma makeEvent_placeless (ctx : MqttPublishContext) (family : BronzeEventFamily) :
  Placeless (makeEvent ctx family) := ⟨rfl, rfl, rfl⟩

lemma emitMetrics_placeless (ctx : MqttPublishContext) (topic : SparkplugTopic) (payload : Payload)
    (metrics : List Metric) :
    ∀ event ∈ (emitMetrics store ctx topic payload metrics).1, Placeless event := by
  induction metrics generalizing store with
  | nil =>
    intro event hevent
    cases hevent
  | cons metric metrics ih =>
    intro event hevent
    rcases mem_cons.1 hevent with rfl | hlater
    · exact makeEvent_placeless ctx _
    · exact ih _ event hlater

lemma transaction_readings_placeless (ctx : MqttPublishContext) (topic : SparkplugTopic)
    (payload : Payload) (family : BronzeEventFamily) :
    ∀ event ∈ makeEvent ctx family :: (emitMetrics store ctx topic payload payload.metrics).1,
      Placeless event := by
  intro event hevent
  rcases mem_cons.1 hevent with rfl | hreading
  · exact makeEvent_placeless ctx family
  · exact emitMetrics_placeless store ctx topic payload _ event hreading

lemma handleBirth_placeless (ctx : MqttPublishContext) (topic : SparkplugTopic)
    (payload : Payload) : ∀ event ∈ (handleBirth store ctx topic payload).1, Placeless event := by
  intro event hevent
  simp only [handleBirth] at hevent
  split at hevent
  · -- an outdated birth is not reported
    cases hevent
  · exact transaction_readings_placeless _ ctx topic payload _ event hevent

lemma handleData_placeless (ctx : MqttPublishContext) (topic : SparkplugTopic) (payload : Payload) :
    ∀ event ∈ (handleData store ctx topic payload).1, Placeless event := by
  intro event hevent
  rcases mem_append.1 hevent with hgap | hdata
  · -- the anomaly comes first, if this is the first data message with an unknown alias
    split at hgap
    · rw [mem_singleton.1 hgap]
      exact makeEvent_placeless ctx _
    · cases hgap
  · exact transaction_readings_placeless _ ctx topic payload _ event hdata

lemma handle_placeless (ctx : MqttPublishContext) (topic : SparkplugTopic) (payload : Payload) :
    ∀ event ∈ (handle store ctx topic payload).1, Placeless event := by
  intro event hevent
  unfold handle at hevent
  cases htype : topic.messageType <;> rw [htype] at hevent
  case nBirth | dBirth => exact handleBirth_placeless store ctx topic payload event hevent
  case nData | dData => exact handleData_placeless store ctx topic payload event hevent
  -- the other messages are one transaction
  case nDeath | dDeath | nCmd | dCmd | state =>
    rw [mem_singleton.1 hevent]
    exact makeEvent_placeless ctx _

end

lemma tryDecode_placeless (d : SparkplugBDecoder) (ctx : MqttPublishContext) :
    ∀ event ∈ (tryDecode d ctx).1, Placeless event := by
  intro event hevent
  simp only [tryDecode] at hevent
  split at hevent
  · cases hevent
  · split at hevent
    · rw [mem_singleton.1 hevent]
      exact makeEvent_placeless ctx _
    · exact handle_placeless _ ctx _ _ event hevent

/-! ## Publishes without events -/

def outdated (store : SessionStore) (key : SessionKey) (birth : Payload) : Bool :=
  match store.sessions.lookup key with
  | some session => !session.supersededBy (extractBdSeq birth)
  | none => false

/-- The topic is not one of Sparkplug, or the message is an outdated birth. -/
def unclaimed (d : SparkplugBDecoder) (ctx : MqttPublishContext) : Bool :=
  match parseTopic ctx.topic with
  | none => true
  | some topic =>
    match SparkplugProto.decode ctx.payload with
    | .error _ => false
    | .ok payload =>
      topic.messageType.isBirth &&
        outdated (d.sessions.countPublish ctx.packetTsUs) (sessionKey ctx topic) payload

omit [External] [SparkplugProto] in
lemma supersededBy_entry (store : SessionStore) (key : SessionKey) (nowUs : UInt64)
    (birth : Payload) :
    (store.entry key nowUs).1.supersededBy (extractBdSeq birth) = !outdated store key birth := by
  unfold outdated
  cases hlookup : store.sessions.lookup key with
  | some session =>
    simp only [SessionStore.entry, Lru.makeRoom_of_lookup_eq_some hlookup, hlookup,
      Option.getD_some, Bool.not_not]
    rfl
  | none =>
    simp only [SessionStore.entry, Lru.lookup_makeRoom_eq_none hlookup, Option.getD_none]
    rfl

omit [SparkplugProto] in
lemma handle_eq_nil_iff (store : SessionStore) (ctx : MqttPublishContext) (topic : SparkplugTopic)
    (payload : Payload) : (handle store ctx topic payload).1 = [] ↔
      (topic.messageType.isBirth && outdated store (sessionKey ctx topic) payload) = true := by
  have hbirth : (handleBirth store ctx topic payload).1 = [] ↔
      outdated store (sessionKey ctx topic) payload = true := by
    simp only [handleBirth, supersededBy_entry]
    cases outdated store (sessionKey ctx topic) payload <;> simp
  unfold handle
  cases htype : topic.messageType
  case nBirth | dBirth => simpa [isBirth] using hbirth
  case nData | dData => simp [isBirth, handleData]
  case nDeath | dDeath => simp [isBirth, handleDeath]
  case nCmd | dCmd => simp [isBirth, handleCmd]
  case state => simp [isBirth, handleState]

lemma tryDecode_eq_nil_iff (d : SparkplugBDecoder) (ctx : MqttPublishContext) :
    (tryDecode d ctx).1 = [] ↔ unclaimed d ctx = true := by
  unfold tryDecode unclaimed
  -- both sides look at the topic first, then at the payload
  cases parseTopic _ with
  | none => simp
  | some topic =>
    cases SparkplugProto.decode _ with
    | error e => simp
    | ok payload => exact handle_eq_nil_iff _ ctx topic payload

end

end Sparkplug
end MarlinspikeDpi.Mqtt
