import MarlinspikeDpi.Mqtt.Dissector
import MarlinspikeDpi.Mqtt.Sparkplug

/-!
# MQTT packets, and publishes handed on

Each chunk is read as one MQTT packet and reported as a transaction.
-/

namespace MarlinspikeDpi.Mqtt

open Engine Sparkplug

/-- The payload decoders in the order of their priority. -/
structure MqttDecoder where
  payloadDecoders : List SparkplugBDecoder

def MqttDecoder.default : MqttDecoder :=
  { payloadDecoders := [SparkplugBDecoder.new] }

/-! ## Events about the packet -/

variable (chunk : StreamChunk)

/-- The envelope of everything that the decoder itself reports about a chunk. -/
def packetEnvelope : EventEnvelope :=
  Engine.buildEnvelope chunk.context chunk.toFrameInfo .tcp (some "mqtt") chunk.sessionKey

variable (fields : MqttFields)

def packetSummary : String :=
  if fields.packetType = 1 then "CONNECT client_id=" ++ fields.clientId.getD "?"
  else if fields.packetType = 3 then "PUBLISH topic=" ++ fields.topic.getD "?"
  else if fields.packetType = 8 then "SUBSCRIBE topic=" ++ fields.topic.getD "?"
  else fields.packetTypeName

def packetTransaction : BronzeEvent :=
  let attributes := insertSome OrderedMap.empty "protocol_name" fields.protocolName
  let attributes := insertSome attributes "protocol_version"
    (fields.protocolVersion.map fun version => toString version.toNat)
  let attributes := insertSome attributes "client_id" fields.clientId
  let attributes := insertSome attributes "username" fields.username
  let attributes := insertSome attributes "qos" (fields.qos.map fun qos => toString qos.toNat)
  newEvent chunk.captureId (packetEnvelope chunk) (.protocolTransaction
    { operation := String.ofList (fields.packetTypeName.toList.map Char.toLower)
      status := "ok"
      requestSummary := some (packetSummary fields)
      objectRefs := fields.topic.toList
      attributes })

def clientObservation : BronzeEvent :=
  let srcIp := chunk.context.srcIp.display
  newEvent chunk.captureId (packetEnvelope chunk) (.assetObservation
    { assetKey := srcIp, role := some "mqtt_client", hostnames :=
      fields.username.toList, protocols := ["mqtt"],
      identifiers := insertSome (OrderedMap.empty.insert "ip" srcIp) "client_id" fields.clientId })

def packetEvents : List BronzeEvent :=
  packetTransaction chunk fields ::
    if fields.packetType = 1 then [clientObservation chunk fields] else []

/-! ## Publishes -/

def isBrokerPort (port : UInt16) : Bool := port == 1883 || port == 8883

def buildMqttPublishContext (topic : String) (payload : List UInt8)
    (clientId : Option String) (qos : UInt8) (retain : Bool) : MqttPublishContext :=
  let src : SocketAddr := ⟨chunk.context.srcIp, chunk.context.srcPort⟩
  let dst : SocketAddr := ⟨chunk.context.dstIp, chunk.context.dstPort⟩
  -- the side with a broker's port, or else the destination
  let brokerEndpoint :=
    if isBrokerPort chunk.context.dstPort then dst
    else if isBrokerPort chunk.context.srcPort then src
    else dst
  { brokerEndpoint, flow5Tuple := { src, dst, transport := 6 }, clientId, topic, payload, retain,
    qos, packetTsUs := UInt64.ofNat (chunk.context.timestamp / 1000),
    vlanId := chunk.context.vlanId,
    publisherMac := if brokerEndpoint = dst then chunk.context.srcMac else chunk.context.dstMac }

def publish? : Option MqttPublishContext :=
  if fields.packetType = 3 then do
    let topic ← fields.topic
    let payload ← fields.payload
    return buildMqttPublishContext chunk topic payload fields.clientId (fields.qos.getD 0)
      (fields.retain.getD false)
  else none

section

variable [External] [SparkplugProto]

def fanOut (ctx : MqttPublishContext) : List SparkplugBDecoder →
    List BronzeEvent × List SparkplugBDecoder
  | [] => ([], [])
  | d :: ds =>
    let (events, d) := tryDecode d ctx
    if events = [] then
      let (events, ds) := fanOut ctx ds
      (events, d :: ds)
    -- the first decoder that claims the payload wins
    else (events, d :: ds)

def onStreamChunk (d : MqttDecoder) (chunk : StreamChunk) : List BronzeEvent × MqttDecoder :=
  match parseFields chunk.payload with
  | none =>
    ([parseAnomalyEvent chunk.captureId (packetEnvelope chunk) "mqtt" "medium"
      "failed to parse mqtt payload" chunk.payload], d)
  | some fields =>
    match publish? chunk fields with
    | none => (packetEvents chunk fields, d)
    | some ctx =>
      let (events, payloadDecoders) := fanOut ctx d.payloadDecoders
      (packetEvents chunk fields ++ events, ⟨payloadDecoders⟩)

instance : SessionDecoder MqttDecoder where
  name _ := "mqtt"
  interest _ := [.tcpPort 1883, .tcpPort 8883]
  onStreamChunk

lemma fanOut_placeless (ctx : MqttPublishContext) (ds : List SparkplugBDecoder) :
    ∀ event ∈ (fanOut ctx ds).1, Placeless event := by
  induction ds with
  | nil =>
    intro event hevent
    cases hevent
  | cons d ds ih =>
    intro event hevent
    simp only [fanOut] at hevent
    split at hevent
    · exact ih event hevent
    · exact tryDecode_placeless d ctx event hevent

lemma fanOut_eq_nil_iff (ctx : MqttPublishContext) (ds : List SparkplugBDecoder) :
    (fanOut ctx ds).1 = [] ↔ (ds.all fun d => unclaimed d ctx) = true := by
  induction ds with
  | nil => exact ⟨fun _ => rfl, fun _ => rfl⟩
  | cons d ds ih =>
    rw [List.all_cons, Bool.and_eq_true, ← tryDecode_eq_nil_iff, ← ih]
    simp only [fanOut]
    by_cases hnone : (tryDecode d ctx).1 = []
    · rw [if_pos hnone]
      exact ⟨fun hrest => ⟨hnone, hrest⟩, fun h => h.2⟩
    · rw [if_neg hnone]
      exact ⟨fun h => absurd h hnone, fun h => h.1⟩

end

end MarlinspikeDpi.Mqtt
