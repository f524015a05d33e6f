import MarlinspikeDpi.Foundation.OrderedMap
import MarlinspikeDpi.Net

/-!
# The event model

Every finding of the engine leaves it as a `BronzeEvent`: an envelope that says where and when the
traffic was seen, and one of six payload families.  Events travel to the sink in `BronzeBatch`es.
The random `event_id` is not part of the model.
-/

namespace MarlinspikeDpi

def bronzeSchemaVersion : String := "v2"

inductive TransportProtocol where
  | ethernet
  | arp
  | ipv4
  | tcp
  | udp
  | icmp
  | unknown
deriving DecidableEq, Repr

structure EventEnvelope where
  timestamp : DateTime
  interfaceId : UInt32
  segmentHash : String
  frameIndex : Nat
  sessionKey : String
  (srcMac dstMac srcIp dstIp : Option String)
  (srcPort dstPort vlanId : Option UInt16)
  transport : TransportProtocol
  protocol : Option String
  (bytesCount packetCount : Nat)
deriving DecidableEq

/-! ## Payload families -/

structure ObjectValue where
  objectRef : String
  value : Option String
deriving DecidableEq

structure ModbusBronzeFields where
  fc : UInt8
  (startAddr qty : Option UInt16)
  values : List UInt16
  exceptionCode : Option UInt8
  direction : String
deriving DecidableEq

structure ProtocolTransaction where
  (operation status : String)
  requestSummary : Option String := none
  responseSummary : Option String := none
  objectRefs : List String := []
  values : List ObjectValue := []
  attributes : OrderedMap String String
  modbus : Option ModbusBronzeFields := none
deriving DecidableEq

structure AssetObservation where
  assetKey : String
  role : Option String
  vendor : Option String := none
  model : Option String := none
  firmware : Option String := none
  hostnames : List String := []
  protocols : List String
  identifiers : OrderedMap String String
deriving DecidableEq

structure TopologyObservation where
  (observationType localId : String)
  (remoteId description : Option String)
  capabilities : List String
  metadata : OrderedMap String String
deriving DecidableEq

structure ParseAnomaly where
  (decoder severity reason rawExcerptHex : String)
deriving DecidableEq

structure ExtractedArtifact where
  (artifactType artifactKey sha256 : String)
  mimeType : Option String
  contentHex : String
  description : Option String
deriving DecidableEq

/-! ## Process readings -/

inductive ModbusRegKind where
  | coil
  | discreteInput
  | holdingRegister
  | inputRegister
deriving DecidableEq, Repr

/-- The identifier part of an OPC UA node id; `guid` holds its sixteen bytes. -/
inductive OpcUaNodeId where
  | numeric (value : UInt32)
  | string (value : String)
  | stringRaw (value : List UInt8)
  | guid (value : List UInt8)
  | opaqueBytes (value : List UInt8)
deriving DecidableEq

inductive SynchrophasorChannelType where
  | phasorMagnitude
  | phasorAngle
  | frequency
  | frequencyDerivative
  | analog
  | digital
deriving DecidableEq, Repr

inductive PointIdentifier where
  | modbusRegister (unitId : UInt8) (addr : UInt16) (registerType : ModbusRegKind)
  | opcUaNode (namespaceIndex : UInt16) (identifier : OpcUaNodeId)
  | cipSymbol (symbol : String) (symbolRaw : Option (List UInt8))
  | cipPath (classId : UInt16) (instanceId : UInt32) (attributeId : Option UInt16)
  | dnpPoint (group : UInt8) (variation : UInt8) (index : UInt32)
  | iec104Ioa (commonAddr : UInt16) (ioa : UInt32) (typeId : UInt8)
  | iec61850Reference (reference : String) (referenceRaw : Option (List UInt8))
  | sparkplugMetric (groupId edgeNodeId : String) (deviceId metricName : Option String)
      (metricNameRaw : Option (List UInt8)) (aliasId : Option UInt64)
  | hartCommand (command : UInt8) (slot : Option UInt8)
  | pcccAddress (fileType fileNumber : UInt8) (element : UInt16) (subElement : Option UInt8)
  | synchrophasorChannel (idcode : UInt16) (stationName : Option String) (channelIndex : UInt16)
      (channelName : Option String) (channelType : SynchrophasorChannelType)
deriving DecidableEq

/-- A typed value; the two floating-point variants hold their bit patterns. -/
inductive PointValue where
  | null
  | bool (value : Bool)
  | int8 (value : Int8)
  | int16 (value : Int16)
  | int32 (value : Int32)
  | int64 (value : Int64)
  | uint8 (value : UInt8)
  | uint16 (value : UInt16)
  | uint32 (value : UInt32)
  | uint64 (value : UInt64)
  | float (bits : UInt32)
  | double (bits : UInt64)
  | text (value : String)
  | bytes (value : List UInt8)
  | dateTime (micros : UInt64)
deriving DecidableEq

inductive RawQuality where
  | none
  | dnpFlags (bits : UInt8)
  | iec104Qds (bits : UInt8)
  | opcUaStatusCode (code : UInt32)
  | iec61850Quality (bits : UInt16)
  | sparkplugQuality (value : Option UInt32) (isHistorical isTransient isNull : Bool)
  | cipGeneralStatus (code : UInt8)
  | hartFieldDeviceStatus (bits : UInt8)
deriving DecidableEq

structure ProcessReading where
  sourceProtocol : String
  pointId : PointIdentifier
  value : PointValue
  quality : RawQuality
  sourceTs : Option UInt64
  observedTs : UInt64
deriving DecidableEq

/-! ## Events and batches -/

inductive BronzeEventFamily where
  | protocolTransaction (tx : ProtocolTransaction)
  | assetObservation (obs : AssetObservation)
  | topologyObservation (obs : TopologyObservation)
  | parseAnomaly (anomaly : ParseAnomaly)
  | extractedArtifact (artifact : ExtractedArtifact)
  | processReading (reading : ProcessReading)
deriving DecidableEq

structure BronzeEvent where
  (captureId schemaVersion : String)
  envelope : EventEnvelope
  family : BronzeEventFamily
deriving DecidableEq

structure SegmentCheckpoint where
  (captureId schemaVersion segmentHash : String)
  (framesProcessed eventsEmitted : Nat)
deriving DecidableEq

structure BronzeBatch where
  (captureId schemaVersion segmentHash : String)
  events : List BronzeEvent
  checkpoint : SegmentCheckpoint
deriving DecidableEq

def newEvent (captureId : String) (envelope : EventEnvelope) (family : BronzeEventFamily) :
    BronzeEvent :=
  { captureId
    schemaVersion := bronzeSchemaVersion
    envelope
    family }

end MarlinspikeDpi
