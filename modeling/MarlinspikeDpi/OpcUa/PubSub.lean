import MarlinspikeDpi.Engine.Decoder
import MarlinspikeDpi.OpcUa.Uadp

/-!
# The decoder of OPC UA PubSub datagrams

A datagram on port 4840 is reported with its header, with its publisher if that is new, and with
each of its data set messages.
-/

namespace MarlinspikeDpi.OpcUa
namespace PubSub

open Engine Bytes Text Reader

def dsmOperation (messageType : UInt8) : String :=
  match messageType with
  | 0 => "opc_ua_pubsub_data_key_frame"
  | 1 => "opc_ua_pubsub_data_delta_frame"
  | 2 => "opc_ua_pubsub_event_frame"
  | 3 => "opc_ua_pubsub_keep_alive"
  | _ => "opc_ua_pubsub_data_key_frame"

def fieldEncodingStr (encoding : UInt8) : String :=
  match encoding with
  | 0 => "variant"
  | 1 => "raw_data"
  | 2 => "data_value"
  | _ => "unknown"

/-! ## Events -/

variable (chunk : StreamChunk)

def envelope : EventEnvelope :=
  buildEnvelope chunk.context chunk.toFrameInfo .udp (some "opc_ua_pubsub") chunk.sessionKey

def anomaly (severity reason : String) : BronzeEvent :=
  parseAnomalyEvent chunk.captureId (envelope chunk) "opc_ua_pubsub" severity reason chunk.payload

def transaction (operation summary : String) (attributes : List (String × String)) : BronzeEvent :=
  newEvent chunk.captureId (envelope chunk) (.protocolTransaction
    { operation, status := "observed", requestSummary := some summary,
      attributes := OrderedMap.empty.extend attributes })

def attributeSome (key : String) (value : Option String) : List (String × String) :=
  (value.map (Prod.mk key)).toList

def number16 (value : Option UInt16) : Option String := value.map fun n => toString n.toNat

def writerIdsText (hdr : NetworkMessageHeader) : Option String :=
  if hdr.datasetWriterIds = [] then none
  else some (",".intercalate (hdr.datasetWriterIds.map fun id => toString id.toNat))

def publish (hdr : NetworkMessageHeader) : BronzeEvent :=
  transaction chunk "opc_ua_pubsub_publish"
    ("UADP NetworkMessage v" ++ toString hdr.uaVersion.toNat ++ " publisher=" ++
      hdr.publisherId.getD "<none>")
    ([("ua_version", toString hdr.uaVersion.toNat)] ++
      attributeSome "publisher_id" hdr.publisherId ++
      attributeSome "publisher_id_type" hdr.publisherIdType ++
      attributeSome "writer_group_id" (number16 hdr.writerGroupId) ++
      attributeSome "group_version" (hdr.groupVersion.map fun n => toString n.toNat) ++
      attributeSome "network_message_number" (number16 hdr.networkMessageNumber) ++
      attributeSome "sequence_number" (number16 hdr.sequenceNumber) ++
      attributeSome "dataset_class_id" hdr.datasetClassId ++
      [("dataset_writer_count", toString hdr.datasetWriterIds.length)] ++
      attributeSome "dataset_writer_ids" (writerIdsText hdr))

def publisherTopology (hdr : NetworkMessageHeader) (publisherId : String) : BronzeEvent :=
  newEvent chunk.captureId (envelope chunk) (.topologyObservation
    { observationType := "opc_ua_pubsub_publisher"
      localId := publisherId
      remoteId := none
      description := some "OPC UA PubSub publisher"
      capabilities := []
      metadata := OrderedMap.empty.extend (attributeSome "dataset_writer_ids" (writerIdsText hdr) ++
          attributeSome "writer_group_id" (number16 hdr.writerGroupId)) })

def publisherAsset (hdr : NetworkMessageHeader) (publisherId : String) : BronzeEvent :=
  newEvent chunk.captureId (envelope chunk) (.assetObservation
    { assetKey := "opc_ua_pubsub_publisher:" ++ publisherId
      role := some "opc_ua_publisher"
      protocols := ["opc_ua_pubsub"]
      identifiers := OrderedMap.empty.extend
        (attributeSome "publisher_id_type" hdr.publisherIdType ++ [("publisher_id", publisherId)])
          })

/-- A data set message, with the number of its fields that is reported. -/
def dsmTransaction (writerId : UInt16) (hdr : DsmHeader) (fieldCount : Nat) : BronzeEvent :=
  transaction chunk (dsmOperation hdr.messageType)
    ("UADP DSM writer_id=" ++ toString writerId.toNat ++ " fields=" ++ toString fieldCount)
    ([("dataset_writer_id", toString writerId.toNat), ("field_count", toString fieldCount),
        ("field_encoding", fieldEncodingStr hdr.fieldEncoding)] ++
      attributeSome "sequence_number" (number16 hdr.sequenceNumber) ++
      attributeSome "status_code" (number16 hdr.statusCode))

def readingEvent (reading : Reading) : BronzeEvent :=
  newEvent chunk.captureId (envelope chunk) (.processReading
    { sourceProtocol := "opc_ua_pubsub",
      pointId := .opcUaNode 0 (.numeric reading.pointIndex.toUInt32), value := reading.value,
      quality := reading.quality, sourceTs := reading.sourceTs,
      observedTs := UInt64.ofNat (DateTime.asU64 chunk.timestamp.timestampMicros) })

/-! ## Data set messages -/

def decodeFields (writerId : UInt16) (hdr : DsmHeader) (bytes : List UInt8) :
  List BronzeEvent × List UInt8 := match on (u16le "truncated: missing DSM FieldCount") bytes with
  | (.error reason, rest) => ([anomaly chunk "low" reason], rest)
  | (.ok fieldCount, rest) =>
    match readFields hdr fieldCount.toNat 0 rest with
    | ((readings, some reason), rest) =>
      (anomaly chunk "low" reason :: dsmTransaction chunk writerId hdr readings.length ::
        readings.map (readingEvent chunk), rest)
    | ((readings, none), rest) =>
      (dsmTransaction chunk writerId hdr fieldCount.toNat :: readings.map (readingEvent chunk),
        rest)

/-- One data set message, and what is left. Raw data and whatever cannot be read stay where they
are. -/
def decodeDsm (writerId : UInt16) (bytes : List UInt8) : List BronzeEvent × List UInt8 :=
  match on parseDsmHeader bytes with
  | (.error reason, rest) => ([anomaly chunk "low" reason], rest)
  | (.ok hdr, rest) =>
    if hdr.fieldEncoding = 1 then
      ([anomaly chunk "low"
        "RawData field encoding requires out-of-band PublishedDataSet config; skipped",
        dsmTransaction chunk writerId hdr 0], rest)
    else if hdr.messageType = 3 then ([dsmTransaction chunk writerId hdr 0], rest)
    else decodeFields chunk writerId hdr rest

/-- One data set message for each writer, as long as there are bytes. -/
def decodeDsms (chunk : StreamChunk) : List UInt16 → List UInt8 → List BronzeEvent
  | [], _ => []
  | writerId :: writerIds, bytes =>
    if bytes = [] then []
    else
      let (events, rest) := decodeDsm chunk writerId bytes
      events ++ decodeDsms chunk writerIds rest

/-- The payload of a network message; without a payload header it is one data set message. -/
def payloadEvents (writerIds : List UInt16) (payload : List UInt8) : List BronzeEvent :=
  if payload = [] then []
  else if writerIds = [] then (decodeDsm chunk 0 payload).1
  else decodeDsms chunk writerIds payload

/-! ## The decoder -/

structure OpcUaPubSubDecoder where
  (seenPublishers seenAssets : List String)

namespace OpcUaPubSubDecoder

def default : OpcUaPubSubDecoder := ⟨[], []⟩

def observePublisher (d : OpcUaPubSubDecoder) (chunk : StreamChunk) (hdr : NetworkMessageHeader) :
  List BronzeEvent × OpcUaPubSubDecoder := match hdr.publisherId with
  | none => ([], d)
  | some publisherId =>
    ((if publisherId ∈ d.seenPublishers then [] else [publisherTopology chunk hdr publisherId]) ++
        (if publisherId ∈ d.seenAssets then [] else [publisherAsset chunk hdr publisherId]),
      { seenPublishers := d.seenPublishers.insert publisherId
        seenAssets := d.seenAssets.insert publisherId })

def observeHeader (d : OpcUaPubSubDecoder) (chunk : StreamChunk) (hdr : NetworkMessageHeader) :
  List BronzeEvent × OpcUaPubSubDecoder := let version :=
    if hdr.uaVersion = 1 then []
      else [anomaly chunk "medium" "unexpected UADP ua_version (expected 1)"]
  let (publisher, d) := d.observePublisher chunk hdr
  (publish chunk hdr :: version ++ publisher, d)

def onDatagram (d : OpcUaPubSubDecoder) (chunk : StreamChunk) :
  List BronzeEvent × OpcUaPubSubDecoder := match on parseNetworkMessage chunk.payload with
  | (.error reason, _) => ([anomaly chunk "low" reason], d)
  | (.ok hdr, payload) =>
    let (events, d) := d.observeHeader chunk hdr
    (events ++ payloadEvents chunk hdr.datasetWriterIds payload, d)

end OpcUaPubSubDecoder

instance : SessionDecoder OpcUaPubSubDecoder where
  name _ := "opc_ua_pubsub"
  interest _ := [.udpPort 4840]
  onDatagram := OpcUaPubSubDecoder.onDatagram

end PubSub
end MarlinspikeDpi.OpcUa
