import MarlinspikeDpi.Engine.Decoder
import MarlinspikeDpi.Foundation.Fifo
import MarlinspikeDpi.Foundation.Mealy
import MarlinspikeDpi.NetFlow.Records

/-!
# Flow export datagrams

A v9 or IPFIX datagram is a header and a sequence of sets.
-/

namespace MarlinspikeDpi.NetFlow

open Engine Bytes

/-! ## State -/

abbrev TemplateKey : Type := String × UInt32 × UInt16

def templateCap : Nat := 1024

structure Seen where
  (exporters collectors : List String)
  flowEndpoints : List (String × String)

structure NetFlowDecoder where
  seen : Seen
  templates : Table TemplateKey TemplateRecord
  templateOrder : List TemplateKey

def NetFlowDecoder.default : NetFlowDecoder := ⟨⟨[], [], []⟩, ∅, []⟩

/-! ## Events -/

def makeEnvelope (chunk : StreamChunk) : EventEnvelope :=
  buildEnvelope chunk.context chunk.toFrameInfo .udp (some "netflow") chunk.sessionKey

def txEvent (chunk : StreamChunk) (operation : String) (attributes : OrderedMap String String)
    (objectRefs : List String) : BronzeEvent :=
  newEvent chunk.captureId (makeEnvelope chunk) (.protocolTransaction
    { operation
      status := "observed"
      objectRefs
      attributes })

def assetEvent (chunk : StreamChunk) (assetKey role : String)
    (identifiers : OrderedMap String String) : BronzeEvent :=
  newEvent chunk.captureId (makeEnvelope chunk) (.assetObservation
    { assetKey
      role := some role
      protocols := ["netflow"]
      identifiers })

def anomaly (chunk : StreamChunk) (severity reason : String) : BronzeEvent :=
  parseAnomalyEvent chunk.captureId (makeEnvelope chunk) "netflow" severity reason chunk.payload

/-! ## The two dialects -/

inductive Dialect where
  | v9
  | ipfix
deriving DecidableEq

namespace Dialect

def templateReceived : Dialect → String
  | v9 => "netflow_template_received"
  | ipfix => "ipfix_template_received"

def flowRecord : Dialect → String
  | v9 => "netflow_flow_record"
  | ipfix => "ipfix_flow_record"

def dataSkipped : Dialect → String
  | v9 => "netflow_data_flowset_skipped"
  | ipfix => "ipfix_data_set_skipped"

def domainName : Dialect → String
  | v9 => "source_id"
  | ipfix => "observation_domain_id"

def unresolved (dialect : Dialect) (domain : UInt32) (templateId : UInt16) : String :=
  "template_unresolved: " ++ (match dialect with
      | v9 => "v9 source_id="
      | ipfix => "ipfix domain=") ++
    toString domain.toNat ++ " template_id=" ++ toString templateId.toNat

def templatesIn (dialect : Dialect) (isOptions : Bool) (body : List UInt8) : List TemplateRecord :=
  match dialect, isOptions with
  | v9, false => v9Templates body.length body
  | v9, true => v9OptionsTemplates body.length body
  | ipfix, false => ipfixTemplates body.length body
  | ipfix, true => ipfixOptionsTemplates body.length body

/-- Is a set with this id one of templates, and if so, of options templates? -/
def templateSet? : Dialect → UInt16 → Option Bool
  | v9, id => if id = 0 then some false else if id = 1 then some true else none
  | ipfix, id => if id = 2 then some false else if id = 3 then some true else none

end Dialect

structure Source where
  dialect : Dialect
  chunk : StreamChunk
  domain : UInt32

def Source.exporter (source : Source) : String := source.chunk.context.srcIp.display

def Source.key (source : Source) (templateId : UInt16) : TemplateKey :=
  (source.exporter, source.domain, templateId)

/-! ## Template sets -/

namespace NetFlowDecoder

def storeTemplate (d : NetFlowDecoder) (key : TemplateKey) (record : TemplateRecord) :
  NetFlowDecoder := let f := Fifo.store templateCap ⟨d.templates, d.templateOrder⟩ key record
  { d with templates := f.entries, templateOrder := f.order }

def emitTemplateLifecycle (source : Source) (record : TemplateRecord) : BronzeEvent :=
  txEvent source.chunk source.dialect.templateReceived
    (((OrderedMap.empty.insert "template_id" (toString record.templateId.toNat)).insert
      "field_count" (toString record.fields.length)).insert
      "is_options_template" (toString record.isOptions)) []

def receiveTemplate (source : Source) (d : NetFlowDecoder) (record : TemplateRecord) :
    List BronzeEvent × NetFlowDecoder :=
  ([emitTemplateLifecycle source record], d.storeTemplate (source.key record.templateId) record)

/-- `parse_v9_template_flowset` and `parse_ipfix_template_set`. -/
def parseTemplateSet (d : NetFlowDecoder) (source : Source) (isOptions : Bool) (data : List UInt8) :
    List BronzeEvent × NetFlowDecoder :=
  Mealy.run (receiveTemplate source) d (source.dialect.templatesIn isOptions (data.drop 4))

/-! ## Data sets -/

/-- The bytes of the records that are decoded. In IPFIX, records end where one begins with a zero
byte. -/
def rawRecords (dialect : Dialect) (len : Nat) : Nat → List UInt8 → List (List UInt8)
  | 0, _ => []
  | fuel + 1, data =>
    if data.length < len then []
    else if dialect = .ipfix ∧ byteAt data 0 = 0 ∧ 1 < len then []
    else data.take len :: rawRecords dialect len fuel (data.drop len)

/-- A record is reported with its attributes, and its source address as an asset the first time. -/
def emitRecord (source : Source) (fields : List TemplateField) (d : NetFlowDecoder)
    (raw : List UInt8) : List BronzeEvent × NetFlowDecoder :=
  let (attr, objRefs) := decodeRecordFields raw fields
  if attr.isEmpty then ([], d)
  else
    let record := txEvent source.chunk source.dialect.flowRecord attr objRefs
    match sourceIp attr with
    | none => ([record], d)
    | some srcIp =>
      if (source.exporter, srcIp) ∈ d.seen.flowEndpoints then ([record], d)
      else
        ([assetEvent source.chunk srcIp "flow_endpoint" (OrderedMap.empty.insert "ip" srcIp),
          record], { d with seen :=
              { d.seen with flowEndpoints := (source.exporter, srcIp) :: d.seen.flowEndpoints } })

def decodeWith (d : NetFlowDecoder) (source : Source) (fields : List TemplateField)
  (data : List UInt8) : List BronzeEvent × NetFlowDecoder := if recordLen fields = 0 then ([], d)
  else
    let body := data.drop 4
    Mealy.run (emitRecord source fields) d
      (rawRecords source.dialect (recordLen fields) body.length body)

def skippedEvents (source : Source) (templateId : UInt16) : List BronzeEvent :=
  [anomaly source.chunk "low" (source.dialect.unresolved source.domain templateId),
    txEvent source.chunk source.dialect.dataSkipped
      (((OrderedMap.empty.insert source.dialect.domainName (toString source.domain.toNat)).insert
        "template_id" (toString templateId.toNat)).insert "reason" "template_unresolved") []]

/-- `decode_v9_data_flowset` and `decode_ipfix_data_set`. -/
def decodeDataSet (d : NetFlowDecoder) (source : Source) (templateId : UInt16) (data : List UInt8) :
  List BronzeEvent × NetFlowDecoder := match d.templates.lookup (source.key templateId) with
  | some record =>
    if record.isOptions then (skippedEvents source templateId, d)
    else d.decodeWith source record.fields data
  | none => (skippedEvents source templateId, d)

/-! ## Datagrams -/

end NetFlowDecoder

/-- The sets of a datagram behind its header: their ids, and their bytes where these are all there.
A set whose length is impossible or runs past the end is the last one. -/
def splitSets : Nat → List UInt8 → List (UInt16 × Option (List UInt8))
  | 0, _ => []
  | fuel + 1, data =>
    if data.length < 4 then []
    else
      let len := (u16At data 2).toNat
      if len < 4 ∨ data.length < len then [(u16At data 0, none)]
      else (u16At data 0, some (data.take len)) :: splitSets fuel (data.drop len)

namespace NetFlowDecoder

def handleSet (source : Source) (d : NetFlowDecoder) (set : UInt16 × Option (List UInt8)) :
    List BronzeEvent × NetFlowDecoder :=
  match set with
  | (_, none) => ([], d)
  | (id, some data) =>
    match source.dialect.templateSet? id with
    | some isOptions => d.parseTemplateSet source isOptions data
    | none => if 256 ≤ id then d.decodeDataSet source id data else ([], d)

variable (d : NetFlowDecoder)

def emitAssets (chunk : StreamChunk) (version : String) : List BronzeEvent × NetFlowDecoder :=
  let src := chunk.context.srcIp.display
  let dst := chunk.context.dstIp.display
  let (exporter, exporters) :=
    if src ∈ d.seen.exporters then ([], d.seen.exporters)
    else
      ([assetEvent chunk src "netflow_exporter"
          ((OrderedMap.empty.insert "ip" src).insert "flow_export_version" version)],
        src :: d.seen.exporters)
  let (collector, collectors) :=
    if dst ∈ d.seen.collectors then ([], d.seen.collectors)
    else
      ([assetEvent chunk dst "netflow_collector" (OrderedMap.empty.insert "ip" dst)],
        dst :: d.seen.collectors)
  (exporter ++ collector, { d with seen := { d.seen with exporters, collectors } })

def num (n : Nat) : String := toString n

def handleV5 (chunk : StreamChunk) : List BronzeEvent × NetFlowDecoder :=
  let data := chunk.payload
  if data.length < 24 then ([anomaly chunk "medium" "NetFlow v5 too short for header"], d)
  else
    let count := (u16At data 2).toNat
    let samp := u16At data 22
    let expected := 24 + count * 48
    let mismatch :=
      if data.length = expected then []
      else
        [anomaly chunk "medium" ("NetFlow v5 length mismatch: count=" ++ num count ++ " expects " ++
          num expected ++ "B got " ++ num data.length ++ "B")]
    let attr := OrderedMap.empty.extend
      [("version", "5"), ("record_count", num count), ("flow_sequence", num (u32At data 16).toNat),
        ("engine_type", num (byteAt data 20).toNat), ("engine_id", num (byteAt data 21).toNat),
        ("sampling_mode", num (samp >>> 14).toNat),
          ("sampling_interval", num (samp &&& 0x3FFF).toNat),
        ("unix_secs", num (u32At data 8).toNat), ("sys_uptime_ms", num (u32At data 4).toNat)]
    let (assets, d) := d.emitAssets chunk "5"
    (mismatch ++ [txEvent chunk "netflow_v5_export" attr []] ++ assets, d)

def setIds (sets : List (UInt16 × Option (List UInt8))) : String :=
  ",".intercalate (sets.map fun set => num set.1.toNat)

def v9Source (chunk : StreamChunk) : Source := ⟨.v9, chunk, u32At chunk.payload 16⟩

def ipfixSource (chunk : StreamChunk) : Source := ⟨.ipfix, chunk, u32At chunk.payload 12⟩

def handleV9 (chunk : StreamChunk) : List BronzeEvent × NetFlowDecoder :=
  let data := chunk.payload
  if data.length < 20 then ([anomaly chunk "medium" "NetFlow v9 too short for header"], d)
  else
    let sets := splitSets data.length (data.drop 20)
    let (events, d) := Mealy.run (handleSet (v9Source chunk)) d sets
    let attr := OrderedMap.empty.extend
      [("version", "9"), ("flowset_count", num (u16At data 2).toNat), ("flowset_ids", setIds sets),
        ("package_sequence", num (u32At data 12).toNat), ("source_id", num (u32At data 16).toNat),
        ("unix_secs", num (u32At data 8).toNat), ("sys_uptime_ms", num (u32At data 4).toNat)]
    let (assets, d) := d.emitAssets chunk "9"
    (events ++ [txEvent chunk "netflow_v9_export" attr []] ++ assets, d)

def handleIpfix (chunk : StreamChunk) : List BronzeEvent × NetFlowDecoder :=
  let data := chunk.payload
  if data.length < 16 then ([anomaly chunk "medium" "IPFIX too short for header"], d)
  else
    let totalLength := (u16At data 2).toNat
    let mismatch :=
      if totalLength = data.length then []
      else
        [anomaly chunk "medium" ("IPFIX length field " ++ num totalLength ++
          " disagrees with datagram " ++ num data.length ++ "B")]
    let sets := splitSets data.length (data.drop 16)
    let (events, d) := Mealy.run (handleSet (ipfixSource chunk)) d sets
    let attr := OrderedMap.empty.extend
      [("version", "10"), ("set_ids", setIds sets), ("total_length", num totalLength),
        ("export_time", num (u32At data 4).toNat), ("sequence_number", num (u32At data 8).toNat),
        ("observation_domain_id", num (u32At data 12).toNat)]
    let (assets, d) := d.emitAssets chunk "10"
    (mismatch ++ events ++ [txEvent chunk "ipfix_export" attr []] ++ assets, d)

def onDatagram (chunk : StreamChunk) : List BronzeEvent × NetFlowDecoder :=
  let data := chunk.payload
  if data.length < 2 then ([anomaly chunk "medium" "datagram too short for version field"], d)
  else
    let version := (u16At data 0).toNat
    if version = 5 then d.handleV5 chunk
    else if version = 9 then d.handleV9 chunk
    else if version = 10 then d.handleIpfix chunk
    else
      ([anomaly chunk "low" ("unsupported NetFlow/IPFIX version " ++ num version),
        txEvent chunk ("netflow_unknown_v" ++ num version)
          (OrderedMap.empty.insert "version" (num version)) []], d)

def onIdleFlush : NetFlowDecoder :=
  { seen := { d.seen with flowEndpoints := [] }, templates := ∅, templateOrder := [] }

end NetFlowDecoder

instance : SessionDecoder NetFlowDecoder where
  name _ := "netflow"
  interest _ := [.udpPort 2055, .udpPort 4739, .udpPort 9995, .udpPort 9996]
  onDatagram := NetFlowDecoder.onDatagram
  onIdleFlush d _ := ([], d.onIdleFlush)

end MarlinspikeDpi.NetFlow
