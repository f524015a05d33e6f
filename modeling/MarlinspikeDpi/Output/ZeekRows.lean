import MarlinspikeDpi.Bronze
import MarlinspikeDpi.Foundation.Json

/-!
# The rows of the Zeek logs

The model of the row renderers of `output/zeek.rs`. A row is a JSON object whose `_path` names the
log it belongs to.
-/

namespace MarlinspikeDpi.Zeek

open Text OrderedMap

/-- What the renderer takes from libraries: the form of a timestamp, and Unicode's alphanumeric
characters. -/
class Locale where
  formatTs : DateTime → String
  isAlphanumeric : Char → Bool

/-- Timestamps as nanoseconds, and the ASCII alphanumeric characters. -/
@[reducible] def Locale.sample : Locale where
  formatTs := fun ts => toString ts.nanos
  isAlphanumeric := Char.isAlphanum

/-! ## Events -/

structure Dnp3BronzeFields where
  (sourceAddr destinationAddr : UInt16)
  (dllControl transportSeq : UInt8)
  (transportFir transportFin : Bool)
  applicationFunctionCode : UInt8
  applicationFunctionName : String
  applicationSeq : UInt8
  iinFlags : Option UInt16
  direction : String
  objectGroups : List UInt8

/-- The typed payload of a transaction. The renderer looks into two variants and only serialises the
others: their tag and their serialised fields are kept. -/
inductive ProtocolFields where
  | modbus (fields : ModbusBronzeFields)
  | dnp3 (fields : Dnp3BronzeFields)
  | other (tag : String) (fields : Json)

structure Event where
  bronze : BronzeEvent
  protocolFields : Option ProtocolFields

abbrev Event.envelope (e : Event) : EventEnvelope := e.bronze.envelope

abbrev Event.family (e : Event) : BronzeEventFamily := e.bronze.family

def object (entries : List (String × Json)) : Json := Json.ofMap (OrderedMap.empty.extend entries)

def ModbusBronzeFields.toValue (m : ModbusBronzeFields) : Json :=
  object
    [("fc", .num m.fc.toNat), ("start_addr", Json.ofOption (m.startAddr.map (·.toNat))),
      ("qty", Json.ofOption (m.qty.map (·.toNat))),
        ("values", .arr (m.values.map fun v => .num v.toNat)),
      ("exception_code", Json.ofOption (m.exceptionCode.map (·.toNat))),
        ("direction", .str m.direction)]

def Dnp3BronzeFields.toValue (d : Dnp3BronzeFields) : Json :=
  object <| [("source_addr", .num d.sourceAddr.toNat),
    ("destination_addr", .num d.destinationAddr.toNat),
      ("dll_control", .num d.dllControl.toNat), ("transport_seq", .num d.transportSeq.toNat),
      ("transport_fir", .bool d.transportFir), ("transport_fin", .bool d.transportFin),
      ("application_function_code", .num d.applicationFunctionCode.toNat),
      ("application_function_name", .str d.applicationFunctionName),
      ("application_seq", .num d.applicationSeq.toNat)] ++
    (d.iinFlags.map fun i => ("iin_flags", Json.num i.toNat)).toList ++
    [("direction", .str d.direction),
      ("object_groups", .arr (d.objectGroups.map fun g => .num g.toNat))]

def ProtocolFields.toEntries : ProtocolFields → List (String × Json)
  | .modbus m => [("fields", ModbusBronzeFields.toValue m), ("protocol", .str "modbus")]
  | .dnp3 d => [("fields", Dnp3BronzeFields.toValue d), ("protocol", .str "dnp3")]
  | .other tag fields => [("fields", fields), ("protocol", .str tag)]

/-! ## Connection identifiers -/

def base62 : List Char := "ABCDEFGHIJKLMNOPQRSTUVWXYZabcdefghijklmnopqrstuvwxyz0123456789".toList

def fnvStep (prime : UInt64) (h : UInt64) (b : UInt8) : UInt64 := (h ^^^ b.toUInt64) * prime

/-- The last `n` digits of a number in base 62, the lowest first. -/
def base62Digits : Nat → UInt64 → List Char
  | 0, _ => []
  | n + 1, val => base62.getD (val % 62).toNat 'A' :: base62Digits n (val / 62)

def connUid (sessionKey : String) : String :=
  let h1 := (utf8 sessionKey).foldl (fnvStep 0x00000100000001b3) 0xcbf29ce484222325
  let h2 := (utf8 sessionKey).foldl (fnvStep 0x000001000000019b) 0x517cc1b727220a95
  -- the two halves are mixed by rotations: left by 17, right by 31
  let h2 := h2 + ((h1 <<< 17) ||| (h1 >>> 47))
  let h1 := h1 + ((h2 >>> 31) ||| (h2 <<< 33))
  String.ofList (base62Digits 9 h1 ++ base62Digits 9 h2)

/-! ## Common parts -/

abbrev Row := OrderedMap String Json

def Row.path (row : Row) : Option String :=
  match row.get "_path" with
  | some (.str path) => some path
  | _ => none

def systemName : String := "marlinspike-dpi"

def idFields (env : EventEnvelope) : List (String × Json) :=
  [("id.orig_h", .str (env.srcIp.getD "-")),
    ("id.orig_p", .num ((env.srcPort.map (·.toNat)).getD 0)),
    ("id.resp_h", .str (env.dstIp.getD "-")),
      ("id.resp_p", .num ((env.dstPort.map (·.toNat)).getD 0))]

def startRow (path : String) (fields : List (String × Json)) : Row :=
  (OrderedMap.empty.insert "_path" (.str path)).extend fields

lemma path_startRow (path : String) {fields : List (String × Json)}
    (h : "_path" ∉ fields.map Prod.fst) : Row.path (startRow path fields) = some path := by
  rw [Row.path, startRow, get_extend_of_not_mem h, get_insert_self]

section

variable [Locale]

def fmtTs (ts : DateTime) : String := Locale.formatTs ts

variable (e : Event)

def stampFields : List (String × Json) :=
  [("_write_ts", .str (fmtTs e.envelope.timestamp)), ("_system_name", .str systemName),
    ("ts", .str (fmtTs e.envelope.timestamp))]

def commonHeader (path : String) (e : Event) : Row :=
  startRow path (stampFields e ++ [("uid", .str (connUid e.envelope.sessionKey))] ++
    idFields e.envelope)

/-- A row of a log: the common header, and then the fields of the log. -/
def row (path : String) (e : Event) (fields : List (String × Json)) : Row :=
  (commonHeader path e).extend fields

variable (tx : ProtocolTransaction)

def attrOr (keys : List String) : String := (keys.findSome? tx.attributes.get).getD "-"

/-- The first object reference, or else the first of some attributes that is there, or a dash. -/
def refOr (keys : List String) : String :=
  (tx.objectRefs.head?.or (keys.findSome? tx.attributes.get)).getD "-"

def attrNum (bound : Nat) (tx : ProtocolTransaction) (key : String) : Option Nat :=
  (tx.attributes.get key).bind (parseUnsigned bound)

def isSuccess : Bool := contains "ok" (toAsciiLowercase tx.status) || contains "success"
    (toAsciiLowercase tx.status)

/-! ## Connections -/

def transportStr : TransportProtocol → String
  | .tcp => "tcp"
  | .udp => "udp"
  | .icmp => "icmp"
  | .ethernet => "ethernet"
  | .arp => "arp"
  | .ipv4 => "ipv4"
  | .unknown => "-"

def connStateFromStatus (status : String) : String :=
  let lower := toAsciiLowercase status
  if lower ∈ ["ok", "success", "successful", "complete", "response"] then "SF"
  else if contains "reset" lower || contains "rst" lower then "RSTR"
  else if contains "timeout" lower then "S0"
  else if contains "reject" lower || contains "denied" lower || contains "abort" lower then "REJ"
  else "OTH"

def renderConn : Row :=
  row "conn" e
    [("proto", .str (transportStr e.envelope.transport)),
      ("service", .str (e.envelope.protocol.getD "-")),
      ("orig_bytes", .num e.envelope.bytesCount), ("resp_bytes", .num 0),
      ("conn_state", .str (match e.family with
        | .protocolTransaction tx => connStateFromStatus tx.status
        | _ => "OTH")),
      ("orig_pkts", .num e.envelope.packetCount)]

/-! ## Information technology -/

def splitComma (s : String) : List String :=
  (s.toList.splitOn ',').map fun part => trimMatches isWhiteSpace (String.ofList part)

def renderDns : Row :=
  row "dns" e
    [("query", .str (refOr tx ["query_name"])), ("qtype_name", .str (attrOr tx ["query_type"])),
      ("rcode_name", .str (attrOr tx ["rcode"])),
      ("answers", Json.strings (match tx.attributes.get "answers" with
        | some answers => splitComma answers
        | none => tx.values.filterMap (·.value))),
      ("TTLs", .arr (match tx.attributes.get "ttls" with
        | some ttls => (splitComma ttls).map fun s => .num ((parseUnsigned (2 ^ 64) s).getD 0)
        | none => []))]

def renderHttp : Row :=
  row "http" e
    [("method", .str tx.operation), ("host", .str (attrOr tx ["host"])),
      ("uri", .str (refOr tx ["uri", "url"])),
        ("status_code", Json.ofOption (attrNum (2 ^ 32) tx "status_code")),
      ("status_msg", .str (attrOr tx ["status_msg"])),
        ("user_agent", .str (attrOr tx ["user_agent"])),
      ("resp_mime_types", .str (attrOr tx ["content_type"]))]

def renderSsl : Row :=
  row "ssl" e
    [("version", .str (attrOr tx ["version"])), ("cipher", .str (attrOr tx ["cipher"])),
      ("server_name", .str (attrOr tx ["server_name", "sni"])),
        ("established", .bool (isSuccess tx))]

def renderSsh : Row :=
  row "ssh" e
    [("version", .num ((attrNum 256 tx "version").getD 2)), ("auth_success", .bool (isSuccess tx)),
      ("client", .str (attrOr tx ["client_banner", "client"])),
      ("server", .str (attrOr tx ["server_banner", "server"]))]

def isMapping : Bool :=
  let opLower := toAsciiLowercase tx.operation
  contains "tree_connect" opLower || contains "tree connect" opLower || contains "negotiate"
    opLower || contains "session" opLower

def renderSmbMapping : Row :=
  row "smb_mapping" e
    [("path", .str (refOr tx ["share_name", "tree"])),
      ("share_type", .str (attrOr tx ["share_type"])), ("native_file_system", .str "-")]

def renderSmbFiles : Row :=
  row "smb_files" e
    [("action", .str tx.operation), ("name", .str (refOr tx ["filename"])),
      ("size", Json.ofOption (attrNum (2 ^ 64) tx "file_size")),
      ("times.modified", .str (attrOr tx ["last_modified"]))]

def renderSmb : Row :=
  if isMapping tx then renderSmbMapping e tx else renderSmbFiles e tx

def renderKerberos : Row :=
  let opUpper := toAsciiUppercase tx.operation
  row "kerberos" e
    [("request_type", .str (if contains "AS" opUpper then "AS"
        else if contains "TGS" opUpper then "TGS"
        else tx.operation)),
      ("client", .str (attrOr tx ["client", "cname", "principal"])),
      ("service", .str (attrOr tx ["service", "sname"])), ("success", .bool (isSuccess tx)),
      ("error_msg", .str (if isSuccess tx then "-" else tx.status)),
      ("forwardable", .bool (tx.attributes.get "forwardable" == some "true")),
      ("renewable", .bool (tx.attributes.get "renewable" == some "true"))]

def renderLdap : Row :=
  row "ldap" e
    [("operation", .str tx.operation), ("object", .str (refOr tx ["dn"])),
      ("search_filter", .str (attrOr tx ["filter"])),
        ("search_base_object", .str (attrOr tx ["base_dn"])),
      ("result_code", .str (attrOr tx ["result_code"])),
      ("diagnostic_message", .str (attrOr tx ["error_message"]))]

def renderDhcp : Row :=
  row "dhcp" e
    [("mac", .str (attrOr tx ["client_mac", "mac"])),
      ("host_name", .str (attrOr tx ["hostname", "host_name"])),
      ("requested_addr", .str (attrOr tx ["requested_ip", "requested_addr"])),
      ("assigned_addr", .str (attrOr tx ["assigned_ip", "yiaddr"])),
        ("msg_type", .str tx.operation)]

def renderNtp : Row :=
  row "ntp" e
    [("version", .num ((attrNum 256 tx "version").getD 4)),
      ("mode", .num ((attrNum 256 tx "mode").getD 0)),
      ("stratum", .num ((attrNum 256 tx "stratum").getD 0)),
      ("poll", .num (((tx.attributes.get "poll").bind parseI8).getD 0))]

def renderSnmp : Row :=
  row "snmp" e
    [("version", .str (attrOr tx ["version"])), ("community", .str (attrOr tx ["community"])),
      ("get_requests", .num ((attrNum (2 ^ 32) tx "get_requests").getD 0)),
      ("set_requests", .num ((attrNum (2 ^ 32) tx "set_requests").getD 0))]

def renderRdp : Row :=
  row "rdp" e
    [("cookie", .str (attrOr tx ["cookie"])), ("result", .str tx.status),
      ("security_protocol", .str (attrOr tx ["security_protocol", "protocol"])),
      ("keyboard_layout", .str (attrOr tx ["keyboard_layout"])),
      ("client_build", .str (attrOr tx ["client_build"]))]

/-! ## Control systems -/

def modbusFcName (fc : UInt8) : String :=
  match fc with
  | 1 => "READ_COILS"
  | 2 => "READ_DISCRETE_INPUTS"
  | 3 => "READ_HOLDING_REGISTERS"
  | 4 => "READ_INPUT_REGISTERS"
  | 5 => "WRITE_SINGLE_COIL"
  | 6 => "WRITE_SINGLE_REGISTER"
  | 7 => "READ_EXCEPTION_STATUS"
  | 8 => "DIAGNOSTICS"
  | 11 => "GET_COMM_EVENT_COUNTER"
  | 12 => "GET_COMM_EVENT_LOG"
  | 15 => "WRITE_MULTIPLE_COILS"
  | 16 => "WRITE_MULTIPLE_REGISTERS"
  | 17 => "REPORT_SERVER_ID"
  | 20 => "READ_FILE_RECORD"
  | 21 => "WRITE_FILE_RECORD"
  | 22 => "MASK_WRITE_REGISTER"
  | 23 => "READ_WRITE_MULTIPLE_REGISTERS"
  | 24 => "READ_FIFO_QUEUE"
  | 43 => "ENCAPSULATED_INTERFACE_TRANSPORT"
  | _ => "UNKNOWN"

def modbusTyped (m : ModbusBronzeFields) : List (String × Json) :=
  [("func", .str (modbusFcName m.fc)),
    ("exception", .str ((m.exceptionCode.map fun c => toString c.toNat).getD "-"))] ++
    (m.startAddr.map fun addr => ("start_addr", Json.num addr.toNat)).toList ++
    (m.qty.map fun q => ("qty", Json.num q.toNat)).toList ++
    if m.values.length > 0 then [("values_count", .num m.values.length)] else []

/-- The typed payload comes before the older one, and that before the attributes. -/
def renderModbus : Row :=
  row "modbus" e (match e.protocolFields, tx.modbus with
    | some (.modbus m), _ => modbusTyped m
    | _, some m => modbusTyped m
    | _, none =>
      [("func", .str ((tx.attributes.get "function_code").getD tx.operation)),
        ("exception", .str "-")])

def renderDnp3 : Row :=
  row "dnp3" e (match e.protocolFields with
    | some (.dnp3 d) =>
      (if d.direction = "request" then
        [("fc_request", .str d.applicationFunctionName), ("fc_reply", .str "-"), ("iin", .str "-")]
      else
        [("fc_request", .str "-"), ("fc_reply", .str d.applicationFunctionName),
          ("iin", .str ((d.iinFlags.map fun i => "0x" ++ hexPad 4 i.toNat).getD "-"))]) ++
      [("src_addr", .num d.sourceAddr.toNat), ("dst_addr", .num d.destinationAddr.toNat)] ++
      if d.objectGroups.isEmpty then []
      else [("object_groups", .arr (d.objectGroups.map fun g => .num g.toNat))]
    | _ => [("fc_request", .str tx.operation), ("fc_reply", .str "-"), ("iin", .str "-")])

/-- Any other protocol: everything the transaction has, the typed payload under keys of its own. -/
def renderIcs : Row :=
  row "ics" e <|
    [("protocol", .str (e.envelope.protocol.getD "-")), ("operation", .str tx.operation),
      ("status", .str tx.status)] ++
    (tx.requestSummary.map fun req => ("request_summary", Json.str req)).toList ++
    (tx.responseSummary.map fun resp => ("response_summary", Json.str resp)).toList ++
    (if tx.objectRefs.isEmpty then [] else [("object_refs", Json.strings tx.objectRefs)]) ++
    (if tx.attributes.isEmpty then []
      else [("attributes", .obj (tx.attributes.entries.map fun a => (a.1, .str a.2)))]) ++
    ((e.protocolFields.map ProtocolFields.toEntries).getD []).map fun f => ("pf_" ++ f.1, f.2)

/-! ## Assets and anomalies -/

def renderSoftware (obs : AssetObservation) : Row :=
  startRow "software" <| stampFields e ++ [("host", .str (e.envelope.srcIp.getD "-")),
      ("software_type", .str (toAsciiUppercase (obs.role.getD "other"))),
      ("name", .str (match obs.vendor, obs.model with
        | some v, some mo => v ++ " " ++ mo
        | some v, none => v
        | none, some mo => mo
        | none, none => obs.assetKey)),
      ("version", object [("major", .str (obs.firmware.getD "-")), ("minor", .str "-"),
        ("minor2", .str "-"), ("addl", .str "-")])] ++
    (obs.hostnames.head?.map fun name => ("host_p", Json.str name)).toList ++
    [("protocols", Json.strings obs.protocols)]

def slugifyReason (reason : String) : String :=
  trimMatches (· == '_') (String.ofList
    ((reason.toList.map fun c => if Locale.isAlphanumeric c then c.toLower else '_').take 32))

def weirdNotice (severity : String) : Bool := toAsciiLowercase severity ∈ ["high", "critical"]

def renderWeird (an : ParseAnomaly) : Row :=
  startRow "weird" <| stampFields e ++ [("uid", .str (connUid e.envelope.sessionKey))] ++
    idFields e.envelope ++
    [("name", .str (an.decoder ++ "_" ++ slugifyReason an.reason)), ("addl", .str an.reason),
      ("notice", .bool (weirdNotice an.severity)), ("peer", .str systemName)]

/-! ## Which log a row belongs to -/

lemma path_commonHeader (path : String) (e : Event) : Row.path (commonHeader path e) = some path :=
  path_startRow path (by simp [stampFields, idFields])

lemma path_row (path : String) (e : Event) {fields : List (String × Json)}
    (h : "_path" ∉ fields.map Prod.fst) : Row.path (row path e fields) = some path := by
  rw [← path_commonHeader, Row.path, Row.path, row, get_extend_of_not_mem h]

end

end MarlinspikeDpi.Zeek
