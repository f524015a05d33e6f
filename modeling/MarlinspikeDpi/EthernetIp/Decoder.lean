import MarlinspikeDpi.Engine.Decoder
import MarlinspikeDpi.EthernetIp.Pccc

/-!
# Encapsulated CIP messages

Each chunk is read as one encapsulation message and reported as a transaction, with the identities
that it claims and the CIP data as an artifact.
-/

namespace MarlinspikeDpi.EthernetIp

open Text Bytes Engine

/-! ## The encapsulation -/

structure EthernetIpFields where
  command : UInt16
  sessionHandle : UInt32
  cipData : List UInt8

def u16At (data : List UInt8) (i : Nat) : UInt16 := UInt16.ofNat (leNat (slice data i 2))

def u32At (data : List UInt8) (i : Nat) : UInt32 := UInt32.ofNat (leNat (slice data i 4))

def EthernetIpDissector.parse (data : List UInt8) : Option EthernetIpFields :=
  if data.length < 24 then none
  else
    some
      { command := u16At data 0, sessionHandle := u32At data 4, cipData :=
        slice data 24 (u16At data 2).toNat }

def ethernetIpCommandName (command : UInt16) : String :=
  match command with
  | 0x0001 => "nop"
  | 0x0004 => "list_services"
  | 0x0063 => "list_identity"
  | 0x0064 => "list_interfaces"
  | 0x0065 => "register_session"
  | 0x0066 => "unregister_session"
  | 0x006F => "send_rr_data"
  | 0x0070 => "send_unit_data"
  | _ => "encapsulation_command"

/-! ## CIP messages -/

def explicitItem : Nat → List UInt8 → Option (List UInt8)
  | 0, _ => none
  | count + 1, data =>
    if data.length < 4 then none
    else
      let itemLen := (u16At data 2).toNat
      let data' := data.drop 4
      if data'.length < itemLen then none
      else if u16At data 0 = 0x00B1 ∨ u16At data 0 = 0x00B2 then some (data'.take itemLen)
      else explicitItem count (data'.drop itemLen)

def cipExplicitMessage (cipData : List UInt8) : Option (List UInt8) :=
  if cipData.length < 8 then none else explicitItem (u16At cipData 6).toNat (cipData.drop 8)

/-- The service of the message, or else of the first byte that is not zero. -/
def cipServiceName (cipData : List UInt8) : Option String := do
  let service ← ((cipExplicitMessage cipData).bind List.head?).or (cipData.find? fun b => b != 0)
  match service &&& 0x7F with
  | 0x01 => some "get_attributes_all"
  | 0x4C => some "read_tag_service"
  | 0x4D => some "write_tag_service"
  | 0x0E => some "get_attribute_single"
  | 0x10 => some "set_attribute_single"
  | 0x54 => some "forward_open"
  | 0x52 => some "unconnected_send"
  | _ => none

def extractPcccPdu (message : List UInt8) : Option (Bool × List UInt8) := do
  let service ← message.head?
  let isRequest := service &&& 0x80 = 0
  if service &&& 0x7F ≠ 0x4B then none
  else if isRequest then
    if message.length < 2 then none
    else
      let headerLen := 2 + (byteAt message 1).toNat * 2
      if message.length < headerLen then none else some (true, message.drop headerLen)
  else if message.length < 4 then none
  else
    let headerLen := 4 + (byteAt message 3).toNat * 2
    if message.length < headerLen then none else some (false, message.drop headerLen)

/-! ## Identities -/

structure CipIdentityClaim where
  (vendorId deviceType productCode : UInt16)
  revision : String
  serialNumber : UInt32
  productName : String
  status : UInt16
  state : Option UInt8
  ipAddress : Option String

/-- The identity record, as both carriers of it have it, from its first byte on. -/
def identityRecord (body : List UInt8) (ipAddress : Option String) : Option CipIdentityClaim :=
  let nameLen := (byteAt body 14).toNat
  if body.length < 15 + nameLen then none
  else
    some
      { vendorId := u16At body 0
        deviceType := u16At body 2
        productCode := u16At body 4
        revision := toString (byteAt body 6).toNat ++ "." ++ toString (byteAt body 7).toNat
        status := u16At body 8
        serialNumber := u32At body 10
        productName := utf8Lossy (slice body 15 nameLen)
        state := body[15 + nameLen]?
        ipAddress }

def parseListIdentityItem (item : List UInt8) : Option CipIdentityClaim :=
  if item.length < 34 then none
  else
    let octet (i : Nat) : String := toString (byteAt item i).toNat
    identityRecord (item.drop 18)
      (some (octet 6 ++ "." ++ octet 7 ++ "." ++ octet 8 ++ "." ++ octet 9))

def identityItems : Nat → List UInt8 → List CipIdentityClaim
  | 0, _ => []
  | count + 1, data =>
    if data.length < 4 then []
    else
      let itemLen := (u16At data 2).toNat
      let data' := data.drop 4
      if data'.length < itemLen then []
      else
        (if u16At data 0 = 0x000C then (parseListIdentityItem (data'.take itemLen)).toList
          else []) ++
          identityItems count (data'.drop itemLen)

def parseEnipListIdentity (data : List UInt8) : List CipIdentityClaim :=
  if data.length < 2 then [] else identityItems (u16At data 0).toNat (data.drop 2)

def parseCipIdentityResponse (cipData : List UInt8) : Option CipIdentityClaim := do
  let message ← cipExplicitMessage cipData
  if message.length < 4 ∨ byteAt message 0 ≠ 0x81 ∨ byteAt message 2 ≠ 0 then none
  else
    let dataOffset := 4 + (byteAt message 3).toNat * 2
    if message.length < dataOffset + 15 then none
    else identityRecord (message.drop dataOffset) none

/-- `SendRRData` and `SendUnitData` carry CIP messages. -/
def carriesCip (command : UInt16) : Bool := command == 0x006F || command == 0x0070

def parseCipIdentityClaims (command : UInt16) (cipData : List UInt8) : List CipIdentityClaim :=
  if command = 0x0063 then parseEnipListIdentity cipData
  else if carriesCip command then (parseCipIdentityResponse cipData).toList
  else []

def cipVendorName (vendorId : UInt16) : Option String :=
  if vendorId = 1 then some "Rockwell Automation/Allen-Bradley" else none

def cipRoleFromDeviceType (deviceType : UInt16) : Option String :=
  if deviceType = 0x000E then some "plc"
  else if deviceType = 0x000C then some "adapter"
  else none

/-! ## Events -/

def chunkEnvelope (chunk : StreamChunk) : EventEnvelope :=
  buildEnvelope chunk.context chunk.toFrameInfo .tcp (some "ethernet_ip") chunk.sessionKey

def transaction (chunk : StreamChunk) (fields : EthernetIpFields) : BronzeEvent :=
  let commandName := ethernetIpCommandName fields.command
  let attributes :=
    (OrderedMap.empty.insert "session_handle" (toString fields.sessionHandle.toNat)).insert
      "encapsulation_command" ("0x" ++ hexPad 4 fields.command.toNat)
  let attributes :=
    match cipServiceName fields.cipData with
    | some service => attributes.insert "cip_service" service
    | none => attributes
  let attributes :=
    match (parseCipIdentityClaims fields.command fields.cipData).head? with
    | some identity =>
      (((attributes.insert "cip_vendor_id" (toString identity.vendorId.toNat)).insert
        "cip_product_code" (toString identity.productCode.toNat)).insert
        "cip_serial_number" (toString identity.serialNumber.toNat)).insert
        "cip_revision" identity.revision
    | none => attributes
  newEvent chunk.captureId (chunkEnvelope chunk) (.protocolTransaction
    { operation := commandName
      status := if chunk.context.dstPort = 44818 then "request" else "response"
      requestSummary := some (commandName ++ " session=" ++ toString fields.sessionHandle.toNat)
      objectRefs :=
        (cipServiceName fields.cipData).toList.map ("cip_service:" ++ ·) ++
          (if (parseCipIdentityResponse fields.cipData).isSome then ["cip_object:identity"] else [])
      attributes })

def identityObservation (chunk : StreamChunk) (identity : CipIdentityClaim) : BronzeEvent :=
  let assetKey := identity.ipAddress.getD chunk.context.srcIp.display
  let identifiers :=
    ((((((OrderedMap.empty.insert "ip" assetKey).insert "cip_vendor_id"
      (toString identity.vendorId.toNat)).insert
      "cip_device_type" (toString identity.deviceType.toNat)).insert
      "cip_product_code" (toString identity.productCode.toNat)).insert
      "cip_serial_number" (toString identity.serialNumber.toNat)).insert
      "cip_revision" identity.revision).insert
      "cip_status" (toString identity.status.toNat)
  newEvent chunk.captureId (chunkEnvelope chunk) (.assetObservation
    { assetKey
      role := cipRoleFromDeviceType identity.deviceType
      vendor := cipVendorName identity.vendorId
      model := some identity.productName
      firmware := some identity.revision
      protocols := ["ethernet_ip", "cip"]
      identifiers :=
        match identity.state with
        | some state => identifiers.insert "cip_state" (toString state.toNat)
        | none => identifiers })

/-! ## The decoder -/

structure EthernetIpDecoder where
  pcccDecoder : PcccDecoder

def EthernetIpDecoder.default : EthernetIpDecoder := ⟨PcccDecoder.new⟩

def pcccPdu? (fields : EthernetIpFields) : Option (Bool × List UInt8) :=
  if carriesCip fields.command ∧ fields.cipData ≠ [] then
    (cipExplicitMessage fields.cipData).bind extractPcccPdu
  else none

variable [External]

def cipArtifact (chunk : StreamChunk) (fields : EthernetIpFields) : BronzeEvent :=
  artifactEvent chunk.captureId (chunkEnvelope chunk) "cip_payload"
    (toString fields.sessionHandle.toNat ++ ":" ++ toString chunk.frameIndex)
    (some "application/octet-stream") (some "EtherNet/IP CIP payload") fields.cipData

def EthernetIpDecoder.onStreamChunk (d : EthernetIpDecoder) (chunk : StreamChunk) :
    List BronzeEvent × EthernetIpDecoder :=
  match EthernetIpDissector.parse chunk.payload with
  | none =>
    ([parseAnomalyEvent chunk.captureId (chunkEnvelope chunk) "ethernet_ip" "medium"
        "failed to parse ethernet/ip payload" chunk.payload], d)
  | some fields =>
    let identities := (parseCipIdentityClaims fields.command fields.cipData).map
      (identityObservation chunk)
    -- the source address is passed as the client's, for requests and for replies
    let (readings, pcccDecoder) :=
      match pcccPdu? fields with
      | some (isRequest, pdu) =>
        d.pcccDecoder.handlePdu pdu isRequest chunk.context.srcIp (chunkEnvelope chunk)
          chunk.captureId
      | none => ([], d.pcccDecoder)
    let artifacts :=
      if carriesCip fields.command ∧ fields.cipData ≠ [] then [cipArtifact chunk fields] else []
    (transaction chunk fields :: identities ++ readings ++ artifacts, ⟨pcccDecoder⟩)

instance : SessionDecoder EthernetIpDecoder where
  name _ := "ethernet_ip"
  interest _ := [.tcpPort 44818]
  onStreamChunk := EthernetIpDecoder.onStreamChunk

end MarlinspikeDpi.EthernetIp
