import MarlinspikeDpi.Net

/-!
# The messages that the layer-2 monitor observes

ARP and STP messages have a fixed layout.
-/

namespace MarlinspikeDpi

open Bytes Text

/-- The records at the front of some data, one behind the other.  `record?` reads the first one and
says how many bytes it has behind its first; the walk ends where `record?` gives up. -/
def chain {α : Type} (record? : List UInt8 → Option (α × Nat)) : Nat → List UInt8 → List α
  | _, [] => []
  | skip + 1, _ :: rest => chain record? skip rest
  | 0, b :: rest =>
    match record? (b :: rest) with
    | none => []
    | some (value, more) => value :: chain record? more rest

def bitNames (names : List (Nat × String)) (bits : Nat) : List String :=
  names.filterMap fun (mask, name) => if bits &&& mask ≠ 0 then some name else none

/-! ## ARP -/

structure ArpFields where
  operation : UInt16
  senderMac : MacAddr
  senderIp : Ipv4Addr
  targetMac : MacAddr
  targetIp : Ipv4Addr
deriving DecidableEq

def ArpDissector.parse (data : List UInt8) : Option ArpFields :=
  if data.length < 28 then none
  else
    some
      { operation := be16 (byteAt data 6) (byteAt data 7), senderMac := MacAddr.ofBytes data 8,
        senderIp := Ipv4Addr.ofBytes data 14, targetMac := MacAddr.ofBytes data 18,
        targetIp := Ipv4Addr.ofBytes data 24 }

/-! ## LLDP -/

structure LldpFields where
  (chassisId portId : String)
  ttl : UInt16
  (systemName systemDescription : String)
  capabilities : List String

namespace LldpDissector

def formatTlvValue (value : List UInt8) (subtype : UInt8) : String :=
  if subtype = 4 then
    -- a MAC address, unless it has the wrong length
    if value.length = 6 then ":".intercalate (value.map fun b => hexPad 2 b.toNat)
    else hexEncode value
  else if 5 ≤ subtype ∧ subtype ≤ 7 then utf8Lossy value
  else (utf8Strict value).getD (hexEncode value)

def capabilityNames : List (Nat × String) :=
  [(0x0001, "Other"), (0x0002, "Repeater"), (0x0004, "Bridge"), (0x0008, "WLAN AP"),
    (0x0010, "Router"), (0x0020, "Telephone"), (0x0040, "DOCSIS"), (0x0080, "Station Only")]

def tlv? (data : List UInt8) : Option ((UInt8 × List UInt8) × Nat) :=
  if data.length < 2 then none
  else
    let header := be16 (byteAt data 0) (byteAt data 1)
    let tlvType := (header >>> 9).toUInt8
    let tlvLen := (header &&& 0x01FF).toNat
    if data.length - 2 < tlvLen then none
    else if tlvType = 0 then none
    else some ((tlvType, slice data 2 tlvLen), 1 + tlvLen)

def note (fields : LldpFields) : UInt8 × List UInt8 → LldpFields
  | (tlvType, value) =>
    if tlvType = 1 then
      if 1 < value.length then
        { fields with chassisId := formatTlvValue value.tail (byteAt value 0) }
      else fields
    else if tlvType = 2 then
      if 1 < value.length then
        { fields with portId := formatTlvValue value.tail (byteAt value 0) }
      else fields
    else if tlvType = 3 then
      if 2 ≤ value.length then { fields with ttl := be16 (byteAt value 0) (byteAt value 1) }
      else fields
    else if tlvType = 5 then { fields with systemName := utf8Lossy value }
    else if tlvType = 6 then { fields with systemDescription := utf8Lossy value }
    else if tlvType = 7 then
      -- the second half: the capabilities that are enabled
      if 4 ≤ value.length then
        { fields with
          capabilities := fields.capabilities ++
            bitNames capabilityNames (be16 (byteAt value 2) (byteAt value 3)).toNat }
      else fields
    else fields

def parse (data : List UInt8) : Option LldpFields :=
  let fields := (chain tlv? 0 data).foldl note
    { chassisId := "", portId := "", ttl := 0, systemName := "", systemDescription :=
      "", capabilities := [] }
  if fields.chassisId = "" then none else some fields

end LldpDissector

/-! ## STP -/

structure StpFields where
  (protocolVersion bpduType flags : UInt8)
  rootId : String
  rootPathCost : UInt32
  bridgeId : String
  (portId helloTime maxAge forwardDelay : UInt16)

namespace StpDissector

def formatBridgeId (bytes : List UInt8) : String :=
  if bytes.length ≠ 8 then hexEncode bytes
  else
    toString (be16 (byteAt bytes 0) (byteAt bytes 1)).toNat ++ "/" ++ formatMac
      (MacAddr.ofBytes bytes 2)

def parseFields (data : List UInt8) : Option StpFields :=
  if data.length < 35 then none
  else if be16 (byteAt data 0) (byteAt data 1) ≠ 0 then none
  else
    some
      { protocolVersion := byteAt data 2
        bpduType := byteAt data 3
        flags := byteAt data 4
        rootId := formatBridgeId (slice data 5 8)
        rootPathCost := UInt32.ofNat (beNat (slice data 13 4))
        bridgeId := formatBridgeId (slice data 17 8)
        portId := be16 (byteAt data 25) (byteAt data 26)
        -- the message age between port and maximum age is not kept
        maxAge := be16 (byteAt data 29) (byteAt data 30)
        helloTime := be16 (byteAt data 31) (byteAt data 32)
        forwardDelay := be16 (byteAt data 33) (byteAt data 34) }

end StpDissector

/-! ## CDP -/

structure CdpFields where
  (version ttl : UInt8)
  checksum : UInt16
  (deviceId portId : String)
  (platform softwareVersion : Option String)
  capabilities : List String
  nativeVlan : Option UInt16
  duplex : Option String
  managementAddresses : List String

namespace CdpDissector

def capabilityNames : List (Nat × String) :=
  [(0x0001, "router"), (0x0002, "transparent_bridge"), (0x0004, "source_route_bridge"),
    (0x0008, "switch"), (0x0010, "host"), (0x0020, "igmp"), (0x0040, "repeater"),
    (0x0080, "phone"), (0x0100, "docsis_cable_device"), (0x0200, "two_port_mac_relay"),
    (0x0400, "wlan_access_point"), (0x0800, "repeater_legacy")]

def tlv? (data : List UInt8) : Option ((UInt16 × List UInt8) × Nat) :=
  if data.length < 4 then none
  else
    let tlvLen := (be16 (byteAt data 2) (byteAt data 3)).toNat
    if tlvLen < 4 ∨ data.length < tlvLen then none
    else some ((be16 (byteAt data 0) (byteAt data 1), slice data 4 (tlvLen - 4)), tlvLen - 1)

def text (value : List UInt8) : String := trimEndMatches (· == Char.ofNat 0) (utf8Lossy value)

def textOr (earlier : Option String) (value : List UInt8) : Option String :=
  if text value = "" then earlier else some (text value)

def duplexName (b : UInt8) : String :=
  if b = 0 then "half" else if b = 1 then "full" else "0x" ++ hexPad 2 b.toNat

/-- The port is optional while the chain is read. -/
structure Partial where
  deviceId : String
  (portId platform softwareVersion : Option String)
  capabilities : List String
  nativeVlan : Option UInt16
  duplex : Option String

def note (fields : Partial) : UInt16 × List UInt8 → Partial
  | (tlvType, value) =>
    -- an empty device id replaces an earlier one, other empty texts do not
    if tlvType = 0x0001 then { fields with deviceId := text value }
    else if tlvType = 0x0003 then { fields with portId := textOr fields.portId value }
    else if tlvType = 0x0004 then
      if 4 ≤ value.length then
        { fields with
          capabilities :=
            fields.capabilities ++ bitNames capabilityNames (beNat (slice value 0 4)) }
      else fields
    else if tlvType = 0x0005 then
      { fields with softwareVersion := textOr fields.softwareVersion value }
    else if tlvType = 0x0006 then { fields with platform := textOr fields.platform value }
    else if tlvType = 0x000A then
      if 2 ≤ value.length then
        { fields with nativeVlan := some (be16 (byteAt value 0) (byteAt value 1)) }
      else fields
    else if tlvType = 0x000B then { fields with duplex := value.head?.map duplexName }
    else fields

def parseFields (data : List UInt8) : Option CdpFields :=
  if data.length < 4 then none
  else
    let fields := (chain tlv? 0 (data.drop 4)).foldl note
      { deviceId := "", portId := none, platform := none, softwareVersion := none,
        capabilities := [], nativeVlan := none, duplex := none }
    if fields.deviceId = "" then none
    else
      some
        { version := byteAt data 0, ttl := byteAt data 1,
          checksum := be16 (byteAt data 2) (byteAt data 3), deviceId := fields.deviceId,
          portId := fields.portId.getD "", platform := fields.platform,
          softwareVersion := fields.softwareVersion, capabilities := fields.capabilities,
          nativeVlan := fields.nativeVlan, duplex := fields.duplex, managementAddresses := [] }

end CdpDissector

/-! ## DHCP -/

structure DhcpFields where
  op : UInt8
  xid : UInt32
  clientMac : MacAddr
  (ciaddr yiaddr siaddr giaddr : Option String)
  messageType : Option UInt8
  (hostname clientId vendorClass requestedIp serverId : Option String)

namespace DhcpDissector

def magicCookie : List UInt8 := [0x63, 0x82, 0x53, 0x63]

def ipv4FromBytes (bytes : List UInt8) : Option String :=
  if bytes.length = 4 then some (Ipv4Addr.ofBytes bytes 0).display else none

def optionalIpv4 (data : List UInt8) (i : Nat) : Option String :=
  let addr := Ipv4Addr.ofBytes data i
  if addr.display = "0.0.0.0" then none else some addr.display

def lossyString (bytes : List UInt8) : String :=
  trimMatches isWhiteSpace (trimMatches (· == Char.ofNat 0) (utf8Lossy bytes))

def formatClientId (bytes : List UInt8) : String :=
  if bytes = [] then ""
  else if bytes.all fun b => (0x21 ≤ b && b ≤ 0x7E) || b == 0x20 then lossyString bytes
  else ":".intercalate (bytes.map fun b => hexPad 2 b.toNat)

/-- Up to six bytes of the client's hardware address; the rest is zero. -/
def clientMacOf (data : List UInt8) : MacAddr :=
  let macLen := min (min (byteAt data 2).toNat 16) 6
  MacAddr.ofBytes (slice data 28 macLen) 0

inductive OptionRecord where
  | pad
  | option (code : UInt8) (value : List UInt8)
  /-- The data ends within an option. -/
  | truncated

/-- One option, or a single padding byte; 255 ends the chain. -/
def option? (data : List UInt8) : Option (OptionRecord × Nat) :=
  let code := byteAt data 0
  if code = 0 then some (.pad, 0)
  else if code = 255 then none
  else if data.length < 2 then some (.truncated, data.length)
  else
    let len := (byteAt data 1).toNat
    if data.length < 2 + len then some (.truncated, data.length)
    else some (.option code (slice data 2 len), 1 + len)

def note (fields : DhcpFields) : OptionRecord → Option DhcpFields
  | .pad => some fields
  | .truncated => none
  | .option code value => some <|
      if code = 12 then { fields with hostname := some (lossyString value) }
      else if code = 50 then { fields with requestedIp := ipv4FromBytes value }
      else if code = 53 then { fields with messageType := value.head? }
      else if code = 54 then { fields with serverId := ipv4FromBytes value }
      else if code = 60 then { fields with vendorClass := some (lossyString value) }
      else if code = 61 then { fields with clientId := some (formatClientId value) }
      else fields

def parseDhcp (data : List UInt8) : Option DhcpFields :=
  if data.length < 240 ∨ slice data 236 4 ≠ magicCookie then none
  else
    (chain option? 0 (data.drop 240)).foldlM note
      { op := byteAt data 0, xid := UInt32.ofNat (beNat (slice data 4 4)),
        clientMac := clientMacOf data, ciaddr := optionalIpv4 data 12,
        yiaddr := optionalIpv4 data 16, siaddr := optionalIpv4 data 20,
        giaddr := optionalIpv4 data 24, messageType := none, hostname := none, clientId := none,
        vendorClass := none, requestedIp := none, serverId := none }

end DhcpDissector
end MarlinspikeDpi
