import MarlinspikeDpi.Iec61850.Dissector
import MarlinspikeDpi.Net

/-!
# Which payloads a dissector claims

Classification only asks a dissector for its name and whether it can parse a payload seen with given
ports.
-/

namespace MarlinspikeDpi

open Bytes Text

structure ProtocolDissector where
  name : String
  canParse : List UInt8 → UInt16 → UInt16 → Bool

namespace Dissectors

/-! ## Two families -/

def onPorts (ports : List UInt16) (srcPort dstPort : UInt16) : Bool :=
  ports.any fun port => srcPort == port || dstPort == port

def portDissector (name : String) (ports : List UInt16) (content : List UInt8 → Bool) :
    ProtocolDissector where
  name
  canParse data srcPort dstPort := onPorts ports srcPort dstPort && content data

def layer2Dissector (name : String) (content : List UInt8 → Bool) : ProtocolDissector where
  name
  canParse data srcPort dstPort := srcPort == 0 && dstPort == 0 && content data

lemma portDissector_accepts {name : String} {ports : List UInt16} {content : List UInt8 → Bool}
    {data : List UInt8} {srcPort dstPort : UInt16}
    (h : (portDissector name ports content).canParse data srcPort dstPort = true) :
    dstPort ∈ ports ∨ srcPort ∈ ports := by
  simp only [portDissector, onPorts, Bool.and_eq_true, List.any_eq_true, Bool.or_eq_true,
    beq_iff_eq] at h
  rcases h with ⟨⟨port, hport, rfl | rfl⟩, _⟩
  · exact Or.inr hport
  · exact Or.inl hport

/-! ## Reading fields -/

def wordBe (data : List UInt8) (i : Nat) : Nat := (be16 (byteAt data i) (byteAt data (i + 1))).toNat

def wordLe (data : List UInt8) (i : Nat) : Nat := (be16 (byteAt data (i + 1)) (byteAt data i)).toNat

/-! ## Dissectors with well-known ports -/

/-- MBAP header with a plausible length, then a function code other than zero. -/
def modbus : ProtocolDissector := portDissector "modbus" [502] fun data =>
    let mbapLength := wordBe data 4
    8 ≤ data.length && wordBe data 2 == 0 && (2 ≤ mbapLength && mbapLength ≤ 253) &&
      !(data.length < 6 + mbapLength || 6 + mbapLength + 6 < data.length) &&
      1 ≤ byteAt data 7 &&& 0x7F

def dnp3 : ProtocolDissector := portDissector "dnp3" [20000] fun data =>
    10 ≤ data.length && byteAt data 0 == 0x05 && byteAt data 1 == 0x64

def validMsgTypes : List (List UInt8) := ["HEL", "ACK", "OPN", "CLO", "MSG", "ERR", "RHE"].map utf8

def opcUa : ProtocolDissector := portDissector "opc_ua" [4840, 12001] fun data =>
    8 ≤ data.length && validMsgTypes.any fun msgType => data.take 3 == msgType

/-- TPKT and COTP headers, then the S7 protocol id. -/
def s7comm : ProtocolDissector := portDissector "s7comm" [102] fun data =>
    7 ≤ data.length && byteAt data 0 == 0x03 &&
      data[5 + (byteAt data 4).toNat]? == some 0x32

/-- Is registered for port 2222 as well, but looks at 44818 only. -/
def ethernetIp : ProtocolDissector := portDissector "ethernet_ip" [44818] fun data =>
    24 ≤ data.length && [0x0001, 0x0004, 0x0063, 0x0064, 0x0065, 0x0066, 0x006F, 0x0070].contains
      (wordLe data 0)

/-- Accepts what `parse_hart_ip_frame` parses: a header whose length field fits. -/
def hartIp : ProtocolDissector := portDissector "hart_ip" [5094] fun data =>
    8 ≤ data.length && 8 ≤ wordBe data 6 && wordBe data 6 ≤ data.length

def iec104 : ProtocolDissector := portDissector "iec104" [2404] fun data =>
    6 ≤ data.length && byteAt data 0 == 0x68 && (byteAt data 1).toNat + 2 ≤ data.length

def bacnet : ProtocolDissector where
  name := "bacnet"
  canParse data srcPort dstPort :=
    if onPorts [47808] srcPort dstPort && 6 ≤ data.length && byteAt data 0 == 0x81 then true
    else 3 ≤ data.length && byteAt data 0 == 0x01

def omronFins : ProtocolDissector := portDissector "omron_fins" [9600] fun data =>
    if (utf8 "FINS").isPrefixOf data then 16 ≤ data.length
    else 10 ≤ data.length && byteAt data 1 == 0x00 && byteAt data 2 ≤ 0x0F

def dns : ProtocolDissector := portDissector "dns" [53, 5353] fun data => 12 ≤ data.length

def dhcp : ProtocolDissector := portDissector "dhcp" [68, 67] fun data =>
    240 ≤ data.length && slice data 236 4 == [0x63, 0x82, 0x53, 0x63]

def snmp : ProtocolDissector :=
  portDissector "snmp" [161, 162] fun data => data.head? == some 0x30 && 8 ≤ data.length

def ntp : ProtocolDissector := portDissector "ntp" [123] fun data => 48 ≤ data.length

def radius : ProtocolDissector := portDissector "radius" [1812, 1813] fun data =>
    let code := byteAt data 0
    20 ≤ data.length && ((1 ≤ code && code ≤ 5) || (11 ≤ code && code ≤ 13) || (40 ≤ code && code ≤
      45))

def syslog : ProtocolDissector := portDissector "syslog" [514] fun data => data.head? == some 0x3C

def mqtt : ProtocolDissector := portDissector "mqtt" [1883, 8883] fun data =>
    !data.isEmpty && (1 : UInt8) ≤ (byteAt data 0 >>> 4) &&& 0x0F

/-! ## Dissectors without registered ports -/

def http : ProtocolDissector := portDissector "http" [80, 8080] fun data =>
    4 ≤ data.length && (["GET ", "POST", "PUT ", "DELE", "HEAD", "OPTI", "PATC",
        "HTTP"].map utf8).contains (data.take 4)

def ftp : ProtocolDissector := portDissector "ftp" [21] fun data => !data.isEmpty

def ssh : ProtocolDissector :=
  portDissector "ssh" [22] fun data => data.tails.any fun rest => (utf8 "SSH-").isPrefixOf rest

def arp : ProtocolDissector := layer2Dissector "arp" fun data =>
    28 ≤ data.length && wordBe data 0 == 1 && wordBe data 2 == 0x0800

def lldp : ProtocolDissector := layer2Dissector "lldp" fun data => 2 ≤ data.length

def cdp : ProtocolDissector := layer2Dissector "cdp" fun data =>
    4 ≤ data.length && (byteAt data 0 == 1 || byteAt data 0 == 2)

def stp : ProtocolDissector :=
  layer2Dissector "stp" fun data => 35 ≤ data.length && wordBe data 0 == 0

/-- Through the registry no EtherType is known, so only MMS is recognised. -/
def iec61850 : ProtocolDissector := portDissector "iec61850" [102] Iec61850.looksLikeMmsIsoOnTcp

def knownProfinetFrame (frameId : Nat) : Bool :=
  (0x0020 ≤ frameId && frameId ≤ 0x0081) || (0x0100 ≤ frameId && frameId ≤ 0xFBFF) ||
    (0xFC01 ≤ frameId && frameId ≤ 0xFCFF) || (0xFE01 ≤ frameId && frameId ≤ 0xFE04) ||
    (0xFEFC ≤ frameId && frameId ≤ 0xFEFF) || (0xFF00 ≤ frameId && frameId ≤ 0xFF01)

/-- On its own port any payload of two bytes; without ports a known frame id. -/
def profinet : ProtocolDissector where
  name := "profinet"
  canParse data srcPort dstPort :=
    if onPorts [34964] srcPort dstPort then 2 ≤ data.length
    else if srcPort = 0 ∧ dstPort = 0 then 2 ≤ data.length && knownProfinetFrame (wordBe data 0)
    else false

def isSupportedCommand (command : UInt8) : Bool := command ≤ 0x0E

/-- A frame header whose length fits, with a known command behind it; or a bare datagram. -/
def looksLikeEthercatFrame (data : List UInt8) : Bool :=
  let payloadLength := wordLe data 0 &&& 0x07FF
  if 2 ≤ data.length ∧ 12 ≤ payloadLength ∧ 2 + payloadLength ≤ data.length then
    isSupportedCommand (byteAt data 2)
  else
    12 ≤ data.length && isSupportedCommand (byteAt data 0)

def ethercat : ProtocolDissector where
  name := "ethercat"
  canParse data _ _ := looksLikeEthercatFrame data

def vtp : ProtocolDissector :=
  layer2Dissector "vtp" fun data => 36 ≤ data.length && 1 ≤ byteAt data 0 && byteAt data 0 ≤ 3

def mrp : ProtocolDissector := layer2Dissector "mrp" fun data => 5 ≤ data.length

def mstp : ProtocolDissector := layer2Dissector "mstp" fun data =>
    38 ≤ data.length && wordBe data 0 == 0 && 3 ≤ byteAt data 2

def pvst : ProtocolDissector :=
  layer2Dissector "pvst" fun data => 35 ≤ data.length && wordBe data 0 == 0

def prp : ProtocolDissector := layer2Dissector "prp" fun data => 6 ≤ data.length

def lacp : ProtocolDissector :=
  layer2Dissector "lacp" fun data => 42 ≤ data.length && byteAt data 0 == 0x01

end Dissectors
end MarlinspikeDpi
