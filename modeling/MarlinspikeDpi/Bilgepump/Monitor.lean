import MarlinspikeDpi.Bilgepump.Detectors
import MarlinspikeDpi.Engine.Packet

/-!
# The layer-2 monitor and its place in the engine

`BilgepumpMonitor` puts the detectors behind one switch.
-/

namespace MarlinspikeDpi.Bilgepump

open Engine

structure BilgepumpMonitor where
  config : BilgepumpConfig
  arp : ArpDetector
  mac : MacDetector
  stp : StpDetector
  dhcp : DhcpDetector
  identity : IdentityDetector

/-! ## Reading an address back -/

/-- A decimal number below 256; a plus sign and leading zeros are fine. -/
def parseU8 (s : List Char) : Option UInt8 :=
  let digits := if 1 < s.length ∧ s.head? = some '+' then s.tail else s
  if digits ≠ [] ∧ digits.all Char.isDigit then
    let n := digits.foldl (fun acc c => acc * 10 + (c.toNat - 48)) 0
    if n < 256 then some (UInt8.ofNat n) else none
  else none

def parseIpv4 (s : String) : Option Ipv4Addr :=
  match s.toList.splitOn '.' with
  | [a, b, c, d] => do return ⟨← parseU8 a, ← parseU8 b, ← parseU8 c, ← parseU8 d⟩
  | _ => none

/-! ## The monitor -/

namespace BilgepumpMonitor

def new (config : BilgepumpConfig) : BilgepumpMonitor :=
  { config, arp := ArpDetector.default, mac := MacDetector.default, stp := StpDetector.default,
    dhcp := DhcpDetector.default, identity := IdentityDetector.default }

variable (m : BilgepumpMonitor)

def inspectL2Frame (rawFrame : List UInt8) (srcMac : MacAddr) : List BilgepumpAlert :=
  if ¬ m.config.enabled then []
  else inspectVlanTags rawFrame m.config ++ MacDetector.inspectMac srcMac m.config

def observeArp (fields : ArpFields) (srcMac : MacAddr)
    (vlanId : Option UInt16) (now : DateTime) : List BilgepumpAlert × BilgepumpMonitor :=
  if ¬ m.config.enabled then ([], m)
  else
    let observed := m.arp.observe fields m.config now
    -- the claimed address counts for the MAC address of the frame, not the one in the message
    let associated := m.mac.observeIpAssociation srcMac fields.senderIp vlanId m.config now
    (observed.1 ++ associated.1, { m with arp := observed.2, mac := associated.2 })

def observeStp (fields : StpFields) (now : DateTime) : List BilgepumpAlert × BilgepumpMonitor :=
  if ¬ m.config.enabled then ([], m)
  else
    let observed := m.stp.observe fields m.config now
    (observed.1, { m with stp := observed.2 })

/-- The address that an acknowledgement (5) assigns. -/
def assignedIp (fields : DhcpFields) : Option Ipv4Addr :=
  if fields.messageType = some 5 then fields.yiaddr.bind parseIpv4 else none

def observeDhcp (fields : DhcpFields) (srcMac : MacAddr) (now : DateTime) :
  List BilgepumpAlert × BilgepumpMonitor := if ¬ m.config.enabled then ([], m)
  else
    let observed := m.dhcp.observe fields srcMac m.config now
    (observed.1,
      { m with
        dhcp := observed.2
        arp :=
          match assignedIp fields with
          | some ip => m.arp.recordDhcpBinding fields.clientMac ip now
          | none => m.arp })

def observeLldp (fields : LldpFields) (srcMac : MacAddr) (now : DateTime) :
  List BilgepumpAlert × BilgepumpMonitor := if ¬ m.config.enabled then ([], m)
  else
    let observed := m.identity.observeLldp fields srcMac m.config now
    (observed.1, { m with identity := observed.2 })

def observeCdp (fields : CdpFields) (srcMac : MacAddr) (now : DateTime) :
  List BilgepumpAlert × BilgepumpMonitor := if ¬ m.config.enabled then ([], m)
  else
    let observed := m.identity.observeCdp fields srcMac m.config now
    (observed.1, { m with identity := observed.2 })

def evictExpired (now : DateTime) : BilgepumpMonitor :=
  let ttl := m.config.defaultStateTtlSecs
  { m with
    arp := m.arp.evict now ttl
    mac := m.mac.evict now ttl
    dhcp := m.dhcp.evict now ttl
    identity := m.identity.evict now m.config.identityTtlSecs }

end BilgepumpMonitor

/-! ## The monitors of the engine -/

/-- The inspectors that keep no state: of frames, and of ICMP messages. -/
class FrameInspector (ι : Type) where
  inspectFrame : ι → List UInt8 → Nat → UInt32 → UInt16 → List UInt8 → Nat → List Finding
  inspectIcmp : ι → List UInt8 → List Finding

instance : FrameInspector Unit where
  inspectFrame _ _ _ _ _ _ _ := []
  inspectIcmp _ _ := []

structure Monitors (ι : Type) where
  inspector : ι
  bilgepump : BilgepumpMonitor

def BilgepumpAlert.finding (alert : BilgepumpAlert) : Finding :=
  { decoder := alert.decoder, severity := alert.severity.asStr, reason := alert.reason }

namespace Monitors

variable {ι : Type}

def observing {α : Type} (m : Monitors ι) (message? : Option α)
    (observe : α → List BilgepumpAlert × BilgepumpMonitor) : List Finding × Monitors ι :=
  match message? with
  | none => ([], m)
  | some message =>
    ((observe message).1.map BilgepumpAlert.finding, { m with bilgepump := (observe message).2 })

end Monitors

instance {ι : Type} [FrameInspector ι] : FrameMonitors (Monitors ι) where
  inspectFrame m := FrameInspector.inspectFrame m.inspector
  inspectL2Frame m rawFrame srcMac :=
    (m.bilgepump.inspectL2Frame rawFrame srcMac).map BilgepumpAlert.finding
  observeArp m chunk := m.observing (ArpDissector.parse chunk.payload) fun fields =>
      m.bilgepump.observeArp fields chunk.context.srcMac chunk.context.vlanId chunk.timestamp
  observeLldp m chunk := m.observing (LldpDissector.parse chunk.payload) fun fields =>
      m.bilgepump.observeLldp fields chunk.context.srcMac chunk.timestamp
  inspectIcmp m := FrameInspector.inspectIcmp m.inspector
  evictExpired m now := { m with bilgepump := m.bilgepump.evictExpired now }

end MarlinspikeDpi.Bilgepump
