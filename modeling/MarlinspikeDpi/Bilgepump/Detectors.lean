import MarlinspikeDpi.Bilgepump.Config
import MarlinspikeDpi.Bilgepump.Dissectors
import MarlinspikeDpi.Engine.Link
import MarlinspikeDpi.Foundation.Table

/-!
# The detectors behind the layer-2 monitor

Each detector takes a parsed message and returns its alerts and its next state. A detector whose
check is switched off does neither.
-/

namespace MarlinspikeDpi.Bilgepump

open Bytes Text

/-! ## ARP -/

inductive BindingSource where
  | arp
  | dhcp
  | blessed
deriving DecidableEq

structure MacIpBinding where
  mac : MacAddr
  ip : Ipv4Addr
  (firstSeen lastSeen : DateTime)
  source : BindingSource
  blessed : Bool
deriving DecidableEq

structure ArpDetector where
  ipBindings : Table Ipv4Addr MacIpBinding
  replyCounters : Table MacAddr RateCounter

namespace ArpDetector

def default : ArpDetector :=
  { ipBindings := ∅, replyCounters := ∅ }

def isBlessed (config : BilgepumpConfig) (fields : ArpFields) : Bool :=
  config.blessedBindings.any fun b =>
    eqIgnoreAsciiCase b.mac (formatMac fields.senderMac) && b.ip == fields.senderIp.display

def isReply (fields : ArpFields) : Bool := fields.operation == 2

def isGratuitous (fields : ArpFields) : Bool :=
  fields.operation == 1 && fields.senderIp == fields.targetIp

def gratuitousAlerts (fields : ArpFields) : List BilgepumpAlert :=
  if isGratuitous fields then
    [{ kind := .arpGratuitous (formatMac fields.senderMac) fields.senderIp.display,
       severity := .medium, decoder := "bilgepump:arp_gratuitous" }]
  else []

variable (d : ArpDetector)

def countReplies (fields : ArpFields) (config : BilgepumpConfig) (now : DateTime) :
  List BilgepumpAlert × Table MacAddr RateCounter := if isReply fields || isGratuitous fields then
    let counter := (d.replyCounters.lookup fields.senderMac).getD RateCounter.default
    let (count, counter) := counter.record now config.arpFloodWindowSecs
    (if config.arpFloodThreshold ≤ count then
        [{ kind := .arpFlood (formatMac fields.senderMac) count config.arpFloodWindowSecs.value,
           severity := .high, decoder := "bilgepump:arp_flood" }]
      else [],
      d.replyCounters.insert fields.senderMac counter)
  else ([], d.replyCounters)

def spoofAlert (fields : ArpFields) (previousMac : MacAddr) : BilgepumpAlert :=
  { kind := .arpSpoofDetected fields.senderIp.display (formatMac fields.senderMac)
      (formatMac previousMac)
    severity := .critical
    decoder := "bilgepump:arp_spoof" }

/-- Has the binding gone without a claim for longer than its time to live? -/
def bindingExpired (config : BilgepumpConfig) (now : DateTime) (existing : MacIpBinding) : Bool :=
  config.arpBindingTtlSecs.nanos < now.nanos - existing.lastSeen.nanos

def spoofAlerts (fields : ArpFields) (config : BilgepumpConfig) (now : DateTime) :
  List BilgepumpAlert := match d.ipBindings.lookup fields.senderIp with
  | none => []
  | some existing =>
    if existing.mac ≠ fields.senderMac ∧ ¬ isBlessed config fields ∧ ¬ existing.blessed then
      if bindingExpired config now existing then [] else [spoofAlert fields existing.mac]
    else []

def newBinding (config : BilgepumpConfig) (fields : ArpFields) (now : DateTime) : MacIpBinding :=
  { mac := fields.senderMac
    ip := fields.senderIp
    firstSeen := now
    lastSeen := now
    source := if isBlessed config fields then .blessed else .arp
    blessed := isBlessed config fields }

/-- A later claim takes the binding over; source and blessing stay as they were created. -/
def claim (fields : ArpFields) (config : BilgepumpConfig) (now : DateTime) :
    Table Ipv4Addr MacIpBinding :=
  let binding := (d.ipBindings.lookup fields.senderIp).getD (newBinding config fields now)
  d.ipBindings.insert fields.senderIp { binding with mac := fields.senderMac, lastSeen := now }

def observe (fields : ArpFields) (config : BilgepumpConfig) (now : DateTime) :
  List BilgepumpAlert × ArpDetector := if ¬ config.checkArpSpoofing then ([], d)
  else
    let counted := countReplies d fields config now
    (gratuitousAlerts fields ++ counted.1 ++ spoofAlerts d fields config now,
      { ipBindings := claim d fields config now, replyCounters := counted.2 })

def evict (now : DateTime) (ttlSecs : Seconds) : ArpDetector :=
  { ipBindings := d.ipBindings.retain fun _ b => (ttlSecs.before now).nanos ≤ b.lastSeen.nanos
    replyCounters := d.replyCounters.retain fun _ c => 0 < c.count }

def recordDhcpBinding (mac : MacAddr) (ip : Ipv4Addr) (now : DateTime) : ArpDetector :=
  let binding := (d.ipBindings.lookup ip).getD
    { mac, ip, firstSeen := now, lastSeen := now, source := .dhcp, blessed := false }
  { d with
    ipBindings := d.ipBindings.insert ip
      { binding with mac, lastSeen := now, source := .dhcp } }

end ArpDetector

/-! ## MAC addresses -/

structure MacDetector where
  flapTrackers : Table MacAddr MacFlapTracker

namespace MacDetector

def default : MacDetector := ⟨∅⟩

def inspectMac (srcMac : MacAddr) (config : BilgepumpConfig) : List BilgepumpAlert :=
  if ¬ config.checkMacAnomalies then []
  else
    (if srcMac.b0 &&& 0x02 ≠ 0 ∧ srcMac ≠ MacAddr.zero then
      [{ kind := .macLocallyAdministered (formatMac srcMac), severity := .low, decoder :=
        "bilgepump:mac_local" }]
    else []) ++
    -- no frame should come from a group address; broadcast is let through
    (if srcMac.b0 &&& 0x01 ≠ 0 ∧ srcMac ≠ ⟨0xFF, 0xFF, 0xFF, 0xFF, 0xFF, 0xFF⟩ then
      [{ kind := .macMulticastSource (formatMac srcMac), severity := .high, decoder :=
        "bilgepump:mac_multicast" }]
    else [])

def observeIpAssociation (d : MacDetector) (mac : MacAddr) (ip : Ipv4Addr) (vlanId : Option UInt16)
    (config : BilgepumpConfig) (now : DateTime) : List BilgepumpAlert × MacDetector :=
  if ¬ config.checkMacAnomalies then ([], d)
  else
    let tracker := (d.flapTrackers.lookup mac).getD MacFlapTracker.default
    let (distinct, tracker) := tracker.record ip vlanId now config.macFlapWindowSecs
    (if config.macFlapThreshold ≤ distinct then
        [{ kind := .macFlapping (formatMac mac) distinct config.macFlapWindowSecs.value,
           severity := .high, decoder := "bilgepump:mac_flap" }]
      else [],
      ⟨d.flapTrackers.insert mac tracker⟩)

def evict (d : MacDetector) (now : DateTime) (ttlSecs : Seconds) : MacDetector :=
  ⟨d.flapTrackers.retain fun _ t =>
    match t.observations.getLast? with
    | some o => now.nanos - o.timestamp.nanos < ttlSecs.nanos
    | none => false⟩

end MacDetector

/-! ## VLAN tags -/

/-- Two tags with different VLANs, read from the frame before any tag is stripped. -/
def inspectVlanTags (rawFrame : List UInt8) (config : BilgepumpConfig) : List BilgepumpAlert :=
  if ¬ config.checkVlanHopping ∨ rawFrame.length < 22 then []
  else if ¬ Engine.isVlanTag (be16 (byteAt rawFrame 12) (byteAt rawFrame 13)) then []
  else
    let outerVlan := be16 (byteAt rawFrame 14) (byteAt rawFrame 15) &&& 0x0FFF
    let innerVlan := be16 (byteAt rawFrame 18) (byteAt rawFrame 19) &&& 0x0FFF
    if Engine.isVlanTag (be16 (byteAt rawFrame 16) (byteAt rawFrame 17)) ∧
      outerVlan ≠ innerVlan then
      [{ kind := .vlanHopping outerVlan innerVlan, severity := .critical, decoder :=
        "bilgepump:vlan_hop" }]
    else []

/-! ## STP -/

structure StpRootRecord where
  (rootId claimingBridge : String)
  (firstSeen lastSeen : DateTime)
  rootPathCost : UInt32

structure StpDetector where
  currentRoot : Option StpRootRecord

namespace StpDetector

def default : StpDetector := ⟨none⟩

def unauthorizedAlerts (fields : StpFields) (config : BilgepumpConfig) : List BilgepumpAlert :=
  if config.stpRootWhitelist ≠ [] ∧ fields.rootId ∉ config.stpRootWhitelist then
    [{ kind := .stpUnauthorizedRoot fields.bridgeId fields.rootId, severity := .high,
       decoder := "bilgepump:stp_unauthorized" }]
  else []

def rootChangeAlerts (d : StpDetector) (fields : StpFields) : List BilgepumpAlert :=
  match d.currentRoot with
  | none => []
  | some current =>
    if current.rootId ≠ fields.rootId then
      [{ kind := .stpRootChange current.rootId fields.rootId fields.bridgeId, severity := .high,
         decoder := "bilgepump:stp_root_change" }]
    else []

def observe (d : StpDetector) (fields : StpFields) (config : BilgepumpConfig) (now : DateTime) :
  List BilgepumpAlert × StpDetector := if ¬ config.checkStpManipulation then ([], d)
  else
    (unauthorizedAlerts fields config ++ rootChangeAlerts d fields, ⟨some
        { rootId := fields.rootId
          claimingBridge := fields.bridgeId
          firstSeen :=
            ((d.currentRoot.filter fun r => r.rootId == fields.rootId).map
              StpRootRecord.firstSeen).getD now
          lastSeen := now
          rootPathCost := fields.rootPathCost }⟩)

end StpDetector

/-! ## DHCP -/

structure DhcpServerRecord where
  serverId : String
  srcMac : MacAddr
  (firstSeen lastSeen : DateTime)
  offerCount : Nat

structure DhcpDetector where
  servers : Table String DhcpServerRecord
  requestCounter : RateCounter

namespace DhcpDetector

def default : DhcpDetector :=
  { servers := ∅, requestCounter := RateCounter.default }

/-- The server of an offer (2) or an acknowledgement (5). -/
def answeringServer (fields : DhcpFields) : Option String :=
  let msgType := fields.messageType.getD 0
  if msgType = 2 ∨ msgType = 5 then fields.serverId else none

def rogueAlerts (fields : DhcpFields) (srcMac : MacAddr) (config : BilgepumpConfig)
    (serverId : String) : List BilgepumpAlert :=
  if config.knownDhcpServers ≠ [] ∧ serverId ∉ config.knownDhcpServers then
    [{ kind := .rogueDhcpServer serverId (formatMac srcMac) fields.yiaddr, severity := .critical,
       decoder := "bilgepump:dhcp_rogue" }]
  else []

def trackServer (d : DhcpDetector) (srcMac : MacAddr) (now : DateTime) (serverId : String) :
    Table String DhcpServerRecord :=
  let record := (d.servers.lookup serverId).getD
    { serverId, srcMac, firstSeen := now, lastSeen := now, offerCount := 0 }
  d.servers.insert serverId { record with lastSeen := now, offerCount := record.offerCount + 1 }

/-- Discovers (1) and requests (3) are counted for all clients together. -/
def countRequests (d : DhcpDetector) (fields : DhcpFields) (config : BilgepumpConfig)
  (now : DateTime) : List BilgepumpAlert × RateCounter := let msgType := fields.messageType.getD 0
  if msgType = 1 ∨ msgType = 3 then
    let (count, counter) := d.requestCounter.record now config.dhcpStarvationWindowSecs
    (if config.dhcpStarvationThreshold ≤ count then
        [{ kind := .dhcpStarvation count config.dhcpStarvationWindowSecs.value, severity := .high,
           decoder := "bilgepump:dhcp_starvation" }]
      else [],
      counter)
  else ([], d.requestCounter)

def observe (d : DhcpDetector) (fields : DhcpFields) (srcMac : MacAddr) (config : BilgepumpConfig)
  (now : DateTime) : List BilgepumpAlert × DhcpDetector := if ¬ config.checkDhcpAbuse then ([], d)
  else
    let server? := answeringServer fields
    let counted := countRequests d fields config now
    (server?.toList.flatMap (rogueAlerts fields srcMac config) ++ counted.1,
      { servers := (server?.map (trackServer d srcMac now)).getD d.servers
        requestCounter := counted.2 })

def evict (d : DhcpDetector) (now : DateTime) (ttlSecs : Seconds) : DhcpDetector :=
  { d with
    servers := d.servers.retain fun _ s => (ttlSecs.before now).nanos ≤ s.lastSeen.nanos }

end DhcpDetector

/-! ## Identities -/

structure LldpIdentityRecord where
  (chassisId systemName : String)
  srcMac : MacAddr
  (firstSeen lastSeen : DateTime)

structure CdpIdentityRecord where
  deviceId : String
  platform : Option String
  srcMac : MacAddr
  (firstSeen lastSeen : DateTime)

structure IdentityDetector where
  lldp : Table MacAddr LldpIdentityRecord
  cdp : Table MacAddr CdpIdentityRecord

namespace IdentityDetector

def default : IdentityDetector :=
  { lldp := ∅, cdp := ∅ }

/-- One alert if there was another identity and the new one is not empty. -/
def conflictAlerts (previous : Option String) (current : String)
    (alert : String → BilgepumpAlert) : List BilgepumpAlert :=
  match previous with
  | none => []
  | some previous => if previous ≠ current ∧ current ≠ "" then [alert previous] else []

def observeLldp (d : IdentityDetector) (fields : LldpFields) (srcMac : MacAddr)
    (config : BilgepumpConfig) (now : DateTime) : List BilgepumpAlert × IdentityDetector :=
  if ¬ config.checkIdentityConflicts then ([], d)
  else
    let existing := d.lldp.lookup srcMac
    (conflictAlerts (existing.map LldpIdentityRecord.chassisId) fields.chassisId fun previous =>
        { kind := .lldpIdentityConflict (formatMac srcMac) fields.chassisId previous,
          severity := .high, decoder := "bilgepump:lldp_conflict" },
      { d with
        lldp := d.lldp.insert srcMac
          { chassisId := fields.chassisId, systemName := fields.systemName, srcMac,
            firstSeen := (existing.map LldpIdentityRecord.firstSeen).getD now, lastSeen := now } })

def observeCdp (d : IdentityDetector) (fields : CdpFields) (srcMac : MacAddr)
    (config : BilgepumpConfig) (now : DateTime) : List BilgepumpAlert × IdentityDetector :=
  if ¬ config.checkIdentityConflicts then ([], d)
  else
    let existing := d.cdp.lookup srcMac
    (conflictAlerts (existing.map CdpIdentityRecord.deviceId) fields.deviceId fun previous =>
        { kind := .cdpIdentityConflict (formatMac srcMac) fields.deviceId previous,
          severity := .high, decoder := "bilgepump:cdp_conflict" },
      { d with
        cdp := d.cdp.insert srcMac
          { deviceId := fields.deviceId, platform := fields.platform, srcMac,
            firstSeen := (existing.map CdpIdentityRecord.firstSeen).getD now, lastSeen := now } })

def evict (d : IdentityDetector) (now : DateTime) (ttlSecs : Seconds) : IdentityDetector :=
  { lldp := d.lldp.retain fun _ r => (ttlSecs.before now).nanos ≤ r.lastSeen.nanos
    cdp := d.cdp.retain fun _ r => (ttlSecs.before now).nanos ≤ r.lastSeen.nanos }

end IdentityDetector

end MarlinspikeDpi.Bilgepump
