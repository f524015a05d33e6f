import MarlinspikeDpi.Net

/-!
# Settings, alerts and counters of the layer-2 monitor
-/

namespace MarlinspikeDpi.Bilgepump

/-! ## Configuration -/

/-- A number of seconds that can be taken from any instant since the epoch without leaving the
calendar; on longer ones the time library gives up. -/
structure Seconds where
  value : Nat
  inCalendar : value ≤ 8334601228800
deriving DecidableEq

namespace Seconds

def nanos (s : Seconds) : Int := s.value * 1000000000

def before (s : Seconds) (now : DateTime) : DateTime := ⟨now.nanos - s.nanos⟩

end Seconds

/-- A known-good pair, as it is written in the configuration. -/
structure BlessedBinding where
  (mac ip : String)
deriving DecidableEq

structure BilgepumpConfig where
  (enabled checkArpSpoofing : Bool)
  /-- How long a binding stays valid before it can be superseded without an alert. -/
  arpBindingTtlSecs : Seconds
  arpFloodThreshold : Nat
  arpFloodWindowSecs : Seconds
  blessedBindings : List BlessedBinding
  checkMacAnomalies : Bool
  macFlapThreshold : Nat
  macFlapWindowSecs : Seconds
  (checkVlanHopping checkStpManipulation : Bool)
  /-- If there are any, a root that is not among them is reported. -/
  stpRootWhitelist : List String
  checkDhcpAbuse : Bool
  knownDhcpServers : List String
  dhcpStarvationThreshold : Nat
  dhcpStarvationWindowSecs : Seconds
  checkIdentityConflicts : Bool
  (identityTtlSecs defaultStateTtlSecs : Seconds)

def BilgepumpConfig.default : BilgepumpConfig :=
  { enabled := true
    checkArpSpoofing := true
    arpBindingTtlSecs := ⟨300, by decide⟩
    arpFloodThreshold := 50
    arpFloodWindowSecs := ⟨10, by decide⟩
    blessedBindings := []
    checkMacAnomalies := true
    macFlapThreshold := 5
    macFlapWindowSecs := ⟨30, by decide⟩
    checkVlanHopping := true
    checkStpManipulation := true
    stpRootWhitelist := []
    checkDhcpAbuse := true
    knownDhcpServers := []
    dhcpStarvationThreshold := 100
    dhcpStarvationWindowSecs := ⟨30, by decide⟩
    checkIdentityConflicts := true
    identityTtlSecs := ⟨600, by decide⟩
    defaultStateTtlSecs := ⟨600, by decide⟩ }

/-! ## Alerts -/

inductive AlertSeverity where
  | low
  | medium
  | high
  | critical
deriving DecidableEq

def AlertSeverity.asStr : AlertSeverity → String
  | low => "low"
  | medium => "medium"
  | high => "high"
  | critical => "critical"

inductive AlertKind where
  | arpSpoofDetected (claimedIp newMac previousMac : String)
  | arpGratuitous (senderMac senderIp : String)
  | arpFlood (sourceMac : String) (count : Nat) (windowSecs : Nat)
  | macLocallyAdministered (mac : String)
  | macMulticastSource (mac : String)
  | macFlapping (mac : String) (distinctIps : Nat) (windowSecs : Nat)
  | vlanHopping (outerVlan innerVlan : UInt16)
  | stpRootChange (previousRoot newRoot claimingBridge : String)
  | stpUnauthorizedRoot (bridgeId claimedRoot : String)
  | rogueDhcpServer (serverId serverMac : String) (offeredIp : Option String)
  | dhcpStarvation (requestCount : Nat) (windowSecs : Nat)
  | lldpIdentityConflict (srcMac currentChassisId previousChassisId : String)
  | cdpIdentityConflict (srcMac currentDeviceId previousDeviceId : String)
deriving DecidableEq

/-- The tag is that of the anomaly event which the alert becomes. -/
structure BilgepumpAlert where
  kind : AlertKind
  severity : AlertSeverity
  decoder : String
deriving DecidableEq

def AlertKind.reason : AlertKind → String
  | arpSpoofDetected claimedIp newMac previousMac =>
    "ARP spoof: " ++ claimedIp ++ " moved from " ++ previousMac ++ " to " ++ newMac
  | arpGratuitous senderMac senderIp => "gratuitous ARP from " ++ senderMac ++ " claiming " ++
    senderIp
  | arpFlood sourceMac count windowSecs =>
    "ARP flood: " ++ toString count ++ " replies from " ++ sourceMac ++ " in " ++
      toString windowSecs ++ "s"
  | macLocallyAdministered mac => "locally-administered source MAC: " ++ mac
  | macMulticastSource mac => "multicast source MAC: " ++ mac
  | macFlapping mac distinctIps windowSecs =>
    "MAC flapping: " ++ mac ++ " associated with " ++ toString distinctIps ++ " IPs in " ++
      toString windowSecs ++ "s"
  | vlanHopping outerVlan innerVlan =>
    "VLAN hopping: double-tagged frame outer=" ++ toString outerVlan.toNat ++ " inner=" ++
      toString innerVlan.toNat
  | stpRootChange previousRoot newRoot claimingBridge =>
    "STP root change: " ++ previousRoot ++ " -> " ++ newRoot ++ " (claimed by " ++ claimingBridge ++
      ")"
  | stpUnauthorizedRoot bridgeId claimedRoot =>
    "unauthorized STP root claim: bridge " ++ bridgeId ++ " claiming root " ++ claimedRoot
  -- the offered address is in the alert but not in its text
  | rogueDhcpServer serverId serverMac _ => "rogue DHCP server: " ++ serverId ++ " from " ++
    serverMac
  | dhcpStarvation requestCount windowSecs =>
    "DHCP starvation: " ++ toString requestCount ++ " requests in " ++ toString windowSecs ++ "s"
  | lldpIdentityConflict srcMac currentChassisId previousChassisId =>
    "LLDP identity conflict: " ++ srcMac ++ " was " ++ previousChassisId ++ ", now " ++
      currentChassisId
  | cdpIdentityConflict srcMac currentDeviceId previousDeviceId =>
    "CDP identity conflict: " ++ srcMac ++ " was " ++ previousDeviceId ++ ", now " ++
      currentDeviceId

def BilgepumpAlert.reason (alert : BilgepumpAlert) : String := alert.kind.reason

/-! ## Counters -/

/-- The times of the events in a sliding window, oldest first. -/
structure RateCounter where
  timestamps : List DateTime

namespace RateCounter

def default : RateCounter := ⟨[]⟩

def prune (counter : RateCounter) (now : DateTime) (windowSecs : Seconds) : RateCounter :=
  ⟨counter.timestamps.dropWhile fun t => t.nanos < (windowSecs.before now).nanos⟩

def record (counter : RateCounter) (now : DateTime) (windowSecs : Seconds) : Nat × RateCounter :=
  let counter := prune ⟨counter.timestamps ++ [now]⟩ now windowSecs
  (counter.timestamps.length, counter)

def count (counter : RateCounter) : Nat := counter.timestamps.length

end RateCounter

structure MacObservation where
  ip : Ipv4Addr
  vlanId : Option UInt16
  timestamp : DateTime

/-- The addresses seen with a MAC address in a sliding window. -/
structure MacFlapTracker where
  observations : List MacObservation

namespace MacFlapTracker

def default : MacFlapTracker := ⟨[]⟩

def record (tracker : MacFlapTracker) (ip : Ipv4Addr) (vlanId : Option UInt16) (now : DateTime)
    (windowSecs : Seconds) : Nat × MacFlapTracker :=
  let observation : MacObservation := { ip, vlanId, timestamp := now }
  let observations := (tracker.observations ++ [observation]).dropWhile fun o =>
      o.timestamp.nanos < (windowSecs.before now).nanos
  ((observations.map MacObservation.ip).eraseDups.length, ⟨observations⟩)

end MacFlapTracker

end MarlinspikeDpi.Bilgepump
