import MarlinspikeDpi.Foundation.KeyIndex
import MarlinspikeDpi.Registry.Dissectors

/-!
# The dissectors by port

The registry asks the dissectors registered for the destination port, then those registered for the
source port, then the ones without ports.

* `classifyName_eq`: the order in which the index asks.
* `classifyName_withDefaults`: the index against a linear walk.
-/

namespace MarlinspikeDpi

open Dissectors List KeyIndex

/-- Dissectors indexed by port, and those that are asked about every packet. -/
structure DissectorRegistry extends KeyIndex UInt16 ProtocolDissector where
  free : List ProtocolDissector

namespace DissectorRegistry

def new : DissectorRegistry :=
  { KeyIndex.empty with free := [] }

def register (reg : DissectorRegistry) (dissector : ProtocolDissector) : DissectorRegistry :=
  { reg with free := reg.free ++ [dissector] }

def registerWithPorts (reg : DissectorRegistry) (dissector : ProtocolDissector)
  (ports : List UInt16) : DissectorRegistry := { reg with toKeyIndex := reg.add dissector ports }

/-- The ports of a packet, the destination first and without repetition. -/
def portPair (src dst : UInt16) : List (Option UInt16) :=
  if src = dst then [some dst, none] else [some dst, some src]

def firstAccepting (dissectors : List ProtocolDissector) (data : List UInt8)
    (srcPort dstPort : UInt16) : Option String :=
  (dissectors.find? fun d => d.canParse data srcPort dstPort).map ProtocolDissector.name

def classifyName (reg : DissectorRegistry) (data : List UInt8) (srcPort dstPort : UInt16) :
    Option String :=
  firstAccepting (((portPair srcPort dstPort).filterMap id).flatMap reg.candidates ++ reg.free)
    data srcPort dstPort

def withDissectors (pinned : List (ProtocolDissector × List UInt16))
    (floating : List ProtocolDissector) : DissectorRegistry :=
  floating.foldl register (pinned.foldl (fun reg e => reg.registerWithPorts e.1 e.2) new)

def pinnedDefaults : List (ProtocolDissector × List UInt16) :=
  [(modbus, [502]), (dnp3, [20000]), (opcUa, [4840]), (s7comm, [102]), (ethernetIp, [44818, 2222]),
    (hartIp, [5094]), (iec104, [2404]), (bacnet, [47808]), (omronFins, [9600]), (dns, [53]),
    (dhcp, [67, 68]), (snmp, [161, 162]), (ntp, [123]), (radius, [1812, 1813]), (syslog, [514]),
    (mqtt, [1883])]

def floatingDefaults : List ProtocolDissector :=
  [http, ftp, ssh, arp, lldp, cdp, stp, iec61850, profinet, ethercat, vtp, mrp, mstp, pvst, prp,
    lacp]

def withDefaults : DissectorRegistry := withDissectors pinnedDefaults floatingDefaults

/-! ## What the index computes -/

lemma foldl_register (reg : DissectorRegistry) (floating : List ProtocolDissector) :
    floating.foldl register reg = { reg with free := reg.free ++ floating } := by
  induction floating generalizing reg with
  | nil => simp
  | cons d floating ih =>
    rw [foldl_cons, ih]
    simp [register]

variable (pinned : List (ProtocolDissector × List UInt16))

lemma foldl_registerWithPorts : pinned.foldl (fun reg e => reg.registerWithPorts e.1 e.2) new =
      { build pinned with free := [] } := by
  induction pinned using List.reverseRecOn with
  | nil => rfl
  | append_singleton pinned e ih =>
    rw [foldl_append, ih, build_concat]
    rfl

lemma withDissectors_eq (floating : List ProtocolDissector) :
    withDissectors pinned floating = { build pinned with free := floating } := by
  rw [withDissectors, foldl_register, foldl_registerWithPorts]
  simp

variable {pinned}

/-- The dissectors of the destination port are asked first, then those of the source port, then the
ones without ports. -/
theorem classifyName_eq {floating : List ProtocolDissector} {data : List UInt8}
    {srcPort dstPort : UInt16} :
      (withDissectors pinned floating).classifyName data srcPort dstPort =
      firstAccepting (under dstPort pinned ++ under srcPort pinned ++ floating)
        data srcPort dstPort := by
  have hfound :=
    find?_candidates_build (fun d : ProtocolDissector => d.canParse data srcPort dstPort) pinned
  rw [withDissectors_eq]
  simp only
  refine congrArg (Option.map _) ?_
  by_cases hports : srcPort = dstPort
  · -- equal ports are looked up once, and asking again would change nothing
    subst hports
    have hpair : (portPair srcPort srcPort).filterMap id = [srcPort] := by simp [portPair]
    simp only [hpair, flatMap_singleton, find?_append, hfound, Option.or_self]
  · simp [portPair, hports, hfound]

def registrationOrder (pinned : List (ProtocolDissector × List UInt16))
    (floating : List ProtocolDissector) : List ProtocolDissector :=
  pinned.map Prod.fst ++ floating

/-- The linear walk with the dissectors of the destination port moved to the front. -/
def destinationFirst (dstPort : UInt16) (pinned : List (ProtocolDissector × List UInt16))
    (floating : List ProtocolDissector) : List ProtocolDissector :=
  under dstPort pinned ++ registrationOrder pinned floating

/-- If the dissector that the walk finds is without ports or registered for one of the packet's, the
index finds the same. -/
theorem classifyName_eq_destinationFirst {floating : List ProtocolDissector} {data : List UInt8}
    {srcPort dstPort : UInt16}
    (hports : ∀ e ∈ pinned, (destinationFirst dstPort pinned floating).find?
        (fun d => d.canParse data srcPort dstPort) = some e.1 → dstPort ∈ e.2 ∨ srcPort ∈ e.2) :
    (withDissectors pinned floating).classifyName data srcPort dstPort =
      firstAccepting (destinationFirst dstPort pinned floating) data srcPort dstPort := by
  rw [classifyName_eq]
  simp only [destinationFirst, firstAccepting, registrationOrder, ← append_assoc] at hports ⊢
  refine congrArg (Option.map _) ?_
  rw [find?_append, find?_under_append, ← find?_append]
  intro e he hfound
  refine hports e he ?_
  rw [find?_append, hfound, Option.some_or]

/-! ## The default dissectors -/

lemma accepts_registered {data : List UInt8} {srcPort dstPort : UInt16} {name : String}
    {own registered : List UInt16}
    {content : List UInt8 → Bool} (hown : ∀ port ∈ own, port ∈ registered)
    (h : (portDissector name own content).canParse data srcPort dstPort = true) :
    dstPort ∈ registered ∨ srcPort ∈ registered := by
  rcases portDissector_accepts h with hdst | hsrc
  · exact Or.inl (hown _ hdst)
  · exact Or.inr (hown _ hsrc)

/-- For every payload and pair of ports: classification is the linear walk over the default
dissectors in the order of their registration, with those registered for the destination port moved
to the front. Where the walk answers OPC UA, BACnet, DNS or MQTT, which accept on other ports too,
one of the ports has to be the one that this dissector is registered for. -/
theorem classifyName_withDefaults (data : List UInt8) (srcPort dstPort : UInt16)
    (hopcUa : firstAccepting (destinationFirst dstPort pinnedDefaults floatingDefaults) data srcPort
      dstPort = some "opc_ua" → dstPort = 4840 ∨ srcPort = 4840)
    (hbacnet : firstAccepting (destinationFirst dstPort pinnedDefaults floatingDefaults) data
      srcPort dstPort = some "bacnet" → dstPort = 47808 ∨ srcPort = 47808)
    (hdns : firstAccepting (destinationFirst dstPort pinnedDefaults floatingDefaults) data srcPort
      dstPort = some "dns" → dstPort = 53 ∨ srcPort = 53)
    (hmqtt : firstAccepting (destinationFirst dstPort pinnedDefaults floatingDefaults) data srcPort
      dstPort = some "mqtt" → dstPort = 1883 ∨ srcPort = 1883) :
    withDefaults.classifyName data srcPort dstPort =
      firstAccepting (destinationFirst dstPort pinnedDefaults floatingDefaults) data srcPort
        dstPort := by
  refine classifyName_eq_destinationFirst ?_
  intro e he hfound
  have hname : firstAccepting (destinationFirst dstPort pinnedDefaults floatingDefaults) data
      srcPort dstPort = some e.1.name := congrArg (Option.map ProtocolDissector.name) hfound
  have haccepts := find?_some hfound
  simp only [pinnedDefaults, mem_cons, not_mem_nil, or_false] at he
  rcases he with rfl | rfl | rfl | rfl | rfl | rfl | rfl | rfl | rfl | rfl | rfl | rfl | rfl | rfl |
    rfl | rfl
  case inr.inr.inl => simpa using hopcUa hname
  case inr.inr.inr.inr.inr.inr.inr.inl => simpa using hbacnet hname
  case inr.inr.inr.inr.inr.inr.inr.inr.inr.inl => simpa using hdns hname
  case inr.inr.inr.inr.inr.inr.inr.inr.inr.inr.inr.inr.inr.inr.inr => simpa using hmqtt hname
  -- the other dissectors look at no port that they are not registered for
  all_goals exact accepts_registered (by simp) haccepts

def readRegister : List UInt8 := [0, 1, 0, 0, 0, 6, 1, 3, 0, 0, 0, 1]

/-- A Modbus response to the DNS port: the dissector of the destination port is asked first,
although the one of the source port was registered before it. -/
theorem destination_port_first :
    withDefaults.classifyName readRegister 502 53 = some "dns" ∧
      firstAccepting (registrationOrder pinnedDefaults floatingDefaults) readRegister 502 53 =
        some "modbus" := by
  decide

/-- A Modbus request on its own port. -/
theorem readRegister_destinationFirst :
    withDefaults.classifyName readRegister 49152 502 =
      firstAccepting (destinationFirst 502 pinnedDefaults floatingDefaults) readRegister 49152
        502 :=
  classifyName_withDefaults readRegister 49152 502 (by decide) (by decide) (by decide) (by decide)

end DissectorRegistry
end MarlinspikeDpi
