import MarlinspikeDpi.Foundation.OrderedMap
import MarlinspikeDpi.Net

/-!
# Templates and the records that they describe

A template lists the fields of a flow record with their lengths.
-/

namespace MarlinspikeDpi.NetFlow

open Bytes Text

/-! ## Wire helpers -/

def u16At (data : List UInt8) (i : Nat) : UInt16 := be16 (byteAt data i) (byteAt data (i + 1))

def u32At (data : List UInt8) (i : Nat) : UInt32 := UInt32.ofNat (beNat (slice data i 4))

/-! ## Templates -/

structure TemplateField where
  (fieldType fieldLength : UInt16)
  enterpriseNumber : Option UInt32
deriving DecidableEq

structure TemplateRecord where
  templateId : UInt16
  fields : List TemplateField
  isOptions : Bool
deriving DecidableEq

def recordLen (fields : List TemplateField) : Nat := (fields.map fun f => f.fieldLength.toNat).sum

def v9Templates : Nat → List UInt8 → List TemplateRecord
  | 0, _ => []
  | fuel + 1, data =>
    if data.length < 4 then []
    else
      let fieldCount := (u16At data 2).toNat
      let rest := data.drop 4
      if rest.length < fieldCount * 4 then []
      else
        { templateId := u16At data 0
          fields := (List.range fieldCount).map fun i =>
            ⟨u16At rest (4 * i), u16At rest (4 * i + 2), none⟩
          isOptions := false } :: v9Templates fuel (rest.drop (fieldCount * 4))

/-- The same for an options template flowset, of which only the template ids are kept. -/
def v9OptionsTemplates : Nat → List UInt8 → List TemplateRecord
  | 0, _ => []
  | fuel + 1, data =>
    if data.length < 4 then []
    else
      let skip := 4 + (u16At data 2).toNat * 4
      let rest := data.drop 4
      if rest.length < skip then []
      else ⟨u16At data 0, [], true⟩ :: v9OptionsTemplates fuel (rest.drop skip)

/-- So many field specifiers, as far as there are any; the high bit of a type announces the number
of an enterprise. -/
def ipfixSpecifiers : Nat → List UInt8 → List TemplateField × List UInt8
  | 0, data => ([], data)
  | count + 1, data =>
    if data.length < 4 then ([], data)
    else
      let rawType := u16At data 0
      let fieldLength := u16At data 2
      let rest := data.drop 4
      if rawType &&& 0x8000 ≠ 0 then
        let (pen, rest) := if rest.length < 4 then (0, rest) else (u32At rest 0, rest.drop 4)
        let (fields, rest) := ipfixSpecifiers count rest
        (⟨rawType &&& 0x7FFF, fieldLength, some pen⟩ :: fields, rest)
      else
        let (fields, rest) := ipfixSpecifiers count rest
        (⟨rawType, fieldLength, none⟩ :: fields, rest)

/-- The templates of an IPFIX template set behind its header; a zero template id is padding. -/
def ipfixTemplates : Nat → List UInt8 → List TemplateRecord
  | 0, _ => []
  | fuel + 1, data =>
    if data.length < 4 then []
    else if byteAt data 0 = 0 ∧ byteAt data 1 = 0 then []
    else
      let (fields, rest) := ipfixSpecifiers (u16At data 2).toNat (data.drop 4)
      ⟨u16At data 0, fields, false⟩ :: ipfixTemplates fuel rest

/-- The same for an options template set: the number of scope fields comes first, and the specifiers
are passed over. -/
def ipfixOptionsTemplates : Nat → List UInt8 → List TemplateRecord
  | 0, _ => []
  | fuel + 1, data =>
    if data.length < 4 then []
    else if byteAt data 0 = 0 ∧ byteAt data 1 = 0 then []
    else if (data.drop 4).length < 2 then []
    else
      let (_, rest) := ipfixSpecifiers (u16At data 2).toNat (data.drop 6)
      ⟨u16At data 0, [], true⟩ :: ipfixOptionsTemplates fuel rest

/-! ## Field values -/

def ipfixFieldName (fieldType : UInt16) : Option String :=
  match fieldType with
  | 1 => some "octetDeltaCount"
  | 2 => some "packetDeltaCount"
  | 4 => some "protocolIdentifier"
  | 5 => some "ipClassOfService"
  | 6 => some "tcpControlBits"
  | 7 => some "sourceTransportPort"
  | 8 => some "sourceIPv4Address"
  | 9 => some "sourceIPv4PrefixLength"
  | 10 => some "ingressInterface"
  | 11 => some "destinationTransportPort"
  | 12 => some "destinationIPv4Address"
  | 13 => some "destinationIPv4PrefixLength"
  | 14 => some "egressInterface"
  | 15 => some "ipNextHopIPv4Address"
  | 16 => some "bgpSourceAsNumber"
  | 17 => some "bgpDestinationAsNumber"
  | 21 => some "flowEndSysUpTime"
  | 22 => some "flowStartSysUpTime"
  | 27 => some "sourceIPv6Address"
  | 28 => some "destinationIPv6Address"
  | 56 => some "sourceMacAddress"
  | 80 => some "destinationMacAddress"
  | 152 => some "flowStartMilliseconds"
  | 153 => some "flowEndMilliseconds"
  | _ => none

def readBeU64 (bytes : List UInt8) : Nat := beNat (bytes.take 8)

def formatIpv6 (b : List UInt8) : String :=
  let groups := (List.range 8).map fun i => u16At b (2 * i)
  let (start, len) := Ipv6Addr.longestZeroRun groups
  if 2 ≤ len then
    Ipv6Addr.joinSegments (groups.take start) ++ "::" ++ Ipv6Addr.joinSegments
      (groups.drop (start + len))
  else Ipv6Addr.joinSegments groups

def formatFieldValue (fieldType : UInt16) (enterpriseNumber : Option UInt32) (bytes : List UInt8) :
  String := if enterpriseNumber.isSome then hexEncode bytes
  else if fieldType = 8 ∨ fieldType = 12 ∨ fieldType = 15 then
    if bytes.length = 4 then ".".intercalate (bytes.map fun b => toString b.toNat)
      else hexEncode bytes
  else if fieldType = 27 ∨ fieldType = 28 then
    if bytes.length = 16 then formatIpv6 bytes else hexEncode bytes
  else if fieldType = 56 ∨ fieldType = 80 then
    if bytes.length = 6 then ":".intercalate (bytes.map fun b => hexPad 2 b.toNat)
      else hexEncode bytes
  else toString (readBeU64 bytes)

def fieldName (field : TemplateField) : String :=
  match field.enterpriseNumber with
  | some pen => "field_" ++ toString field.fieldType.toNat ++ "_pen_" ++ toString pen.toNat
  | none => (ipfixFieldName field.fieldType).getD ("field_" ++ toString field.fieldType.toNat)

def namedValue (field : TemplateField) (bytes : List UInt8) : String × String :=
  (fieldName field, formatFieldValue field.fieldType field.enterpriseNumber bytes)

def namedValues : List TemplateField → List UInt8 → List (String × String)
  | [], _ => []
  | field :: fields, data =>
    if data.length < field.fieldLength.toNat then []
    else
      namedValue field (data.take field.fieldLength.toNat) :: namedValues fields
        (data.drop field.fieldLength.toNat)

def sourceIp (attr : OrderedMap String String) : Option String :=
  (attr.get "sourceIPv4Address").or (attr.get "sourceIPv6Address")

def buildFlowRef (attr : OrderedMap String String) : List String :=
  let dstIp := (attr.get "destinationIPv4Address").or (attr.get "destinationIPv6Address")
  match sourceIp attr, attr.get "sourceTransportPort", dstIp,
    attr.get "destinationTransportPort" with
  | some si, some sp, some di, some dp => ["flow:" ++ si ++ ":" ++ sp ++ "->" ++ di ++ ":" ++ dp]
  | _, _, _, _ => []

def decodeRecordFields (data : List UInt8) (fields : List TemplateField) :
    OrderedMap String String × List String :=
  let attr := OrderedMap.empty.extend (namedValues fields data)
  (attr, buildFlowRef attr)

end MarlinspikeDpi.NetFlow
