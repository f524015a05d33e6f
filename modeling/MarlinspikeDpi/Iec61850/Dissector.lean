import MarlinspikeDpi.Foundation.TagScan
import MarlinspikeDpi.Foundation.Utf8

/-!
# MMS, GOOSE and Sampled Values

MMS comes over TCP in a TPKT packet that holds a COTP unit; GOOSE and Sampled Values come in
Ethernet frames of their own.
-/

namespace MarlinspikeDpi.Iec61850

open Bytes Text TagScan

def iec61850MmsPort : UInt16 := 102
def iec61850GooseEthertype : UInt16 := 0x88B8
def iec61850SvEthertype : UInt16 := 0x88BA
def tpktHeaderSize : Nat := 4
def mmsVisibleStringMin : Nat := 3

inductive Iec61850Profile where
  | mmsIsoOnTcp
  | goose
  | sampledValues
deriving DecidableEq

structure Iec61850Fields where
  profile : Iec61850Profile
  (transport messageType : String)
  tpktLength : Option Nat := none
  cotpPduType : Option String := none
  appId : Option UInt16 := none
  calledTsap : Option String := none
  callingTsap : Option String := none
  service : Option String := none
  iedName : Option String := none
  logicalDevice : Option String := none
  logicalNode : Option String := none
  dataset : Option String := none
  objectReferences : List String := []
  visibleStrings : List String := []
  payload : List UInt8 := []
  gooseStNum : Option UInt32 := none
  gooseSqNum : Option UInt32 := none
  gooseTest : Bool := false
  mmsInvokeId : Option UInt32 := none
  svSmpCnt : Option UInt16 := none
  svSmpSynch : Option UInt8 := none
deriving DecidableEq

/-! ## COTP -/

def hexUpper (b : UInt8) : String := toAsciiUppercase (hexPad 2 b.toNat)

def formatTsap (bytes : List UInt8) : String :=
  match bytes with
  | [single] => "0x" ++ hexUpper single
  | [hi, lo] => "0x" ++ hexUpper hi ++ hexUpper lo
  | _ => ":".intercalate (bytes.map hexUpper)

structure CotpLayout where
  tpktLength : Nat
  cotpPduType : UInt8
  (calledTsap callingTsap : Option String)
  payload : List UInt8
deriving DecidableEq

/-- What the parameters of a connection request or confirm say. -/
structure Tsaps where
  (called calling : Option String)
deriving DecidableEq

def Tsaps.set (tsaps : Tsaps) (code : UInt8) (value : List UInt8) : Tsaps :=
  match code with
  | 0xC1 => { tsaps with called := some (formatTsap value) }
  | 0xC2 => { tsaps with calling := some (formatTsap value) }
  | _ => tsaps

/-- The loop over the parameters; every round moves the cursor by two bytes or more. -/
def cotpParameters (data : List UInt8) (cotpEnd : Nat) : Nat → Nat → Tsaps → Tsaps
  | 0, _, tsaps => tsaps
  | fuel + 1, cursor, tsaps =>
    if cursor + 1 < cotpEnd then
      let code := byteAt data cursor
      let len := (byteAt data (cursor + 1)).toNat
      let cursor := cursor + 2
      if cursor + len > cotpEnd then tsaps
      else cotpParameters data cotpEnd fuel (cursor + len) (tsaps.set code (slice data cursor len))
    else tsaps

variable (data : List UInt8)

def parseCotpLayout : Option CotpLayout :=
  if data.length < tpktHeaderSize ∨ byteAt data 0 ≠ 0x03 then none
  else
    let tpktLength := beNat (slice data 2 2)
    if tpktLength < tpktHeaderSize ∨ tpktLength > data.length then none
    else
      data[tpktHeaderSize]?.bind fun length =>
        let cotpLength := length.toNat
        let cotpEnd := tpktHeaderSize + (1 + cotpLength)
        if cotpLength = 0 ∨ cotpEnd > tpktLength ∨ cotpEnd > data.length then none
        else
          data[tpktHeaderSize + 1]?.map fun cotpPduType =>
            let tsaps :=
              if cotpPduType = 0xE0 ∨ cotpPduType = 0xD0 then
                cotpParameters data cotpEnd cotpEnd (tpktHeaderSize + 7) ⟨none, none⟩
              else ⟨none, none⟩
            { tpktLength, cotpPduType, calledTsap := tsaps.called, callingTsap := tsaps.calling,
              payload := slice data cotpEnd (tpktLength - cotpEnd) }

def cotpPduName (code : UInt8) : String :=
  match code with
  | 0xE0 => "connection_request"
  | 0xD0 => "connection_confirm"
  | 0xF0 => "data_transfer"
  | 0x80 => "disconnect_request"
  | _ => "cotp_pdu"

/-! ## Names -/

def isVisibleAscii (byte : UInt8) : Bool := 0x20 ≤ byte && byte ≤ 0x7E

def pushVisibleRun (strings : List String) (run : List UInt8) : List String :=
  if mmsVisibleStringMin ≤ run.length then
    match utf8Strict run with
    | some value => strings ++ [value]
    | none => strings
  else strings

def extractVisibleStrings : List String :=
  let (strings, run) := data.foldl (fun (strings, run) byte =>
      if isVisibleAscii byte then (strings, run ++ [byte]) else (pushVisibleRun strings run, []))
    ([], [])
  pushVisibleRun strings run

def byteLength (value : String) : Nat := byteLen value.toList

def looksLikeObjectReference (value : String) : Bool :=
  let hasSeparator :=
    value.toList.contains '/' || value.toList.contains '.' || value.toList.contains '$'
  hasSeparator && value.toList.any Char.isAlpha && value.toList.any
    (fun c => c.isDigit || c.isUpper) && 4 ≤ byteLength value

def extractObjectReferences (strings : List String) : List String :=
  strings.foldl (fun references value =>
      if looksLikeObjectReference value && !references.contains value then references ++ [value]
        else references) []

structure IdentityHints where
  (iedName logicalDevice logicalNode dataset : Option String)
deriving DecidableEq

def splitOnce (sep : Char) (value : List Char) : Option (List Char × List Char) :=
  if value.contains sep then
    some (value.takeWhile (· ≠ sep), (value.dropWhile (· ≠ sep)).drop 1)
  else none

/-- The first piece of a text that is split at separators, without white space around it. -/
def firstPiece (separators : List Char) (value : List Char) : String :=
  trimMatches isWhiteSpace (String.ofList (value.takeWhile fun c => !separators.contains c))

def stripLogicalDeviceSuffix (value : List Char) : Option String :=
  let stem := (value.reverse.dropWhile Char.isDigit).reverse
  if ['L', 'D'].isSuffixOf stem then
    let front := stem.dropLast.dropLast
    if front.isEmpty then none else some (String.ofList front)
  else none

def extractDatasetHint (reference : String) : Option String :=
  (splitOnce '$' reference.toList).bind fun (_, tail) =>
    let value := firstPiece ['$', '.', '/'] tail
    if !value.isEmpty && (2 < byteLength value || value.toList.any fun c => c.isLower || c.isDigit)
      then some value
    else none

def looksLikeDatasetName (value : String) : Bool :=
  let lower := toAsciiLowercase value
  (contains "dataset" lower || contains "datset" lower || contains "goose" lower) &&
    !value.toList.contains ' ' && mmsVisibleStringMin ≤ byteLength value

def looksLikeIedName (value : String) : Bool :=
  let trimmed := trimMatches isWhiteSpace value
  !trimmed.isEmpty && 2 ≤ byteLength trimmed && byteLength trimmed ≤ 32 &&
    trimmed.toList.all fun c => c.isAlphanum || c == '_' || c == '-'

def IdentityHints.addReference (hints : IdentityHints) (reference : String) : IdentityHints :=
  let (device, suffix) := (splitOnce '/' reference.toList).getD (reference.toList, [])
  let logicalNode := firstPiece ['.', '$', '/'] suffix
  { logicalDevice :=
    hints.logicalDevice.or (if device.isEmpty then none else some (String.ofList device))
    iedName := hints.iedName.or (stripLogicalDeviceSuffix device)
    logicalNode :=
      hints.logicalNode.or (if suffix.isEmpty || logicalNode.isEmpty then none
        else some logicalNode)
    dataset := hints.dataset.or (extractDatasetHint reference) }

def IdentityHints.addString (hints : IdentityHints) (value : String) : IdentityHints :=
  { hints with
    dataset := hints.dataset.or (if looksLikeDatasetName value then some value else none)
    iedName := hints.iedName.or (if looksLikeIedName value then some value else none) }

def deriveIdentity (strings references : List String) : IdentityHints :=
  strings.foldl IdentityHints.addString
    (references.foldl IdentityHints.addReference ⟨none, none, none, none⟩)

/-! ## Numbers -/

/-- The bytes shifted into 32 bits one after the other. -/
def u32FromBytes (value : List UInt8) : UInt32 :=
  value.foldl (fun val b => val <<< 8 ||| b.toUInt32) 0

lemma u32FromBytes_eq (value : List UInt8) : u32FromBytes value = UInt32.ofNat (beNat value) := by
  have hbyte : ∀ b : UInt8, UInt32.ofNat b.toNat = b.toUInt32 :=
    fun b => UInt32.toNat_inj.mp (by simp)
  rw [u32FromBytes, ← foldl_shiftLeft_or_uint32]
  simp only [hbyte]

lemma u32FromBytes_singleton (b : UInt8) : u32FromBytes [b] = b.toUInt32 := by
  simp [u32FromBytes]

def looksLikeMmsTag (tag : UInt8) : Bool := tag = 0x60 || tag = 0x61 || (0xA0 ≤ tag && tag ≤ 0xA8)

/-- The loop of `extractMmsInvokeId`, over the bytes from here on. -/
def scanInvokeId : Nat → List UInt8 → Option UInt32
  | 0, _ => none
  | _ + 1, [] => none
  | rounds + 1, b :: rest =>
    if b = 0x02 then
      match rest with
      | [] => none
      | len :: value =>
        if len = 0 ∨ 4 < len then scanInvokeId rounds rest
        else if value.length < len.toNat then none
        else some (u32FromBytes (value.take len.toNat))
    else scanInvokeId rounds rest

def extractMmsInvokeId (payload : List UInt8) : Option UInt32 :=
  match payload with
  | [] => none
  | outerTag :: _ =>
    if outerTag ≠ 0xA0 ∧ outerTag ≠ 0xA1 then none
    else
      let skip := if 2 < payload.length ∧ byteAt payload 1 = 0x82 then 4 else 2
      if payload.length < skip then none else scanInvokeId 16 (payload.drop skip)

structure GooseNumbers where
  (stNum sqNum : Option UInt32)
  test : Bool
deriving DecidableEq

def gooseTag (tag len : UInt8) : Bool :=
  match tag with
  | 0x86 => len == 1
  | 0x89 => 1 ≤ len && len ≤ 4
  | 0x8A => 1 ≤ len && len ≤ 4
  | _ => false

def GooseNumbers.set (numbers : GooseNumbers) (hit : Hit) : GooseNumbers :=
  match hit.tag with
  | 0x86 => { numbers with test := byteAt hit.value 0 != 0x00 }
  | 0x89 => { numbers with stNum := some (u32FromBytes hit.value) }
  | 0x8A => { numbers with sqNum := some (u32FromBytes hit.value) }
  | _ => numbers

def GooseNumbers.complete (numbers : GooseNumbers) : Bool :=
  numbers.stNum.isSome && numbers.sqNum.isSome

def extractGooseSequenceNumbers (payload : List UInt8) : GooseNumbers :=
  slidingScan GooseNumbers.set GooseNumbers.complete gooseTag payload.length payload
    ⟨none, none, false⟩

structure SampleFields where
  smpCnt : Option UInt16
  smpSynch : Option UInt8
deriving DecidableEq

def svTag (tag len : UInt8) : Bool :=
  match tag with
  | 0x82 => len == 2
  | 0x85 => len == 1
  | _ => false

def SampleFields.set (fields : SampleFields) (hit : Hit) : SampleFields :=
  match hit.tag with
  | 0x82 => { fields with smpCnt := some (UInt16.ofNat (beNat (slice hit.value 0 2))) }
  | 0x85 => { fields with smpSynch := some (byteAt hit.value 0) }
  | _ => fields

def SampleFields.complete (fields : SampleFields) : Bool :=
  fields.smpCnt.isSome && fields.smpSynch.isSome

def extractSvSampleFields (payload : List UInt8) : SampleFields :=
  slidingScan SampleFields.set SampleFields.complete svTag payload.length payload ⟨none, none⟩

/-! ## The dissector -/

def mmsServiceName (payload : List UInt8) : String :=
  match payload.head? with
  | some 0x60 => "initiate_request"
  | some 0x61 => "initiate_response"
  | some 0xA0 => "confirmed_request_pdu"
  | some 0xA1 => "confirmed_response_pdu"
  | some 0xA2 => "cancel_request_pdu"
  | some 0xA3 => "cancel_response_pdu"
  | some 0xA4 => "unconfirmed_pdu"
  | some 0xA5 => "reject_pdu"
  | some 0xA6 => "cancel_error_pdu"
  | some 0xA7 => "confirmed_error_pdu"
  | some 0xA8 => "information_report_pdu"
  | some _ => "mms_apdu"
  | none => "cotp_control"

def looksLikeMmsIsoOnTcp : Bool :=
  match parseCotpLayout data with
  | none => false
  | some layout =>
    layout.cotpPduType = 0xE0 || layout.cotpPduType =
      0xD0 || (layout.payload.head?.map looksLikeMmsTag).getD false

def controlFields (layout : CotpLayout) : Iec61850Fields :=
  { profile := .mmsIsoOnTcp, transport := "tpkt_cotp", messageType := "cotp_control",
    tpktLength := some layout.tpktLength, cotpPduType := some (cotpPduName layout.cotpPduType),
    calledTsap := layout.calledTsap, callingTsap := layout.callingTsap,
    service := some (mmsServiceName []) }

def mmsFields (layout : CotpLayout) : Iec61850Fields :=
  let strings := extractVisibleStrings layout.payload
  let references := extractObjectReferences strings
  let identity := deriveIdentity strings references
  { profile := .mmsIsoOnTcp, transport := "tpkt_cotp", messageType := "mms",
    tpktLength := some layout.tpktLength, cotpPduType := some (cotpPduName layout.cotpPduType),
    calledTsap := layout.calledTsap, callingTsap := layout.callingTsap,
    service := some (mmsServiceName layout.payload), iedName := identity.iedName,
    logicalDevice := identity.logicalDevice, logicalNode := identity.logicalNode,
    dataset := identity.dataset, objectReferences := references, visibleStrings := strings,
    payload := layout.payload, mmsInvokeId := extractMmsInvokeId layout.payload }

def parseMmsIsoOnTcp : Option Iec61850Fields := (parseCotpLayout data).bind fun layout =>
    if layout.cotpPduType = 0xE0 ∨ layout.cotpPduType = 0xD0 then some (controlFields layout)
    else
      match layout.payload with
      | [] => some (controlFields layout)
      | tag :: _ => if looksLikeMmsTag tag then some (mmsFields layout) else none

def parseGooseOrSv (profile : Iec61850Profile) : Option Iec61850Fields :=
  if data.length < 8 then none
  else
    let length := beNat (slice data 2 2)
    let payloadEnd := min length data.length
    if payloadEnd < 8 then none
    else
      let payload := slice data 8 (payloadEnd - 8)
      let strings := extractVisibleStrings payload
      let references := extractObjectReferences strings
      let identity := deriveIdentity strings references
      let numbers := if profile = .goose then extractGooseSequenceNumbers payload
        else ⟨none, none, false⟩
      let sample := if profile = .sampledValues then extractSvSampleFields payload else ⟨none, none⟩
      some
        { profile
          transport :=
            match profile with
            | .goose => "ethernet_goose"
            | .sampledValues => "ethernet_sampled_values"
            | .mmsIsoOnTcp => "tpkt_cotp"
          messageType :=
            match profile with
            | .goose => "goose"
            | .sampledValues => "sampled_values"
            | .mmsIsoOnTcp => "mms"
          appId := some (UInt16.ofNat (beNat (slice data 0 2)))
          service := some (if profile = .goose then "goose_pdu" else "sampled_values_pdu")
          iedName := identity.iedName
          logicalDevice := identity.logicalDevice
          logicalNode := identity.logicalNode
          dataset := identity.dataset
          objectReferences := references
          visibleStrings := strings
          payload
          gooseStNum := numbers.stNum
          gooseSqNum := numbers.sqNum
          gooseTest := numbers.test
          svSmpCnt := sample.smpCnt
          svSmpSynch := sample.smpSynch }

def canParse (srcPort dstPort : UInt16) (ethertype : Option UInt16) : Bool :=
  if ethertype = some iec61850GooseEthertype ∨ ethertype = some iec61850SvEthertype
    then 8 ≤ data.length
  else (srcPort = iec61850MmsPort || dstPort = iec61850MmsPort) && looksLikeMmsIsoOnTcp data

def parse (srcPort dstPort : UInt16) (ethertype : Option UInt16) : Option Iec61850Fields :=
  if ethertype = some iec61850GooseEthertype then parseGooseOrSv data .goose
  else if ethertype = some iec61850SvEthertype then parseGooseOrSv data .sampledValues
  else if srcPort = iec61850MmsPort ∨ dstPort = iec61850MmsPort then parseMmsIsoOnTcp data
  else none

end MarlinspikeDpi.Iec61850
