import MarlinspikeDpi.Foundation.Bytes
import MarlinspikeDpi.Foundation.Text

/-!
# BER values and the messages made of them

An LDAPMessage is a BER SEQUENCE of a message id and one protocol operation.
-/

namespace MarlinspikeDpi.Ldap

open Bytes Text

/-! ## Tags -/

def tagSequence : UInt8 := 0x30
def tagInteger : UInt8 := 0x02
def tagOctetString : UInt8 := 0x04
def tagEnumerated : UInt8 := 0x0A

/-- The protocol operations that have an application tag. -/
inductive ProtocolOp where
  | bindRequest
  | bindResponse
  | unbindRequest
  | searchRequest
  | searchResultEntry
  | searchResultDone
  | modifyRequest
  | modifyResponse
  | addRequest
  | addResponse
  | delRequest
  | delResponse
  | modifyDnRequest
  | modifyDnResponse
  | compareRequest
  | compareResponse
  | abandonRequest
  | extendedRequest
  | extendedResponse
deriving DecidableEq

def ProtocolOp.ofTag (tag : UInt8) : Option ProtocolOp :=
  match tag with
  | 0x60 => some .bindRequest
  | 0x61 => some .bindResponse
  | 0x42 => some .unbindRequest
  | 0x63 => some .searchRequest
  | 0x64 => some .searchResultEntry
  | 0x65 => some .searchResultDone
  | 0x66 => some .modifyRequest
  | 0x67 => some .modifyResponse
  | 0x68 => some .addRequest
  | 0x69 => some .addResponse
  | 0x4A => some .delRequest
  | 0x6B => some .delResponse
  | 0x6C => some .modifyDnRequest
  | 0x6D => some .modifyDnResponse
  | 0x6E => some .compareRequest
  | 0x6F => some .compareResponse
  | 0x50 => some .abandonRequest
  | 0x77 => some .extendedRequest
  | 0x78 => some .extendedResponse
  | _ => none

def starttlsOid : String := "1.3.6.1.4.1.1466.20037"

/-! ## Values -/

/-- A length and the number of bytes that say it: one byte, or up to four after the byte that counts
them. -/
def decodeBerLength : List UInt8 → Option (Nat × Nat)
  | [] => none
  | first :: rest =>
    if first &&& 0x80 = 0 then some (first.toNat, 1)
    else
      let numBytes := (first &&& 0x7F).toNat
      if numBytes = 0 ∨ 4 < numBytes ∨ rest.length < numBytes then none
      else some (beNat (rest.take numBytes), 1 + numBytes)

/-- The tag, the value, and the number of bytes of both with the length between them. -/
def decodeTlv (buf : List UInt8) : Option (UInt8 × List UInt8 × Nat) :=
  if buf.length < 2 then none
  else
    (decodeBerLength (buf.drop 1)).bind fun (vlen, llen) =>
      let hdr := 1 + llen
      if buf.length < hdr + vlen then none
      else some (byteAt buf 0, slice buf hdr vlen, hdr + vlen)

def outerSequenceTotalLen (buf : List UInt8) : Option Nat :=
  if buf = [] ∨ byteAt buf 0 ≠ tagSequence then none
  else (decodeBerLength (buf.drop 1)).map fun (vlen, llen) => 1 + llen + vlen

variable (val : List UInt8)

def decodeInteger : Option (BitVec 64) :=
  if val = [] ∨ 8 < val.length then none
  else
    let signExtend : BitVec 64 := if byteAt val 0 &&& 0x80 ≠ 0 then BitVec.allOnes 64 else 0
    some (val.foldl (fun n b => (n <<< 8) ||| BitVec.ofNat 64 b.toNat) signExtend)

def decodeEnumerated : Option UInt32 := (decodeInteger val).map fun v => UInt32.ofNat v.toNat

/-- The values in a constructed value, up to the first that is not whole. -/
def walkSequence : Nat → List UInt8 → List (UInt8 × List UInt8)
  | 0, _ => []
  | fuel + 1, seqVal =>
    match decodeTlv seqVal with
    | some (tag, val, consumed) => (tag, val) :: walkSequence fuel (seqVal.drop consumed)
    | none => []

/-- Each value has at least two bytes, so there are fewer values than bytes. -/
def children (seqVal : List UInt8) : List (UInt8 × List UInt8) := walkSequence seqVal.length seqVal

/-! ## Names -/

def resultCodeName (code : UInt32) : String :=
  match code with
  | 0 => "success"
  | 1 => "operationsError"
  | 2 => "protocolError"
  | 3 => "timeLimitExceeded"
  | 4 => "sizeLimitExceeded"
  | 7 => "authMethodNotSupported"
  | 8 => "strongerAuthRequired"
  | 10 => "referral"
  | 11 => "adminLimitExceeded"
  | 16 => "noSuchAttribute"
  | 17 => "undefinedAttributeType"
  | 20 => "attributeOrValueExists"
  | 21 => "invalidAttributeSyntax"
  | 32 => "noSuchObject"
  | 33 => "aliasProblem"
  | 34 => "invalidDNSyntax"
  | 48 => "inappropriateAuthentication"
  | 49 => "invalidCredentials"
  | 50 => "insufficientAccessRights"
  | 51 => "busy"
  | 52 => "unavailable"
  | 53 => "unwillingToPerform"
  | 64 => "namingViolation"
  | 65 => "objectClassViolation"
  | 66 => "notAllowedOnNonLeaf"
  | 67 => "notAllowedOnRDN"
  | 68 => "entryAlreadyExists"
  | 69 => "objectClassModsProhibited"
  | 80 => "other"
  | _ => "unknownResultCode"

def filterTypeName (filterTag : UInt8) : String :=
  match filterTag with
  | 0xA0 => "and"
  | 0xA1 => "or"
  | 0xA2 => "not"
  | 0xA3 => "equalityMatch"
  | 0xA4 => "substrings"
  | 0xA5 => "greaterOrEqual"
  | 0xA6 => "lessOrEqual"
  | 0x87 => "present"
  | 0xA8 => "approxMatch"
  | 0xA9 => "extensibleMatch"
  | _ => "unknown"

def scopeName (scope : UInt8) : String :=
  match scope with
  | 0 => "baseObject"
  | 1 => "singleLevel"
  | 2 => "wholeSubtree"
  | _ => "unknown"

def opName : Option ProtocolOp → String
  | some .bindRequest => "ldap_bind_request"
  | some .bindResponse => "ldap_bind_response"
  | some .unbindRequest => "ldap_unbind_request"
  | some .searchRequest => "ldap_search_request"
  | some .searchResultEntry => "ldap_search_result_entry"
  | some .searchResultDone => "ldap_search_result_done"
  | some .modifyRequest => "ldap_modify_request"
  | some .modifyResponse => "ldap_modify_response"
  | some .addRequest => "ldap_add_request"
  | some .addResponse => "ldap_add_response"
  | some .delRequest => "ldap_del_request"
  | some .delResponse => "ldap_del_response"
  | some .modifyDnRequest => "ldap_modifydn_request"
  | some .modifyDnResponse => "ldap_modifydn_response"
  | some .compareRequest => "ldap_compare_request"
  | some .compareResponse => "ldap_compare_response"
  | some .abandonRequest => "ldap_abandon_request"
  | some .extendedRequest => "ldap_extended_request"
  | some .extendedResponse => "ldap_extended_response"
  | none => "ldap_unknown_op"

def isPairedRequest : Option ProtocolOp → Bool
  | some .bindRequest | some .searchRequest | some .modifyRequest | some .addRequest | some
    .delRequest
  | some .modifyDnRequest | some .compareRequest | some .extendedRequest => true
  | _ => false

def isResponseOp : Option ProtocolOp → Bool
  | some .bindResponse | some .searchResultDone | some .modifyResponse | some .addResponse
  | some .delResponse | some .modifyDnResponse | some .compareResponse | some .extendedResponse =>
    true
  | _ => false

/-! ## Operations -/

structure LdapOpDetails where
  (dn authType saslMechanism : Option String)
  resultCode : Option UInt32
  matchedDn : Option String
  scope : Option UInt8
  filterType : Option String
  attributes : List String
  (extendedOid objectName : Option String)
deriving DecidableEq

def LdapOpDetails.default : LdapOpDetails :=
  ⟨none, none, none, none, none, none, none, [], none, none⟩

def tagged (tag : UInt8) (val : List UInt8) : Option (List UInt8) :=
  (decodeTlv val).bind fun (t, v, _) => if t = tag then some v else none

/-- What follows the value at the front; a value that is not whole is not skipped. -/
def skipTlv : List UInt8 := (decodeTlv val).elim val fun (_, _, consumed) => val.drop consumed

def octetString : Option String := (tagged tagOctetString val).map utf8Lossy

def parseBindRequest : LdapOpDetails :=
  match children val with
  | _ :: name :: (authTag, authVal) :: _ =>
    let d := { LdapOpDetails.default with
      dn := if name.1 = tagOctetString then some (utf8Lossy name.2) else none }
    match authTag with
    | 0x80 => { d with authType := some "simple" }
    | 0xA3 =>
      { d with
        authType := some "sasl"
        saslMechanism := (children authVal).head?.bind fun (t, v) =>
          if t = tagOctetString then some (utf8Lossy v) else none }
    | _ => { d with authType := some ("unknown_auth_0x" ++ hexPad 2 authTag.toNat) }
  | _ => LdapOpDetails.default

def parseLdapResult : LdapOpDetails :=
  { LdapOpDetails.default with
    resultCode := (tagged tagEnumerated val).bind decodeEnumerated
    matchedDn := (tagged tagOctetString (skipTlv val)).bind fun v =>
      if v = [] then none else some (utf8Lossy v) }

def parseSearchRequest : LdapOpDetails :=
  let afterBase := skipTlv val
  let afterScope := skipTlv afterBase
  -- derefAliases, sizeLimit, timeLimit and typesOnly are not read
  let beforeFilter := skipTlv (skipTlv (skipTlv (skipTlv afterScope)))
  { LdapOpDetails.default with
    dn := octetString val
    scope := ((tagged tagEnumerated afterBase).bind decodeEnumerated).map fun s =>
      UInt8.ofNat s.toNat
    filterType := (decodeTlv beforeFilter).map fun (tag, _, _) => filterTypeName tag
    attributes :=
      ((tagged tagSequence (skipTlv beforeFilter)).elim [] children).filterMap fun (t, v) =>
      if t = tagOctetString then some (utf8Lossy v) else none }

def parseSearchResultEntry : LdapOpDetails :=
  { LdapOpDetails.default with objectName := octetString val }

def parseDnFirst : LdapOpDetails :=
  { LdapOpDetails.default with dn := octetString val }

def parseExtendedRequest : LdapOpDetails :=
  { LdapOpDetails.default with extendedOid := (tagged 0x80 val).map utf8Lossy }

def extractOpDetails (opTag : UInt8) (opVal : List UInt8) : LdapOpDetails :=
  match ProtocolOp.ofTag opTag with
  | some .bindRequest => parseBindRequest opVal
  | some .searchRequest => parseSearchRequest opVal
  | some .searchResultEntry => parseSearchResultEntry opVal
  | some .modifyRequest | some .addRequest | some .modifyDnRequest | some .compareRequest =>
    parseDnFirst opVal
  -- the value of a DelRequest is the name itself
  | some .delRequest => { LdapOpDetails.default with dn := some (utf8Lossy opVal) }
  | some .extendedRequest => parseExtendedRequest opVal
  | some .bindResponse | some .searchResultDone | some .modifyResponse | some .addResponse
  | some .delResponse | some .modifyDnResponse | some .compareResponse | some .extendedResponse =>
    parseLdapResult opVal
  | some .unbindRequest | some .abandonRequest | none => LdapOpDetails.default

/-! ## Messages -/

structure LdapMessage where
  messageId : BitVec 64
  opTag : UInt8
  details : LdapOpDetails
deriving DecidableEq

def LdapMessage.op (msg : LdapMessage) : Option ProtocolOp := ProtocolOp.ofTag msg.opTag

/-- The message in the value of the outer SEQUENCE; its controls are not read. -/
def parseLdapMessage (seqVal : List UInt8) : Option LdapMessage := do
  let (idTag, idVal, consumed) ← decodeTlv seqVal
  if idTag ≠ tagInteger then none
  let messageId ← decodeInteger idVal
  let (opTag, opVal, _) ← decodeTlv (seqVal.drop consumed)
  return ⟨messageId, opTag, extractOpDetails opTag opVal⟩

end MarlinspikeDpi.Ldap
