import MarlinspikeDpi.Foundation.Bytes
import MarlinspikeDpi.Foundation.Text

/-!
# The fields of Kerberos messages

Messages are encoded in ASN.1 DER. An element is found among the elements of the one around it by
its tag; what is not looked for is stepped over.
-/

namespace MarlinspikeDpi.Kerberos

open Bytes Text

@[match_pattern] def tagAsReq : UInt8 := 0x6A
@[match_pattern] def tagAsRep : UInt8 := 0x6B
@[match_pattern] def tagTgsReq : UInt8 := 0x6C
@[match_pattern] def tagTgsRep : UInt8 := 0x6D
@[match_pattern] def tagApReq : UInt8 := 0x6E
@[match_pattern] def tagApRep : UInt8 := 0x6F
@[match_pattern] def tagKrbError : UInt8 := 0x7E

def tagSequence : UInt8 := 0x30
def tagInteger : UInt8 := 0x02
def tagGeneralString : UInt8 := 0x1B
def tagGeneralizedTime : UInt8 := 0x18
def tagBitString : UInt8 := 0x03

/-- The context-specific tags [0], [1], … are `ctx`, `ctx + 1`, … -/
def ctx : UInt8 := 0xA0

/-! ## Elements -/

variable (buf : List UInt8)

def berLength : Option (Nat × Nat) :=
  match buf with
  | [] => none
  | first :: rest =>
    if first &&& 0x80 = 0 then some (first.toNat, 1)
    else
      let nBytes := (first &&& 0x7F).toNat
      if nBytes = 0 ∨ 4 < nBytes ∨ buf.length < 1 + nBytes then none
      else some (beNat (rest.take nBytes), 1 + nBytes)

/-- The tag, the content, and the number of bytes of the whole element. -/
def berTlv : Option (UInt8 × List UInt8 × Nat) :=
  match buf with
  | [] => none
  | tag :: rest =>
    (berLength rest).bind fun (len, llen) =>
      let hdr := 1 + llen
      if buf.length < hdr + len then none else some (tag, slice buf hdr len, hdr + len)

variable (content : List UInt8)

def berInteger : Option Int :=
  if content = [] ∨ 8 < content.length then none
  else
    let signExtend : BitVec 64 := if byteAt content 0 &&& 0x80 ≠ 0 then BitVec.allOnes 64 else 0
    some (content.foldl (fun (v : BitVec 64) b => (v <<< 8) ||| BitVec.ofNat 64 b.toNat)
      signExtend).toInt

def berString : String := utf8Lossy content

/-- The loop of `TlvIter`: it ends at the end of the bytes, or at bytes that are no element. -/
def tlvIterFrom : Nat → List UInt8 → List (UInt8 × List UInt8)
  | 0, _ => []
  | fuel + 1, buf =>
    match berTlv buf with
    | none => []
    | some (tag, content, total) => (tag, content) :: tlvIterFrom fuel (buf.drop total)

def tlvIter : List (UInt8 × List UInt8) := tlvIterFrom buf.length buf

def findChild (tag : UInt8) : Option (List UInt8) :=
  (tlvIter buf).findSome? fun child => if child.1 = tag then some child.2 else none

def ctxInner (n : UInt8) : Option (List UInt8) := findChild buf (ctx ||| n)

/-! ## Values -/

def parsePrincipalName : Option String := (findChild content tagSequence).bind fun seq =>
    (ctxInner seq 1).bind fun nameStringCtx =>
      (findChild nameStringCtx tagSequence).bind fun nameSeq =>
        let parts := (tlvIter nameSeq).filterMap fun child =>
          if child.1 = tagGeneralString then some (berString child.2) else none
        if parts = [] then none else some ("/".intercalate parts)

def parseRealm : Option String := (findChild content tagGeneralString).map berString

def parseEtypeList : Option String := (findChild content tagSequence).bind fun seq =>
    let etypes := (tlvIter seq).filterMap fun child =>
      if child.1 = tagInteger then (berInteger child.2).map toString else none
    if etypes = [] then none else some (",".intercalate etypes)

def parseKerberosTime : Option String := (findChild content tagGeneralizedTime).map berString

/-- The first byte of a BIT STRING is the number of bits that are not used; of the others four are
read. -/
def parseOptions : Option UInt32 := (findChild content tagBitString).bind fun bs =>
    if bs.length < 2 then none
    else
      some (((bs.drop 1).take 4).zipIdx.foldl
        (fun val (b, i) => val ||| (b.toUInt32 <<< UInt32.ofNat (24 - i * 8))) 0)

def parseInteger : Option Int := (findChild content tagInteger).bind berInteger

/-! ## Messages -/

structure KrbMsg where
  pvno : Option Int := none
  msgType : Option Int := none
  cname : Option String := none
  realm : Option String := none
  sname : Option String := none
  ticketRealm : Option String := none
  ticketSname : Option String := none
  options : Option UInt32 := none
  etypes : Option String := none
  nonce : Option Int := none
  fromTime : Option String := none
  till : Option String := none
  rtime : Option String := none
  encEtype : Option Int := none
  errorCode : Option Int := none
  eText : Option String := none
  svcRealm : Option String := none
deriving DecidableEq

def KrbMsg.addReqBody (m : KrbMsg) (body : List UInt8) : KrbMsg :=
  { m with
    options := (ctxInner body 0).bind parseOptions
    cname := (ctxInner body 1).bind parsePrincipalName
    realm := (ctxInner body 2).bind parseRealm
    sname := (ctxInner body 3).bind parsePrincipalName
    fromTime := (ctxInner body 4).bind parseKerberosTime
    till := (ctxInner body 5).bind parseKerberosTime
    rtime := (ctxInner body 6).bind parseKerberosTime
    nonce := (ctxInner body 7).bind parseInteger
    etypes := (ctxInner body 8).bind parseEtypeList }

def parseKdcReq : KrbMsg :=
  match findChild content tagSequence with
  | none => {}
  | some seq =>
    let m : KrbMsg :=
      { pvno := (ctxInner seq 1).bind parseInteger, msgType := (ctxInner seq 2).bind parseInteger }
    match ctxInner seq 4 with
    | none => m
    | some bodyCtx =>
      match findChild bodyCtx tagSequence with
      | none => m
      | some body => m.addReqBody body

def parseTicketFields (m : KrbMsg) (ticketCtx : List UInt8) : KrbMsg :=
  match (findChild ticketCtx 0x61).bind fun ticketApp => findChild ticketApp tagSequence with
  | none => m
  | some ticketSeq =>
    { m with
      ticketRealm := (ctxInner ticketSeq 1).bind parseRealm
      ticketSname := (ctxInner ticketSeq 2).bind parsePrincipalName }

def replyHead (seq : List UInt8) : KrbMsg :=
  { pvno := (ctxInner seq 0).bind parseInteger, msgType := (ctxInner seq 1).bind parseInteger }

def parseKdcRep : KrbMsg :=
  match findChild content tagSequence with
  | none => {}
  | some seq =>
    let m : KrbMsg :=
      { replyHead seq with
        realm := (ctxInner seq 3).bind parseRealm
        cname := (ctxInner seq 4).bind parsePrincipalName }
    let m := ((ctxInner seq 5).map (parseTicketFields m)).getD m
    { m with
      encEtype := (ctxInner seq 6).bind fun encCtx =>
        (findChild encCtx tagSequence).bind fun encSeq => (ctxInner encSeq 0).bind parseInteger }

def parseApReq : KrbMsg :=
  match findChild content tagSequence with
  | none => {}
  | some seq =>
    let m : KrbMsg := { replyHead seq with options := (ctxInner seq 2).bind parseOptions }
    ((ctxInner seq 3).map (parseTicketFields m)).getD m

def parseApRep : KrbMsg :=
  match findChild content tagSequence with
  | none => {}
  | some seq => replyHead seq

def parseKrbError : KrbMsg :=
  match findChild content tagSequence with
  | none => {}
  | some seq =>
    { replyHead seq with
      errorCode := (ctxInner seq 6).bind parseInteger
      realm := (ctxInner seq 7).bind parseRealm
      cname := (ctxInner seq 8).bind parsePrincipalName
      svcRealm := (ctxInner seq 9).bind parseRealm
      sname := (ctxInner seq 10).bind parsePrincipalName
      eText := (ctxInner seq 11).bind fun c => (findChild c tagGeneralString).map berString }

end MarlinspikeDpi.Kerberos
