import MarlinspikeDpi.Ike.Decoder

/-!
# Which well-formed messages the walk accepts

The walk takes the payloads of a chain one by one (`walkPayloadsLoop_chain`), and whatever it takes
without complaint is a chain (`exists_chain_of_walkPayloadsLoop`).

* `chains_reported_iff`: which messages are accepted, with their Vendor IDs.
-/

namespace MarlinspikeDpi.Ike

open Engine Bytes Text List IkeDecoder

/-! ## Chains of payloads -/

/-- A generic payload: its header is followed by the body. -/
structure Payload where
  (payloadType reserved : UInt8)
  body : List UInt8
  typed : payloadType ≠ 0
  fits : 4 + body.length < 2 ^ 16

open Payload

namespace Payload

def length (p : Payload) : Nat := 4 + p.body.length

/-- The bytes of a payload that is followed by one of type `next`. -/
def encode (p : Payload) (next : UInt8) : List UInt8 :=
  next :: p.reserved :: (toBe 2 p.length ++ p.body)

lemma length_encode (p : Payload) (next : UInt8) : (p.encode next).length = p.length := by
  simp only [encode, length, length_cons, length_append, length_toBe]
  omega

def listed (p : Payload) : List String :=
  if p.payloadType = 13 ∧ p.body ≠ [] then [matchVendorId p.body] else []

end Payload

/-- The type of the first payload, where `last` is named behind the last one. -/
def firstType : List Payload → UInt8 → UInt8
  | [], last => last
  | p :: _, _ => p.payloadType

def encodeChain : List Payload → UInt8 → List UInt8
  | [], _ => []
  | p :: ps, last => p.encode (firstType ps last) ++ encodeChain ps last

/-! ## The walk over a chain -/

lemma walkPayloadsLoop_append (rounds : Nat) (front buf : List UInt8) (next : UInt8) (offset : Nat)
    (names : List String) :
    walkPayloadsLoop rounds (front ++ buf) next (front.length + offset) names =
      walkPayloadsLoop rounds buf next offset names := by
  induction rounds generalizing next offset names with
  | zero => rfl
  | succ rounds ih =>
    have hslice : ∀ i n, slice (front ++ buf) (front.length + offset + i) n =
        slice buf (offset + i) n := by
      intro i n
      rw [slice_append_right (by omega)]
      congr 1
      omega
    have hshort : ∀ n, (front ++ buf).length < front.length + offset + n ↔
        buf.length < offset + n := by
      rw [length_append]
      omega
    simp only [walkPayloadsLoop, hslice, hshort, byteAt_append_right]
    simp only [Nat.add_assoc, ih]

lemma walkPayloadsLoop_encode_append (rounds : Nat) (p : Payload) (next : UInt8) (rest : List UInt8)
    (names : List String) :
    walkPayloadsLoop (rounds + 1) (p.encode next ++ rest) p.payloadType 0 names =
      walkPayloadsLoop rounds rest next 0 (names ++ p.listed) := by
  have hlen : beNat (slice (p.encode next ++ rest) 2 2) = p.length := by
    have hbytes : slice (p.encode next ++ rest) 2 2 = toBe 2 p.length := rfl
    rw [hbytes, beNat_toBe p.fits]
  have hbody : slice (p.encode next ++ rest) 4 (p.length - 4) = p.body := by
    have hsplit : p.encode next ++ rest = (next :: p.reserved :: toBe 2 p.length) ++
        (p.body ++ rest) := by
      simp only [encode, cons_append, append_assoc]
    have hhead : (next :: p.reserved :: toBe 2 p.length).length = 4 := rfl
    rw [hsplit]
    exact slice_append_self (Nat.add_sub_cancel_left 4 _).symm
  have hfour : 4 ≤ p.length := Nat.le_add_right _ _
  have hall : p.length ≤ (p.encode next ++ rest).length := by
    rw [length_append, p.length_encode]
    exact Nat.le_add_right _ _
  have hheader : ¬ (p.encode next ++ rest).length < 0 + 4 := by omega
  have hbad : ¬ (p.length < 4 ∨ (p.encode next ++ rest).length < 0 + p.length) := by omega
  have hempty : 4 < p.length ↔ p.body ≠ [] := by
    rw [← length_pos_iff, Payload.length]
    omega
  have hnames : (if p.payloadType = 13 ∧ p.body ≠ [] then names ++ [matchVendorId p.body]
      else names) = names ++ p.listed := by
    rw [listed]
    split
    · rfl
    · exact (append_nil names).symm
  have hmove := walkPayloadsLoop_append rounds (p.encode next) rest next 0 (names ++ p.listed)
  rw [p.length_encode] at hmove
  simp only [walkPayloadsLoop, if_neg p.typed, if_neg hheader, Nat.zero_add, hlen, hbody, hempty,
    hnames]
  rw [Nat.zero_add] at hbad
  exact (if_neg hbad).trans hmove

lemma walkPayloadsLoop_chain (rounds : Nat) (ps : List Payload) (last : UInt8) (rest : List UInt8)
    (names : List String) :
    walkPayloadsLoop (rounds + ps.length) (encodeChain ps last ++ rest)
      (firstType ps last) 0 names =
      walkPayloadsLoop rounds rest last 0 (names ++ ps.flatMap listed) := by
  induction ps generalizing names with
  | nil =>
    rw [flatMap_nil, append_nil]
    rfl
  | cons p ps ih =>
    calc
      walkPayloadsLoop (rounds + (p :: ps).length)
        (encodeChain (p :: ps) last ++ rest) p.payloadType 0 names
          = walkPayloadsLoop (rounds + ps.length + 1)
              (p.encode (firstType ps last) ++ (encodeChain ps last ++ rest)) p.payloadType 0
                names := by
            rw [length_cons, encodeChain, append_assoc, Nat.add_assoc]
      _ = walkPayloadsLoop (rounds + ps.length) (encodeChain ps last ++ rest) (firstType ps last) 0
            (names ++ p.listed) := walkPayloadsLoop_encode_append _ _ _ _ _
      _ = walkPayloadsLoop rounds rest last 0 (names ++ (p :: ps).flatMap listed) := by
            rw [ih, flatMap_cons, append_assoc]

lemma exists_payload (buf : List UInt8) {next : UInt8} (htyped : next ≠ 0)
    (hheader : 4 ≤ buf.length)
    (hfour : 4 ≤ beNat (slice buf 2 2)) (hall : beNat (slice buf 2 2) ≤ buf.length) :
    ∃ (p : Payload) (rest : List UInt8), p.payloadType = next ∧
      buf = p.encode (byteAt buf 0) ++ rest := by
  match buf, hheader with
  | b0 :: b1 :: b2 :: b3 :: tail, _ =>
    have hvalue : beNat (slice (b0 :: b1 :: b2 :: b3 :: tail) 2 2) = b2.toNat * 256 + b3.toNat := by
      change beNat [b2, b3] = _
      simp [beNat]
      omega
    rw [hvalue] at hfour hall
    have h2 := b2.toNat_lt
    have h3 := b3.toNat_lt
    simp only [length_cons] at hall
    have hbody : 4 + (tail.take (b2.toNat * 256 + b3.toNat - 4)).length =
        b2.toNat * 256 + b3.toNat := by
      rw [length_take]
      omega
    refine ⟨⟨next, b1, tail.take (b2.toNat * 256 + b3.toNat - 4), htyped, by omega⟩,
      tail.drop (b2.toNat * 256 + b3.toNat - 4), rfl, ?_⟩
    have hbytes : toBe 2 (b2.toNat * 256 + b3.toNat) = [b2, b3] := by
      have hhigh : (b2.toNat * 256 + b3.toNat) / 256 = b2.toNat := by omega
      have hlow : UInt8.ofNat (b2.toNat * 256 + b3.toNat) = b3 := by
        apply UInt8.toNat_inj.1
        rw [UInt8.toNat_ofNat']
        omega
      simp [toBe, toLe, hhigh, hlow]
    simp only [Payload.encode, Payload.length, hbody, hbytes, cons_append, nil_append,
      take_append_drop]
    rfl

lemma exists_chain_of_walkPayloadsLoop (rounds : Nat) (buf : List UInt8) (next : UInt8)
    (names found : List String)
    (hrounds : buf.length < rounds)
    (hwalk : walkPayloadsLoop rounds buf next 0 names = (found, false)) :
    ∃ (ps : List Payload) (rest : List UInt8), next = firstType ps 0 ∧
      buf = encodeChain ps 0 ++ rest ∧ found = names ++ ps.flatMap listed := by
  induction rounds generalizing buf next names with
  | zero => exact absurd hrounds (Nat.not_lt_zero _)
  | succ rounds ih =>
    by_cases hnext : next = 0
    · rw [walkPayloadsLoop, if_pos hnext] at hwalk
      exact ⟨[], buf, hnext, rfl, by rw [flatMap_nil, append_nil, (Prod.mk.inj hwalk).1]⟩
    · have hheader : ¬ buf.length < 0 + 4 := by
        intro hshort
        rw [walkPayloadsLoop, if_neg hnext, if_pos hshort] at hwalk
        exact Bool.noConfusion (Prod.mk.inj hwalk).2
      have hgood : ¬ (beNat (slice buf 2 2) < 4 ∨ buf.length < beNat (slice buf 2 2)) := by
        intro hbad
        simp only [walkPayloadsLoop, if_neg hnext, if_neg hheader, Nat.zero_add,
          if_pos hbad] at hwalk
        exact Bool.noConfusion (Prod.mk.inj hwalk).2
      obtain ⟨p, rest, rfl, hbuf⟩ := exists_payload buf hnext (by omega) (by omega) (by omega)
      have hless : rest.length < rounds := by
        have hcount := congrArg List.length hbuf
        rw [length_append, p.length_encode, Payload.length] at hcount
        omega
      rw [hbuf, walkPayloadsLoop_encode_append] at hwalk
      obtain ⟨ps, rest', htype, hrest, hfound⟩ := ih rest _ _ hless hwalk
      refine ⟨p :: ps, rest', rfl, ?_, ?_⟩
      · rw [encodeChain, ← htype, append_assoc, ← hrest]
        exact hbuf
      · rw [hfound, append_assoc, flatMap_cons]

lemma length_le_length_encodeChain (ps : List Payload) (last : UInt8) :
    ps.length ≤ (encodeChain ps last).length := by
  induction ps with
  | nil => exact le_rfl
  | cons p ps ih =>
    rw [encodeChain, length_append, p.length_encode, Payload.length, length_cons]
    omega

lemma walkPayloads_append (header body : List UInt8) (next : UInt8) :
    walkPayloads (header ++ body) next header.length =
      walkPayloadsLoop (header.length + body.length + 1) body next 0 [] := by
  have hmove := walkPayloadsLoop_append (header.length + body.length + 1) header body next 0 []
  rw [walkPayloads, length_append]
  exact hmove

lemma walkPayloads_chain (header rest : List UInt8) (ps : List Payload) (last : UInt8) :
    ∃ rounds, walkPayloads (header ++ (encodeChain ps last ++ rest))
      (firstType ps last) header.length =
      walkPayloadsLoop (rounds + 1) rest last 0 (ps.flatMap listed) := by
  have hle := length_le_length_encodeChain ps last
  refine ⟨header.length + ((encodeChain ps last ++ rest).length - ps.length), ?_⟩
  have hrounds : header.length + (encodeChain ps last ++ rest).length + 1 =
      header.length + ((encodeChain ps last ++ rest).length - ps.length) + 1 + ps.length := by
    rw [length_append]
    omega
  rw [walkPayloads_append, hrounds, walkPayloadsLoop_chain, nil_append]

lemma walkPayloads_encodeChain (header : List UInt8) (ps : List Payload) (last : UInt8) :
    walkPayloads (header ++ encodeChain ps last) (firstType ps last) header.length =
      (ps.flatMap listed, last != 0) := by
  obtain ⟨rounds, hwalk⟩ := walkPayloads_chain header [] ps last
  rw [append_nil] at hwalk
  rw [hwalk, walkPayloadsLoop]
  by_cases hlast : last = 0
  · rw [hlast]
    rfl
  · rw [if_neg hlast, if_pos (by decide), bne_iff_ne.2 hlast]

lemma walkPayloads_broken (header tail : List UInt8) (ps : List Payload) (last : UInt8)
    (hlast : last ≠ 0)
    (hbroken : tail.length < 4 ∨ beNat (slice tail 2 2) < 4 ∨
      tail.length < beNat (slice tail 2 2)) :
    (walkPayloads (header ++ (encodeChain ps last ++ tail)) (firstType ps last) header.length).2 =
      true := by
  obtain ⟨rounds, hwalk⟩ := walkPayloads_chain header tail ps last
  rw [hwalk]
  by_cases hheader : tail.length < 4
  · rw [walkPayloadsLoop, if_neg hlast, if_pos hheader]
  · have hbad := hbroken.resolve_left hheader
    simp only [walkPayloadsLoop, if_neg hlast, Nat.zero_add, if_neg hheader, if_pos hbad]

lemma walkPayloads_eq_iff (header body : List UInt8) (next : UInt8) (found : List String) :
    walkPayloads (header ++ body) next header.length = (found, false) ↔
      ∃ (ps : List Payload) (rest : List UInt8), next = firstType ps 0 ∧
        body = encodeChain ps 0 ++ rest ∧ found = ps.flatMap listed := by
  constructor
  · intro hwalk
    rw [walkPayloads_append] at hwalk
    obtain ⟨ps, rest, htype, hbody, hfound⟩ :=
      exists_chain_of_walkPayloadsLoop _ body next [] found (by omega) hwalk
    exact ⟨ps, rest, htype, hbody, by rw [hfound, nil_append]⟩
  · rintro ⟨ps, rest, rfl, rfl, rfl⟩
    obtain ⟨rounds, hwalk⟩ := walkPayloads_chain header rest ps 0
    rw [hwalk, walkPayloadsLoop, if_pos rfl]

/-! ## Messages -/

/-- The fields of the header that are the same for all messages. -/
structure Fixed where
  (initiatorSpi responderSpi : UInt64)
  (exchangeType flags : UInt8)
  messageId : UInt32

/-- The header of a message with a first payload of type `next` and the given length field. -/
def Fixed.encode (f : Fixed) (next version : UInt8) (declared : Nat) : List UInt8 :=
  toBe 8 f.initiatorSpi.toNat ++ toBe 8 f.responderSpi.toNat ++
    [next, version, f.exchangeType, f.flags] ++ toBe 4 f.messageId.toNat ++ toBe 4 declared

inductive Body where
  | clearV1 (payloads : List Payload)
  | encryptedV1 (first : UInt8) (ciphertext : List UInt8)
  | clearV2 (payloads : List Payload)
  /-- The Encrypted payload comes last, and names the first payload inside of it. -/
  | encryptedV2 (payloads : List Payload) (encrypted : Payload) (inner : UInt8)

open Body

namespace Body

/-- IKEv2 does not use the numbers of the IKEv1 payloads. -/
def typesV2 (ps : List Payload) : Prop := ∀ p ∈ ps, 33 ≤ p.payloadType ∧ p.payloadType ≠ 46

/-- In IKEv1 bit 0 of the flags tells that the body is encrypted. -/
def WellFormed (flags : UInt8) : Body → Prop
  | clearV1 _ => flags &&& 1 = 0
  | encryptedV1 _ _ => flags &&& 1 ≠ 0
  | clearV2 ps => typesV2 ps
  | encryptedV2 ps encrypted _ => typesV2 ps ∧ encrypted.payloadType = 46

def version : Body → UInt8
  | clearV1 _ => 0x10
  | encryptedV1 _ _ => 0x10
  | clearV2 _ => 0x20
  | encryptedV2 _ _ _ => 0x20

def first : Body → UInt8
  | clearV1 ps => firstType ps 0
  | encryptedV1 first _ => first
  | clearV2 ps => firstType ps 0
  | encryptedV2 ps encrypted inner => firstType (ps ++ [encrypted]) inner

def encode : Body → List UInt8
  | clearV1 ps => encodeChain ps 0
  | encryptedV1 _ ciphertext => ciphertext
  | clearV2 ps => encodeChain ps 0
  | encryptedV2 ps encrypted inner => encodeChain (ps ++ [encrypted]) inner

/-- The Vendor IDs that can be read: in IKEv1 they have type 13, in IKEv2 type 43. -/
def clearVendorIds : Body → List String
  | clearV1 ps => (ps.filter (·.payloadType = 13)).map (matchVendorId ·.body)
  | encryptedV1 _ _ => []
  | clearV2 ps => (ps.filter (·.payloadType = 43)).map (matchVendorId ·.body)
  | encryptedV2 ps _ _ => (ps.filter (·.payloadType = 43)).map (matchVendorId ·.body)

/-- The bodies that the walk reports as they should be. -/
def Readable : Body → Prop
  | clearV1 ps => ∀ p ∈ ps, p.payloadType = 13 → p.body ≠ []
  -- the ciphertext looks like a chain by chance
  | encryptedV1 first ciphertext =>
    ∃ (ps : List Payload) (rest : List UInt8), first = firstType ps 0 ∧
      ciphertext = encodeChain ps 0 ++ rest ∧ ∀ p ∈ ps, p.payloadType = 13 → p.body = []
  | clearV2 ps => ∀ p ∈ ps, p.payloadType ≠ 43
  | encryptedV2 ps _ inner => inner = 0 ∧ ∀ p ∈ ps, p.payloadType ≠ 43

end Body

structure IkeMessage where
  fixed : Fixed
  body : Body
  wellFormed : body.WellFormed fixed.flags

def IkeMessage.encode (m : IkeMessage) : List UInt8 :=
  m.fixed.encode m.body.first m.body.version (28 + m.body.encode.length) ++ m.body.encode

/-- A message with a chain that stops in the middle: a payload whose length is below that of its
header, or that runs past the end of the buffer. The declared length is any, so a message of which
the capture lacks the end is one too. -/
structure BrokenMessage where
  fixed : Fixed
  declared : UInt32
  version : UInt8
  payloads : List Payload
  broken : UInt8
  tail : List UInt8
  known : version = 0x10 ∨ version = 0x20
  typed : broken ≠ 0
  short : tail.length < 4 ∨ beNat (slice tail 2 2) < 4 ∨ tail.length < beNat (slice tail 2 2)

def BrokenMessage.body (m : BrokenMessage) : List UInt8 := encodeChain m.payloads m.broken ++ m.tail

def BrokenMessage.encode (m : BrokenMessage) : List UInt8 :=
  m.fixed.encode (firstType m.payloads m.broken) m.version m.declared.toNat ++ m.body

/-! ## What is reported -/

/-- The complaint about a broken chain. -/
def MalformedChain (event : BronzeEvent) : Prop :=
  match event.family with
  | .parseAnomaly anomaly => anomaly.reason = "malformed ike payload chain"
  | _ => False

def vendorIdsOf (event : BronzeEvent) : Option (Option String) :=
  match event.family with
  | .protocolTransaction tx => some (tx.attributes.get "vendor_ids")
  | _ => none

/-- There is one transaction, which lists these Vendor IDs, and no complaint about the chain. -/
structure Reported (events : List BronzeEvent) (names : List String) : Prop where
  accepted : ∀ event ∈ events, ¬ MalformedChain event
  listed : events.filterMap vendorIdsOf = [vendorText names]

lemma vendorIdsOf_transaction (chunk : StreamChunk) (hdr : IkeHeader) (names : List String) :
    vendorIdsOf (transaction chunk hdr names) = some (vendorText names) := by
  simp only [vendorIdsOf, transaction, newEvent]
  cases vendorText names with
  | none =>
    rw [Option.toList_none, map_nil]
    exact congrArg some (OrderedMap.get_extend_of_not_mem (by simp))
  | some text => exact congrArg some (OrderedMap.get_extend_concat _ _ _ _)

lemma onMessage_reported_iff (d : IkeDecoder) (chunk : StreamChunk) (buf : List UInt8)
    (hdr : IkeHeader) (names : List String) : Reported (d.onMessage chunk buf hdr).1 names ↔
      (walkPayloads buf hdr.nextPayload 28).2 = false ∧
        vendorText (walkPayloads buf hdr.nextPayload 28).1 = vendorText names := by
  have hbad : MalformedChain (anomaly chunk "low" "malformed ike payload chain" buf) := rfl
  have htx : ∀ found, ¬ MalformedChain (transaction chunk hdr found) := fun _ => id
  have hasset : ¬ MalformedChain (initiatorAsset chunk hdr) := id
  have hnone : vendorIdsOf (initiatorAsset chunk hdr) = none := rfl
  rcases hwalk : walkPayloads buf _ 28 with ⟨found, malformed⟩
  simp only [onMessage, hwalk]
  constructor
  · intro hreported
    have haccepted : malformed = false := by
      rw [← Bool.not_eq_true]
      intro hmalformed
      apply hreported.accepted _ _ hbad
      split <;> exact mem_cons_self
    subst haccepted
    have hlisted := hreported.listed
    split at hlisted <;> simpa [vendorIdsOf_transaction, hnone] using hlisted
  · rintro ⟨rfl, htext⟩
    constructor
    · intro event hevent
      split at hevent
      · obtain rfl := mem_singleton.1 hevent
        exact htx found
      · rcases mem_pair.1 hevent with rfl | rfl
        · exact htx found
        · exact hasset
    · split <;> simp [vendorIdsOf_transaction, hnone, htext]

lemma exists_malformedChain_of_walkPayloads (d : IkeDecoder) (chunk : StreamChunk)
    (buf : List UInt8) (hdr : IkeHeader) (hwalk : (walkPayloads buf hdr.nextPayload 28).2 = true) :
    ∃ event ∈ (d.onMessage chunk buf hdr).1, MalformedChain event := by
  refine ⟨anomaly chunk "low" _ buf, ?_, rfl⟩
  simp only [onMessage, hwalk, if_true]
  split <;> exact mem_cons_self

lemma Fixed.length_encode (f : Fixed) (next version : UInt8) (declared : Nat) :
    (f.encode next version declared).length = 28 := by
  simp [Fixed.encode]

lemma exists_onDatagram_eq (d : IkeDecoder) (chunk : StreamChunk) (f : Fixed) (next version : UInt8)
    (declared : Nat) (body : List UInt8) (hversion : version = 0x10 ∨ version = 0x20)
    (hbuf : ikeBuf chunk = some (f.encode next version declared ++ body)) :
    ∃ hdr : IkeHeader, hdr.nextPayload = next ∧
      d.onDatagram chunk = d.onMessage chunk (f.encode next version declared ++ body) hdr := by
  have hlong : ¬ (f.encode next version declared ++ body).length < 28 := by
    rw [length_append, f.length_encode]
    omega
  obtain ⟨hdr, hparse, hnext, rfl⟩ : ∃ hdr : IkeHeader,
      IkeHeader.parse (f.encode next version declared ++ body) = some hdr ∧ hdr.nextPayload = next ∧
        hdr.versionByte = version := by
    rw [IkeHeader.parse, if_neg hlong]
    exact ⟨_, rfl, rfl, rfl⟩
  have hknown : ¬ (hdr.versionByte ≠ 0x10 ∧ hdr.versionByte ≠ 0x20) := by
    rintro ⟨h10, h20⟩
    exact hversion.elim h10 h20
  refine ⟨hdr, hnext, ?_⟩
  simp only [onDatagram, hbuf, hparse, if_neg hknown]

/-! ## The text of the Vendor IDs -/

lemma vendorText_nil : vendorText [] = none := rfl

lemma vendorText_eq_none_iff (names : List String) : vendorText names = none ↔ names = [] := by
  rw [vendorText]
  split <;> simp [*]

lemma comma_not_mem_matchVendorId (data : List UInt8) : ',' ∉ (matchVendorId data).toList := by
  have hknown : ∀ entry ∈ vendorIds, ',' ∉ entry.2.toList := by decide
  rw [matchVendorId]
  split
  · rename_i entry hfound
    exact hknown entry (mem_of_find?_eq_some hfound)
  · rw [String.toList_append, mem_append, hexEncode]
    rintro (hstart | hcode)
    · exact absurd hstart (by decide)
    · rw [String.toList_ofList, mem_flatMap] at hcode
      obtain ⟨b, -, hmem⟩ := hcode
      exact not_mem_hexDigits (by decide) 2 _ hmem

lemma count_vendorText {names : List String} {text : String}
    (hplain : ∀ name ∈ names, ',' ∉ name.toList)
    (htext : vendorText names = some text) : names.length = text.toList.count ',' + 1 := by
  cases names with
  | nil => exact absurd htext (by simp [vendorText_nil])
  | cons name names =>
    have hjoined : ",".intercalate (name :: names) = text := by simpa [vendorText] using htext
    have hnone : (List.map String.toList (name :: names)).flatten.count ',' = 0 := by
      rw [count_eq_zero, mem_flatten]
      rintro ⟨chars, hchars, hcomma⟩
      obtain ⟨name', hname, rfl⟩ := mem_map.1 hchars
      exact hplain name' hname hcomma
    rw [map_cons] at hnone
    have hsep : ",".toList = [','] := rfl
    rw [← hjoined, String.toList_intercalate, hsep, map_cons, Separated.count_intercalate, hnone,
      length_map, length_cons, Nat.zero_add]

lemma length_eq_of_vendorText_eq {names names' : List String}
    (hplain : ∀ name ∈ names, ',' ∉ name.toList)
    (hplain' : ∀ name ∈ names', ',' ∉ name.toList) (htext : vendorText names = vendorText names') :
    names.length = names'.length := by
  cases hnames : vendorText names with
  | none =>
    rw [hnames] at htext
    rw [(vendorText_eq_none_iff names).1 hnames, (vendorText_eq_none_iff names').1 htext.symm]
  | some text =>
    rw [hnames] at htext
    rw [count_vendorText hplain hnames, count_vendorText hplain' htext.symm]

lemma flatMap_listed (ps : List Payload) : ps.flatMap listed =
      ((ps.filter (·.payloadType = 13)).filter (·.body ≠ [])).map (matchVendorId ·.body) := by
  induction ps with
  | nil => rfl
  | cons p ps ih =>
    rw [flatMap_cons, ih, listed]
    by_cases htype : p.payloadType = 13
    · by_cases hbody : p.body = [] <;> simp [htype, hbody]
    · simp [htype]

lemma flatMap_listed_eq_nil_iff (ps : List Payload) : ps.flatMap listed = [] ↔
    ∀ p ∈ ps, p.payloadType = 13 → p.body = [] := by
  rw [flatMap_listed]
  simp [filter_eq_nil_iff, not_imp_not]

lemma vendorText_flatMap_listed_iff (ps : List Payload) : vendorText (ps.flatMap listed) =
        vendorText ((ps.filter (·.payloadType = 13)).map (matchVendorId ·.body)) ↔
      ∀ p ∈ ps, p.payloadType = 13 → p.body ≠ [] := by
  have hplain : ∀ qs : List Payload, ∀ name ∈ qs.map (matchVendorId ·.body), ',' ∉ name.toList := by
    intro qs name hname
    obtain ⟨p, -, rfl⟩ := mem_map.1 hname
    exact comma_not_mem_matchVendorId p.body
  have hall : (∀ p ∈ ps.filter (·.payloadType = 13), decide (p.body ≠ []) = true) ↔
      ∀ p ∈ ps, p.payloadType = 13 → p.body ≠ [] := by
    simp
  rw [flatMap_listed, ← hall]
  constructor
  · intro htext
    have hlength := length_eq_of_vendorText_eq (hplain _) (hplain _) htext
    rw [length_map, length_map] at hlength
    exact length_filter_eq_length_iff.1 hlength
  · intro hfull
    rw [filter_eq_self.2 hfull]

lemma flatMap_listed_of_typesV2 {ps : List Payload} (h : ∀ p ∈ ps, 33 ≤ p.payloadType) :
    ps.flatMap listed = [] := by
  rw [flatMap_listed_eq_nil_iff]
  intro p hp htype
  have hle := h p hp
  rw [htype] at hle
  exact absurd hle (by decide)

lemma none_eq_vendorText_iff (ps : List Payload) :
    vendorText [] = vendorText ((ps.filter (·.payloadType = 43)).map (matchVendorId ·.body)) ↔
      ∀ p ∈ ps, p.payloadType ≠ 43 := by
  rw [vendorText_nil, eq_comm, vendorText_eq_none_iff]
  simp

/-! ## Which messages are reported as they should be -/

lemma Body.version_known (b : Body) : b.version = 0x10 ∨ b.version = 0x20 := by
  cases b <;> simp [version]

/-- What the walk finds in a well-formed body is what it should find exactly if the body is
readable. -/
theorem Body.walkPayloads_iff {flags : UInt8} (b : Body) (hb : b.WellFormed flags)
    (header : List UInt8) : ((walkPayloads (header ++ b.encode) b.first header.length).2 = false ∧
        vendorText (walkPayloads (header ++ b.encode) b.first header.length).1 =
          vendorText b.clearVendorIds) ↔
      b.Readable := by
  cases b with
  | clearV1 ps =>
    simp only [encode, first, walkPayloads_encodeChain, clearVendorIds, Body.Readable,
      vendorText_flatMap_listed_iff]
    exact and_iff_right rfl
  | encryptedV1 first ciphertext =>
    simp only [Body.encode, Body.first, Body.clearVendorIds, Body.Readable]
    constructor
    · rintro ⟨haccepted, htext⟩
      rw [vendorText_nil, vendorText_eq_none_iff] at htext
      obtain ⟨ps, rest, hfirst, hbody, hfound⟩ :=
        (walkPayloads_eq_iff header ciphertext first []).1 (Prod.ext htext haccepted)
      exact ⟨ps, rest, hfirst, hbody, (flatMap_listed_eq_nil_iff ps).1 hfound.symm⟩
    · rintro ⟨ps, rest, hfirst, hbody, hempty⟩
      have hwalk := (walkPayloads_eq_iff header ciphertext first []).2
        ⟨ps, rest, hfirst, hbody, ((flatMap_listed_eq_nil_iff ps).2 hempty).symm⟩
      rw [hwalk]
      exact ⟨rfl, rfl⟩
  | clearV2 ps =>
    have hnone := flatMap_listed_of_typesV2 fun p hp => (hb p hp).1
    simp only [encode, first, walkPayloads_encodeChain, clearVendorIds, Body.Readable, hnone,
      none_eq_vendorText_iff]
    exact and_iff_right rfl
  | encryptedV2 ps encrypted inner =>
    have hnone : (ps ++ [encrypted]).flatMap listed = [] := by
      apply flatMap_listed_of_typesV2
      intro p hp
      rcases mem_append.1 hp with hp | hp
      · exact (hb.1 p hp).1
      · rw [mem_singleton.1 hp, hb.2]
        decide
    simp only [encode, first, walkPayloads_encodeChain, clearVendorIds, Body.Readable, hnone,
      none_eq_vendorText_iff, bne_eq_false_iff_eq]

/-- A well-formed message is accepted, with the Vendor IDs that it has in the clear, exactly if it
is readable; a message whose chain is broken is never accepted. -/
theorem chains_reported_iff (d : IkeDecoder) (chunk : StreamChunk) :
    (∀ m : IkeMessage, ikeBuf chunk = some m.encode →
        (Reported (d.onDatagram chunk).1 m.body.clearVendorIds ↔ m.body.Readable)) ∧
      ∀ m : BrokenMessage, ikeBuf chunk = some m.encode →
        ∃ event ∈ (d.onDatagram chunk).1, MalformedChain event := by
  constructor
  · intro m hbuf
    obtain ⟨hdr, hnext, hevents⟩ :=
      exists_onDatagram_eq d chunk m.fixed m.body.first m.body.version _ _ m.body.version_known hbuf
    have hlength := m.fixed.length_encode m.body.first m.body.version (28 + m.body.encode.length)
    rw [hevents, onMessage_reported_iff, hnext, ← hlength]
    exact m.body.walkPayloads_iff m.wellFormed _
  · intro m hbuf
    obtain ⟨hdr, hnext, hevents⟩ :=
      exists_onDatagram_eq d chunk m.fixed
        (firstType m.payloads m.broken) m.version _ _ m.known hbuf
    have hlength := m.fixed.length_encode (firstType m.payloads m.broken) m.version m.declared.toNat
    rw [hevents]
    apply exists_malformedChain_of_walkPayloads
    rw [hnext, ← hlength]
    exact walkPayloads_broken _ m.tail m.payloads m.broken m.typed m.short

/-! ## An exchange of IKEv2 -/

def smallPayload (payloadType : UInt8) (htyped : payloadType ≠ 0) : Payload :=
  ⟨payloadType, 0, [1, 2], htyped, by decide⟩

/-- The first message of an exchange: a security association, a key and a nonce, all in the
clear. -/
def saInit : IkeMessage where
  fixed := ⟨1, 0, 34, 0x08, 0⟩
  body := .clearV2 [smallPayload 33 (by decide), smallPayload 34 (by decide),
    smallPayload 40 (by decide)]
  wellFormed := by simp [Body.WellFormed, Body.typesV2, smallPayload]

/-- The third message: an Encrypted payload with the identity of the initiator (type 35) inside. -/
def auth : IkeMessage where
  fixed := ⟨1, 2, 35, 0x08, 1⟩
  body := .encryptedV2 [] (smallPayload 46 (by decide)) 35
  wellFormed := by simp [Body.WellFormed, Body.typesV2, smallPayload]

/-- The first message again, as long as before by its header, of which the capture has the first
payload and two bytes of the second. -/
def cutOff : BrokenMessage where
  fixed := saInit.fixed
  declared := 46
  version := 0x20
  payloads := [smallPayload 33 (by decide)]
  broken := 34
  tail := [40, 0]
  known := by decide
  typed := by decide
  short := by decide

def datagram (payload : List UInt8) : StreamChunk := hostChunk 0 .udp 500 500 payload

theorem saInit_reported :
    Reported (IkeDecoder.default.onDatagram (datagram saInit.encode)).1 [] ∧
      ∃ event ∈ (IkeDecoder.default.onDatagram (datagram cutOff.encode)).1, MalformedChain event :=
  ⟨((chains_reported_iff default (datagram saInit.encode)).1 saInit rfl).2
      (by simp [saInit, Body.Readable, smallPayload]),
    (chains_reported_iff default (datagram cutOff.encode)).2 cutOff rfl⟩

/-- The walk goes on behind the Encrypted payload, where the message ends. -/
theorem auth_not_reported :
    ikeBuf (datagram auth.encode) = some auth.encode ∧
      ¬ Reported (IkeDecoder.default.onDatagram (datagram auth.encode)).1
        auth.body.clearVendorIds := by
  refine ⟨rfl, fun hreported => ?_⟩
  exact hreported.accepted _ mem_cons_self rfl

end MarlinspikeDpi.Ike
