import MarlinspikeDpi.Engine.Decoder

/-!
# From captured bytes to EtherType and L3 payload

Each link type has its own way to the pair (EtherType, payload).
-/

namespace MarlinspikeDpi.Engine

open Bytes

structure LinkFrame where
  (srcMac dstMac : MacAddr)
  vlanId : Option UInt16
  ethertype : UInt16
  l2Payload : List UInt8
deriving DecidableEq

/-! ## Ethernet -/

/-- 802.1Q, 802.1ad and the older QinQ tag type. -/
def isVlanTag (ethertype : UInt16) : Bool :=
  ethertype == 0x8100 || ethertype == 0x88A8 || ethertype == 0x9100

/-- Strip VLAN tags as long as there is a whole one; the outermost tag names the VLAN. -/
def unwrapVlan (ethertype : UInt16) (vlanId : Option UInt16) : List UInt8 →
    UInt16 × Option UInt16 × List UInt8
  | t0 :: t1 :: e0 :: e1 :: rest =>
    if isVlanTag ethertype then
      -- tag control information first, then the EtherType behind the tag
      unwrapVlan (be16 e0 e1) (some (vlanId.getD (be16 t0 t1 &&& 0x0FFF))) rest
    else
      (ethertype, vlanId, t0 :: t1 :: e0 :: e1 :: rest)
  -- a tag that is cut off stays in the payload
  | short => (ethertype, vlanId, short)

def ethernetHeader (pktData : List UInt8) : LinkFrame :=
  if 14 ≤ pktData.length then
    let (ethertype, vlanId, l2Payload) :=
      unwrapVlan (be16 (byteAt pktData 12) (byteAt pktData 13)) none (pktData.drop 14)
    { srcMac := MacAddr.ofBytes pktData 6
      dstMac := MacAddr.ofBytes pktData 0
      vlanId
      ethertype
      l2Payload }
  else
    -- too short for a header: an empty payload, which the engine reports as an anomaly
    { srcMac := MacAddr.zero, dstMac := MacAddr.zero, vlanId := none, ethertype := 0, l2Payload :=
      [] }

/-- Do these bytes look like the start of an IPv4 or ARP packet? -/
def looksLikeL3 (payload : List UInt8) : Option (UInt16 × List UInt8) :=
  if 20 ≤ payload.length ∧ byteAt payload 0 >>> 4 = 4 then
    some (0x0800, payload)
  -- hardware type Ethernet, protocol IPv4, address lengths six and four
  else if 8 ≤ payload.length ∧ [0x00, 0x01, 0x08, 0x00, 0x06, 0x04] <+: payload then
    some (0x0806, payload)
  else
    none

/-- An L3 packet behind a pseudo-header of six or four bytes. -/
def detectPrefixedL3Payload (pktData : List UInt8) : Option (UInt16 × List UInt8) :=
  (looksLikeL3 (pktData.drop 6)).or (looksLikeL3 (pktData.drop 4))

def isPlainL3 (ethertype : UInt16) : Bool :=
  ethertype == 0x0800 || ethertype == 0x0806 || ethertype == 0x88CC

/-- Where the pseudo-header heuristic looks: behind an 802.3 length first inside the frame's
payload, otherwise only in the raw frame. -/
def prefixedPayload (pktData : List UInt8) (header : LinkFrame) : Option (UInt16 × List UInt8) :=
  if isPlainL3 header.ethertype then
    none
  else if header.ethertype ≤ 1500 then
    (detectPrefixedL3Payload header.l2Payload).or (detectPrefixedL3Payload pktData)
  else
    detectPrefixedL3Payload pktData

def decodeEthernet (pktData : List UInt8) : LinkFrame :=
  let header := ethernetHeader pktData
  match prefixedPayload pktData header with
  | some (ethertype, payload) =>
    -- no outer Ethernet identity: the MAC addresses are zeroed
    { header with
      srcMac := MacAddr.zero
      dstMac := MacAddr.zero
      ethertype
      l2Payload := payload }
  | none => header

/-! ## The other link types -/

def decodeRawIp (pktData : List UInt8) : UInt16 × List UInt8 :=
  match pktData with
  | [] => (0, [])
  | first :: _ =>
    if first >>> 4 = 4 then (0x0800, pktData)
    else if first >>> 4 = 6 then (0x86DD, pktData)
    else (0, [])

def decodeLinuxSll (pktData : List UInt8) : UInt16 × List UInt8 :=
  if pktData.length < 16 then (0, [])
  else (be16 (byteAt pktData 14) (byteAt pktData 15), pktData.drop 16)

def decodeLinuxSll2 (pktData : List UInt8) : UInt16 × List UInt8 :=
  if pktData.length < 20 then (0, [])
  else (be16 (byteAt pktData 0) (byteAt pktData 1), pktData.drop 20)

/-- Framings without an L2 identity: zero MAC addresses and no VLAN. -/
def withoutIdentity (decoded : UInt16 × List UInt8) : LinkFrame :=
  { srcMac := MacAddr.zero, dstMac := MacAddr.zero, vlanId := none, ethertype :=
    decoded.1, l2Payload := decoded.2 }

def decodeLink (linktype : LinkType) (pktData : List UInt8) : LinkFrame :=
  match linktype with
  | .ethernet => decodeEthernet pktData
  | .rawIp => withoutIdentity (decodeRawIp pktData)
  | .linuxSll => withoutIdentity (decodeLinuxSll pktData)
  | .linuxSll2 => withoutIdentity (decodeLinuxSll2 pktData)

/-! ## What the pseudo-header heuristic can change -/

lemma decodeEthernet_of_none {pktData : List UInt8}
    (h : prefixedPayload pktData (ethernetHeader pktData) = none) :
    decodeEthernet pktData = ethernetHeader pktData := by
  simp [decodeEthernet, h]

lemma decodeEthernet_of_some {ethertype : UInt16} {pktData payload : List UInt8}
    (h : prefixedPayload pktData (ethernetHeader pktData) = some (ethertype, payload)) :
    decodeEthernet pktData =
      { ethernetHeader pktData with
        srcMac := MacAddr.zero
        dstMac := MacAddr.zero
        ethertype
        l2Payload := payload } := by
  simp [decodeEthernet, h]

lemma looksLikeL3_eq_some {ethertype : UInt16} {payload found : List UInt8}
    (h : looksLikeL3 payload = some (ethertype, found)) :
    (ethertype = 0x0800 ∨ ethertype = 0x0806) ∧ found = payload ∧ 8 ≤ payload.length := by
  unfold looksLikeL3 at h
  split at h
  · cases h
    exact ⟨Or.inl rfl, rfl, by omega⟩
  · split at h
    · rename_i harp
      cases h
      exact ⟨Or.inr rfl, rfl, harp.1⟩
    · cases h

lemma detectPrefixedL3Payload_eq_some {ethertype : UInt16} {pktData payload : List UInt8}
    (h : detectPrefixedL3Payload pktData = some (ethertype, payload)) :
    (ethertype = 0x0800 ∨ ethertype = 0x0806) ∧
      (payload = pktData.drop 6 ∨ payload = pktData.drop 4) ∧ payload ≠ [] := by
  have hcases : looksLikeL3 (pktData.drop 6) = some (ethertype, payload) ∨
      looksLikeL3 (pktData.drop 4) = some (ethertype, payload) := by
    rw [detectPrefixedL3Payload, Option.or_eq_some_iff] at h
    exact h.imp_right And.right
  -- both offsets give the same facts; only the offset itself differs
  rcases hcases with h6 | h4
  · rcases looksLikeL3_eq_some h6 with ⟨hetype, hpay, hlen⟩
    refine ⟨hetype, Or.inl hpay, ?_⟩
    intro hnil
    rw [← hpay, hnil] at hlen
    simp at hlen
  · rcases looksLikeL3_eq_some h4 with ⟨hetype, hpay, hlen⟩
    refine ⟨hetype, Or.inr hpay, ?_⟩
    intro hnil
    rw [← hpay, hnil] at hlen
    simp at hlen

end MarlinspikeDpi.Engine
