import MarlinspikeDpi.Foundation.Once
import MarlinspikeDpi.Kerberos.Decoder
import MarlinspikeDpi.Kerberos.KdcReq

/-!
# The servers and clients of requests

The decoder remembers in one flag that it has reported a server and a client.

* `assets_reported_iff`: when every server and every client is reported.
-/

namespace MarlinspikeDpi.Kerberos

open Engine Bytes Ber KerberosDecoder List Mealy

/-! ## Requests on the wire -/

/-- How a message comes: in a datagram, or in a stream, without or with its length before it. -/
inductive Carrier where
  | datagram
  | bare
  | counted
deriving DecidableEq

def Carrier.frame : Carrier → List UInt8 → List UInt8
  | datagram, message => message
  | bare, message => message
  | counted, message => toBe 4 message.length ++ message

/-- An AS-REQ or a TGS-REQ on its way from a client to a server. -/
structure Request where
  chunk : StreamChunk
  carrier : Carrier
  message : List UInt8
  payload_eq : chunk.payload = carrier.frame message
  isRequest : ∃ tag, isKdcReq tag = true ∧
    IsTlv 4 tag (fun content => ∃ req : KdcReq, req.Encodes content) message
  /-- A length of 1.7 GB or more begins with the tag of a message. -/
  counted_lt : carrier = .counted → message.length < 0x6A000000

namespace Request

variable (r : Request)

def kdc : String := r.chunk.context.dstIp.display

def client : String := r.chunk.context.srcIp.display

def transport : TransportProtocol :=
  match r.carrier with
  | .datagram => .udp
  | .bare | .counted => .tcp

def deliver (d : KerberosDecoder) (r : Request) : List BronzeEvent × KerberosDecoder :=
  match r.carrier with
  | .datagram => d.onDatagram r.chunk
  | .bare | .counted => d.onStreamChunk r.chunk

/-! ## Framing -/

lemma isKrbTag_of_isKdcReq {tag : UInt8} (h : isKdcReq tag = true) : isKrbTag tag = true := by
  rw [isKdcReq, Bool.or_eq_true, beq_iff_eq, beq_iff_eq] at h
  rcases h with rfl | rfl <;> rfl

lemma message_cons : ∃ tag rest, isKdcReq tag = true ∧ r.message = tag :: rest ∧
    4 ≤ r.message.length := by
  obtain ⟨tag, htag, form, content, -, -, ⟨req, inner, seq, -, -, -, rfl⟩, hmessage⟩ := r.isRequest
  refine ⟨tag, _, htag, hmessage, ?_⟩
  have hinner := length_add_two_le_tlv inner tagSequence seq
  have houter := length_add_two_le_tlv form tag (tlv inner tagSequence seq)
  rw [hmessage]
  omega

lemma isKrbTag_length {n : Nat} (h : n < 0x6A000000) (rest : List UInt8) :
    isKrbTag (byteAt (toBe 4 n ++ rest) 0) = false := by
  have hall : ∀ k : Fin 0x6A, isKrbTag (UInt8.ofNat k.val) = false := by decide
  have hhigh : n / 256 / 256 / 256 < 0x6A := by omega
  exact hall ⟨_, hhigh⟩

lemma tcpPayload_frame (hcarrier : r.carrier ≠ .datagram) :
    tcpPayload r.chunk.payload = some r.message := by
  obtain ⟨tag, rest, htag, hmessage, hlong⟩ := r.message_cons
  rw [r.payload_eq]
  match hcase : r.carrier, hcarrier with
  | .bare, _ =>
    rw [Carrier.frame, tcpPayload, if_neg (Nat.not_lt.mpr hlong), hmessage, if_pos]
    exact isKrbTag_of_isKdcReq htag
  | .counted, _ =>
    have hlt := r.counted_lt hcase
    have hfour : (toBe 4 r.message.length).length = 4 := length_toBe 4 _
    have hcount : beNat (toBe 4 r.message.length) = r.message.length := beNat_toBe (by omega)
    have hlength : (toBe 4 r.message.length ++ r.message).length = 4 + r.message.length := by
      rw [length_append, hfour]
    have hbody : slice (toBe 4 r.message.length ++ r.message) 4 r.message.length = r.message := by
      rw [slice_append_right (Nat.le_of_eq hfour), hfour, slice_self rfl]
    rw [Carrier.frame, tcpPayload, hlength, if_neg (by omega), isKrbTag_length hlt,
      if_neg Bool.false_ne_true, take_left' hfour, hcount]
    rw [if_neg (Nat.lt_irrefl _), hbody]

lemma exists_report :
    ∃ tag msg, isKdcReq tag = true ∧
      ∀ d, deliver d r = d.report r.chunk r.transport r.message tag msg := by
  obtain ⟨tag, htag, form, content, hfits, hcount, -, hmessage⟩ := r.isRequest
  refine ⟨tag, parseMsg tag content, htag, fun d => ?_⟩
  have hlong : ¬r.message.length < 2 := by
    have h := length_add_two_le_tlv form tag content
    rw [hmessage]
    omega
  have hfirst : byteAt r.message 0 = tag := by
    rw [hmessage]
    rfl
  have htlv : berTlv r.message = some (tag, content, r.message.length) := by
    have h : berTlv (tlv form tag content ++ []) = _ := berTlv_tlv hfits hcount []
    rwa [append_nil, ← hmessage] at h
  have hdecode : ∀ t, d.decodeAsn1 r.chunk r.message t = d.report r.chunk t r.message tag
      (parseMsg tag content) := by
    intro t
    rw [decodeAsn1, if_neg hlong, hfirst, htlv]
    exact if_neg (not_not_intro (isKrbTag_of_isKdcReq htag))
  have hstream (hcarrier : r.carrier ≠ .datagram) :
      d.onStreamChunk r.chunk = d.decodeAsn1 r.chunk r.message .tcp := by
    rw [onStreamChunk, r.tcpPayload_frame hcarrier]
  unfold deliver transport
  cases hcase : r.carrier with
  | datagram =>
    rw [onDatagram, r.payload_eq, hcase]
    exact hdecode .udp
  | bare => exact (hstream (by rw [hcase]; decide)).trans (hdecode .tcp)
  | counted => exact (hstream (by rw [hcase]; decide)).trans (hdecode .tcp)

/-! ## Runs -/

def assetKeyOf (role : String) (e : BronzeEvent) : Option String :=
  match e.family with
  | .assetObservation a => if a.role = some role then some a.assetKey else none
  | _ => none

lemma guarded {address : Request → String} {role : String}
    (hassets : ∀ (r : Request) t msg, (kdcAssets r.chunk t msg).filterMap (assetKeyOf role) =
      [address r]) :
    Once.Guarded deliver assetEmitted (assetKeyOf role) fun r => [address r] := by
  have hstep : ∀ (d : KerberosDecoder) (r : Request),
      (deliver d r).1.filterMap (assetKeyOf role) = (if d.assetEmitted then [] else [address r]) ∧
        (deliver d r).2.assetEmitted = true := by
    intro d r
    obtain ⟨tag, msg, htag, hreport⟩ := r.exists_report
    have hsound : tag ≠ tagKrbError := by
      rintro rfl
      cases htag
    have htransaction : assetKeyOf role (transaction r.chunk r.transport tag msg) = none := rfl
    rw [hreport d, report, if_neg hsound, htag]
    cases hemitted : d.assetEmitted with
    | true => exact ⟨rfl, hemitted⟩
    | false =>
      refine ⟨?_, rfl⟩
      show (transaction r.chunk _ tag msg :: kdcAssets r.chunk _ msg).filterMap _ = [address r]
      rw [filterMap_cons_none htransaction, hassets]
  refine ⟨fun d r => (hstep d r).1, fun d r => ?_⟩
  rw [(hstep d r).2]
  exact (Bool.or_true _).symm

lemma assets_run {address : Request → String} {role : String} (hassets : ∀ (r : Request) t msg,
      (kdcAssets r.chunk t msg).filterMap (assetKeyOf role) = [address r])
        (requests : List Request) :
    (run deliver default requests).1.filterMap (assetKeyOf role) =
      (requests.map address).take 1 := by
  have htokens := (guarded hassets).tokens_run default requests
  rwa [KerberosDecoder.default, ← map_eq_flatMap] at htokens

end Request

open Request in
/-- In a run of requests every server and every client is reported if and only if all requests are
from one client to one server. -/
theorem assets_reported_iff (requests : List Request) :
    (∀ r ∈ requests,
        r.kdc ∈ (Mealy.run deliver KerberosDecoder.default requests).1.filterMap
          (assetKeyOf "kdc_server") ∧
          r.client ∈ (Mealy.run deliver KerberosDecoder.default requests).1.filterMap
            (assetKeyOf "kerberos_client")) ↔
      ∀ r ∈ requests, ∀ r' ∈ requests, r.kdc = r'.kdc ∧ r.client = r'.client := by
  have hkdc : (run deliver default requests).1.filterMap (assetKeyOf "kdc_server") =
      (requests.map kdc).take 1 := assets_run (fun _ _ _ => rfl) requests
  have hclient : (run deliver default requests).1.filterMap (assetKeyOf "kerberos_client") =
      (requests.map client).take 1 := assets_run (fun _ _ _ => rfl) requests
  have hiff : ∀ address : Request → String,
      (∀ r ∈ requests, address r ∈ (requests.map address).take 1) ↔
        ∀ r ∈ requests, ∀ r' ∈ requests, address r = address r' := by
    intro address
    have h : (∀ w ∈ requests.map address, w ∈ (requests.map address).take 1) ↔ _ :=
      Once.mem_take_one_iff
    simpa only [forall_mem_map] using h
  rw [hkdc, hclient, forall₂_and, hiff, hiff]
  simp only [forall_and]

def asReqMessage : List UInt8 := tlv .short tagAsReq (KdcReq.asReqContent [] [])

def hostRequest (src dst : UInt8) : Request where
  chunk :=
    { hostChunk 0 .udp 49152 88 asReqMessage with
      context :=
        { (hostChunk 0 .udp 49152 88 asReqMessage).context with
          srcIp := .v4 ⟨10, 0, 0, src⟩
          dstIp := .v4 ⟨10, 0, 0, dst⟩ } }
  carrier := .datagram
  message := asReqMessage
  payload_eq := rfl
  isRequest :=
    ⟨tagAsReq, rfl, isTlv_short ⟨KdcReq.asReq [] [], KdcReq.asReq_encodes .nil .nil (by decide)⟩
      (by decide)⟩
  counted_lt := nofun

/-- A second client asks a second server, and neither is reported. -/
theorem secondRequest_unreported :
    (hostRequest 3 4).kdc = "10.0.0.4" ∧ (hostRequest 3 4).client = "10.0.0.3" ∧
      (Mealy.run Request.deliver KerberosDecoder.default
        [hostRequest 1 2, hostRequest 3 4]).1.filterMap
        (Request.assetKeyOf "kdc_server") = ["10.0.0.2"] ∧
      (Mealy.run Request.deliver KerberosDecoder.default
        [hostRequest 1 2, hostRequest 3 4]).1.filterMap
        (Request.assetKeyOf "kerberos_client") = ["10.0.0.1"] := by
  refine ⟨by decide, by decide, by decide, by decide⟩

end MarlinspikeDpi.Kerberos
