import MarlinspikeDpi.Foundation.Correlator
import MarlinspikeDpi.Smb2.OpenFiles

/-!
# The requests that wait for a response

The declaration of the pending map limits it to 1024 entries.

* `pending_bounded_iff`: when the map keeps its limit.
-/

namespace MarlinspikeDpi.Smb2

open Engine Bytes List Command Correlator MarlinspikeDpi.Message PendingRequest Single
  Smb2Decoder UInt64

/-! ## The map as a correlator -/

abbrev Exchange : Type := MarlinspikeDpi.Message PendingKey PendingRequest

def Act.exchange : Act → Option Exchange
  | .follow chunk (.pdu bytes) =>
    let p := readPdu bytes
    (Command.ofCode p.command).map fun command =>
      if p.isResponse then .response ⟨chunk.sessionKey, p.messageId⟩
      else .request ⟨chunk.sessionKey, p.messageId⟩ ⟨Smb2Decoder.requestName p command⟩
  | _ => none

def exchangesOf (acts : List Act) : List Exchange := acts.filterMap Act.exchange

def isRequest : Exchange → Bool
  | .request _ _ => true
  | .response _ => false

section

variable [HashOrder]

lemma pending_onCommand (d : Smb2Decoder) (chunk : StreamChunk) (p : Pdu) (command : Command) :
    (d.onCommand chunk p command).2.pending =
      step d.pending (if p.isResponse then .response ⟨chunk.sessionKey, p.messageId⟩
        else .request ⟨chunk.sessionKey, p.messageId⟩ ⟨requestName p command⟩) := by
  rw [onCommand_snd]
  split
  · cases d.sessionUpdate chunk p command <;> rfl
  · rfl

lemma pending_perform (d : Smb2Decoder) (act : Act) :
    (perform d act).2.pending = act.exchange.elim d.pending (step d.pending) := by
  cases act with
  | arrive chunk => rfl
  | follow chunk link =>
    cases link with
    | broken reason => rfl
    | pdu bytes =>
      have hpdu : (perform d (.follow chunk (.pdu bytes))).2 =
        (ofCode (readPdu bytes).command).elim d fun command =>
            (d.onCommand chunk (readPdu bytes) command).2 := decodePdu_snd d chunk bytes
      rw [hpdu, Act.exchange]
      cases ofCode _ with
      | none => rfl
      | some command => exact pending_onCommand d chunk _ command

lemma pending_run (d : Smb2Decoder) (acts : List Act) :
    (Mealy.run perform d acts).2.pending = run d.pending (exchangesOf acts) :=
  Mealy.view_run_eq_foldl_filterMap perform _ _ _
    pending_perform d acts

def pendingAfter (acts : List Act) : Table PendingKey PendingRequest :=
  (Mealy.run perform Smb2Decoder.default acts).2.pending

lemma mem_pendingAfter_iff {acts : List Act} {key : PendingKey} :
    key ∈ pendingAfter acts ↔ key ∈ outstanding (exchangesOf acts) := by
  rw [pendingAfter, pending_run]
  exact mem_run_iff

lemma length_pendingAfter (acts : List Act) :
    (pendingAfter acts).entries.length = (outstanding (exchangesOf acts)).ncard := by
  rw [pendingAfter, pending_run]
  exact length_run _

/-! ## The limit of its declaration -/

/-- The map holds at most 1024 entries, and a request that has no response is still in it unless
1024 others came after it. -/
structure PendingContract (acts : List Act) : Prop where
  bounded : (pendingAfter acts).entries.length ≤ 1024
  kept : ∀ before key r after, exchangesOf acts = before ++ .request key r :: after →
    MarlinspikeDpi.Message.response key ∉ after → after.countP isRequest < 1024 →
      key ∈ pendingAfter acts

lemma mem_pendingAfter {acts : List Act} {before after : List Exchange} {key : PendingKey}
    {r : PendingRequest} (hsplit : exchangesOf acts = before ++ .request key r :: after)
    (hanswer : response key ∉ after) : key ∈ pendingAfter acts :=
  mem_pendingAfter_iff.2 ⟨r, before, after, hsplit, hanswer⟩

/-- The map keeps the limit at every moment of a run exactly if there are never more than 1024
requests without a response. -/
theorem pending_bounded_iff (chunks : List StreamChunk) :
    (∀ acts, acts <+: actsOf Smb2Decoder.default chunks → PendingContract acts) ↔
      ∀ acts, acts <+: actsOf Smb2Decoder.default chunks →
        (Correlator.outstanding (exchangesOf acts)).ncard ≤ 1024 := by
  constructor
  · intro hcontract acts hacts
    rw [← length_pendingAfter]
    exact (hcontract acts hacts).bounded
  · intro hfew acts hacts
    have hbounded : (pendingAfter acts).entries.length ≤ 1024 := by
      rw [length_pendingAfter]
      exact hfew acts hacts
    exact ⟨hbounded, fun before key r after hsplit hanswer _ => mem_pendingAfter hsplit hanswer⟩

end

/-! ## A capture that shows only requests -/

/-- The body of a `NEGOTIATE` request that offers one dialect. -/
def negotiateBody : List UInt8 := [36, 0, 1, 0] ++ List.replicate 32 0 ++ [0x02, 0x02]

variable (n : Nat)

def negotiateBytes : List UInt8 :=
  pduBytes 0 0 (0, 0) (UInt8.ofNat (n % 256), UInt8.ofNat (n / 256)) negotiateBody

lemma negotiateBytes_fits : (negotiateBytes n).length < 2 ^ 24 := by
  simp [negotiateBytes, pduBytes, negotiateBody]

def negotiateRequest : Single :=
  ⟨.client, negotiateBytes n, negotiateBytes_fits n, linksOf_pduBytes _ _ _ _ _⟩

def oneSided : List StreamChunk :=
  (List.range n).map fun i => (negotiateRequest i).chunk workstation

lemma messageId_negotiateBytes {n : Nat} (hn : n < 65536) :
    (readPdu (negotiateBytes n)).messageId = UInt64.ofNat n := by
  have hlow : (UInt8.ofNat (n % 256)).toNat = n % 256 := by simp
  have hhigh : (UInt8.ofNat (n / 256)).toNat = n / 256 := by
    rw [UInt8.toNat_ofNat']
    omega
  have hid : leNat [UInt8.ofNat (n % 256), UInt8.ofNat (n / 256), 0, 0, 0, 0, 0, 0] = n := by
    rw [leNat]
    simp only [map_cons, map_nil, hlow, hhigh, Nat.ofDigits_cons, Nat.ofDigits_nil]
    simp
    omega
  exact congrArg UInt64.ofNat hid

def negotiateKey : PendingKey := ⟨workstation.sessionKey, UInt64.ofNat n⟩

lemma exchange_negotiateRequest {n : Nat} (hn : n < 65536) :
    exchangesOf ((negotiateRequest n).acts workstation) = [.request (negotiateKey n) ⟨none⟩] := by
  have hcommand : ofCode (readPdu (negotiateBytes n)).command = some .negotiate := rfl
  have hrequest : (readPdu (negotiateBytes n)).isResponse = false := request_pduBytes _ _ _ _
  have hexchange :
    (Act.follow ((negotiateRequest n).chunk workstation) (.pdu (negotiateBytes n))).exchange =
      some (.request (negotiateKey n) ⟨none⟩) := by
    simp only [Act.exchange, hcommand, hrequest, messageId_negotiateBytes hn, sessionKey_chunk]
    rfl
  exact filterMap_cons_some hexchange

lemma exchangesOf_oneSided [HashOrder] {n : Nat} (hn : n ≤ 65536) :
    exchangesOf (actsOf default (oneSided n)) =
      ((range n).map fun i => (negotiateKey i, mk none)).map
        fun x => request x.1 x.2 := by
  have hacts : actsOf default (oneSided n) = ((range n).map negotiateRequest).flatMap
      (acts workstation) := by
    have hbuffer : bufferOf default workstation.sessionKey = [] := rfl
    rw [← actsOf_map workstation ((range n).map _) hbuffer, map_map]
    rfl
  rw [hacts, map_map, flatMap_map, exchangesOf, filterMap_flatMap]
  rw [← flatMap_pure_eq_map]
  refine flatMap_congr fun i hi => ?_
  exact exchange_negotiateRequest ((mem_range.1 hi).trans_le hn)

lemma length_pendingAfter_oneSided [HashOrder] {n : Nat} (hn : n ≤ 65536) :
    (pendingAfter (actsOf default (oneSided n))).entries.length = n := by
  have hkeys : ((range n).map negotiateKey).Nodup := by
    refine List.Nodup.map_on ?_ nodup_range
    intro i hi j hj hsame
    have hid : UInt64.ofNat i = UInt64.ofNat j := congrArg PendingKey.messageId hsame
    have hi' := mem_range.1 hi
    have hj' := mem_range.1 hj
    have hnat := congrArg toNat hid
    rw [toNat_ofNat', toNat_ofNat'] at hnat
    omega
  rw [length_pendingAfter, exchangesOf_oneSided hn, outstanding_requests, map_map]
  have hset : {key | key ∈ (range n).map (Prod.fst ∘ fun i => (negotiateKey i, mk none))} =
      (((range n).map negotiateKey).toFinset : Set PendingKey) := by
    simp
  rw [hset, Set.ncard_coe_finset, toFinset_card_of_nodup hkeys, length_map, length_range]

/-- After 1025 requests the map holds 1025 entries. -/
theorem oneSided_exceeds_bound :
    letI : HashOrder := HashOrder.sample
    (pendingAfter (actsOf default (oneSided 1025))).entries.length = 1025 ∧
      ¬ PendingContract (actsOf default (oneSided 1025)) := by
  let : HashOrder := HashOrder.sample
  have hlength : (pendingAfter (actsOf default (oneSided 1025))).entries.length = 1025 :=
    length_pendingAfter_oneSided (by decide)
  refine ⟨hlength, ?_⟩
  intro hcontract
  have hbounded := hcontract.bounded
  rw [hlength] at hbounded
  exact absurd hbounded (by decide)

end MarlinspikeDpi.Smb2
